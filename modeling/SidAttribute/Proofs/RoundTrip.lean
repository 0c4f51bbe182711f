import Mathlib.Data.List.Basic
import SidAttribute.Proofs.Description
import SidAttribute.Proofs.Level
import SidAttribute.Proofs.Wire.Admissible
import SidAttribute.Proofs.Wire.Numbers

/-! Decoding what a description is sent as gives the tree of the description. Every item is sent as
one element, every level is walked to its end, and what each element leaves is the node of its
item. -/
namespace SidAttribute.Description
open Wire Decode

def InnerItem.element : InnerItem → Element
  | .compact f =>
    ⟨1, f.locatorBlock,
      [f.locatorNode, f.function, f.argument, f.transpositionLength, f.transpositionOffset]⟩
  | .padded reserved f trailing => ⟨1, reserved, f.octets ++ trailing⟩
  | .other code reserved payload _ => ⟨code, reserved, payload⟩

def ServiceItem.element : ServiceItem → Element
  | .sidInformation record => ⟨1, record.reserved, record.value⟩
  | .other code reserved payload _ => ⟨code, reserved, payload⟩

def Item.element : Item → Element
  | .labelIndex reserved flags index trailing =>
    ⟨1, reserved, octets16 flags.toNat ++ octets32 index.toNat ++ trailing⟩
  | .originatorSrgb flags ranges =>
    ⟨3, UInt8.ofNat (flags.toNat / 256),
      UInt8.ofNat flags.toNat :: ranges.flatMap LabelRange.octets⟩
  | .l3Service reserved items => ⟨5, reserved, items.flatMap ServiceItem.encode⟩
  | .l2Service reserved items => ⟨6, reserved, items.flatMap ServiceItem.encode⟩
  | .other code reserved payload _ => ⟨code, reserved, payload⟩

theorem encodeInner (i : InnerItem) : i.element.encode = i.encode := by cases i <;> rfl

theorem encodeService (i : ServiceItem) : i.element.encode = i.encode := by cases i <;> rfl

theorem encodeItem (i : Item) : i.element.encode = i.encode := by
  cases i with
  | originatorSrgb flags ranges =>
    simp [Item.element, Item.encode, Element.encode, Element.length, octets16]
  | labelIndex reserved flags index trailing => rfl
  | l3Service reserved items => rfl
  | l2Service reserved items => rfl
  | other code reserved payload unregistered => rfl

theorem encodeEach {α : Type} {element : α → Element} {encode : α → Octets}
    (same : ∀ i, (element i).encode = encode i) (items : List α) :
    encodeAll (items.map element) = items.flatMap encode := by
  simp [encodeAll, List.flatMap_map, same]

theorem fitsShort {e : Element} (short : Short e.encode) : e.Fits := by
  unfold Short at short
  rw [encodeLength] at short
  unfold Element.Fits Element.length
  omega

theorem levelOfElements {rs : Registries} {n : Nat} {scope : Scope} {es : List Element}
    (fits : ∀ e ∈ es, e.Fits) (few : es.length ≤ n + 1) :
    (level rs n scope (encodeAll es)).tree =
      (passed (find rs scope (level rs n)) es).foldl
        (fun t e => (find rs scope (level rs n) e).attachTo t) [] := by
  have whole : Admissible n (encodeAll es) es [] :=
    ⟨(List.append_nil _).symm, fits, few, fun _ => .inl rfl⟩
  rw [levelEq, collectTree, walkedExactly whole]

def Leaves (f : Finding) : Option (String × Value) → Prop
  | some (key, child) => ∃ d, f = .node (some key) d ∧ child = .tree d.tree
  | none => f = .unregistered

section Keyed

variable {α : Type} {element : α → Element} {node? : α → Option (String × Value)}
  {finding : Element → Finding} {items : List α}

theorem leavesNode {f : Finding} {node : Option (String × Value)} (leaves : Leaves f node) :
    f.Keyed ∧ f.isMalformed = false ∧ f.node? = node := by
  cases node with
  | none =>
    rw [show f = .unregistered from leaves]
    exact ⟨trivial, rfl, rfl⟩
  | some pair =>
    obtain ⟨d, rfl, child⟩ := leaves
    exact ⟨trivial, rfl, congrArg (fun c => some (pair.1, c)) child.symm⟩

theorem leavesPassed (each : ∀ i ∈ items, Leaves (finding (element i)) (node? i)) :
    passed finding (items.map element) = items.map element := by
  apply passedAll
  intro e member
  obtain ⟨i, there, rfl⟩ := List.mem_map.mp member
  exact (leavesNode (each i there)).2.1

theorem leavesNodes (each : ∀ i ∈ items, Leaves (finding (element i)) (node? i)) :
    (items.map element).filterMap (fun e => (finding e).node?) = items.filterMap node? := by
  rw [List.filterMap_map]
  exact List.filterMap_congr fun i there => (leavesNode (each i there)).2.2

theorem leavesAdded (each : ∀ i ∈ items, Leaves (finding (element i)) (node? i)) (t : Tree) :
    (items.map element).foldl (fun t e => (finding e).attachTo t) t =
      t.addAll (items.filterMap node?) := by
  have keyed : ∀ e ∈ items.map element, (finding e).Keyed := by
    intro e member
    obtain ⟨i, there, rfl⟩ := List.mem_map.mp member
    exact (leavesNode (each i there)).1
  rw [attachedNodes keyed, leavesNodes each]

theorem leavesPlain (each : ∀ i ∈ items, Leaves (finding (element i)) (node? i)) :
    ∀ node ∈ items.filterMap node?, ¬ node.2.IsList := by
  rw [← leavesNodes each]
  exact nodesPlain finding _

end Keyed

theorem keyedLevel {α : Type} {element : α → Element} {node? : α → Option (String × Value)}
    {n : Nat} {scope : Scope} {items : List α} (fits : ∀ i ∈ items, (element i).Fits)
    (few : items.length ≤ n + 1)
    (each : ∀ i ∈ items,
      Leaves (find Registries.standard scope (level Registries.standard n) (element i)) (node? i)) :
    (level Registries.standard n scope (encodeAll (items.map element))).tree =
      Tree.grouped (items.filterMap node?) := by
  have allFit : ∀ e ∈ items.map element, e.Fits := by
    intro e member
    obtain ⟨i, there, rfl⟩ := List.mem_map.mp member
    exact fits i there
  rw [levelOfElements allFit (by simpa using few), leavesPassed each, leavesAdded each]
  exact Tree.addAllGrouped _ (leavesPlain each)

section Inner

def structureTree : Option StructureFields → Tree
  | some fields => fields.tree
  | none => []

theorem mergeStructure (last : Option StructureFields) (f : StructureFields) :
    (structureTree last).merge f.tree = f.tree := by
  cases last with
  | none => simp [structureTree, StructureFields.tree, Tree.merge, Tree.put]
  | some old => simp [structureTree, StructureFields.tree, Tree.merge, Tree.put]

theorem innerFound {nested : Scope → Octets → Decoded} (i : InnerItem) :
    find Registries.standard .sidInformation nested i.element =
      match i.fields? with
      | some f => .node none ⟨f.tree, []⟩
      | none => .unregistered := by
  cases i with
  | compact f =>
    have known : Registries.standard.kind? .sidInformation (InnerItem.compact f).element.code.toNat =
        some .sidStructure := rfl
    apply findNode known
    simp only [unpack, sidStructure]
    rw [structureOctetsSix rfl]
    rfl
  | padded reserved f trailing =>
    have known : Registries.standard.kind? .sidInformation
        (InnerItem.padded reserved f trailing).element.code.toNat = some .sidStructure := rfl
    apply findNode known
    simp only [unpack, sidStructure]
    rw [structureOctetsMore (by simp [Element.length, InnerItem.element, StructureFields.octets])]
    rfl
  | other code reserved payload unregistered =>
    have unknown := standardSidInformation code
    rw [if_neg unregistered] at unknown
    exact findNone unknown

theorem innerMerged (nested : Scope → Octets → Decoded) (inner : List InnerItem)
    (last : Option StructureFields) :
    (inner.map InnerItem.element).foldl
      (fun t e => (find Registries.standard .sidInformation nested e).attachTo t)
      (structureTree last) =
    structureTree ((inner.filterMap InnerItem.fields?).getLast?.or last) := by
  induction inner generalizing last with
  | nil => rfl
  | cons i rest ih =>
    simp only [List.map_cons, List.foldl_cons, innerFound, List.filterMap_cons]
    cases i.fields? with
    | none => exact ih last
    | some f =>
      have lastOf : (f :: rest.filterMap InnerItem.fields?).getLast?.or last =
          (rest.filterMap InnerItem.fields?).getLast?.or (some f) := by
        rw [List.getLast?_cons]
        cases (rest.filterMap InnerItem.fields?).getLast? with
        | none => rfl
        | some _ => rfl
      rw [lastOf, ← ih (some f)]
      change _ = List.foldl _ f.tree _
      rw [← mergeStructure last f]
      rfl

theorem innerPassed {nested : Scope → Octets → Decoded} (inner : List InnerItem) :
    passed (find Registries.standard .sidInformation nested) (inner.map InnerItem.element) =
      inner.map InnerItem.element := by
  apply passedAll
  intro e member
  obtain ⟨i, _, rfl⟩ := List.mem_map.mp member
  rw [innerFound]
  cases i.fields? <;> rfl

theorem innerLevel {n : Nat} {inner : List InnerItem} (fits : ∀ i ∈ inner, Short i.encode)
    (few : inner.length ≤ n + 1) :
    (level Registries.standard n .sidInformation (inner.flatMap InnerItem.encode)).tree =
      structureTree (inner.filterMap InnerItem.fields?).getLast? := by
  have allFit : ∀ e ∈ inner.map InnerItem.element, e.Fits := by
    intro e member
    obtain ⟨i, there, rfl⟩ := List.mem_map.mp member
    apply fitsShort
    rw [encodeInner]
    exact fits i there
  rw [← encodeEach encodeInner, levelOfElements allFit (by simpa using few), innerPassed]
  have merged := innerMerged (level Registries.standard n) inner none
  rw [Option.or_none] at merged
  exact merged

end Inner

section Service

theorem recordFields (r : SidRecord) :
    fieldsOf r.value = ⟨r.sid, r.flags.toNat, r.behavior.toNat⟩ ∧
      r.value.drop 20 = r.inner.flatMap InnerItem.encode := by
  have sixteen := r.sixteen
  have behavior := bigEndian16 r.behavior.toNat_lt
  have fixed : r.value = r.sid ++ ([r.flags] ++ (octets16 r.behavior.toNat ++
      ([r.reservedAfter] ++ r.inner.flatMap InnerItem.encode))) := by
    simp [SidRecord.value]
  have sid : r.value.take 16 = r.sid := by
    rw [fixed, ← sixteen, List.take_left]
  have after : r.value.drop 16 = [r.flags] ++ (octets16 r.behavior.toNat ++
      ([r.reservedAfter] ++ r.inner.flatMap InnerItem.encode)) := by
    rw [fixed, ← sixteen, List.drop_left]
  have later : r.value.drop 17 = (r.value.drop 16).drop 1 := by rw [List.drop_drop]
  have last : r.value.drop 20 = (r.value.drop 16).drop 4 := by rw [List.drop_drop]
  refine ⟨?_, ?_⟩
  · rw [fieldsOf, sid, later, after]
    have two : (octets16 r.behavior.toNat).length = 2 := rfl
    simp [bigEndianOctet, List.take_append, two, behavior]
  · rw [last, after]
    rfl

theorem recordTree (r : SidRecord) (nested : Decoded)
    (inner : nested.tree = structureTree r.structure?) :
    (SidFields.withStructure ⟨r.sid, r.flags.toNat, r.behavior.toNat⟩ nested).tree = r.tree := by
  unfold SidFields.withStructure
  rw [inner]
  cases last : r.structure? with
  | none => simp [structureTree, SidRecord.tree, last, SidFields.tree]
  | some f =>
    simp [structureTree, SidRecord.tree, last, SidFields.tree, StructureFields.tree, Tree.addChild,
      Tree.put, Tree.get?, Tree.joined]

theorem serviceFound {n : Nat} {scope : Scope} (service : scope = .l3Service ∨ scope = .l2Service)
    (i : ServiceItem) (fits : i.Fits) (few : i.AtMost (n + 1)) :
    Leaves (find Registries.standard scope (level Registries.standard n) i.element) i.node? := by
  cases i with
  | sidInformation r =>
    obtain ⟨fields, rest⟩ := recordFields r
    have known : Registries.standard.kind? scope (ServiceItem.sidInformation r).element.code.toNat =
        some .sidInformation := by
      rcases service with rfl | rfl <;> rfl
    have enough : 20 ≤ r.value.length := by
      have sixteen := r.sixteen
      simp [SidRecord.value, octets16]
      omega
    have read := sidFieldsRead enough
    rw [fields, rest] at read
    have nested := innerLevel fits.2 few
    refine ⟨_, findNode known (by simp only [unpack, ServiceItem.element, read]; rfl), ?_⟩
    rw [recordTree r _ nested]
  | other code reserved payload unregistered =>
    apply findNone
    rcases service with rfl | rfl
    · exact (standardL3Service code).trans (if_neg unregistered)
    · exact (standardL2Service code).trans (if_neg unregistered)

theorem serviceLevel {n : Nat} {scope : Scope} (service : scope = .l3Service ∨ scope = .l2Service)
    {items : List ServiceItem} (fits : ∀ i ∈ items, i.Fits) (few : items.length ≤ n + 1)
    (inner : ∀ i ∈ items, i.AtMost (n + 1)) :
    (level Registries.standard n scope (items.flatMap ServiceItem.encode)).tree =
      serviceTree items := by
  have eachFits : ∀ i ∈ items, i.element.Fits := by
    intro i member
    apply fitsShort
    rw [encodeService]
    have own := fits i member
    cases i with
    | sidInformation r => exact own.1
    | other code reserved payload unregistered => exact own
  rw [← encodeEach encodeService]
  exact keyedLevel eachFits few fun i member =>
    serviceFound service i (fits i member) (inner i member)

end Service

section Top

theorem labelIndexSent (reserved : UInt8) (flags : UInt16) (index : UInt32) (trailing : Octets) :
    labelIndex (Item.labelIndex reserved flags index trailing).element =
      .ok [("flags", .int flags.toNat), ("label_index", .int index.toNat)] := by
  have two : (octets16 flags.toNat).length = 2 := rfl
  have four : (octets32 index.toNat).length = 4 := rfl
  have payload : (Item.labelIndex reserved flags index trailing).element.payload =
      octets16 flags.toNat ++ (octets32 index.toNat ++ trailing) := by
    simp [Item.element]
  rw [labelIndexRead (by rw [payload]; simp only [List.length_append]; omega), payload, ← two,
    List.take_left, List.drop_left, ← four, List.take_left, bigEndian16 flags.toNat_lt,
    bigEndian32 index.toNat_lt]

theorem rangesLength (ranges : List LabelRange) :
    (ranges.flatMap LabelRange.octets).length = 6 * ranges.length := by
  induction ranges with
  | nil => rfl
  | cons r rest ih =>
    have six : r.octets.length = 6 := rfl
    rw [List.flatMap_cons, List.length_append, six, ih, List.length_cons]
    omega

theorem rangesSent (ranges : List LabelRange) :
    rangePairs (ranges.flatMap LabelRange.octets) =
      ranges.map fun r => (r.base.val, r.size.val) := by
  induction ranges with
  | nil => rfl
  | cons r rest ih =>
    have base := bigEndian24 r.base.isLt
    have size := bigEndian24 r.size.isLt
    simp only [octets24, octets16] at base size
    simp only [List.flatMap_cons, LabelRange.octets, octets24, octets16, List.cons_append,
      List.nil_append, rangePairs, base, size, ih, List.map_cons]

theorem rangeNodesSent (first : UInt8) (ranges : List LabelRange) :
    (rangePairs ((first :: ranges.flatMap LabelRange.octets).drop 1)).map rangeNode =
      ranges.map LabelRange.node := by
  rw [List.drop_one, List.tail_cons, rangesSent, List.map_map]
  rfl

theorem originatorSrgbSent (flags : UInt16) (ranges : List LabelRange) :
    originatorSrgb (Item.originatorSrgb flags ranges).element =
      .ok (("flags", .int flags.toNat) :: Tree.grouped (ranges.map LabelRange.node)) := by
  have size := rangesLength ranges
  have payload : (Item.originatorSrgb flags ranges).element.payload =
      UInt8.ofNat flags.toNat :: ranges.flatMap LabelRange.octets := rfl
  have reserved : (Item.originatorSrgb flags ranges).element.reserved =
      UInt8.ofNat (flags.toNat / 256) := rfl
  have value : (UInt8.ofNat (flags.toNat / 256)).toNat * 256 +
      bigEndian [UInt8.ofNat flags.toNat] = flags.toNat := by
    have whole := bigEndian16 flags.toNat_lt
    simpa [bigEndian, octets16] using whole
  have shown : (((UInt8.ofNat (flags.toNat / 256)).toNat : Int) * 256 +
      (bigEndian [UInt8.ofNat flags.toNat] : Nat)) = flags.toNat := by
    omega
  rw [originatorSrgbRead (by rw [payload, List.length_cons]; omega), payload, rangeNodesSent,
    reserved, List.take_succ_cons, List.take_zero, shown]

theorem itemFound {n : Nat} (i : Item) (fits : i.Fits) (few : i.AtMost (n + 1)) :
    Leaves (find Registries.standard .top (level Registries.standard n) i.element) i.node? := by
  cases i with
  | labelIndex reserved flags index trailing =>
    have known : Registries.standard.kind? .top
        (Item.labelIndex reserved flags index trailing).element.code.toNat =
        some .labelIndex := rfl
    refine ⟨⟨_, []⟩, findNode known ?_, rfl⟩
    rw [unpack, labelIndexSent]
    rfl
  | originatorSrgb flags ranges =>
    have known : Registries.standard.kind? .top
        (Item.originatorSrgb flags ranges).element.code.toNat = some .originatorSrgb := rfl
    refine ⟨⟨_, []⟩, findNode known ?_, rfl⟩
    rw [unpack, originatorSrgbSent]
    rfl
  | l3Service reserved items =>
    have known : Registries.standard.kind? .top (Item.l3Service reserved items).element.code.toNat =
        some .l3Service := rfl
    refine ⟨_, findNode known rfl, ?_⟩
    exact congrArg Value.tree (serviceLevel (.inl rfl) fits.2 few.1 few.2).symm
  | l2Service reserved items =>
    have known : Registries.standard.kind? .top (Item.l2Service reserved items).element.code.toNat =
        some .l2Service := rfl
    refine ⟨_, findNode known rfl, ?_⟩
    exact congrArg Value.tree (serviceLevel (.inr rfl) fits.2 few.1 few.2).symm
  | other code reserved payload unregistered =>
    apply findNone
    have codes : code ≠ 1 ∧ code ≠ 3 ∧ code ≠ 5 ∧ code ≠ 6 := by simpa using unregistered
    refine (standardTop code).trans ?_
    rw [if_neg codes.1, if_neg codes.2.1, if_neg codes.2.2.1, if_neg codes.2.2.2]

theorem topLevel {n : Nat} {items : List Item} (fits : ∀ i ∈ items, i.Fits)
    (few : AtMost (n + 1) items) :
    (level Registries.standard n .top (encode items)).tree = tree items := by
  have eachFits : ∀ i ∈ items, i.element.Fits := by
    intro i member
    apply fitsShort
    rw [encodeItem]
    exact (fits i member).1
  rw [encode, ← encodeEach encodeItem]
  exact keyedLevel eachFits few.1 fun i member => itemFound i (fits i member) (few.2 i member)

end Top

theorem decodeEncode (n : Nat) (items : List Item) (fits : ∀ i ∈ items, i.Fits)
    (few : AtMost (n + 1) items) :
    (decode Registries.standard .top (encode items) (encode items).length n).map Decoded.tree =
      .ok (tree items) := by
  rw [decodeWhole, Except.map, topLevel fits few]

def mixedItems : List Item :=
  [.labelIndex 9 0x0102 0x03040506 [7],
    .other 99 1 [2, 3] (by decide),
    .originatorSrgb 0x8001 [⟨0x010203, 0x0a0b0c⟩, ⟨16000, 8000⟩],
    .l3Service 0
      [.sidInformation ⟨0, List.replicate 15 0 ++ [1], rfl, 0x40, 18, 255,
        [.compact ⟨32, 16, 16, 0, 0, 0⟩, .other 2 0 [] (by decide), .padded 1 ⟨40, 24, 16, 0, 8, 64⟩ [5]]⟩,
       .other 7 0 [1] (by decide),
       .sidInformation ⟨3, List.replicate 16 254, rfl, 0, 65535, 0, []⟩],
    .l2Service 4 []]

theorem decodeEncodeMixed :
    (∀ i ∈ mixedItems, i.Fits) ∧ AtMost (4 + 1) mixedItems ∧
      (decode Registries.standard .top (encode mixedItems) (encode mixedItems).length
        (4 : Nat)).map Decoded.tree = .ok (tree mixedItems) := by
  have fits : ∀ i ∈ mixedItems, i.Fits := by decide
  have few : AtMost (4 + 1) mixedItems := by decide
  exact ⟨fits, few, decodeEncode 4 mixedItems fits few⟩

end SidAttribute.Description
