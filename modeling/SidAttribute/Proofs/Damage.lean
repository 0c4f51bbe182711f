import SidAttribute.Proofs.Keyed

/-! Octets changed inside one element of a level, with all around it as it was. A level that comes to
the element has the same children as before but for the one that stands for it; a level that stops
earlier has the same tree. Services and what follows the fixed part of a SID information never stop
the level around them. -/
namespace SidAttribute
open Wire SidAttribute.Tree

/-- Alike but for one child: the one at a place under a key. -/
structure Tree.Swapped (key : String) (place : Nat) (old new : Value) (t u : Tree) : Prop where
  keys : u.keys = t.keys
  others : ∀ other ≠ key, u.get? other = t.get? other
  old : (t.children key)[place]? = some old
  new : u.children key = (t.children key).set place new

namespace Tree

theorem swappedGrouped {before after : Nodes} (plainBefore : ∀ node ∈ before, ¬ node.2.IsList)
    (plainAfter : ∀ node ∈ after, ¬ node.2.IsList) (key : String) {old new : Value}
    (plainOld : ¬ old.IsList) (plainNew : ¬ new.IsList) :
    Swapped key (under before key).length old new (grouped (before ++ (key, old) :: after))
      (grouped (before ++ (key, new) :: after)) := by
  have plain : ∀ child : Value, ¬ child.IsList →
      ∀ node ∈ before ++ (key, child) :: after, ¬ node.2.IsList := by
    intro child bare node member
    rcases List.mem_append.mp member with front | back
    · exact plainBefore node front
    · rcases List.mem_cons.mp back with rfl | later
      · exact bare
      · exact plainAfter node later
  have children : ∀ child : Value, ¬ child.IsList →
      (grouped (before ++ (key, child) :: after)).children key =
        under before key ++ child :: under after key := by
    intro child bare
    rw [childrenGrouped (plain child bare), underAppend, underCons, if_pos rfl]
  refine ⟨?_, ?_, ?_, ?_⟩
  · simp only [keysGrouped, List.map_append, List.map_cons]
  · intro other different
    have apart : ∀ child : Value, under (before ++ (key, child) :: after) other =
        under before other ++ under after other := by
      intro child
      rw [underAppend, underCons, if_neg different.symm]
    simp only [getGrouped, apart, List.map_append, List.map_cons]
  · rw [children old plainOld, List.getElem?_append_right (Nat.le_refl _), Nat.sub_self]
    rfl
  · rw [children old plainOld, children new plainNew, List.set_append_right _ _ (Nat.le_refl _),
      Nat.sub_self]
    rfl

end Tree

namespace Wire

def around (before : List Element) (e : Element) (after : Octets) : Octets :=
  encodeAll before ++ (e.encode ++ after)

theorem walkAround {n : Nat} {before : List Element} (fits : ∀ e ∈ before, e.Fits)
    (few : before.length ≤ n) (after : Octets) :
    ∃ later, ∀ e : Element, e.Fits →
      (walk n (around before e after)).elements = before ++ e :: later := by
  induction before generalizing n with
  | nil =>
    cases n with
    | zero =>
      refine ⟨[], fun e own => ?_⟩
      have head : scanHead (around [] e after) = .element e after := scanEncoded e own after
      rw [walkLast head]
      rfl
    | succ n =>
      refine ⟨(walk n after).elements, fun e own => ?_⟩
      have head : scanHead (around [] e after) = .element e after := scanEncoded e own after
      rw [walkNext head]
      rfl
  | cons first rest ih =>
    obtain ⟨m, rfl⟩ : ∃ m, n = m + 1 := Nat.exists_eq_succ_of_ne_zero (by
      rw [List.length_cons] at few
      omega)
    obtain ⟨later, walked⟩ := ih (fun e member => fits e (List.mem_cons_of_mem first member))
      (by simpa using few)
    refine ⟨later, fun e own => ?_⟩
    have head : scanHead (around (first :: rest) e after) = .element first (around rest e after) := by
      rw [around, encodeAllCons, List.append_assoc]
      exact scanEncoded first (fits first List.mem_cons_self) _
    rw [walkNext head, Walk.cons, walked e own]
    rfl

theorem walkFull {n : Nat} {before : List Element} (fits : ∀ e ∈ before, e.Fits)
    (many : n < before.length) (after : Octets) :
    (walk n (encodeAll before ++ after)).elements = before.take (n + 1) := by
  have size : (before.take (n + 1)).length = n + 1 := by
    rw [List.length_take]
    omega
  have octets : encodeAll before ++ after =
      encodeAll (before.take (n + 1)) ++ (encodeAll (before.drop (n + 1)) ++ after) := by
    rw [← List.append_assoc, ← encodeAllAppend, List.take_append_drop]
  have front := frontIsWalked n (before.take (n + 1)) (encodeAll (before.drop (n + 1)) ++ after)
    (fun e member => fits e (List.mem_of_mem_take member)) (by omega)
  obtain ⟨rest, admissible⟩ := walkAdmissible n (encodeAll before ++ after)
  rw [← octets] at front
  exact (front.eq_of_length_le (by rw [size]; exact admissible.few)).symm

end Wire

namespace Decode

variable {rs : Registries} {n : Nat} {scope : Scope} {before : List Element}

def Reached (rs : Registries) (n : Nat) (scope : Scope) (before : List Element) : Prop :=
  (∀ e ∈ before, ¬ Refuses rs n scope e) ∧ before.length ≤ n

instance : Decidable (Reached rs n scope before) := by unfold Reached; infer_instance

theorem acceptedReached (fits : ∀ e ∈ before, e.Fits) (reached : Reached rs n scope before)
    (after : Octets) :
    ∃ later, ∀ e : Element, e.Fits → ¬ Refuses rs n scope e →
      accepted rs n ⟨scope, around before e after⟩ = before ++ e :: later := by
  obtain ⟨good, few⟩ := reached
  obtain ⟨later, walked⟩ := walkAround fits few after
  refine ⟨passed (find rs scope silent) later, fun e own fine => ?_⟩
  have front : ∀ f ∈ before, (find rs scope silent f).isMalformed = false :=
    fun f member => (notRefused silent).mp (good f member)
  rw [accepted, walked e own, passedThrough front, passed,
    List.takeWhile_cons_of_pos (by simp [(notRefused silent).mp fine])]
  rfl

theorem acceptedUnreached (fits : ∀ e ∈ before, e.Fits) (unreached : ¬ Reached rs n scope before)
    (after : Octets) {e f : Element} (own : e.Fits) (other : f.Fits) :
    accepted rs n ⟨scope, around before e after⟩ = accepted rs n ⟨scope, around before f after⟩ := by
  unfold accepted
  by_cases few : before.length ≤ n
  · have bad : ¬ ∀ g ∈ before, (find rs scope silent g).isMalformed = false := fun front =>
      unreached ⟨fun g member => (notRefused silent).mpr (front g member), few⟩
    obtain ⟨later, walked⟩ := walkAround fits few after
    rw [walked e own, walked f other, passedStopped bad, passedStopped bad]
  · have many : n < before.length := Nat.lt_of_not_le few
    rw [around, around, walkFull fits many, walkFull fits many]

theorem givesFound {e : Element} {key : String} {child : Value} (named : keyOf rs scope e = some key)
    (gives : Gives rs n scope e child) :
    ¬ Refuses rs n scope e ∧
      nodesOf rs n scope [e] = [(key, child)] := by
  obtain ⟨kind, d, known, read, rfl⟩ := gives
  rw [keyOf, known] at named
  have found := findNode known read
  rw [show kind.key = some key from named] at found
  refine ⟨?_, ?_⟩
  · rw [notRefused (level rs n), found]
    rfl
  · rw [nodesSome found]
    rfl

theorem nodesAppend (es fs : List Element) :
    nodesOf rs n scope (es ++ fs) = nodesOf rs n scope es ++ nodesOf rs n scope fs :=
  List.filterMap_append

theorem levelSwapped (keyed : rs.Keyed scope) (fits : ∀ e ∈ before, e.Fits)
    (reached : Reached rs n scope before) (after : Octets) {e f : Element} (own : e.Fits)
    (other : f.Fits) {key : String} (named : keyOf rs scope e = some key)
    (alike : keyOf rs scope f = some key) {old new : Value} (gives : Gives rs n scope e old)
    (given : Gives rs n scope f new) :
    Swapped key (before.filter fun g => keyOf rs scope g = some key).length old new
      (level rs n scope (around before e after)).tree
      (level rs n scope (around before f after)).tree := by
  obtain ⟨later, accepted⟩ := acceptedReached fits reached after
  obtain ⟨fine, node⟩ := givesFound named gives
  obtain ⟨otherFine, otherNode⟩ := givesFound alike given
  have place := (givenUnder keyed reached.1 key).length_eq
  have split : ∀ g, before ++ g :: later = before ++ ([g] ++ later) := fun g => rfl
  rw [levelNodes keyed, levelNodes keyed, accepted e own fine, accepted f other otherFine, split e,
    split f, nodesAppend, nodesAppend, nodesAppend, nodesAppend, node, otherNode, place]
  apply swappedGrouped (nodesPlain _ _) (nodesPlain _ _)
  · obtain ⟨_, d, _, _, rfl⟩ := gives
    rintro ⟨items, list⟩
    cases list
  · obtain ⟨_, d, _, _, rfl⟩ := given
    rintro ⟨items, list⟩
    cases list

theorem levelUnreached (keyed : rs.Keyed scope) (fits : ∀ e ∈ before, e.Fits)
    (unreached : ¬ Reached rs n scope before) (after : Octets) {e f : Element} (own : e.Fits)
    (other : f.Fits) :
    (level rs n scope (around before e after)).tree =
      (level rs n scope (around before f after)).tree := by
  rw [levelNodes keyed, levelNodes keyed, acceptedUnreached fits unreached after own other]

section Standard

inductive Service : UInt8 → Scope → String → Prop where
  | l3 : Service 5 .l3Service "srv6_l3_service"
  | l2 : Service 6 .l2Service "srv6_l2_service"

def sidTree (fixed : Octets) (found : Tree) : Tree :=
  (fieldsOf fixed).tree ++ if found.isEmpty then [] else [("sid_structure", .tree found)]

def ChangesOnly (n : Nat) (scope : Scope) (before : List Element) (after : Octets) (e f : Element)
    (key : String) (old new : Tree) : Prop :=
  ∃ d c, decode Registries.standard scope (around before e after) (around before e after).length n =
      .ok d ∧
    decode Registries.standard scope (around before f after) (around before f after).length n =
      .ok c ∧
    (Reached Registries.standard n scope before →
      Swapped key (before.countP fun g => g.code = e.code) (.tree old) (.tree new) d.tree c.tree) ∧
    (¬ Reached Registries.standard n scope before → c.tree = d.tree)

variable {code : UInt8} {service : Scope} {key : String}

theorem serviceKey (kind : Service code service key) (e : Element) :
    keyOf Registries.standard .top e = some key ↔ e.code = code := by
  rw [keyOf, standardTop]
  constructor
  · intro named
    cases kind <;> grind [Kind.key]
  · intro same
    cases kind <;> rw [same] <;> rfl

theorem sidKey (kind : Service code service key) (e : Element) :
    keyOf Registries.standard service e = some "sid_information" ↔ e.code = 1 := by
  have registered : Registries.standard.kind? service e.code.toNat =
      if e.code = 1 then some .sidInformation else none := by
    cases kind with
    | l3 => exact standardL3Service e.code
    | l2 => exact standardL2Service e.code
  rw [keyOf, registered]
  by_cases one : e.code = 1
  · simp [one, Kind.key]
  · simp [one]

theorem serviceKeyed (kind : Service code service key) : Registries.standard.Keyed service :=
  Registries.standardKeyed (by cases kind <;> decide)

theorem serviceGives (kind : Service code service key) (n : Nat) (reserved : UInt8)
    (payload : Octets) :
    Gives Registries.standard n .top ⟨code, reserved, payload⟩
      (.tree (level Registries.standard n service payload).tree) := by
  cases kind with
  | l3 => exact ⟨.l3Service, _, rfl, rfl, rfl⟩
  | l2 => exact ⟨.l2Service, _, rfl, rfl, rfl⟩

theorem structureAdded (f : SidFields) (nested : Decoded) :
    (f.withStructure nested).tree =
      f.tree ++ if nested.tree.isEmpty then [] else [("sid_structure", .tree nested.tree)] := by
  unfold SidFields.withStructure
  by_cases empty : nested.tree.isEmpty
  · simp [empty]
  · simp [empty, SidFields.tree, addChild, put, get?, joined]

theorem fieldsFixed {fixed : Octets} (size : fixed.length = 20) (rest : Octets) :
    fieldsOf (fixed ++ rest) = fieldsOf fixed := by
  have sid : (fixed ++ rest).take 16 = fixed.take 16 := List.take_append_of_le_length (by omega)
  have flags : ((fixed ++ rest).drop 16).take 1 = (fixed.drop 16).take 1 := by
    rw [List.drop_append_of_le_length (by omega),
      List.take_append_of_le_length (by rw [List.length_drop]; omega)]
  have behavior : ((fixed ++ rest).drop 17).take 2 = (fixed.drop 17).take 2 := by
    rw [List.drop_append_of_le_length (by omega),
      List.take_append_of_le_length (by rw [List.length_drop]; omega)]
  rw [fieldsOf, fieldsOf, sid, flags, behavior]

theorem sidGives (kind : Service code service key) (n : Nat) (reserved : UInt8) {fixed : Octets}
    (size : fixed.length = 20) (rest : Octets) :
    Gives Registries.standard n service ⟨1, reserved, fixed ++ rest⟩
      (.tree (sidTree fixed (level Registries.standard n .sidInformation rest).tree)) := by
  have enough : 20 ≤ (fixed ++ rest).length := by
    rw [List.length_append]
    omega
  have read := sidFieldsRead enough
  rw [fieldsFixed size, ← size, List.drop_left] at read
  have registered : Registries.standard.kind? service ((1 : UInt8).toNat : Nat) =
      some .sidInformation := by
    cases kind <;> rfl
  refine ⟨.sidInformation,
    (fieldsOf fixed).withStructure (level Registries.standard n .sidInformation rest), registered,
    ?_, ?_⟩
  · rw [unpack, read]
    rfl
  · rw [structureAdded]
    rfl

theorem changesOnly {n : Nat} {scope : Scope} (keyed : Registries.standard.Keyed scope)
    {before : List Element} (fits : ∀ e ∈ before, e.Fits) (after : Octets) {e f : Element}
    (own : e.Fits) (other : f.Fits) {key : String}
    (named : ∀ g : Element, keyOf Registries.standard scope g = some key ↔ g.code = e.code)
    (same : f.code = e.code) {old new : Tree}
    (gives : Gives Registries.standard n scope e (.tree old))
    (given : Gives Registries.standard n scope f (.tree new)) :
    ChangesOnly n scope before after e f key old new := by
  have place : (before.filter fun g => keyOf Registries.standard scope g = some key).length =
      before.countP fun g => g.code = e.code := by
    simp only [named, List.countP_eq_length_filter]
  refine ⟨_, _, decodeWhole _ _ _ _, decodeWhole _ _ _ _, ?_, ?_⟩
  · intro reached
    rw [← place]
    exact levelSwapped keyed fits reached after own other ((named e).mpr rfl) ((named f).mpr same)
      gives given
  · intro unreached
    exact levelUnreached keyed fits unreached after other own

theorem damageStaysInside (n : Nat) (before : List Element) (fits : ∀ e ∈ before, e.Fits)
    (after : Octets) (reserved : UInt8) {code : UInt8} {service : Scope} {key : String}
    (kind : Service code service key) :
    (∀ payload damaged : Octets, payload.length ≤ 65534 → damaged.length = payload.length →
      ChangesOnly n .top before after ⟨code, reserved, payload⟩ ⟨code, reserved, damaged⟩ key
        (level Registries.standard n service payload).tree
        (level Registries.standard n service damaged).tree) ∧
    (∀ fixed rest damaged : Octets, fixed.length = 20 → (fixed ++ rest).length ≤ 65534 →
      damaged.length = rest.length →
      ChangesOnly n service before after ⟨1, reserved, fixed ++ rest⟩ ⟨1, reserved, fixed ++ damaged⟩
        "sid_information"
        (sidTree fixed (level Registries.standard n .sidInformation rest).tree)
        (sidTree fixed (level Registries.standard n .sidInformation damaged).tree)) := by
  constructor
  · intro payload damaged short same
    apply changesOnly (Registries.standardKeyed (by decide)) fits after
    · unfold Element.Fits Element.length
      dsimp only
      omega
    · unfold Element.Fits Element.length
      dsimp only
      omega
    · exact serviceKey kind
    · rfl
    · exact serviceGives kind n reserved payload
    · exact serviceGives kind n reserved damaged
  · intro fixed rest damaged size short same
    rw [List.length_append] at short
    apply changesOnly (serviceKeyed kind) fits after
    · unfold Element.Fits Element.length
      rw [List.length_append]
      omega
    · unfold Element.Fits Element.length
      rw [List.length_append]
      omega
    · exact sidKey kind
    · rfl
    · exact sidGives kind n reserved size rest
    · exact sidGives kind n reserved size damaged

def calmElements : List Element := [⟨6, 0, []⟩, ⟨99, 4, [1, 2]⟩]

theorem damageInsideThird :
    (∀ e ∈ calmElements, e.Fits) ∧ Service 5 .l3Service "srv6_l3_service" ∧
    Reached Registries.standard 2 .top calmElements ∧
    Reached Registries.standard 2 .l3Service calmElements ∧
    ChangesOnly 2 .top calmElements [5, 0, 9, 0] ⟨5, 7, [9, 0, 1, 0]⟩ ⟨5, 7, [1, 0, 0, 255]⟩
      "srv6_l3_service" (level Registries.standard (2 : Nat) .l3Service [9, 0, 1, 0]).tree
      (level Registries.standard (2 : Nat) .l3Service [1, 0, 0, 255]).tree ∧
    ChangesOnly 2 .l3Service calmElements [5, 0, 9, 0]
      ⟨1, 7, List.replicate 20 1 ++ [1, 0, 6, 32, 16, 16, 0, 0, 0]⟩
      ⟨1, 7, List.replicate 20 1 ++ [1, 0, 2, 32, 16, 16, 0, 0, 0]⟩ "sid_information"
      (sidTree (List.replicate 20 1)
        (level Registries.standard (2 : Nat) .sidInformation [1, 0, 6, 32, 16, 16, 0, 0, 0]).tree)
      (sidTree (List.replicate 20 1)
        (level Registries.standard (2 : Nat) .sidInformation [1, 0, 2, 32, 16, 16, 0, 0, 0]).tree) := by
  have fits : ∀ e ∈ calmElements, e.Fits := by decide
  obtain ⟨top, inside⟩ := damageStaysInside 2 calmElements fits [5, 0, 9, 0] 7 .l3
  refine ⟨fits, .l3, by decide, by decide, ?_, ?_⟩
  · exact top [9, 0, 1, 0] [1, 0, 0, 255] (by decide) rfl
  · exact inside (List.replicate 20 1) [1, 0, 6, 32, 16, 16, 0, 0, 0]
      [1, 0, 2, 32, 16, 16, 0, 0, 0] rfl (by decide) rfl

end Standard

end Decode
end SidAttribute
