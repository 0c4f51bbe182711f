import SidAttribute.Proofs.Kind
import SidAttribute.Proofs.RoundTrip
import SidAttribute.Proofs.Schema
import SidAttribute.Proofs.Truncation

/-! Every decoded attribute has the form of the schema, whatever the octets are. Nodes are attached
whole or not at all, and structures put over each other in one node leave the fields of one. -/
namespace SidAttribute
open Wire SidAttribute.Tree

namespace Schema
open Decode Description

theorem pairsFit (octets : Octets) :
    ∀ r ∈ rangePairs octets, r.1 < 16777216 ∧ r.2 < 16777216 := by
  fun_induction rangePairs octets with
  | case1 a b c x y z rest ih =>
    intro r member
    rcases List.mem_cons.mp member with rfl | later
    · exact ⟨numberFits (n := 3) rfl, numberFits (n := 3) rfl⟩
    · exact ih r later
  | case2 => simp

theorem pairsCount (octets : Octets) : (rangePairs octets).length * 6 ≤ octets.length := by
  fun_induction rangePairs octets with
  | case1 a b c x y z rest ih =>
    simp only [List.length_cons]
    omega
  | case2 => simp

section Nodes

variable {nested : Scope → Octets → Decoded} {e : Element}

theorem labelIndexForm (fits : KindFits e .labelIndex) : LabelIndex (nodeOf nested e .labelIndex) := by
  have enough : 6 ≤ e.payload.length := fits
  apply LabelIndex.fields
  · exact numberFits (n := 2) (by rw [List.length_take]; omega)
  · exact numberFits (n := 4) (by rw [List.length_take, List.length_drop]; omega)

theorem originatorSrgbForm (own : e.Fits) (fits : KindFits e .originatorSrgb) :
    OriginatorSrgb (nodeOf nested e .originatorSrgb) := by
  have size : e.payload.length % 6 = 1 := fits
  have low : bigEndian (e.payload.take 1) < 256 :=
    numberFits (n := 1) (by rw [List.length_take]; omega)
  have high := e.reserved.toNat_lt
  have ranges : Level RangeNode (grouped ((rangePairs (e.payload.drop 1)).map rangeNode))
      (0 + ((rangePairs (e.payload.drop 1)).map rangeNode).length) := by
    rw [← addAllGrouped _ (rangeNodesPlain _)]
    apply levelAddedAll .none
    intro pair member
    obtain ⟨r, inside, rfl⟩ := List.mem_map.mp member
    obtain ⟨base, range⟩ := pairsFit _ r inside
    exact ⟨_, rfl, .srgb base range⟩
  have few : 0 + ((rangePairs (e.payload.drop 1)).map rangeNode).length ≤ 10922 := by
    have count := pairsCount (e.payload.drop 1)
    rw [List.length_drop] at count
    unfold Element.Fits Element.length at own
    rw [List.length_map]
    omega
  have flags : e.reserved.toNat * 256 + bigEndian (e.payload.take 1) < 65536 := by omega
  exact .fields flags ranges few

theorem structureForm (fits : KindFits e .sidStructure) :
    ∃ fields : StructureFields, nodeOf nested e .sidStructure = fields.tree := by
  have six := structureOfSix fits
  unfold nodeOf
  match structureOf e, six with
  | [a, b, c, x, y, z], _ => exact ⟨⟨a, b, c, x, y, z⟩, rfl⟩

theorem structureLevel (bound : Int) (data : Octets) :
    ∃ last : Option StructureFields,
      (level Registries.standard bound .sidInformation data).tree = structureTree last := by
  rw [levelTree Registries.standard bound ⟨.sidInformation, data⟩]
  apply List.foldlRecOn (motive := fun t => ∃ last, t = structureTree last)
    (accepted Registries.standard bound ⟨.sidInformation, data⟩)
  · exact ⟨none, rfl⟩
  · rintro _ ⟨last, rfl⟩ e _
    cases found : find Registries.standard .sidInformation (level Registries.standard bound) e with
    | unregistered => exact ⟨last, rfl⟩
    | malformed s => exact ⟨last, rfl⟩
    | node key d =>
      obtain ⟨kind, known, rfl, read⟩ := foundKind found
      obtain ⟨fits, tree⟩ := unpackMade read
      rw [standardSidInformation] at known
      split at known
      · cases known
        obtain ⟨fields, same⟩ : ∃ fields : StructureFields,
            nodeOf (level Registries.standard bound) e .sidStructure = fields.tree :=
          structureForm fits
        refine ⟨some fields, ?_⟩
        change (structureTree last).merge d.tree = fields.tree
        rw [tree, same, mergeStructure]
      · cases known

theorem sidInformationForm (bound : Int) (fits : KindFits e .sidInformation) :
    SidNode "sid_information" (nodeOf (level Registries.standard bound) e .sidInformation) := by
  have enough : 20 ≤ e.payload.length := fits
  have sid : (e.payload.take 16).length = 16 := by rw [List.length_take]; omega
  have flags : bigEndian ((e.payload.drop 16).take 1) < 256 :=
    numberFits (n := 1) (by rw [List.length_take, List.length_drop]; omega)
  have behavior : bigEndian ((e.payload.drop 17).take 2) < 65536 :=
    numberFits (n := 2) (by rw [List.length_take, List.length_drop]; omega)
  obtain ⟨last, tree⟩ := structureLevel bound (e.payload.drop 20)
  rw [nodeOf, tree]
  cases last with
  | none => exact .plain sid flags behavior
  | some fields => exact .structured sid flags behavior fields

end Nodes

theorem levelForm {Node : String → Tree → Prop} {rs : Registries} {scope : Scope} {n : Nat}
    (keyed : rs.Keyed scope) (data : Octets)
    (each : ∀ (e : Element) kind key d, e.Fits → rs.kind? scope e.code.toNat = some kind →
      kind.key = some key → unpack (level rs n) e kind = .ok d → Node key d.tree) :
    ∃ count ≤ n + 1, Level Node (level rs n scope data).tree count := by
  have few := acceptedFew rs n ⟨scope, data⟩
  have nodes : (nodesOf rs n scope (accepted rs n ⟨scope, data⟩)).length ≤
      (accepted rs n ⟨scope, data⟩).length := List.length_filterMap_le _ _
  have plain := nodesPlain (find rs scope (level rs n)) (accepted rs n ⟨scope, data⟩)
  refine ⟨0 + (nodesOf rs n scope (accepted rs n ⟨scope, data⟩)).length, by omega, ?_⟩
  rw [levelNodes keyed, ← addAllGrouped (nodesOf rs n scope _) plain]
  apply levelAddedAll .none
  intro node member
  obtain ⟨e, inside, kind, d, known, named, read, tree⟩ := nodeMade member
  exact ⟨d.tree, tree, each e kind node.1 d (acceptedInside inside).1 known named read⟩

theorem serviceForm {code : UInt8} {service : Scope} {key : String}
    (kind : Decode.Service code service key) (n : Nat) (data : Octets) :
    Service n (level Registries.standard n service data).tree := by
  apply levelForm (serviceKeyed kind)
  intro e inner name d _ known named read
  have registered : inner = .sidInformation := by
    cases kind <;> grind [standardL3Service, standardL2Service]
  subst registered
  cases named
  obtain ⟨fits, tree⟩ := unpackMade read
  rw [tree]
  exact sidInformationForm n fits

theorem attributeForm (n : Nat) (data : Octets) :
    Attribute n (level Registries.standard n .top data).tree := by
  apply levelForm (Registries.standardKeyed (by decide))
  intro e kind key d own known named read
  obtain ⟨fits, tree⟩ := unpackMade read
  rw [tree]
  cases kind with
  | labelIndex => cases named; exact .labelIndex (labelIndexForm fits)
  | originatorSrgb => cases named; exact .originatorSrgb (originatorSrgbForm own fits)
  | l3Service => cases named; exact .l3Service (serviceForm .l3 n e.payload)
  | l2Service => cases named; exact .l2Service (serviceForm .l2 n e.payload)
  | sidInformation => grind [standardTop]
  | sidStructure => cases named

theorem decodedConforms (data : Octets) {declared : Nat} (inside : declared ≤ data.length) (n : Nat) :
    ∃ d, decode Registries.standard .top data declared n = .ok d ∧ Attribute n d.tree ∧
      (Value.tree d.tree).depth ≤ 4 ∧
      ∀ key ∈ ["sid_information", "sid_structure"],
        (Value.tree d.tree).countUnder key ≤ (n + 1) * (n + 1) := by
  have form := attributeForm n (data.take declared)
  refine ⟨_, decodeDeclared _ _ inside n, form, attributeDepth form, ?_⟩
  intro key inner
  exact attributeCount inner form

def brokenAttribute : Octets :=
  encodeAll [⟨3, 1, [2, 0, 0, 1, 0, 0, 2, 0, 0, 3, 0, 0, 4]⟩,
    ⟨5, 0, encodeAll [⟨1, 0, List.replicate 20 7 ++
      encodeAll [⟨1, 9, [1, 2, 3, 4, 5]⟩, ⟨1, 0, [1]⟩]⟩]⟩] ++ [1, 0, 9, 0, 5]

theorem decodedConformsBroken :
    61 ≤ brokenAttribute.length ∧
    ∃ d, decode Registries.standard .top brokenAttribute (61 : Nat) (1 : Nat) = .ok d ∧
      Attribute 1 d.tree ∧ (Value.tree d.tree).depth ≤ 4 ∧
      ∀ key ∈ ["sid_information", "sid_structure"],
        (Value.tree d.tree).countUnder key ≤ (1 + 1) * (1 + 1) := by
  have inside : 61 ≤ brokenAttribute.length := by decide
  exact ⟨inside, decodedConforms brokenAttribute inside 1⟩

end Schema
end SidAttribute
