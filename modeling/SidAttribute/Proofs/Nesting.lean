import SidAttribute.Proofs.Kind
import SidAttribute.Proofs.Tree.Measure
import SidAttribute.Proofs.Turns

/-! How deep the tree of a level goes, whatever is registered where, kinds inside themselves included.
A kind that opens a level inside an element adds a tree to what that level finds, and the element has
the four octets of its header besides those it hands on. -/
namespace SidAttribute
open Wire Value SidAttribute.Tree

namespace Tree

theorem withinAddAll {t : Tree} {m : Nat} (within : Within m t) {nodes : Nodes}
    (shallow : ∀ node ∈ nodes, node.2.depth ≤ m) : Within m (t.addAll nodes) := by
  unfold addAll
  apply List.foldlRecOn nodes _ within
  intro t within node member
  exact withinAddChild within (shallow node member)

theorem withinInside {t : Tree} {m : Nat} (shallow : (Value.tree t).depth ≤ m) : Within m t :=
  depthTreeLe.mp (Nat.le_succ_of_le shallow)

end Tree

namespace Decode

def Shallow (nested : Scope → Octets → Decoded) (size : Nat) : Prop :=
  ∀ scope data, data.length ≤ size →
    4 * (Value.tree (nested scope data).tree).depth ≤ data.length + 4

variable {nested : Scope → Octets → Decoded} {e : Element}

theorem rangesDepth (fits : e.payload.length % 6 = 1) :
    4 * (Value.tree (nodeOf nested e .originatorSrgb)).depth ≤ e.payload.length + 4 := by
  by_cases flagsOnly : e.payload.length = 1
  · have none : e.payload.drop 1 = [] := List.drop_eq_nil_of_le (by omega)
    have one : (Value.tree (nodeOf nested e .originatorSrgb)).depth = 1 := by
      rw [nodeOf, none]
      rfl
    omega
  · have ranges : Within 1 (grouped ((rangePairs (e.payload.drop 1)).map rangeNode)) := by
      rw [← addAllGrouped _ (rangeNodesPlain _)]
      apply withinAddAll
      · intro field member
        cases member
      · intro node member
        obtain ⟨r, _, rfl⟩ := List.mem_map.mp member
        exact Nat.le_refl 1
    have two : (Value.tree (nodeOf nested e .originatorSrgb)).depth ≤ 2 := by
      apply depthTreeLe.mpr
      intro field member
      rcases List.mem_cons.mp member with rfl | range
      · exact Nat.zero_le _
      · exact ranges field range
    omega

theorem sidDepth (fixed : Octets) (found : Tree) :
    (Value.tree (sidTree fixed found)).depth ≤ (Value.tree found).depth + 1 := by
  apply depthTreeLe.mpr
  intro field member
  rcases List.mem_append.mp member with own | added
  · simp only [SidFields.tree, List.mem_cons, List.not_mem_nil, or_false] at own
    rcases own with rfl | rfl | rfl | rfl <;> exact Nat.zero_le _
  · split at added
    · cases added
    · rw [List.mem_singleton.mp added]

theorem nodeDepth {kind : Kind} (shallow : Shallow nested e.payload.length)
    (fits : KindFits e kind) :
    4 * (Value.tree (nodeOf nested e kind)).depth ≤ e.payload.length + 4 := by
  cases kind with
  | labelIndex =>
    have one : (Value.tree (nodeOf nested e .labelIndex)).depth = 1 := rfl
    omega
  | originatorSrgb => exact rangesDepth fits
  | l3Service => exact shallow _ _ (Nat.le_refl _)
  | l2Service => exact shallow _ _ (Nat.le_refl _)
  | sidInformation =>
    have enough : 20 ≤ e.payload.length := fits
    have inner := shallow .sidInformation (e.payload.drop 20) (by rw [List.length_drop]; omega)
    have outer := sidDepth e.payload (nested .sidInformation (e.payload.drop 20)).tree
    rw [List.length_drop] at inner
    rw [nodeOf]
    omega
  | sidStructure =>
    have one : (Value.tree (nodeOf nested e .sidStructure)).depth ≤ 1 := by
      apply depthTreeLe.mpr
      intro field member
      obtain ⟨pair, _, rfl⟩ := List.mem_map.mp member
      exact Nat.le_refl 0
    omega

theorem attachedWithin {t : Tree} {m : Nat} {f : Finding} (within : Within m t)
    (shallow : ∀ key d, f = .node key d → (Value.tree d.tree).depth ≤ m) :
    Within m (f.attachTo t) := by
  cases f with
  | unregistered => exact within
  | malformed s => exact within
  | node key d =>
    have own := shallow key d rfl
    cases key with
    | none => exact withinMerge within (withinInside own)
    | some key => exact withinAddChild within own

/-- The induction is on the octets of the level; the levels inside are shorter by a header at least. -/
theorem levelShallow (rs : Registries) (bound : Int) (size : Nat) :
    Shallow (level rs bound) size := by
  induction size using Nat.strongRecOn with
  | ind size ih =>
    intro scope data inside
    have within : Within (data.length / 4) (level rs bound scope data).tree := by
      rw [levelTree rs bound ⟨scope, data⟩]
      apply List.foldlRecOn (accepted rs bound ⟨scope, data⟩)
      · intro field member
        cases member
      · intro t within e member
        have shorter : e.payload.length + 4 ≤ data.length := acceptedPayload member
        apply attachedWithin within
        intro key d found
        obtain ⟨kind, _, _, read⟩ := foundKind found
        obtain ⟨fits, tree⟩ := unpackMade read
        have node := nodeDepth (ih e.payload.length (by omega)) fits
        rw [tree]
        omega
    have whole := depthTreeLe.mpr within
    omega

theorem nestingWithinOctets (rs : Registries) (scope : Scope) (data : Octets) {declared : Nat}
    (inside : declared ≤ data.length) (n : Nat) :
    ∃ d, decode rs scope data declared n = .ok d ∧
      (∀ allowance, declared < allowance →
        Turns.level rs n allowance scope n (data.take declared) [] = some d) ∧
      4 * ((Value.tree d.tree).depth - 1) ≤ declared := by
  have size : (data.take declared).length = declared := by
    rw [List.length_take, Nat.min_eq_left inside]
  refine ⟨level rs n scope (data.take declared), decodeDeclared rs scope inside n, ?_, ?_⟩
  · intro allowance enough
    rw [Turns.levelEnd rs n (by omega), levelEq]
  · have shallow := levelShallow rs n declared scope (data.take declared) (by omega)
    omega

def insideThemselves : Registries :=
  Registries.none.registerAll
    [⟨.top, .l3Service, none⟩, ⟨.l3Service, .l3Service, none⟩, ⟨.l3Service, .sidInformation, none⟩,
      ⟨.sidInformation, .sidInformation, none⟩, ⟨.sidInformation, .l3Service, none⟩]

def threeServices : Octets := [5, 0, 9, 0, 5, 0, 5, 0, 5, 0, 1, 0, 255]

theorem nestingThreeServices :
    12 ≤ threeServices.length ∧
    ∃ d, decode insideThemselves .top threeServices (12 : Nat) (3 : Nat) = .ok d ∧
      (∀ allowance, 12 < allowance →
        Turns.level insideThemselves (3 : Nat) allowance .top (3 : Nat) (threeServices.take 12) [] =
          some d) ∧
      4 * ((Value.tree d.tree).depth - 1) ≤ 12 ∧ (Value.tree d.tree).depth = 4 := by
  have inside : 12 ≤ threeServices.length := by decide
  obtain ⟨d, decoded, ends, shallow⟩ := nestingWithinOctets insideThemselves .top threeServices inside 3
  have four : (Value.tree d.tree).depth = 4 := by
    have same := Except.ok.inj (decoded.symm.trans (decodeDeclared _ _ inside _))
    subst same
    decide +kernel
  exact ⟨inside, d, decoded, ends, shallow, four⟩

end Decode
end SidAttribute
