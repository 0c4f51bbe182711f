import SidAttribute.Proofs.Description
import SidAttribute.Proofs.Tree.Measure

/-! The form of a decoded attribute: which keys stand in which tree, how they hold their nodes and what
range each number has. A level is a tree of nodes only, each key once, with its nodes counted; adding a
child keeps that form. The form alone bounds the depth and how often a key is used. -/
namespace SidAttribute.Schema
open Wire Value
open Description (StructureFields)

inductive Held (Node : Tree → Prop) : Value → Nat → Prop where
  | bare {node : Tree} (fine : Node node) : Held Node (.tree node) 1
  | several {nodes : List Tree} (many : 2 ≤ nodes.length) (fine : ∀ node ∈ nodes, Node node) :
    Held Node (.list (nodes.map .tree)) nodes.length

inductive Level (Node : String → Tree → Prop) : Tree → Nat → Prop where
  | none : Level Node [] 0
  | key {name : String} {value : Value} {rest : Tree} {k m : Nat} (held : Held (Node name) value k)
      (fresh : name ∉ Tree.keys rest) (others : Level Node rest m) :
    Level Node ((name, value) :: rest) (k + m)

inductive LabelIndex : Tree → Prop where
  | fields {flags index : Nat} (flagsFit : flags < 65536) (indexFits : index < 4294967296) :
    LabelIndex [("flags", .int flags), ("label_index", .int index)]

inductive RangeNode : String → Tree → Prop where
  | srgb {base range : Nat} (baseFits : base < 16777216) (rangeFits : range < 16777216) :
    RangeNode "srgb" [("base", .int base), ("range", .int range)]

inductive OriginatorSrgb : Tree → Prop where
  | fields {flags : Nat} {ranges : Tree} {count : Nat} (flagsFit : flags < 65536)
      (level : Level RangeNode ranges count) (few : count ≤ 10922) :
    OriginatorSrgb (("flags", .int flags) :: ranges)

def sidFixed (sid : Octets) (flags behavior : Nat) : Tree :=
  [("sid_value", .text (Sid.addressText sid)), ("service_sid_flags", .int flags),
    ("endpoint_behavior_codepoint", .int behavior),
    ("endpoint_behavior", .text (Sid.behaviorName behavior))]

inductive SidNode : String → Tree → Prop where
  | plain {sid : Octets} {flags behavior : Nat} (sixteen : sid.length = 16) (flagsFit : flags < 256)
      (behaviorFits : behavior < 65536) :
    SidNode "sid_information" (sidFixed sid flags behavior)
  | structured {sid : Octets} {flags behavior : Nat} (sixteen : sid.length = 16)
      (flagsFit : flags < 256) (behaviorFits : behavior < 65536) (fields : StructureFields) :
    SidNode "sid_information" (sidFixed sid flags behavior ++ [("sid_structure", .tree fields.tree)])

def Service (n : Nat) (t : Tree) : Prop := ∃ count ≤ n + 1, Level SidNode t count

inductive AttributeNode (n : Nat) : String → Tree → Prop where
  | labelIndex {node : Tree} (fine : LabelIndex node) : AttributeNode n "label_index" node
  | originatorSrgb {node : Tree} (fine : OriginatorSrgb node) : AttributeNode n "originator_srgb" node
  | l3Service {node : Tree} (fine : Service n node) : AttributeNode n "srv6_l3_service" node
  | l2Service {node : Tree} (fine : Service n node) : AttributeNode n "srv6_l2_service" node

def Attribute (n : Nat) (t : Tree) : Prop := ∃ count ≤ n + 1, Level (AttributeNode n) t count

section Adding

variable {Node : String → Tree → Prop} {key : String} {node t : Tree} {k : Nat}

theorem heldJoined {Node : Tree → Prop} {value : Value} (held : Held Node value k) (fine : Node node) :
    Held Node (Tree.joined (some value) (.tree node)) (k + 1) := by
  cases held with
  | @bare first own =>
    have both : Held Node (.list ([first, node].map .tree)) [first, node].length :=
      .several (Nat.le_refl 2) (by simp [own, fine])
    exact both
  | @several nodes many own =>
    have each : ∀ other ∈ nodes ++ [node], Node other := by
      intro other member
      rcases List.mem_append.mp member with old | new
      · exact own other old
      · rw [List.mem_singleton.mp new]
        exact fine
    have longer : Held Node (.list ((nodes ++ [node]).map .tree)) (nodes ++ [node]).length :=
      .several (by rw [List.length_append]; omega) each
    rw [List.length_append, List.map_append] at longer
    exact longer

theorem levelAdded (level : Level Node t k) (fine : Node key node) :
    Level Node (t.addChild key (.tree node)) (k + 1) := by
  induction level with
  | none =>
    have lone : Level Node [(key, .tree node)] (1 + 0) := .key (.bare fine) List.not_mem_nil .none
    exact lone
  | @key name value rest k m held fresh others ih =>
    by_cases same : name = key
    · subst same
      have joined := Level.key (heldJoined held fine) fresh others
      rw [Nat.add_right_comm] at joined
      simpa [Tree.addChild, Tree.get?, Tree.put] using joined
    · have still : name ∉ (rest.addChild key (.tree node)).keys := by
        rw [Tree.addChild, Tree.keysPut]
        split
        · exact fresh
        · simp [fresh, same]
      have behind := Level.key held still ih
      rw [← Nat.add_assoc] at behind
      simpa [Tree.addChild, Tree.get?, Tree.put, same] using behind

theorem levelAddedAll {nodes : Tree.Nodes} (level : Level Node t k)
    (fine : ∀ pair ∈ nodes, ∃ node, pair.2 = .tree node ∧ Node pair.1 node) :
    Level Node (t.addAll nodes) (k + nodes.length) := by
  induction nodes generalizing t k with
  | nil => exact level
  | cons pair rest ih =>
    obtain ⟨name, value⟩ := pair
    obtain ⟨node, rfl, own⟩ := fine _ List.mem_cons_self
    have added := ih (levelAdded level own) fun other member =>
      fine other (List.mem_cons_of_mem _ member)
    rw [Nat.add_assoc, Nat.add_comm 1] at added
    exact added

end Adding

section Measures

theorem heldDepth {Node : Tree → Prop} {value : Value} {k m : Nat} (held : Held Node value k)
    (each : ∀ node, Node node → (Value.tree node).depth ≤ m) : value.depth ≤ m := by
  cases held with
  | bare fine => exact each _ fine
  | several many fine =>
    apply depthItemsLe.mpr
    intro item member
    obtain ⟨node, inside, rfl⟩ := List.mem_map.mp member
    exact each node (fine node inside)

theorem levelDepth {Node : String → Tree → Prop} {t : Tree} {k m : Nat} (level : Level Node t k)
    (each : ∀ key node, Node key node → (Value.tree node).depth ≤ m) :
    (Value.tree t).depth ≤ m + 1 := by
  rw [depthTreeLe]
  induction level with
  | none =>
    intro field member
    cases member
  | @key name value rest k count held fresh others ih =>
    intro field member
    rcases List.mem_cons.mp member with rfl | behind
    · exact heldDepth held (each name)
    · exact ih field behind

theorem heldNodes {Node : Tree → Prop} {value : Value} {k : Nat} (held : Held Node value k) :
    value.nodeCount = k := by
  cases held with
  | bare fine => rfl
  | several many fine => exact List.length_map _

/-- What `own` stands for is what the key of the nodes itself counts for each of them. -/
theorem heldCount {Node : Tree → Prop} {value : Value} {k own weight : Nat} {key : String}
    (held : Held Node value k)
    (each : ∀ node, Node node → own + (Value.tree node).countUnder key ≤ weight) :
    k * own + value.countUnder key ≤ k * weight := by
  cases held with
  | bare fine => simpa using each _ fine
  | @several nodes many fine =>
    rw [countUnder]
    clear many
    induction nodes with
    | nil => simp [countItems]
    | cons node rest ih =>
      have first := each node (fine node List.mem_cons_self)
      have later := ih fun other member => fine other (List.mem_cons_of_mem _ member)
      rw [List.length_cons, Nat.succ_mul, Nat.succ_mul, List.map_cons, countItems]
      omega

theorem levelCount {Node : String → Tree → Prop} {t : Tree} {k weight : Nat} {key : String}
    (level : Level Node t k)
    (each : ∀ name node, Node name node →
      (if name = key then 1 else 0) + (Value.tree node).countUnder key ≤ weight) :
    (Value.tree t).countUnder key ≤ k * weight := by
  rw [countUnder]
  induction level with
  | none => simp [countFields]
  | @key name value rest k m held fresh others ih =>
    have own := heldCount held (each name)
    have nodes : (if name = key then value.nodeCount else 0) = k * if name = key then 1 else 0 := by
      rw [heldNodes held]
      split
      · rw [Nat.mul_one]
      · rw [Nat.mul_zero]
    rw [countFields, nodes, Nat.add_mul]
    omega

theorem sidDepth {key : String} {node : Tree} (fine : SidNode key node) :
    (Value.tree node).depth ≤ 2 := by
  cases fine with
  | plain => exact Nat.le_succ 1
  | structured => exact Nat.le_refl 2

theorem rangesDepth {key : String} {node : Tree} (fine : RangeNode key node) :
    (Value.tree node).depth ≤ 1 := by
  cases fine with
  | srgb => exact Nat.le_refl 1

theorem serviceDepth {n : Nat} {t : Tree} (fine : Service n t) : (Value.tree t).depth ≤ 3 := by
  obtain ⟨count, _, level⟩ := fine
  exact levelDepth level fun _ _ => sidDepth

theorem srgbDepth {t : Tree} (fine : OriginatorSrgb t) : (Value.tree t).depth ≤ 2 := by
  cases fine with
  | fields _ level _ =>
    have ranges := depthTreeLe.mp (levelDepth level fun _ _ => rangesDepth)
    apply depthTreeLe.mpr
    intro field member
    rcases List.mem_cons.mp member with rfl | range
    · exact Nat.zero_le _
    · exact ranges field range

theorem attributeDepth {n : Nat} {t : Tree} (fine : Attribute n t) : (Value.tree t).depth ≤ 4 := by
  obtain ⟨count, _, level⟩ := fine
  apply levelDepth level
  intro key node fine
  cases fine with
  | labelIndex own =>
    cases own with
    | fields => exact Nat.le_add_left 1 2
  | originatorSrgb own => exact Nat.le_succ_of_le (srgbDepth own)
  | l3Service own => exact serviceDepth own
  | l2Service own => exact serviceDepth own

def sidKeys : List String := ["sid_information", "sid_structure"]

theorem sidCount {key name : String} (inner : key ∈ sidKeys) {node : Tree}
    (fine : SidNode name node) :
    (if name = key then 1 else 0) + (Value.tree node).countUnder key ≤ 1 := by
  simp only [sidKeys, List.mem_cons, List.not_mem_nil, or_false] at inner
  rcases inner with rfl | rfl
  · cases fine with
    | plain => simp [sidFixed, countUnder, countFields]
    | structured => simp [sidFixed, StructureFields.tree, countUnder, countFields]
  · cases fine with
    | plain => simp [sidFixed, countUnder, countFields]
    | structured => simp [sidFixed, StructureFields.tree, countUnder, countFields, nodeCount]

theorem rangeCount {key name : String} (inner : key ∈ sidKeys) {node : Tree}
    (fine : RangeNode name node) :
    (if name = key then 1 else 0) + (Value.tree node).countUnder key ≤ 0 := by
  simp only [sidKeys, List.mem_cons, List.not_mem_nil, or_false] at inner
  cases fine with
  | srgb => rcases inner with rfl | rfl <;> simp [countUnder, countFields]

theorem serviceCount {n : Nat} {key : String} (inner : key ∈ sidKeys) {t : Tree}
    (fine : Service n t) : (Value.tree t).countUnder key ≤ n + 1 := by
  obtain ⟨count, few, level⟩ := fine
  have weighed := levelCount level fun _ _ => sidCount inner
  rw [Nat.mul_one] at weighed
  exact Nat.le_trans weighed few

theorem srgbCount {key : String} (inner : key ∈ sidKeys) {t : Tree} (fine : OriginatorSrgb t) :
    (Value.tree t).countUnder key = 0 := by
  cases fine with
  | @fields flags ranges count _ level _ =>
    have weighed := levelCount level fun _ _ => rangeCount inner
    rw [Nat.mul_zero, countUnder] at weighed
    simp only [sidKeys, List.mem_cons, List.not_mem_nil, or_false] at inner
    rcases inner with rfl | rfl <;> simpa [countUnder, countFields] using weighed

theorem labelCount {key : String} (inner : key ∈ sidKeys) {t : Tree} (fine : LabelIndex t) :
    (Value.tree t).countUnder key = 0 := by
  simp only [sidKeys, List.mem_cons, List.not_mem_nil, or_false] at inner
  cases fine with
  | fields => rcases inner with rfl | rfl <;> simp [countUnder, countFields]

theorem attributeCount {n : Nat} {key : String} (inner : key ∈ sidKeys) {t : Tree}
    (fine : Attribute n t) : (Value.tree t).countUnder key ≤ (n + 1) * (n + 1) := by
  obtain ⟨count, few, level⟩ := fine
  have weighed : (Value.tree t).countUnder key ≤ count * (n + 1) := by
    apply levelCount level
    intro name node fine
    have other : name ≠ key := by
      simp only [sidKeys, List.mem_cons, List.not_mem_nil, or_false] at inner
      rcases inner with rfl | rfl <;> cases fine <;> decide
    rw [if_neg other, Nat.zero_add]
    cases fine with
    | labelIndex own => rw [labelCount inner own]; exact Nat.zero_le _
    | originatorSrgb own => rw [srgbCount inner own]; exact Nat.zero_le _
    | l3Service own => exact serviceCount inner own
    | l2Service own => exact serviceCount inner own
  exact Nat.le_trans weighed (Nat.mul_le_mul_right _ few)

end Measures

end SidAttribute.Schema
