import SidAttribute.Tree.Basic

/-! How deep a value goes and how many nodes it has under a key, wherever in it the key stands. Trees
inside each other make the depth; lists do not count. -/
namespace SidAttribute

namespace Value

mutual

def depth : Value → Nat
  | .tree fields => depthFields fields + 1
  | .list items => depthItems items
  | .null | .bool _ | .int _ | .text _ => 0

def depthItems : List Value → Nat
  | [] => 0
  | item :: rest => max item.depth (depthItems rest)

def depthFields : List (String × Value) → Nat
  | [] => 0
  | (_, value) :: rest => max value.depth (depthFields rest)

end

def nodeCount : Value → Nat
  | .list items => items.length
  | _ => 1

mutual

def countUnder (key : String) : Value → Nat
  | .tree fields => countFields key fields
  | .list items => countItems key items
  | .null | .bool _ | .int _ | .text _ => 0

def countItems (key : String) : List Value → Nat
  | [] => 0
  | item :: rest => item.countUnder key + countItems key rest

def countFields (key : String) : List (String × Value) → Nat
  | [] => 0
  | (name, value) :: rest =>
    (if name = key then value.nodeCount else 0) + value.countUnder key + countFields key rest

end

theorem depthItemsLe {items : List Value} {m : Nat} :
    depthItems items ≤ m ↔ ∀ item ∈ items, item.depth ≤ m := by
  induction items with
  | nil => simp [depthItems]
  | cons item rest ih => simp only [depthItems, Nat.max_le, ih, List.forall_mem_cons]

theorem depthFieldsLe {fields : List (String × Value)} {m : Nat} :
    depthFields fields ≤ m ↔ ∀ field ∈ fields, field.2.depth ≤ m := by
  induction fields with
  | nil => simp [depthFields]
  | cons field rest ih => simp only [depthFields, Nat.max_le, ih, List.forall_mem_cons]

theorem depthTreeLe {fields : List (String × Value)} {m : Nat} :
    (Value.tree fields).depth ≤ m + 1 ↔ ∀ field ∈ fields, field.2.depth ≤ m := by
  rw [depth, Nat.add_le_add_iff_right, depthFieldsLe]

end Value

namespace Tree
open Value

variable {t : Tree} {m : Nat} {key : String}

def Within (m : Nat) (t : Tree) : Prop := ∀ field ∈ t, field.2.depth ≤ m

theorem withinGet (within : Within m t) {value : Value} (there : t.get? key = some value) :
    value.depth ≤ m := by
  induction t with
  | nil => cases there
  | cons field rest ih =>
    obtain ⟨name, own⟩ := field
    unfold get? at there
    split at there
    · cases there
      exact within _ List.mem_cons_self
    · exact ih (fun field member => within field (List.mem_cons_of_mem _ member)) there

theorem withinPut (within : Within m t) {value : Value} (shallow : value.depth ≤ m) :
    Within m (t.put key value) := by
  induction t with
  | nil =>
    intro field member
    rw [List.mem_singleton.mp member]
    exact shallow
  | cons field rest ih =>
    obtain ⟨name, own⟩ := field
    have first := within _ List.mem_cons_self
    have later : Within m rest := fun field member => within field (List.mem_cons_of_mem _ member)
    intro other member
    unfold put at member
    split at member
    · rcases List.mem_cons.mp member with rfl | behind
      · exact shallow
      · exact later other behind
    · rcases List.mem_cons.mp member with rfl | behind
      · exact first
      · exact ih later other behind

theorem depthJoined {old : Option Value} {child : Value} (before : ∀ v ∈ old, v.depth ≤ m)
    (shallow : child.depth ≤ m) : (joined old child).depth ≤ m := by
  unfold joined
  split
  · exact shallow
  · next items =>
    have own := depthItemsLe.mp (before _ rfl)
    apply depthItemsLe.mpr
    intro item member
    rcases List.mem_append.mp member with old | new
    · exact own item old
    · rw [List.mem_singleton.mp new]
      exact shallow
  · next lone _ =>
    apply depthItemsLe.mpr
    simpa using ⟨before lone rfl, shallow⟩

theorem withinAddChild (within : Within m t) {child : Value} (shallow : child.depth ≤ m) :
    Within m (t.addChild key child) :=
  withinPut within (depthJoined (fun _ there => withinGet within there) shallow)

theorem withinMerge {other : Tree} (within : Within m t) (shallow : Within m other) :
    Within m (t.merge other) := by
  unfold merge
  induction other generalizing t with
  | nil => exact within
  | cons field rest ih =>
    have own := shallow field List.mem_cons_self
    have later : Within m rest := fun f member => shallow f (List.mem_cons_of_mem _ member)
    exact ih (withinPut within own) later

end Tree
end SidAttribute
