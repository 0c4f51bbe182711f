import Mathlib.Data.List.Induction
import SidAttribute.Proofs.Tree.Grouped
import SidAttribute.Tree.Step

/-! What a tree holds under a key, told from the steps that built it. A put leaves its value alone
under the key and every child added since stands behind it; steps on other keys do not show, and
keys stand in the order of their first use. -/
namespace SidAttribute
open Value

namespace TreeStep

def key? : TreeStep → Option String
  | .put key _ => some key
  | .addChild key _ => some key
  | _ => none

/-- What a step leaves under its key is no list of its own, and no list of the tree is handed out to
be changed. -/
def Plain : TreeStep → Prop
  | .put _ value => ¬ value.IsList
  | .addChild _ child => ¬ child.IsList
  | .append .. => False
  | _ => True

def leaves (key : String) (held : List Value) : TreeStep → List Value
  | .put k value => if k = key then [value] else held
  | .addChild k child => if k = key then held ++ [child] else held
  | _ => held

def added (key : String) (steps : List TreeStep) : List Value :=
  steps.filterMap fun
    | .addChild k child => if k = key then some child else none
    | _ => none

def after (t : Tree) (steps : List TreeStep) : Tree := steps.foldl (fun t s => (s.onTree t).1) t

end TreeStep

namespace Tree
open TreeStep

structure Holds (t : Tree) (key : String) (held : List Value) : Prop where
  plain : ∀ child ∈ held, ¬ child.IsList
  value : t.get? key = if held = [] then none else some (stored held)

section Held

variable {t : Tree} {key : String} {held : List Value}

theorem holdsNothing (key : String) : Holds [] key [] := ⟨by simp, rfl⟩

theorem Holds.children (h : Holds t key held) : t.children key = held := by
  have value := h.value
  by_cases none : held = []
  · rw [if_pos none] at value
    rw [Tree.children, value, none]
  · rw [if_neg none] at value
    exact childrenStored value none h.plain

theorem Holds.listed (h : Holds t key held) :
    (∃ items, t.get? key = some (.list items)) ↔ 2 ≤ held.length := by
  rw [h.value]
  match held, h.plain with
  | [], _ => simp
  | [only], plain =>
    have bare : ¬ only.IsList := plain only List.mem_cons_self
    simpa [stored, IsList] using bare
  | first :: second :: rest, _ => simp [stored]

theorem holdsPut {value : Value} (plain : ¬ value.IsList) :
    Holds (t.put key value) key [value] := by
  constructor
  case plain => simpa using plain
  case value => simp [getPut, stored]

theorem Holds.addChild (h : Holds t key held) {child : Value} (plain : ¬ child.IsList) :
    Holds (t.addChild key child) key (held ++ [child]) := by
  constructor
  case plain =>
    intro c member
    rcases List.mem_append.mp member with old | new
    · exact h.plain c old
    · rw [List.mem_singleton.mp new]
      exact plain
  case value =>
    have some : held ++ [child] ≠ [] := by simp
    rw [Tree.addChild, getPut, if_pos rfl, if_neg some, h.value]
    by_cases none : held = []
    · rw [if_pos none, none]
      rfl
    · rw [if_neg none, joinedStored none h.plain]

theorem Holds.other (h : Holds t key held) {other : String} (apart : key ≠ other) (value : Value) :
    Holds (t.put other value) key held := by
  refine ⟨h.plain, ?_⟩
  rw [getPut, if_neg apart]
  exact h.value

theorem holdsStep (h : Holds t key held) {s : TreeStep} (plain : s.Plain) :
    Holds (s.onTree t).1 key (s.leaves key held) := by
  cases s with
  | put k value =>
    rw [leaves]
    split
    · next same =>
      subst same
      exact holdsPut plain
    · next apart => exact h.other (Ne.symm apart) value
  | addChild k child =>
    rw [leaves]
    split
    · next same =>
      subst same
      exact h.addChild plain
    · next apart => exact h.other (Ne.symm apart) _
  | append => exact plain.elim
  | children => exact h
  | get => exact h
  | follow => exact h
  | json => exact h

theorem holdsRun (h : Holds t key held) {steps : List TreeStep} (plain : ∀ s ∈ steps, s.Plain) :
    Holds (after t steps) key (steps.foldl (leaves key) held) := by
  induction steps generalizing t held with
  | nil => exact h
  | cons s rest ih =>
    have first := holdsStep h (plain s List.mem_cons_self)
    exact ih first fun s member => plain s (List.mem_cons_of_mem _ member)

end Held

theorem leavesAdded {key : String} (held : List Value) {steps : List TreeStep}
    (noPut : ∀ value, .put key value ∉ steps) :
    steps.foldl (leaves key) held = held ++ added key steps := by
  induction steps generalizing held with
  | nil => exact (List.append_nil held).symm
  | cons s rest ih =>
    have later : ∀ value, .put key value ∉ rest :=
      fun value member => noPut value (List.mem_cons_of_mem s member)
    rw [List.foldl_cons, ih _ later]
    cases s with
    | put k value =>
      have apart : k ≠ key := fun same => noPut value (same ▸ List.mem_cons_self)
      rw [leaves, if_neg apart]
      rfl
    | addChild k child =>
      by_cases same : k = key
      · simp [leaves, added, same]
      · simp [leaves, added, same]
    | _ => rfl

theorem keysStep (t : Tree) {s : TreeStep} (plain : s.Plain) :
    (s.onTree t).1.keys = match s.key? with
      | none => t.keys
      | some key => if key ∈ t.keys then t.keys else t.keys ++ [key] := by
  cases s with
  | put key value => exact keysPut t key value
  | addChild key child => exact keysPut t key _
  | append => exact plain.elim
  | _ => rfl

theorem keysRun {steps : List TreeStep} (plain : ∀ s ∈ steps, s.Plain) :
    (after [] steps).keys = (steps.filterMap key?).eraseDups := by
  -- from the last step back: whether its key is new is up to the steps before it
  induction steps using List.reverseRecOn with
  | nil => rfl
  | append_singleton before s ih =>
    have earlier := ih fun s member => plain s (List.mem_append_left _ member)
    have last : after [] (before ++ [s]) = (s.onTree (after [] before)).1 := by
      rw [after, List.foldl_append]
      rfl
    rw [last, keysStep _ (plain s (by simp)), List.filterMap_append, earlier]
    cases used : s.key? with
    | none => simp [used]
    | some key =>
      rw [List.filterMap_cons_some used, List.filterMap_nil, eraseDupsSnoc]
      simp only [List.mem_eraseDups]

theorem leavesOther {key : String} (held : List Value) {s : TreeStep} (apart : s.key? ≠ some key) :
    s.leaves key held = held := by
  cases s with
  | put k value => exact if_neg fun same => apart (congrArg some same)
  | addChild k child => exact if_neg fun same => apart (congrArg some same)
  | _ => rfl

/-- What the steps that built a tree tell of one of its keys and of their order. -/
structure Told (steps : List TreeStep) (key : String) (t : Tree) : Prop where
  lastPut : ∀ before value later, steps = before ++ .put key value :: later →
    (∀ other, .put key other ∉ later) → t.children key = value :: added key later
  neverPut : (∀ value, .put key value ∉ steps) → t.children key = added key steps
  unused : (∀ s ∈ steps, s.key? ≠ some key) → t.children key = []
  keys : t.keys = (steps.filterMap key?).eraseDups
  listed : (∃ items, t.get? key = some (.list items)) ↔ 2 ≤ (t.children key).length
  others : ∀ s : TreeStep, s.Plain → s.key? ≠ some key →
    (s.onTree t).1.children key = t.children key

theorem historyTold (steps : List TreeStep) (plain : ∀ s ∈ steps, s.Plain) (key : String) :
    Told steps key (after [] steps) := by
  have holds := holdsRun (holdsNothing key) plain
  constructor
  case lastPut =>
    rintro before value later rfl noPut
    rw [holds.children, List.foldl_append, List.foldl_cons, leaves, if_pos rfl, leavesAdded _ noPut]
    rfl
  case neverPut =>
    intro noPut
    rw [holds.children, leavesAdded _ noPut]
    rfl
  case unused =>
    intro apart
    have noPut : ∀ value, .put key value ∉ steps := fun value member => apart _ member rfl
    have noChild : added key steps = [] := by
      rw [added, List.filterMap_eq_nil_iff]
      intro s member
      cases s with
      | addChild k child => exact if_neg fun same => apart _ member (congrArg some same)
      | _ => rfl
    rw [holds.children, leavesAdded _ noPut, noChild]
    rfl
  case keys => exact keysRun plain
  case listed =>
    rw [holds.children]
    exact holds.listed
  case others =>
    intro s plain apart
    rw [(holdsStep holds plain).children, leavesOther _ apart, holds.children]

def mixedHistory : List TreeStep :=
  [.addChild "a" (.int 1), .put "b" (.text "x"), .addChild "a" (.int 2), .put "a" (.bool true),
    .children "a", .addChild "a" (.tree []), .addChild "b" .null]

theorem historyToldMixed :
    (∀ s ∈ mixedHistory, s.Plain) ∧ Told mixedHistory "a" (after [] mixedHistory) ∧
      (after [] mixedHistory).children "a" = [.bool true, .tree []] ∧
      (after [] mixedHistory).keys = ["a", "b"] := by
  have plain : ∀ s ∈ mixedHistory, s.Plain := by simp [mixedHistory, Plain, IsList]
  have told := historyTold mixedHistory plain "a"
  have split : mixedHistory =
      mixedHistory.take 3 ++ .put "a" (.bool true) :: mixedHistory.drop 4 := rfl
  have noPut : ∀ other, .put "a" other ∉ mixedHistory.drop 4 := by simp [mixedHistory]
  exact ⟨plain, told, told.lastPut _ _ _ split noPut, told.keys⟩

end Tree
end SidAttribute
