import Mathlib.Data.String.Basic
import SidAttribute.Log.Channel

/-! What a file has after lines were written to it. Each line in turn is put at its end. One that would
bring the file to its limit is put into a new one, and what was there is found one place up, as is all
that was put aside before, but for the last. -/
namespace SidAttribute.Log

namespace Files

variable {fs : Files} {path target other text : String}

theorem getBehind (fs : Files) (target other content : String) :
    get? (fs ++ [(target, content)]) other =
      (fs.get? other).or (if target = other then some content else none) := by
  induction fs with
  | nil => simp [get?]
  | cons file rest ih =>
    obtain ⟨p, there⟩ := file
    by_cases here : p = other
    · simp [get?, here]
    · simp [get?, here, ih]

theorem getMoved (found : fs.get? path = some text) : (fs.move path target).get? target = some text := by
  simp [move, found, getBehind, getRemove]

theorem getMovedFrom (apart : path ≠ target) : (fs.move path target).get? path = none := by
  cases found : fs.get? path with
  | none => rw [move, found, found]
  | some content => simp [move, found, getBehind, getRemove, apart, apart.symm]

theorem getMovedOther (fs : Files) (source : other ≠ path) (apart : other ≠ target) :
    (fs.move path target).get? other = fs.get? other := by
  cases found : fs.get? path with
  | none => rw [move, found]
  | some content => simp [move, found, getBehind, getRemove, source, apart, apart.symm]

theorem textOf (found : fs.get? path = some text) : fs.text path = text := by
  rw [Files.text, found, Option.getD_some]

end Files

section Names

variable {path : String} {i j : Nat}

theorem asideApart (same : aside path i = aside path j) : i = j := by
  have digits := congrArg String.toList same
  simp only [aside, String.toList_append, List.append_cancel_left_eq,
    Nat.toString_eq_ofList_toDigits, String.toList_ofList] at digits
  have values := congrArg (Nat.ofDigitChars 10 · 0) digits
  simpa using values

theorem asideOther (path : String) (i : Nat) : path ≠ aside path i := by
  intro same
  have lengths := congrArg String.length same
  simp only [aside, String.length_append] at lengths
  have dot : ".".length = 1 := rfl
  omega

end Names

namespace Files

variable {fs : Files} {path other text : String}

theorem movedUpOther {n : Nat} (apart : ∀ i, 0 < i → i ≤ n + 1 → other ≠ aside path i) :
    (fs.moveUp path n).get? other = fs.get? other := by
  induction n generalizing fs with
  | zero => rfl
  | succ n ih =>
    rw [moveUp, ih fun i first last => apart i first (by omega)]
    exact getMovedOther fs (apart _ (by omega) (by omega)) (apart _ (by omega) (by omega))

theorem movedUp {n i : Nat} (first : 0 < i) (last : i ≤ n)
    (found : fs.get? (aside path i) = some text) :
    (fs.moveUp path n).get? (aside path (i + 1)) = some text := by
  induction n generalizing fs with
  | zero => omega
  | succ n ih =>
    rw [moveUp]
    by_cases top : i = n + 1
    · subst top
      rw [movedUpOther fun j _ below same => by have := asideApart same; omega]
      exact getMoved found
    · refine ih (by omega) ?_
      rw [getMovedOther fs]
      · exact found
      · exact fun same => top (asideApart same)
      · intro same
        have := asideApart same
        omega

structure PutAside (fs : Files) (path : String) (n : Nat) (after : Files) : Prop where
  empty : after.get? path = none
  first : after.get? (aside path 1) = fs.get? path
  up : ∀ i, 0 < i → i < n → ∀ text, fs.get? (aside path i) = some text →
    after.get? (aside path (i + 1)) = some text
  others : ∀ other, other ≠ path → (∀ i, other ≠ aside path i) →
    after.get? other = fs.get? other

theorem putAsideOf (fs : Files) (path : String) (n : Nat) :
    fs.PutAside path (n + 1) (fs.putAside path (n + 1)) := by
  have untouched : ∀ other, (∀ i, 0 < i → i ≤ n + 1 → other ≠ aside path i) →
      ((fs.moveUp path n).remove (aside path 1)).get? other = fs.get? other := by
    intro other apart
    rw [getRemove, if_neg (apart 1 (by omega) (by omega)), movedUpOther apart]
  constructor
  case empty => exact getMovedFrom (asideOther path 1)
  case first =>
    have file := untouched path fun i _ _ => asideOther path i
    rw [putAside]
    cases found : fs.get? path with
    | some text => exact getMoved (file.trans found)
    | none => rw [move, file, found, getRemove, if_pos rfl]
  case up =>
    intro i first last text found
    rw [putAside, getMovedOther, getRemove, if_neg]
    · exact movedUp first (by omega) found
    · intro same
      have := asideApart same
      omega
    · exact (asideOther path (i + 1)).symm
    · intro same
      have := asideApart same
      omega
  case others =>
    intro other apart none
    rw [putAside, getMovedOther _ apart (none 1)]
    exact untouched other fun i _ _ => none i

end Files

namespace LogFile

variable {f : LogFile} {line : String} {ls : List String} {before after : Files}

def Full (f : LogFile) (fs : Files) (line : String) : Prop :=
  f.regular = true ∧ 0 < f.largest ∧
    f.largest ≤ (fs.text f.path).utf8ByteSize + line.length

structure Takes (f : LogFile) (line : String) (before after : Files) : Prop where
  room : ¬ f.Full before line → after.get? f.path = some (before.text f.path ++ line) ∧
    ∀ other, other ≠ f.path → after.get? other = before.get? other
  full : f.Full before line → after.get? f.path = some line ∧
    after.get? (aside f.path 1) = before.get? f.path
  up : f.Full before line → ∀ n, f.kept = some n → ∀ i : Nat, 0 < i → i < n → ∀ text,
    before.get? (aside f.path i) = some text → after.get? (aside f.path (i + 1)) = some text
  others : ∀ other, other ≠ f.path → (∀ i, other ≠ aside f.path i) →
    after.get? other = before.get? other

inductive Writes (f : LogFile) : List String → Files → Files → Prop where
  | done (fs : Files) : Writes f [] fs fs
  | line {line : String} {rest : List String} {before between after : Files}
      (taken : f.Takes line before between) (later : Writes f rest between after) :
      Writes f (line :: rest) before after

theorem isFullIff : f.isFull before line = true ↔ f.Full before line := by
  simp [isFull, Full, and_assoc]

theorem writeTakes {n : Int} (kept : f.kept = some n) (some : 0 < n) (before : Files)
    (line : String) : f.Takes line before (f.write before line) := by
  obtain ⟨m, rfl⟩ : ∃ m : Nat, n = (m + 1 : Nat) := ⟨n.toNat - 1, by omega⟩
  by_cases full : f.Full before line
  · have put := before.putAsideOf f.path m
    have written : f.write before line = (before.putAside f.path (m + 1)).append f.path line := by
      rw [write, if_pos (isFullIff.mpr full), kept]
      rfl
    have behind : ∀ other, other ≠ f.path → (f.write before line).get? other =
        (before.putAside f.path (m + 1)).get? other := by
      intro other apart
      rw [written, Files.getAppend, if_neg apart]
    constructor
    case room => exact fun not => absurd full not
    case full =>
      intro _
      rw [behind _ (asideOther f.path 1).symm, put.first, written, Files.getAppend, if_pos rfl,
        Files.text, put.empty]
      exact ⟨congrArg _ String.empty_append, rfl⟩
    case up =>
      intro _ n same i first last text found
      rw [behind _ (asideOther f.path (i + 1)).symm]
      cases kept.symm.trans same
      exact put.up i first (by omega) text found
    case others =>
      intro other apart none
      rw [behind _ apart, put.others other apart none]
  · have written : f.write before line = before.append f.path line := by
      rw [write, if_neg (mt isFullIff.mp full)]
    have elsewhere : ∀ other, other ≠ f.path →
        (f.write before line).get? other = before.get? other := by
      intro other apart
      rw [written, Files.getAppend, if_neg apart]
    constructor
    case room =>
      intro _
      rw [written, Files.getAppend, if_pos rfl, ← written]
      exact ⟨rfl, elsewhere⟩
    case full | up => exact fun not => absurd not full
    case others => exact fun other apart _ => elsewhere other apart

theorem writesAll {n : Int} (kept : f.kept = some n) (some : 0 < n) (before : Files)
    (ls : List String) : f.Writes ls before (ls.foldl f.write before) := by
  induction ls generalizing before with
  | nil => exact .done before
  | cons line rest ih => exact .line (writeTakes kept some before line) (ih _)

theorem lengthSize (s : String) : s.length ≤ s.utf8ByteSize := by
  rw [← String.utf8Len_toList, ← String.length_toList]
  induction s.toList with
  | nil => exact Nat.le_refl _
  | cons c rest ih =>
    have some := c.utf8Size_pos
    rw [List.length_cons, String.utf8Len_cons]
    omega

theorem Writes.roomy (writes : f.Writes ls before after)
    (room : (before.text f.path ++ String.join ls).utf8ByteSize < f.largest) :
    after.text f.path = before.text f.path ++ String.join ls ∧
      ∀ other, other ≠ f.path → after.get? other = before.get? other := by
  induction writes with
  | done fs => exact ⟨String.append_empty.symm, fun _ _ => rfl⟩
  | @line line rest before between after taken later ih =>
    rw [String.join_cons, ← String.append_assoc] at room ⊢
    have short := lengthSize line
    have still : ¬ f.Full before line := by
      rintro ⟨_, _, full⟩
      simp only [String.utf8ByteSize_append] at room
      omega
    obtain ⟨own, others⟩ := taken.room still
    rw [← Files.textOf own] at room ⊢
    obtain ⟨text, rest⟩ := ih room
    exact ⟨text, fun other apart => (rest other apart).trans (others other apart)⟩

end LogFile

end SidAttribute.Log
