/-! White space and trimming. A blank is any character that Unicode calls white space, the four
information separators included; a plain blank is one of the six that every text format knows. -/
namespace SidAttribute.Text

def isPlainBlank (c : Char) : Bool := (9 ≤ c.toNat && c.toNat ≤ 13) || c.toNat == 32

def isBlank (c : Char) : Bool :=
  let n := c.toNat
  isPlainBlank c || (28 ≤ n && n ≤ 31) || n == 0x85 || n == 0xa0 || n == 0x1680 ||
  (0x2000 ≤ n && n ≤ 0x200a) || n == 0x2028 || n == 0x2029 || n == 0x202f || n == 0x205f ||
  n == 0x3000

def dropEndWhile (p : α → Bool) (xs : List α) : List α := (xs.reverse.dropWhile p).reverse

def strip (p : α → Bool) (xs : List α) : List α := dropEndWhile p (xs.dropWhile p)

def trim (cs : List Char) : List Char := strip isBlank cs

def trimEnd (cs : List Char) : List Char := dropEndWhile isBlank cs

theorem plainBlankIsBlank (c : Char) (h : isPlainBlank c = true) : isBlank c = true := by
  simp [isBlank, h]

theorem dropEndWhileAppend (p : α → Bool) (xs : List α) :
    ∃ ys, xs = dropEndWhile p xs ++ ys ∧ ∀ y ∈ ys, p y = true := by
  refine ⟨(xs.reverse.takeWhile p).reverse, ?_, fun y hy => ?_⟩
  · unfold dropEndWhile
    rw [← List.reverse_append, List.takeWhile_append_dropWhile, List.reverse_reverse]
  · exact List.all_eq_true.mp (List.all_takeWhile (p := p)) y (List.mem_reverse.mp hy)

section Strip

variable {p : α → Bool} {xs ys : List α}

theorem dropEndWhileSelf : dropEndWhile p xs = xs ↔ ∀ x ∈ xs.getLast?, p x = false := by
  unfold dropEndWhile
  rw [List.reverse_eq_iff, ← List.head?_reverse]
  cases xs.reverse with
  | nil => simp
  | cons x rest =>
    rw [List.dropWhile_cons]
    split
    · next drops =>
      simp only [List.head?_cons, Option.mem_some_iff, forall_eq', drops, Bool.true_eq_false,
        iff_false]
      intro same
      have shorter := (List.dropWhile_sublist p (l := rest)).length_le
      rw [same, List.length_cons] at shorter
      omega
    · next stays => simpa using stays

theorem dropWhileSelf : xs.dropWhile p = xs ↔ ∀ x ∈ xs.head?, p x = false := by
  have reversed := @dropEndWhileSelf _ p xs.reverse
  rwa [dropEndWhile, List.reverse_reverse, List.reverse_inj, List.getLast?_reverse] at reversed

theorem stripSublist (p : α → Bool) (xs : List α) : (strip p xs).Sublist (xs.dropWhile p) := by
  obtain ⟨ys, split, _⟩ := dropEndWhileAppend p (xs.dropWhile p)
  have front := List.sublist_append_left (strip p xs) ys
  rwa [strip, ← split] at front

theorem stripSelf :
    strip p xs = xs ↔ (∀ x ∈ xs.head?, p x = false) ∧ ∀ x ∈ xs.getLast?, p x = false := by
  rw [← dropWhileSelf, ← dropEndWhileSelf]
  refine ⟨fun same => ?_, fun ⟨front, back⟩ => by rw [strip, front, back]⟩
  have within := stripSublist p xs
  rw [same] at within
  have front : xs.dropWhile p = xs :=
    (List.dropWhile_sublist p).eq_of_length_le within.length_le
  exact ⟨front, by rwa [strip, front] at same⟩

theorem dropWhileTwice : (xs.dropWhile p).dropWhile p = xs.dropWhile p := by
  induction xs with
  | nil => rfl
  | cons x rest ih =>
    rw [List.dropWhile_cons]
    split
    · exact ih
    · next stays => rw [List.dropWhile_cons, if_neg stays]

theorem stripTwice : strip p (strip p xs) = strip p xs := by
  have back : dropEndWhile p (strip p xs) = strip p xs := by
    simp only [strip, dropEndWhile, List.reverse_reverse, dropWhileTwice]
  obtain ⟨ys, split, _⟩ := dropEndWhileAppend p (xs.dropWhile p)
  have front := dropWhileSelf.mp (@dropWhileTwice _ p xs)
  refine stripSelf.mpr ⟨fun x first => front x ?_, dropEndWhileSelf.mp back⟩
  rw [split, List.head?_append, show dropEndWhile p (xs.dropWhile p) = strip p xs from rfl,
    Option.mem_def.mp first]
  rfl

theorem dropEndWhileAll (all : ∀ y ∈ ys, p y = true) :
    dropEndWhile p (xs ++ ys) = dropEndWhile p xs := by
  rw [dropEndWhile, List.reverse_append, List.dropWhile_append_of_pos, dropEndWhile]
  exact fun y member => all y (List.mem_reverse.mp member)

theorem stripEnd {x : α} (gone : p x = true) : strip p (xs ++ [x]) = strip p xs := by
  have one : ∀ y ∈ [x], p y = true := List.forall_mem_singleton.mpr gone
  rw [strip, List.dropWhile_append]
  split
  · next empty =>
    rw [strip, List.isEmpty_iff.mp empty, List.dropWhile_cons_of_pos gone]
    rfl
  · exact dropEndWhileAll one

theorem stripAround {zs : List α} (front : ∀ y ∈ ys, p y = true) (bare : strip p xs = xs)
    (back : ∀ z ∈ zs, p z = true) : strip p (ys ++ xs ++ zs) = xs := by
  rw [strip, List.append_assoc, List.dropWhile_append_of_pos front]
  cases xs with
  | nil =>
    have gone := @List.dropWhile_append_of_pos _ p zs [] back
    rw [List.append_nil] at gone
    rw [List.nil_append, gone]
    rfl
  | cons x rest =>
    obtain ⟨first, last⟩ := stripSelf.mp bare
    rw [List.cons_append, List.dropWhile_cons_of_neg (by simp [first x rfl]), ← List.cons_append,
      dropEndWhileAll back, dropEndWhileSelf.mpr last]

theorem stripBetween {first last : α} (front : p first = false) (back : p last = false)
    (xs : List α) : strip p (first :: (xs ++ [last])) = first :: (xs ++ [last]) := by
  refine stripSelf.mpr ⟨fun x member => ?_, fun x member => ?_⟩
  · cases member
    exact front
  · rw [← List.cons_append, List.getLast?_concat] at member
    cases member
    exact back

end Strip

end SidAttribute.Text
