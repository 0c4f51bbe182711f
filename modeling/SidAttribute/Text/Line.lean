/-! Lines and columns. A line ends at a line feed, a carriage return or the two together, and all
three read as one line feed; columns are counted in characters. -/
namespace SidAttribute.Text

def unifyEnds : List Char → List Char
  | [] => []
  | '\r' :: '\n' :: rest => '\n' :: unifyEnds rest
  | '\r' :: rest => '\n' :: unifyEnds rest
  | c :: rest => c :: unifyEnds rest

def pieces (separator : Char) : List Char → List (List Char)
  | [] => [[]]
  | c :: rest =>
    if c = separator then [] :: pieces separator rest
    else match pieces separator rest with
      | [] => [[c]]
      | p :: ps => (c :: p) :: ps

def lines : List Char → List (List Char)
  | [] => []
  | c :: rest =>
    if c = '\n' then ['\n'] :: lines rest
    else match lines rest with
      | [] => [[c]]
      | l :: ls => (c :: l) :: ls

theorem piecesNotEmpty (separator : Char) (cs : List Char) : pieces separator cs ≠ [] := by
  cases cs with
  | nil => simp [pieces]
  | cons c rest =>
    unfold pieces
    split
    · simp
    · split <;> simp

theorem piecesFront {separator : Char} {front rest p : List Char} {ps : List (List Char)}
    (absent : separator ∉ front) (behind : pieces separator rest = p :: ps) :
    pieces separator (front ++ rest) = (front ++ p) :: ps := by
  induction front with
  | nil => exact behind
  | cons c front ih =>
    have other : c ≠ separator := fun same => absent (same ▸ List.mem_cons_self)
    have later : separator ∉ front := fun inside => absent (List.mem_cons_of_mem c inside)
    rw [List.cons_append, pieces, if_neg other, ih later]
    rfl

theorem piecesOne {separator : Char} {cs : List Char} (absent : separator ∉ cs) :
    pieces separator cs = [cs] := by
  have behind : pieces separator [] = [[]] := rfl
  have whole := piecesFront absent behind
  rwa [List.append_nil] at whole

theorem piecesApart (separator : Char) (cs : List Char) : ∀ p ∈ pieces separator cs, separator ∉ p := by
  induction cs with
  | nil => simp [pieces]
  | cons c rest ih =>
    unfold pieces
    split
    · simpa using ih
    · next other =>
      split
      · simpa using Ne.symm other
      · next p ps made =>
        rw [made, List.forall_mem_cons] at ih
        simpa [Ne.symm other] using ih

theorem piecesJoined {separator : Char} {ps : List (List Char)} (filled : ps ≠ [])
    (apart : ∀ p ∈ ps, separator ∉ p) : pieces separator (List.intercalate [separator] ps) = ps := by
  induction ps with
  | nil => exact absurd rfl filled
  | cons p rest ih =>
    rw [List.forall_mem_cons] at apart
    cases rest with
    | nil => simpa using piecesOne apart.1
    | cons q more =>
      have behind : pieces separator (separator :: List.intercalate [separator] (q :: more)) =
          [] :: q :: more := by
        rw [pieces, if_pos rfl, ih (by simp) apart.2]
      rw [List.intercalate_cons_cons, List.append_assoc, List.singleton_append,
        piecesFront apart.1 behind, List.append_nil]

theorem joinedPieces (separator : Char) (cs : List Char) :
    List.intercalate [separator] (pieces separator cs) = cs := by
  induction cs with
  | nil => rfl
  | cons c rest ih =>
    unfold pieces
    cases made : pieces separator rest with
    | nil => exact absurd made (piecesNotEmpty separator rest)
    | cons p ps =>
      rw [made] at ih
      split
      · next same => rw [List.intercalate_cons_cons, ih, same]; rfl
      · cases ps <;> simp_all [List.intercalate_cons_cons]

theorem piecesAppend {separator : Char} {front back part head : List Char}
    {init tail : List (List Char)} (before : pieces separator front = init ++ [part])
    (behind : pieces separator back = head :: tail) :
    pieces separator (front ++ back) = init ++ (part ++ head) :: tail := by
  induction front generalizing init part with
  | nil =>
    cases init with
    | nil => simp_all [pieces]
    | cons i is => simp [pieces] at before
  | cons c rest ih =>
    unfold pieces at before
    split at before
    · next same =>
      cases init with
      | nil => simp [piecesNotEmpty] at before
      | cons i is =>
        rw [List.cons_append, List.cons.injEq] at before
        rw [List.cons_append, pieces, if_pos same, ih before.2, ← before.1]
        rfl
    · next other =>
      split at before
      · next none => exact absurd none (piecesNotEmpty separator rest)
      · next p ps made =>
        cases init with
        | nil =>
          simp only [List.nil_append, List.cons.injEq] at before
          have later := @ih p [] (by rw [made, before.2]; rfl)
          rw [List.cons_append, pieces, if_neg other, later, ← before.1]
          rfl
        | cons i is =>
          simp only [List.cons_append, List.cons.injEq] at before
          have later := @ih part (p :: is) (by rw [made, before.2]; rfl)
          rw [List.cons_append, pieces, if_neg other, later, ← before.1]
          rfl

theorem unifyEndsSelf {cs : List Char} (none : '\r' ∉ cs) : unifyEnds cs = cs := by
  induction cs with
  | nil => rfl
  | cons c rest ih =>
    have first : c ≠ '\r' := fun same => none (same ▸ List.mem_cons_self)
    have step : unifyEnds (c :: rest) = c :: unifyEnds rest := by
      rw [unifyEnds]
      all_goals intros; contradiction
    rw [step, ih fun member => none (List.mem_cons_of_mem c member)]

theorem linesCons {line : List Char} (one : '\n' ∉ line) (rest : List Char) :
    lines (line ++ '\n' :: rest) = (line ++ ['\n']) :: lines rest := by
  induction line with
  | nil => simp [lines]
  | cons c cs ih =>
    have other : c ≠ '\n' := fun same => one (same ▸ List.mem_cons_self)
    rw [List.cons_append, lines, if_neg other, ih fun member => one (List.mem_cons_of_mem c member)]
    rfl

theorem linesOne {line : List Char} (one : '\n' ∉ line) (some : line ≠ []) :
    lines line = [line] := by
  induction line with
  | nil => exact absurd rfl some
  | cons c rest ih =>
    have other : c ≠ '\n' := fun same => one (same ▸ List.mem_cons_self)
    rw [lines, if_neg other]
    cases rest with
    | nil => rfl
    | cons d more => rw [ih (fun member => one (List.mem_cons_of_mem c member)) (by simp)]

theorem linesWritten {ls : List (List Char)} (one : ∀ l ∈ ls, '\n' ∉ l) :
    lines (ls.flatMap (· ++ ['\n'])) = ls.map (· ++ ['\n']) := by
  induction ls with
  | nil => rfl
  | cons l rest ih =>
    rw [List.flatMap_cons, List.append_assoc, List.singleton_append,
      linesCons (one l List.mem_cons_self), ih fun m member => one m (List.mem_cons_of_mem l member),
      List.map_cons]

def fileText (lines : List String) : String := String.join (lines.map (· ++ "\n"))

theorem fileTextList (lines : List String) :
    (fileText lines).toList = (lines.map String.toList).flatMap (· ++ ['\n']) := by
  simp [fileText, String.toList_join, List.flatMap_map, String.toList_append]

theorem fileTextAppend (one two : List String) :
    fileText (one ++ two) = fileText one ++ fileText two := by
  apply String.toList_injective
  rw [String.toList_append, fileTextList, fileTextList, fileTextList, List.map_append,
    List.flatMap_append]

def spaces (n : Nat) : String := String.ofList (List.replicate n ' ')

def padRight (n : Nat) (s : String) : String := s ++ spaces (n - s.length)

def padLeft (n : Nat) (s : String) : String := spaces (n - s.length) ++ s

end SidAttribute.Text
