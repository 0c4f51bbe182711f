import SidAttribute.Config.InstallRoot

/-! Where the root stands. It is a rooted path in normal form and in no source folder of a checkout.
Its names are the first names of the path that it is found from, unless the text of the checkout begins
inside a name: the search is over characters, and the root then ends with the front of that name. -/
namespace SidAttribute.Config.InstallRoot
open Text

def startOf (here : Path) (asked : Option Path) (program : Path) : Path :=
  absolute here (match asked with
    | some (c :: rest) => c :: rest
    | _ => parent program)

def outerOf (whole : Path) : Path :=
  if programFolders.contains (lastPart whole) then parent whole else whole

def names (p : Path) : List Path := (splitPath p).filter fun c => c ≠ []

def built (slashes : Nat) (components : List Path) : Path :=
  List.replicate slashes '/' ++ joinPath components

def SplitsName (start : Path) : Prop :=
  ∃ cut ∈ before? checkout (outerOf start), lastPart cut ∉ [[], ['.'], ['.', '.']]

def CutInside (root start : List Path) : Prop :=
  ∃ above part rest more, rest ≠ [] ∧ root = above ++ [part] ∧
    start = above ++ (part ++ rest) :: more

section Joined

theorem joinAppend {front back : List Path} (filled : front ≠ []) (more : back ≠ []) :
    joinPath (front ++ back) = joinPath front ++ '/' :: joinPath back := by
  induction front with
  | nil => exact absurd rfl filled
  | cons c rest ih =>
    obtain ⟨d, others, rfl⟩ := List.exists_cons_of_ne_nil more
    cases rest with
    | nil => simp [joinPath, List.intercalate_cons_cons]
    | cons e rest =>
      have later := ih (by simp)
      simp only [joinPath, List.cons_append, List.intercalate_cons_cons] at later ⊢
      simp [later]

theorem joinFront {front whole : List Path} (first : front <+: whole) :
    joinPath front <+: joinPath whole := by
  obtain ⟨back, rfl⟩ := first
  cases front with
  | nil => simp [joinPath]
  | cons c front =>
    cases back with
    | nil => simp
    | cons d back =>
      rw [joinAppend (by simp) (by simp)]
      exact List.prefix_append ..

theorem joinBack {back whole : List Path} (last : back <:+ whole) :
    joinPath back <:+ joinPath whole := by
  obtain ⟨front, rfl⟩ := last
  cases back with
  | nil => simp [joinPath]
  | cons d back =>
    cases front with
    | nil => simp
    | cons c front =>
      rw [joinAppend (by simp) (by simp)]
      exact ⟨joinPath (c :: front) ++ ['/'], by simp⟩

theorem builtHolds {slashes : Nat} {inner whole : List Path} (inside : inner <:+: whole) :
    joinPath inner <:+: built slashes whole := by
  obtain ⟨front, back, rfl⟩ := inside
  have last : joinPath inner <:+ joinPath (front ++ inner) := joinBack (List.suffix_append ..)
  have first : joinPath (front ++ inner) <+: joinPath (front ++ inner ++ back) :=
    joinFront (List.prefix_append ..)
  exact last.isInfix.trans (first.isInfix.trans (List.suffix_append ..).isInfix)

theorem slashesSplit (slashes : Nat) (p : Path) :
    splitPath (List.replicate slashes '/' ++ p) = List.replicate slashes [] ++ splitPath p := by
  induction slashes with
  | zero => rfl
  | succ n ih =>
    rw [List.replicate_succ, List.cons_append, splitPath, pieces, if_pos rfl, ← splitPath, ih]
    rfl

theorem builtSplit {slashes : Nat} {cs : List Path} (filled : cs ≠ [])
    (apart : ∀ c ∈ cs, '/' ∉ c) :
    splitPath (built slashes cs) = List.replicate slashes [] ++ cs := by
  have joined : splitPath (joinPath cs) = cs := piecesJoined filled apart
  rw [built, slashesSplit, joined]

theorem builtBare (slashes : Nat) :
    splitPath (built slashes []) = List.replicate (slashes + 1) [] := by
  have none : splitPath (joinPath []) = [[]] := rfl
  rw [built, slashesSplit, none, List.replicate_succ']

theorem splitBuilt {p : Path} {slashes : Nat} {cs : List Path} (filled : cs ≠ [])
    (parts : splitPath p = List.replicate slashes [] ++ cs) : p = built slashes cs := by
  have apart : ∀ c ∈ cs, '/' ∉ c := fun c member =>
    piecesApart '/' p c (by rw [← splitPath, parts]; exact List.mem_append_right _ member)
  have same : joinPath (splitPath p) = joinPath (splitPath (built slashes cs)) := by
    rw [parts, builtSplit filled apart]
  rwa [joinPath, joinPath, splitPath, splitPath, joinedPieces, joinedPieces] at same

end Joined

section Normal

structure Plain (c : Path) : Prop where
  filled : c ≠ []
  here : c ≠ ['.']
  above : c ≠ ['.', '.']
  apart : '/' ∉ c

structure Tidy (p : Path) : Prop where
  slashes : rootSlashes p = 1 ∨ rootSlashes p = 2
  plain : ∀ c ∈ names p, Plain c
  whole : p = built (rootSlashes p) (names p)

def folded (cs : List Path) : List Path := (cs.foldl (addComponent true) []).reverse

theorem addPlain {before : List Path} {c : Path} (plain : ∀ d ∈ before, Plain d)
    (apart : '/' ∉ c) : ∀ d ∈ addComponent true before c, Plain d := by
  unfold addComponent
  split
  · exact plain
  split
  · cases before with
    | nil => simp
    | cons last rest =>
      rw [List.forall_mem_cons] at plain
      simpa [plain.1.above] using plain.2
  · next some other =>
    rw [List.forall_mem_cons]
    exact ⟨⟨fun none => some (.inl none), fun dot => some (.inr dot), other, apart⟩, plain⟩

theorem foldPlain {cs before : List Path} (plain : ∀ d ∈ before, Plain d)
    (apart : ∀ c ∈ cs, '/' ∉ c) : ∀ d ∈ cs.foldl (addComponent true) before, Plain d := by
  induction cs generalizing before with
  | nil => exact plain
  | cons c rest ih =>
    rw [List.forall_mem_cons] at apart
    exact ih (addPlain plain apart.1) apart.2

theorem foldedPlain (p : Path) : ∀ c ∈ folded (splitPath p), Plain c := by
  intro c member
  have none : ∀ d ∈ ([] : List Path), Plain d := by simp
  exact foldPlain none (piecesApart '/' p) c (List.mem_reverse.mp member)

theorem addSelf {c : Path} (plain : Plain c) (before : List Path) :
    addComponent true before c = c :: before := by
  simp [addComponent, plain.filled, plain.here, plain.above]

theorem foldSlashes (slashes : Nat) (before : List Path) :
    (List.replicate slashes []).foldl (addComponent true) before = before := by
  induction slashes with
  | zero => rfl
  | succ n ih => exact ih

theorem foldSelf {cs : List Path} (plain : ∀ c ∈ cs, Plain c) (before : List Path) :
    cs.foldl (addComponent true) before = cs.reverse ++ before := by
  induction cs generalizing before with
  | nil => rfl
  | cons c rest ih =>
    rw [List.forall_mem_cons] at plain
    simp [addSelf plain.1, ih plain.2]

theorem rootedSlashes {p : Path} (rooted : p.head? = some '/') :
    rootSlashes p = 1 ∨ rootSlashes p = 2 := by
  obtain ⟨rest, rfl⟩ := List.head?_eq_some_iff.mp rooted
  unfold rootSlashes
  split <;> simp_all

theorem normalRooted {p : Path} (rooted : p.head? = some '/') :
    normal p = built (rootSlashes p) (folded (splitPath p)) := by
  obtain ⟨n, more⟩ : ∃ n, rootSlashes p = n + 1 := by
    rcases rootedSlashes rooted with one | two
    · exact ⟨0, one⟩
    · exact ⟨1, two⟩
  simp [normal, more, List.replicate_succ, built, folded]

variable {slashes : Nat} {cs : List Path}

theorem namesBuilt (plain : ∀ c ∈ cs, Plain c) : names (built slashes cs) = cs := by
  have kept : (cs.filter fun c => c ≠ []) = cs :=
    List.filter_eq_self.mpr fun c member => decide_eq_true (plain c member).filled
  cases cs with
  | nil => simp [names, builtBare]
  | cons c rest =>
    rw [names, builtSplit (by simp) fun c member => (plain c member).apart, List.filter_append, kept]
    simp

theorem joinHead (plain : ∀ c ∈ cs, Plain c) : (joinPath cs).head? ≠ some '/' := by
  cases cs with
  | nil => simp [joinPath]
  | cons c rest =>
    obtain ⟨x, more, rfl⟩ := List.exists_cons_of_ne_nil (plain c List.mem_cons_self).filled
    have apart := (plain _ List.mem_cons_self).apart
    have first : [x :: more] <+: (x :: more) :: rest := ⟨rest, rfl⟩
    obtain ⟨after, same⟩ := joinFront first
    rw [← same]
    simp_all [joinPath, eq_comm]

theorem slashesBuilt (few : slashes = 1 ∨ slashes = 2) (plain : ∀ c ∈ cs, Plain c) :
    rootSlashes (built slashes cs) = slashes := by
  have head := joinHead plain
  unfold built
  cases made : joinPath cs with
  | nil => rcases few with rfl | rfl <;> rfl
  | cons x rest =>
    rw [made] at head
    have other : x ≠ '/' := fun same => head (congrArg some same)
    rcases few with rfl | rfl <;> simp [rootSlashes, List.replicate, other]

theorem builtTidy (few : slashes = 1 ∨ slashes = 2) (plain : ∀ c ∈ cs, Plain c) :
    Tidy (built slashes cs) where
  slashes := by rwa [slashesBuilt few plain]
  plain := by rwa [namesBuilt plain]
  whole := by rw [slashesBuilt few plain, namesBuilt plain]

theorem normalTidy {p : Path} (rooted : p.head? = some '/') : Tidy (normal p) := by
  rw [normalRooted rooted]
  exact builtTidy (rootedSlashes rooted) (foldedPlain p)

theorem builtRooted (few : slashes = 1 ∨ slashes = 2) (cs : List Path) :
    (built slashes cs).head? = some '/' := by
  rcases few with rfl | rfl <;> rfl

theorem Tidy.rooted {p : Path} (tidy : Tidy p) : p.head? = some '/' := by
  rw [tidy.whole]
  exact builtRooted tidy.slashes _

theorem foldedBuilt (plain : ∀ c ∈ cs, Plain c) : folded (splitPath (built slashes cs)) = cs := by
  cases cs with
  | nil => rw [builtBare, folded, foldSlashes]; rfl
  | cons c rest =>
    rw [builtSplit (by simp) fun c member => (plain c member).apart, folded, List.foldl_append,
      foldSlashes, foldSelf plain, List.append_nil, List.reverse_reverse]

theorem tidyNormal {p : Path} (tidy : Tidy p) : normal p = p := by
  have same : folded (splitPath p) = names p := by
    rw [tidy.whole, foldedBuilt tidy.plain, ← tidy.whole]
  rw [normalRooted tidy.rooted, same, ← tidy.whole]

end Normal

section Folder

theorem noSlash {c : Path} (apart : '/' ∉ c) : ∀ x ∈ c.reverse, (x != '/') = true := by
  intro x member
  have other : x ≠ '/' := fun same => apart (same ▸ List.mem_reverse.mp member)
  simpa using other

theorem lastPartOf {c : Path} (apart : '/' ∉ c) (front : Path) :
    lastPart (front ++ '/' :: c) = c := by
  have split : (front ++ '/' :: c).reverse = c.reverse ++ '/' :: front.reverse := by simp
  rw [lastPart, split, List.takeWhile_append_of_pos (noSlash apart)]
  simp

theorem folderPartOf {c : Path} (apart : '/' ∉ c) (front : Path) :
    folderPart (front ++ '/' :: c) = front ++ ['/'] := by
  have split : (front ++ '/' :: c).reverse = c.reverse ++ '/' :: front.reverse := by simp
  rw [folderPart, split, List.dropWhile_append_of_pos (noSlash apart)]
  simp

theorem dropOne {x : Char} (other : x ≠ '/') (front : Path) :
    dropSlashes (front ++ [x] ++ ['/']) = front ++ [x] := by
  simp [dropSlashes, other]

variable {slashes : Nat} {cs : List Path} {c : Path}

theorem builtEnds (plain : ∀ d ∈ cs, Plain d) (filled : cs ≠ []) :
    ∃ front x, x ≠ '/' ∧ built slashes cs = front ++ [x] := by
  obtain ⟨before, d, rfl⟩ := (List.eq_nil_or_concat cs).resolve_left filled
  rw [List.concat_eq_append] at plain ⊢
  have last := plain d (by simp)
  obtain ⟨start, x, rfl⟩ := (List.eq_nil_or_concat d).resolve_left last.filled
  obtain ⟨front, same⟩ := (joinBack (List.suffix_append before [start.concat x])).trans
    (List.suffix_append (List.replicate slashes '/') _)
  rw [List.concat_eq_append] at *
  refine ⟨front ++ start, x, fun slash => last.apart (by simp [slash]), ?_⟩
  rw [built, ← same]
  simp [joinPath]

theorem builtLast (few : slashes = 1 ∨ slashes = 2) (plain : ∀ d ∈ cs, Plain d) (c : Path) :
    ∃ front, built slashes (cs ++ [c]) = front ++ '/' :: c ∧
      dropSlashes (front ++ ['/']) = built slashes cs := by
  rcases List.eq_nil_or_concat cs with rfl | ⟨before, d, same⟩
  · rcases few with rfl | rfl
    · exact ⟨[], by simp [built, joinPath], rfl⟩
    · exact ⟨['/'], by simp [built, joinPath, List.replicate], rfl⟩
  · have filled : cs ≠ [] := by simp [same]
    obtain ⟨front, x, other, ends⟩ := @builtEnds slashes cs plain filled
    refine ⟨built slashes cs, ?_, ?_⟩
    · rw [built, joinAppend filled (by simp), ← List.append_assoc]
      simp [built, joinPath]
    · rw [ends, dropOne other]

theorem lastPartBuilt (few : slashes = 1 ∨ slashes = 2) (plain : ∀ d ∈ cs, Plain d)
    (apart : '/' ∉ c) : lastPart (built slashes (cs ++ [c])) = c := by
  obtain ⟨front, same, -⟩ := builtLast few plain c
  rw [same, lastPartOf apart]

theorem parentBuilt (few : slashes = 1 ∨ slashes = 2) (plain : ∀ d ∈ cs, Plain d)
    (apart : '/' ∉ c) : parent (built slashes (cs ++ [c])) = built slashes cs := by
  obtain ⟨front, same, folder⟩ := builtLast few plain c
  rw [same, parent, folderPartOf apart, folder]

theorem outerCases (whole : Path) :
    outerOf whole = if lastPart whole ∈ programFolders then parent whole else whole := by
  simp only [outerOf, List.contains_iff_mem]

theorem outerTidy {whole : Path} (tidy : Tidy whole) :
    Tidy (outerOf whole) ∧ rootSlashes (outerOf whole) = rootSlashes whole ∧
      names (outerOf whole) <+: names whole := by
  rw [outerCases]
  split
  · next program =>
    rcases List.eq_nil_or_concat (names whole) with none | ⟨cs, c, same⟩
    · rw [tidy.whole, none] at program
      rcases tidy.slashes with one | two
      · rw [one] at program; exact absurd program (by decide)
      · rw [two] at program; exact absurd program (by decide)
    · rw [List.concat_eq_append] at same
      have plain := tidy.plain
      rw [same, List.forall_mem_append, List.forall_mem_singleton] at plain
      have folder : parent whole = built (rootSlashes whole) cs := by
        rw [tidy.whole, same, parentBuilt tidy.slashes plain.1 plain.2.apart,
          ← same, ← tidy.whole]
      rw [folder, namesBuilt plain.1, slashesBuilt tidy.slashes plain.1, same]
      exact ⟨builtTidy tidy.slashes plain.1, rfl, List.prefix_append ..⟩
  · exact ⟨tidy, rfl, List.prefix_rfl⟩

end Folder

section Search

variable {needle : List Char}

theorem beforeSome (filled : needle ≠ []) {text cut : List Char}
    (found : before? needle text = some cut) :
    (∃ rest, text = cut ++ (needle ++ rest)) ∧ ¬ needle <:+: cut := by
  induction text generalizing cut with
  | nil => simp [before?, filled] at found
  | cons c rest ih =>
    unfold before? at found
    split at found
    · next first =>
      obtain ⟨more, same⟩ := List.isPrefixOf_iff_prefix.mp first
      rw [← Option.some.inj found]
      exact ⟨⟨more, same.symm⟩, by simpa using filled⟩
    · next other =>
      obtain ⟨later, here, rfl⟩ := Option.map_eq_some_iff.mp found
      obtain ⟨⟨more, same⟩, none⟩ := ih here
      refine ⟨⟨more, by rw [same]; rfl⟩, fun inside => ?_⟩
      rcases List.infix_cons_iff.mp inside with first | behind
      · have front : c :: later <+: c :: rest := by
          rw [same]; exact List.prefix_append (c :: later) _
        exact other (List.isPrefixOf_iff_prefix.mpr (first.trans front))
      · exact none behind

theorem beforeNone {text : List Char} (missing : before? needle text = none) :
    ¬ needle <:+: text := by
  induction text with
  | nil => simpa [before?] using missing
  | cons c rest ih =>
    unfold before? at missing
    split at missing
    · contradiction
    · next other =>
      rw [Option.map_eq_none_iff] at missing
      rw [List.infix_cons_iff, not_or]
      exact ⟨fun first => other (List.isPrefixOf_iff_prefix.mpr first), ih missing⟩

end Search

section Cut

theorem slashesStop {c : Char} (other : c ≠ '/') (front rest : Path) :
    rootSlashes (front ++ c :: rest) = rootSlashes front := by
  match front with
  | [] => simp [rootSlashes, other]
  | [x] => by_cases first : x = '/' <;> simp [rootSlashes, first, other]
  | [x, y] => by_cases first : x = '/' <;> by_cases second : y = '/' <;>
      simp [rootSlashes, first, second, other]
  | x :: y :: z :: more => by_cases first : x = '/' <;> by_cases second : y = '/' <;>
      by_cases third : z = '/' <;> simp [rootSlashes, first, second, third]

theorem piecesAfter {outer piece : Path} {front more : List Path} (tidy : Tidy outer)
    (filled : piece ≠ []) (whole : splitPath outer = front ++ piece :: more) :
    ∃ inner, front = List.replicate (rootSlashes outer) [] ++ inner ∧
      names outer = inner ++ piece :: more := by
  have plain := tidy.plain
  rw [tidy.whole] at whole
  cases made : names outer with
  | nil =>
    have member : piece ∈ List.replicate (rootSlashes outer + 1) [] := by
      rw [← builtBare, ← made, whole]
      simp
    exact absurd (List.eq_of_mem_replicate member) filled
  | cons c rest =>
    have apart : ∀ d ∈ c :: rest, '/' ∉ d := fun d member => (plain d (made ▸ member)).apart
    rw [made, builtSplit (by simp) apart] at whole
    rcases List.append_eq_append_iff.mp whole with ⟨inner, same, later⟩ | ⟨extra, same, later⟩
    · exact ⟨inner, same, later⟩
    · cases extra with
      | nil => exact ⟨[], by simpa using same.symm, later.symm⟩
      | cons e es =>
        have member : piece ∈ List.replicate (rootSlashes outer) [] := by
          rw [same, (List.cons.inj later).1]
          simp
        exact absurd (List.eq_of_mem_replicate member) filled

theorem checkoutPiece (after : List Char) :
    ∃ rest more, pieces '/' (checkout ++ after) = rest :: more ∧ rest ≠ [] := by
  obtain ⟨p, ps, same⟩ := List.exists_cons_of_ne_nil (piecesNotEmpty '/' (checkout.tail ++ after))
  have apart : '/' ∉ ['s'] := by decide
  exact ⟨['s'] ++ p, ps, piecesFront apart same, by simp⟩

structure Stops (outer cut : Path) (inner : List Path) (part rest : Path) (more : List Path) :
    Prop where
  filled : rest ≠ []
  apart : '/' ∉ part
  named : names outer = inner ++ (part ++ rest) :: more
  slashes : rootSlashes cut = rootSlashes outer
  cut : cut = built (rootSlashes outer) (inner ++ [part])

theorem Stops.plain {outer cut : Path} {inner : List Path} {part rest : Path} {more : List Path}
    (stops : Stops outer cut inner part rest more) (tidy : Tidy outer) : ∀ c ∈ inner, Plain c :=
  fun c member => tidy.plain c (by rw [stops.named]; exact List.mem_append_left _ member)

theorem cutStops {outer cut : Path} (tidy : Tidy outer)
    (found : before? checkout outer = some cut) :
    ∃ inner part rest more, Stops outer cut inner part rest more := by
  obtain ⟨⟨after, same⟩, -⟩ := beforeSome (by decide) found
  obtain ⟨rest, more, behind, filled⟩ := checkoutPiece after
  obtain ⟨front, part, before⟩ :=
    (List.eq_nil_or_concat (splitPath cut)).resolve_left (piecesNotEmpty '/' cut)
  rw [List.concat_eq_append] at before
  have whole : splitPath outer = front ++ (part ++ rest) :: more := by
    rw [same]; exact piecesAppend before behind
  have apart : '/' ∉ part := piecesApart '/' cut part (by rw [← splitPath, before]; simp)
  obtain ⟨inner, rfl, named⟩ := piecesAfter tidy (by simp [filled]) whole
  refine ⟨inner, part, rest, more, filled, apart, named, ?_, splitBuilt (by simp) ?_⟩
  · rw [same]
    exact (slashesStop (by decide) cut (checkout.tail ++ after)).symm
  · rw [before, List.append_assoc]

theorem addLast {inner : List Path} (plain : ∀ c ∈ inner, Plain c) (part : Path) :
    (part ∈ [[], ['.'], ['.', '.']] → (addComponent true inner.reverse part).reverse <+: inner) ∧
      (part ∉ [[], ['.'], ['.', '.']] →
        (addComponent true inner.reverse part).reverse = inner ++ [part]) := by
  constructor
  · intro special
    simp only [List.mem_cons, List.not_mem_nil, or_false] at special
    rcases special with rfl | rfl | rfl
    · simp [addComponent]
    · simp [addComponent]
    · rcases List.eq_nil_or_concat inner with rfl | ⟨before, d, rfl⟩
      · simp [addComponent]
      · have last := (plain d (by simp)).above
        simp [addComponent, last]
  · intro usual
    simp only [List.mem_cons, List.not_mem_nil, or_false, not_or] at usual
    simp [addComponent, usual]

theorem stopsNormal {outer cut : Path} {inner : List Path} {part rest : Path} {more : List Path}
    (tidy : Tidy outer) (stops : Stops outer cut inner part rest more) :
    normal cut = built (rootSlashes outer) (addComponent true inner.reverse part).reverse := by
  have plain := stops.plain tidy
  have apart : ∀ c ∈ inner ++ [part], '/' ∉ c := by
    rw [List.forall_mem_append, List.forall_mem_singleton]
    exact ⟨fun c member => (plain c member).apart, stops.apart⟩
  have rooted : cut.head? = some '/' := by
    rw [stops.cut]
    exact builtRooted tidy.slashes _
  rw [normalRooted rooted, stops.slashes, stops.cut, builtSplit (by simp) apart, folded,
    List.foldl_append, foldSlashes, List.foldl_append, foldSelf plain, List.append_nil]
  rfl

end Cut

section Root

theorem CutInside.notFront {root start : List Path} (inside : CutInside root start) :
    ¬ root <+: start := by
  obtain ⟨above, part, rest, more, filled, rfl, rfl⟩ := inside
  rw [List.prefix_append_right_inj, List.cons_prefix_cons]
  rintro ⟨same, -⟩
  exact filled (by simpa using same)

theorem outsideCheckout {slashes : Nat} {front whole : List Path}
    (none : ¬ checkout <:+: built slashes whole) (first : front <+: whole) :
    ¬ splitPath checkout <:+: front := by
  intro inside
  have text : joinPath (splitPath checkout) = checkout := joinedPieces '/' checkout
  exact none (text ▸ builtHolds (inside.trans first.isInfix))

theorem absoluteTidy {here : Path} (fixed : here.head? = some '/') (p : Path) :
    Tidy (absolute here p) := by
  obtain ⟨rest, rfl⟩ := List.head?_eq_some_iff.mp fixed
  unfold absolute
  split
  · exact normalTidy rfl
  · split <;> exact normalTidy rfl

structure Stands (root : Path) (slashes : Nat) : Prop where
  rooted : root.head? = some '/'
  settled : normal root = root
  slashes : rootSlashes root = slashes
  outside : ¬ splitPath checkout <:+: names root

theorem standsBuilt {slashes : Nat} {front whole : List Path}
    (few : slashes = 1 ∨ slashes = 2) (plain : ∀ c ∈ front, Plain c) (first : front <+: whole)
    (none : ¬ checkout <:+: built slashes whole) : Stands (built slashes front) slashes where
  rooted := builtRooted few front
  settled := tidyNormal (builtTidy few plain)
  slashes := slashesBuilt few plain
  outside := by
    rw [namesBuilt plain]
    exact outsideCheckout none first

theorem uncutStands {outer : Path} (tidy : Tidy outer) (missing : before? checkout outer = none) :
    Stands outer (rootSlashes outer) := by
  have none := beforeNone missing
  rw [tidy.whole] at none
  have stands := standsBuilt tidy.slashes tidy.plain List.prefix_rfl none
  rwa [← tidy.whole] at stands

theorem cutStands {outer cut : Path} (tidy : Tidy outer)
    (found : before? checkout outer = some cut) :
    Stands (normal cut) (rootSlashes outer) ∧
      (lastPart cut ∈ [[], ['.'], ['.', '.']] → names (normal cut) <+: names outer) ∧
      (lastPart cut ∉ [[], ['.'], ['.', '.']] → CutInside (names (normal cut)) (names outer)) := by
  obtain ⟨inner, part, rest, more, stops⟩ := cutStops tidy found
  have before := stops.plain tidy
  have last : lastPart cut = part := by
    rw [stops.cut, lastPartBuilt tidy.slashes before stops.apart]
  have plain : ∀ c ∈ (addComponent true inner.reverse part).reverse, Plain c := fun c member =>
    addPlain (fun d inside => before d (List.mem_reverse.mp inside)) stops.apart c
      (List.mem_reverse.mp member)
  have none := (beforeSome (by decide) found).2
  rw [stops.cut] at none
  obtain ⟨special, usual⟩ := addLast before part
  rw [last, stopsNormal tidy stops, namesBuilt plain, stops.named]
  refine ⟨standsBuilt tidy.slashes plain ?_ none, fun kind => ?_, fun kind => ?_⟩
  · by_cases kind : part ∈ [[], ['.'], ['.', '.']]
    · exact (special kind).trans (List.prefix_append ..)
    · exact usual kind ▸ List.prefix_rfl
  · exact (special kind).trans (List.prefix_append ..)
  · exact ⟨inner, part, rest, more, stops.filled, usual kind, rfl⟩

theorem CutInside.further {root outer start : List Path} (inside : CutInside root outer)
    (first : outer <+: start) : CutInside root start := by
  obtain ⟨above, part, rest, more, filled, same, rfl⟩ := inside
  obtain ⟨back, rfl⟩ := first
  exact ⟨above, part, rest, more ++ back, filled, same, by simp⟩

theorem rootAbove {here : Path} (fixed : here.head? = some '/') (asked : Option Path)
    (program : Path) :
    let start := startOf here asked program
    let root := find here asked program
    Stands root (rootSlashes start) ∧ (names root <+: names start ↔ ¬ SplitsName start) ∧
      (SplitsName start → CutInside (names root) (names start)) := by
  intro start root
  have tidyStart : Tidy start := absoluteTidy fixed _
  obtain ⟨tidy, slashes, first⟩ := outerTidy tidyStart
  have search : root = normal ((before? checkout (outerOf start)).getD (outerOf start)) := by
    rw [outerCases]
    rfl
  rw [← slashes, SplitsName]
  cases found : before? checkout (outerOf start) with
  | none =>
    rw [found, Option.getD_none, tidyNormal tidy] at search
    rw [search]
    exact ⟨uncutStands tidy found, by simpa using first, by simp⟩
  | some cut =>
    rw [found, Option.getD_some] at search
    obtain ⟨stands, above, inside⟩ := cutStands tidy found
    have splits : (∃ c ∈ some cut, lastPart c ∉ [[], ['.'], ['.', '.']]) ↔
        lastPart cut ∉ [[], ['.'], ['.', '.']] := by simp
    rw [search, splits]
    refine ⟨stands, ⟨fun front part => ?_, fun whole => ?_⟩,
      fun part => (inside part).further first⟩
    · exact ((inside part).further first).notFront front
    · exact (above (Decidable.not_not.mp whole)).trans first

theorem rootAboveCheckout :
    names (find "/srv".toList (some "/home/user/prefixsid/src/prefixsid/application".toList) []) <+:
      names (startOf "/srv".toList (some "/home/user/prefixsid/src/prefixsid/application".toList)
        []) :=
  (rootAbove (by decide) _ _).2.1.mpr (by unfold SplitsName; decide)

theorem rootInsideName :
    startOf "/".toList (some "/opt/xsrc/prefixsid/application".toList) [] =
        "/opt/xsrc/prefixsid/application".toList ∧
      find "/".toList (some "/opt/xsrc/prefixsid/application".toList) [] = "/opt/x".toList ∧
      ¬ names (find "/".toList (some "/opt/xsrc/prefixsid/application".toList) []) <+:
        names (startOf "/".toList (some "/opt/xsrc/prefixsid/application".toList) []) := by
  decide

end Root

end SidAttribute.Config.InstallRoot
