import Mathlib.Data.List.Nodup
import SidAttribute.Config.Ini

/-! Text of settings written line by line, and read again. What is written is a list of blocks, each a
heading with options under it; when names are plain and values have no blanks around them, reading
finds the headings and the options in their order, whatever other characters the values have. -/
namespace SidAttribute.Config.Ini
open Text

structure Block where
  heading : String
  options : List (String × String)
  deriving DecidableEq, Repr

abbrev Row := String × String × String

namespace Block

def headingLine (b : Block) : String := "[" ++ b.heading ++ "]"

def optionLine (o : String × String) : String := o.1 ++ " = " ++ o.2

def lines (b : Block) : List String := "" :: b.headingLine :: b.options.map optionLine

def rows (b : Block) : List Row := b.options.map (b.heading, ·)

end Block

def isNameChar (c : Char) : Bool :=
  !isBlank c && !isDelimiter c && c != '[' && c != '#' && c != ';'

structure NameFits (name : String) : Prop where
  nonempty : name.toList ≠ []
  plain : ∀ c ∈ name.toList, isNameChar c = true
  lowercase : lower name.toList = name.toList

structure ValueFits (value : String) : Prop where
  nonempty : value.toList ≠ []
  bare : trim value.toList = value.toList
  oneLine : '\n' ∉ value.toList ∧ '\r' ∉ value.toList

structure Block.Fits (b : Block) : Prop where
  heading : b.heading.toList ≠ [] ∧ '\n' ∉ b.heading.toList ∧ '\r' ∉ b.heading.toList
  own : b.heading ≠ sharedHeading
  names : ∀ o ∈ b.options, NameFits o.1
  values : ∀ o ∈ b.options, ValueFits o.2
  apart : (b.options.map Prod.fst).Nodup

section Lines

variable {name value : String}

theorem nameNot {c : Char} (fits : NameFits name) (member : c ∈ name.toList) (other : Char)
    (outside : isNameChar other = false) : c ≠ other := by
  rintro rfl
  rw [fits.plain c member] at outside
  cases outside

theorem nameBare {c : Char} (fits : NameFits name) (member : c ∈ name.toList) :
    isBlank c = false ∧ isDelimiter c = false := by
  have plain := fits.plain c member
  simp only [isNameChar, Bool.and_eq_true, Bool.not_eq_true'] at plain
  exact plain.1.1.1

theorem optionLineList (o : String × String) :
    (Block.optionLine o).toList = o.1.toList ++ ' ' :: '=' :: ' ' :: o.2.toList := by
  simp [Block.optionLine, String.toList_append]

theorem headingLineList (b : Block) :
    b.headingLine.toList = '[' :: (b.heading.toList ++ [']']) := by
  simp [Block.headingLine, String.toList_append]

theorem trimLine {line : List Char} (bare : trim line = line) : trim (line ++ ['\n']) = line := by
  have end_ : isBlank '\n' = true := by decide
  rw [trim, stripEnd end_]
  exact bare

theorem optionBare (named : NameFits name) (fits : ValueFits value) :
    trim (name.toList ++ ' ' :: '=' :: ' ' :: value.toList) =
      name.toList ++ ' ' :: '=' :: ' ' :: value.toList := by
  refine stripSelf.mpr ⟨fun c first => ?_, fun c last => ?_⟩
  · rw [List.head?_append_of_ne_nil _ named.nonempty] at first
    exact (nameBare named (List.mem_of_mem_head? first)).1
  · have marks : name.toList ++ ' ' :: '=' :: ' ' :: value.toList =
        (name.toList ++ [' ', '=', ' ']) ++ value.toList := by simp
    rw [marks, List.getLast?_append_of_ne_nil _ fits.nonempty] at last
    exact (stripSelf.mp fits.bare).2 c last

theorem headingFound {cs : List Char} (some : cs ≠ []) :
    headingOf ('[' :: (cs ++ [']'])) = .some cs := by
  have stays : dropEndWhile (fun c => c != ']') (cs ++ [']']) = cs ++ [']'] :=
    dropEndWhileSelf.mpr fun c last => by
      rw [List.getLast?_concat] at last
      cases last
      rfl
  obtain ⟨last, front, reversed⟩ := List.exists_cons_of_ne_nil (mt List.reverse_eq_nil_iff.mp some)
  rw [headingOf, stays, List.reverse_append, List.reverse_singleton, List.singleton_append, reversed]
  dsimp only
  rw [← reversed, List.reverse_reverse]

theorem optionFound (named : NameFits name) (fits : ValueFits value) :
    optionOf (name.toList ++ ' ' :: '=' :: ' ' :: value.toList) =
      some (name.toList, value.toList) := by
  have front : ∀ c ∈ name.toList ++ [' '], (!isDelimiter c) = true := by
    intro c member
    rcases List.mem_append.mp member with inside | blank
    · rw [(nameBare named inside).2]; rfl
    · rw [List.mem_singleton.mp blank]; rfl
  have parts : name.toList ++ ' ' :: '=' :: ' ' :: value.toList =
      (name.toList ++ [' ']) ++ '=' :: ' ' :: value.toList := by simp
  have blank : ∀ c ∈ [' '], isBlank c = true := List.forall_mem_singleton.mpr (by decide)
  have named : trimEnd (name.toList ++ [' ']) = name.toList := by
    rw [trimEnd, dropEndWhileAll blank]
    exact dropEndWhileSelf.mpr fun c last => (nameBare named (List.mem_of_getLast? last)).1
  have valued : trim (' ' :: value.toList) = value.toList := by
    have around := @stripAround _ isBlank value.toList [' '] [] blank fits.bare
      (fun _ member => nomatch member)
    rwa [List.append_nil] at around
  rw [optionOf, parts, List.dropWhile_append_of_pos front, List.takeWhile_append_of_pos front]
  simp only [isDelimiter, List.dropWhile, List.takeWhile, beq_self_eq_true, Bool.true_or,
    Bool.not_true, List.append_nil, named, valued]

end Lines

section Steps

variable {s : State} {headings : List String} {rows : List Row} {line : List Char}

def Entry.row (e : Entry) : Row := (e.heading, e.name, e.value)

structure Standing (s : State) (headings : List String) (rows : List Row) : Prop where
  headings : s.headings = headings
  rows : s.entries.map Entry.row = rows
  indent : s.indent = 0
  refused : s.refused = []

theorem joinLinesMore (ls : List (List Char)) :
    joinLines (ls ++ [[]]) = joinLines ls ∨ joinLines (ls ++ [[]]) = joinLines ls ++ ['\n'] := by
  induction ls with
  | nil => exact .inl rfl
  | cons l rest ih =>
    cases rest with
    | nil => exact .inr rfl
    | cons m others =>
      rcases ih with same | more
      · exact .inl (congrArg (fun cs => l ++ '\n' :: cs) same)
      · right
        have joined := congrArg (fun cs => l ++ '\n' :: cs) more
        simpa [joinLines] using joined

theorem addLineRow (heading name : String) (entries : List Entry) :
    (addLine heading name [] entries).map Entry.row = entries.map Entry.row := by
  induction entries with
  | nil => rfl
  | cons e rest ih =>
    unfold addLine
    split
    · have value : Entry.value { e with lines := [] :: e.lines } = e.value := by
        unfold Entry.value
        rw [List.reverse_cons]
        rcases joinLinesMore e.lines.reverse with same | more
        · rw [same]
        · rw [more, trimEnd, trimEnd, dropEndWhileAll (List.forall_mem_singleton.mpr (by decide))]
      rw [List.map_cons, List.map_cons, Entry.row, value]
      rfl
    · rw [List.map_cons, ih, List.map_cons]

theorem emptyStep (standing : Standing s headings rows) (number : Nat) :
    ∃ s', step s number ['\n'] = .ok s' ∧ Standing s' headings rows := by
  have empty : trim ['\n'] = [] := by decide
  unfold step
  rw [empty]
  cases s.current with
  | none => exact ⟨s, rfl, standing⟩
  | some current =>
    refine ⟨_, rfl, standing.headings, ?_, standing.indent, standing.refused⟩
    rw [addLineRow, standing.rows]

theorem marginStep (indent : s.indent = 0) (number : Nat) (bare : trim line = line)
    {c : Char} {cs : List Char} (first : line = c :: cs) (margin : isBlank c = false)
    (told : (c == '#' || c == ';') = false) :
    step s number (line ++ ['\n']) =
      match headingOf line, s.heading with
      | some heading, _ => openSection s number (String.ofList heading)
      | none, some heading => addOption s number heading (line ++ ['\n']) line
      | none, none => .error (.noHeading number (String.ofList (line ++ ['\n']))) := by
  have comment : isComment line = false := by rw [first]; exact told
  have empty : line.isEmpty = false := by rw [first]; rfl
  have flush : ((line ++ ['\n']).takeWhile isBlank).length = 0 := by
    rw [first, List.cons_append, List.takeWhile_cons_of_neg (by simp [margin])]
    rfl
  have same : { s with indent := 0 } = s := by rw [← indent]
  unfold step
  rw [trimLine bare]
  simp only [comment, empty, flush, indent, Bool.false_eq_true, if_false, Nat.lt_irrefl,
    decide_false]
  rw [same]
  rcases s.current with _ | ⟨heading, name⟩ <;> rfl

theorem headingStep {b : Block} (standing : Standing s headings rows) (fits : b.Fits)
    (fresh : b.heading ∉ headings) (number : Nat) :
    ∃ s', step s number (b.headingLine.toList ++ ['\n']) = .ok s' ∧
      Standing s' (headings ++ [b.heading]) rows ∧ s'.heading = some b.heading := by
  rw [headingLineList, marginStep standing.indent number
    (stripBetween (by decide) (by decide) _) rfl (by decide) (by decide),
    headingFound fits.heading.1]
  dsimp only
  rw [String.ofList_toList, openSection, if_neg (standing.headings ▸ fresh), if_neg fits.own]
  exact ⟨_, rfl, ⟨by rw [standing.headings], standing.rows, standing.indent, standing.refused⟩, rfl⟩

theorem optionStep {heading : String} {o : String × String} (standing : Standing s headings rows)
    (under : s.heading = some heading) (named : NameFits o.1) (fits : ValueFits o.2)
    (fresh : ∀ value, (heading, o.1, value) ∉ rows) (number : Nat) :
    ∃ s', step s number ((Block.optionLine o).toList ++ ['\n']) = .ok s' ∧
      Standing s' headings (rows ++ [(heading, o)]) ∧ s'.heading = some heading := by
  obtain ⟨c, cs, first⟩ := List.exists_cons_of_ne_nil named.nonempty
  have member : c ∈ o.1.toList := first ▸ List.mem_cons_self
  have comment : (c == '#' || c == ';') = false := by
    simp [nameNot named member '#' (by decide),
      nameNot named member ';' (by decide)]
  have noHeading : headingOf (o.1.toList ++ ' ' :: '=' :: ' ' :: o.2.toList) = none := by
    rw [first, List.cons_append, headingOf]
    intro rest same
    exact nameNot named member '[' (by decide) (List.cons.inj same).1
  have unread : (s.entries.any fun e => e.heading == heading && e.name == o.1) = false := by
    rw [List.any_eq_false]
    intro e entered same
    rw [Bool.and_eq_true, beq_iff_eq, beq_iff_eq] at same
    refine fresh e.value ?_
    rw [← standing.rows, ← same.1, ← same.2]
    exact List.mem_map_of_mem entered
  have name : o.1.toList.isEmpty = false := by rw [first]; rfl
  have value : Entry.value ⟨heading, o.1, [o.2.toList]⟩ = o.2 := by
    have bare := (stripSelf.mp fits.bare).2
    rw [Entry.value, List.reverse_singleton, joinLines, trimEnd, dropEndWhileSelf.mpr bare,
      String.ofList_toList]
  rw [optionLineList, marginStep standing.indent number (optionBare named fits)
    (by rw [first, List.cons_append]) (nameBare named member).1 comment, noHeading, under]
  dsimp only
  rw [addOption, optionFound named fits]
  dsimp only
  rw [named.lowercase, String.ofList_toList, unread, name]
  refine ⟨_, rfl, ⟨standing.headings, ?_, standing.indent, standing.refused⟩, under⟩
  rw [List.map_append, standing.rows, List.map_singleton, Entry.row, value]

end Steps

section Runs

variable {s : State} {headings : List String} {rows : List Row}

theorem runStep {s' : State} {line : List Char} {number : Nat} (done : step s number line = .ok s')
    (rest : List (List Char)) : run s number (line :: rest) = run s' (number + 1) rest := by
  rw [run, done]
  rfl

/-- The induction is on the options that are left; the names of those before are other names. -/
theorem optionsRun {heading : String} {options : List (String × String)}
    (standing : Standing s headings rows) (under : s.heading = some heading)
    (names : ∀ o ∈ options, NameFits o.1) (values : ∀ o ∈ options, ValueFits o.2)
    (apart : (options.map Prod.fst).Nodup)
    (fresh : ∀ o ∈ options, ∀ value, (heading, o.1, value) ∉ rows) (number : Nat)
    (rest : List (List Char)) :
    ∃ s' next, run s number
        (options.map (fun o => (Block.optionLine o).toList ++ ['\n']) ++ rest) = run s' next rest ∧
      Standing s' headings (rows ++ options.map (heading, ·)) := by
  induction options generalizing s rows number with
  | nil => exact ⟨s, number, rfl, by rwa [List.map_nil, List.append_nil]⟩
  | cons o others ih =>
    obtain ⟨s', done, standing', under'⟩ := optionStep standing under
      (names o List.mem_cons_self) (values o List.mem_cons_self) (fresh o List.mem_cons_self) number
    have other : ∀ p ∈ others, ∀ value, (heading, p.1, value) ∉ rows ++ [(heading, o)] := by
      intro p member value present
      rcases List.mem_append.mp present with before | last
      · exact fresh p (List.mem_cons_of_mem o member) value before
      · have same : p.1 = o.1 :=
          congrArg (fun r : Row => r.2.1) (List.mem_singleton.mp last)
        exact (List.nodup_cons.mp apart).1 (same ▸ List.mem_map_of_mem member)
    obtain ⟨last, next, ran, standing''⟩ := ih standing' under'
      (fun p member => names p (List.mem_cons_of_mem o member))
      (fun p member => values p (List.mem_cons_of_mem o member)) (List.nodup_cons.mp apart).2
      other (number + 1)
    refine ⟨last, next, ?_, ?_⟩
    · rw [List.map_cons, List.cons_append, runStep done, ran]
    · rwa [List.append_assoc] at standing''

theorem blockRun {b : Block} (standing : Standing s headings rows) (fits : b.Fits)
    (fresh : b.heading ∉ headings) (placed : ∀ r ∈ rows, r.1 ∈ headings) (number : Nat)
    (rest : List (List Char)) :
    ∃ s' next, run s number (b.lines.map (fun l => l.toList ++ ['\n']) ++ rest) =
        run s' next rest ∧
      Standing s' (headings ++ [b.heading]) (rows ++ b.rows) := by
  obtain ⟨s₁, empty, standing₁⟩ := emptyStep standing number
  obtain ⟨s₂, opened, standing₂, under⟩ := headingStep standing₁ fits fresh (number + 1)
  obtain ⟨s₃, next, ran, standing₃⟩ := optionsRun standing₂ under fits.names fits.values fits.apart
    (fun o _ value present => fresh (placed _ present)) (number + 1 + 1) rest
  refine ⟨s₃, next, ?_, standing₃⟩
  rw [Block.lines, List.map_cons, List.map_cons, List.map_map, List.cons_append, List.cons_append]
  exact (runStep empty _).trans ((runStep opened _).trans ran)

/-- The induction is on the blocks that are left; the rows before stand under other headings. -/
theorem blocksRun {blocks : List Block} (standing : Standing s headings rows)
    (fits : ∀ b ∈ blocks, b.Fits) (apart : (blocks.map Block.heading).Nodup)
    (fresh : ∀ b ∈ blocks, b.heading ∉ headings) (placed : ∀ r ∈ rows, r.1 ∈ headings)
    (number : Nat) :
    ∃ s', run s number ((blocks.flatMap Block.lines).map fun l => l.toList ++ ['\n']) = .ok s' ∧
      Standing s' (headings ++ blocks.map Block.heading) (rows ++ blocks.flatMap Block.rows) := by
  induction blocks generalizing s headings rows number with
  | nil => exact ⟨s, rfl, by simpa using standing⟩
  | cons b others ih =>
    obtain ⟨s', next, ran, standing'⟩ := blockRun standing (fits b List.mem_cons_self)
      (fresh b List.mem_cons_self) placed number
      ((others.flatMap Block.lines).map fun l => l.toList ++ ['\n'])
    have other : ∀ c ∈ others, c.heading ∉ headings ++ [b.heading] := by
      intro c member present
      rcases List.mem_append.mp present with before | last
      · exact fresh c (List.mem_cons_of_mem b member) before
      · exact (List.nodup_cons.mp apart).1
          (List.mem_singleton.mp last ▸ List.mem_map_of_mem member)
    have placed' : ∀ r ∈ rows ++ b.rows, r.1 ∈ headings ++ [b.heading] := by
      intro r member
      rcases List.mem_append.mp member with before | own
      · exact List.mem_append_left _ (placed r before)
      · obtain ⟨o, _, rfl⟩ := List.mem_map.mp own
        exact List.mem_append_right _ List.mem_cons_self
    obtain ⟨last, done, standing''⟩ := ih standing'
      (fun c member => fits c (List.mem_cons_of_mem b member)) (List.nodup_cons.mp apart).2
      other placed' next
    refine ⟨last, ?_, ?_⟩
    · rw [List.flatMap_cons, List.map_append, ran, done]
    · simpa [List.append_assoc] using standing''

end Runs

section Files

variable {blocks : List Block}

theorem lineWhole {b : Block} (fits : b.Fits) {line : String} (member : line ∈ b.lines) :
    '\n' ∉ line.toList ∧ '\r' ∉ line.toList := by
  rcases List.mem_cons.mp member with rfl | member
  · exact ⟨nofun, nofun⟩
  rcases List.mem_cons.mp member with rfl | member
  · rw [headingLineList]
    simp [fits.heading.2]
  · obtain ⟨o, option, rfl⟩ := List.mem_map.mp member
    have named := fits.names o option
    have name : '\n' ∉ o.1.toList ∧ '\r' ∉ o.1.toList :=
      ⟨fun inside => nameNot named inside '\n' (by decide) rfl,
        fun inside => nameNot named inside '\r' (by decide) rfl⟩
    rw [optionLineList]
    simp [name, (fits.values o option).oneLine]

theorem rowsApart (fits : ∀ b ∈ blocks, b.Fits) (apart : (blocks.map Block.heading).Nodup)
    {heading name one two : String} (first : (heading, name, one) ∈ blocks.flatMap Block.rows)
    (second : (heading, name, two) ∈ blocks.flatMap Block.rows) : one = two := by
  obtain ⟨b, inB, rowB⟩ := List.mem_flatMap.mp first
  obtain ⟨c, inC, rowC⟩ := List.mem_flatMap.mp second
  obtain ⟨o, inO, sameO⟩ := List.mem_map.mp rowB
  obtain ⟨p, inP, sameP⟩ := List.mem_map.mp rowC
  cases sameO
  obtain ⟨under, rfl⟩ := Prod.mk.inj sameP
  have blockSame : c = b := List.inj_on_of_nodup_map apart inC inB under
  subst blockSame
  exact congrArg Prod.snd (List.inj_on_of_nodup_map (fits c inC).apart inO inP rfl)

theorem blocksParsed (fits : ∀ b ∈ blocks, b.Fits) (apart : (blocks.map Block.heading).Nodup) :
    ∃ s : State, Standing s (blocks.map Block.heading) (blocks.flatMap Block.rows) ∧
      read (fileText (blocks.flatMap Block.lines)) = .ok ⟨s.headings, s.entries⟩ := by
  have whole : ∀ line ∈ (blocks.flatMap Block.lines).map String.toList,
      '\n' ∉ line ∧ '\r' ∉ line := by
    intro line member
    obtain ⟨text, written, rfl⟩ := List.mem_map.mp member
    obtain ⟨b, inBlocks, inBlock⟩ := List.mem_flatMap.mp written
    exact lineWhole (fits b inBlocks) inBlock
  have noReturn : '\r' ∉ (fileText (blocks.flatMap Block.lines)).toList := by
    rw [fileTextList]
    intro member
    obtain ⟨line, written, inside⟩ := List.mem_flatMap.mp member
    rcases List.mem_append.mp inside with within | last
    · exact (whole line written).2 within
    · exact absurd (List.mem_singleton.mp last) (by decide)
  obtain ⟨s, done, standing⟩ := @blocksRun State.start [] [] blocks ⟨rfl, rfl, rfl, rfl⟩ fits apart
    (fun _ _ => List.not_mem_nil) (fun _ member => nomatch member) 1
  rw [List.nil_append, List.nil_append] at standing
  refine ⟨s, standing, ?_⟩
  rw [read, unifyEndsSelf noReturn, fileTextList, linesWritten fun l member => (whole l member).1,
    List.map_map]
  have ran : run State.start 1 ((blocks.flatMap Block.lines).map
      ((fun l : List Char => l ++ ['\n']) ∘ String.toList)) = .ok s := done
  rw [ran]
  simp only [bind, Except.bind, standing.refused, List.isEmpty_nil, if_true]

section Entries

variable {s : State} {headings : List String} {rows : List Row} {heading name : String}

theorem entryRow (standing : Standing s headings rows) {e : Entry}
    (found : (File.entry? ⟨s.headings, s.entries⟩ heading name) = some e) :
    (heading, name, e.value) ∈ rows := by
  have key := List.find?_some found
  rw [Bool.and_eq_true, beq_iff_eq, beq_iff_eq] at key
  rw [← standing.rows, ← key.1, ← key.2]
  exact List.mem_map_of_mem (List.mem_of_find?_eq_some found)

theorem entryThere (standing : Standing s headings rows) {value : String}
    (written : (heading, name, value) ∈ rows) :
    ∃ e, File.entry? ⟨s.headings, s.entries⟩ heading name = some e := by
  rw [← standing.rows] at written
  obtain ⟨e, entered, same⟩ := List.mem_map.mp written
  cases same
  refine Option.isSome_iff_exists.mp ?_
  rw [File.entry?, List.find?_isSome]
  exact ⟨e, entered, by simp⟩

theorem entryAbsent (standing : Standing s headings rows)
    (absent : ∀ value, (heading, name, value) ∉ rows) :
    File.entry? ⟨s.headings, s.entries⟩ heading name = none := by
  cases found : File.entry? ⟨s.headings, s.entries⟩ heading name with
  | none => rfl
  | some e => exact absurd (entryRow standing found) (absent _)

end Entries

theorem blocksRead (fits : ∀ b ∈ blocks, b.Fits) (apart : (blocks.map Block.heading).Nodup) :
    ∃ file, read (fileText (blocks.flatMap Block.lines)) = .ok file ∧
      (∀ heading name value, (heading, name, value) ∈ blocks.flatMap Block.rows →
        file.get? heading name = some value) ∧
      ∀ heading name, (∀ value, (heading, name, value) ∉ blocks.flatMap Block.rows) →
        file.get? heading name = none := by
  obtain ⟨s, standing, parsed⟩ := blocksParsed fits apart
  have under : ∀ {heading name value : String},
      (heading, name, value) ∈ blocks.flatMap Block.rows → ∃ b ∈ blocks, b.heading = heading := by
    intro heading name value written
    obtain ⟨b, inBlocks, inBlock⟩ := List.mem_flatMap.mp written
    obtain ⟨o, _, same⟩ := List.mem_map.mp inBlock
    exact ⟨b, inBlocks, congrArg Prod.fst same⟩
  refine ⟨_, parsed, fun heading name value written => ?_, fun heading name absent => ?_⟩
  · obtain ⟨b, inBlocks, same⟩ := under written
    have known : heading ∈ s.headings := by
      rw [standing.headings, ← same]
      exact List.mem_map_of_mem inBlocks
    obtain ⟨e, first⟩ := entryThere standing written
    rw [File.get?, if_pos known, first, Option.some_or, Option.map_some,
      rowsApart fits apart (entryRow standing first) written]
  · have shared : File.entry? ⟨s.headings, s.entries⟩ sharedHeading name = none := by
      refine entryAbsent standing fun value written => ?_
      obtain ⟨b, inBlocks, same⟩ := under written
      exact absurd same (fits b inBlocks).own
    rw [File.get?, entryAbsent standing absent, shared]
    split <;> rfl

end Files

end SidAttribute.Config.Ini
