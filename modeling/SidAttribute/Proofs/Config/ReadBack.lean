import SidAttribute.Config.Listing
import SidAttribute.Proofs.Config.IniText
import SidAttribute.Proofs.Config.Loaded

/-! The configuration written as the text of a file and loaded again. What is listed has the text of
its own writer, what is not has its default, and the reader of an option takes the text of its writer
for the same value: so for every configuration that can be written at all each option comes back. -/
namespace SidAttribute.Config
open Text Ini

section Restoring

structure Restores (o : Choice) (v : Value) : Prop where
  fallback : v.same o.fallback = true → v = o.fallback
  text : ∀ t, o.formatted v = .ok t → ValueFits t ∧ o.parse (unquote t) = .ok v

structure Returns (o : Choice) (v : Value) : Prop extends Restores o v where
  writes : ∃ t, o.formatted v = .ok t

theorem textWritten (s : String) : written (.text s) = .ok s := by
  rw [written, if_pos (show (Value.text s).mostDigits ≤ maxDigits from Nat.zero_le _)]
  rfl

theorem formattedText {o : Choice} {v : Value} {t : String} (made : o.format v = .ok (.text t)) :
    o.formatted v = .ok t := by
  rw [Choice.formatted, made]
  exact textWritten t

theorem returnsText {o : Choice} {v : Value} {t : String} (made : o.format v = .ok (.text t))
    (fallback : v.same o.fallback = true → v = o.fallback) (fits : ValueFits t)
    (back : o.parse (unquote t) = .ok v) : Returns o v := by
  refine ⟨⟨fallback, fun u other => ?_⟩, t, formattedText made⟩
  rw [formattedText made] at other
  cases other
  exact ⟨fits, back⟩

theorem unquoteSelf {d : String} (same : unquote d = d) :
    trim d.toList = d.toList ∧ strip isQuote d.toList = d.toList := by
  have list : strip isQuote (trim d.toList) = d.toList := by
    rw [← String.toList_ofList (l := strip isQuote (trim d.toList))]
    exact congrArg String.toList same
  have inner : d.toList.Sublist (trim d.toList) := by
    have front := (stripSublist isQuote (trim d.toList)).trans (List.dropWhile_sublist isQuote)
    rwa [list] at front
  have trimmed : trim d.toList = d.toList :=
    ((stripSublist isBlank d.toList).trans (List.dropWhile_sublist isBlank)).eq_of_length_le
      inner.length_le
  exact ⟨trimmed, by rwa [trimmed] at list⟩

theorem addQuotesList (d : String) : (addQuotes d).toList = '\'' :: (d.toList ++ ['\'']) := by
  simp [addQuotes, String.toList_append]

theorem quotesBare (d : String) : trim (addQuotes d).toList = (addQuotes d).toList := by
  rw [addQuotesList]
  exact stripBetween (by decide) (by decide) _

theorem unquoteAddQuotes {d : String} (unquoted : strip isQuote d.toList = d.toList) :
    unquote (addQuotes d) = d := by
  have quote : ∀ c ∈ ['\''], isQuote c = true := List.forall_mem_singleton.mpr (by decide)
  have around := @stripAround _ isQuote d.toList ['\''] ['\''] quote unquoted quote
  rw [List.append_assoc, List.singleton_append] at around
  rw [unquote, quotesBare, addQuotesList, around, String.ofList_toList]

theorem quotesFit {d : String} (oneLine : '\n' ∉ d.toList ∧ '\r' ∉ d.toList) :
    ValueFits (addQuotes d) := by
  refine ⟨?_, quotesBare d, ?_⟩
  all_goals rw [addQuotesList]
  · exact List.cons_ne_nil _ _
  · simp [oneLine]

def isPlainChar (c : Char) : Bool := !isBlank c && !isQuote c

theorem plainCases {c : Char} (plain : isPlainChar c = true) :
    isBlank c = false ∧ isQuote c = false := by
  simpa [isPlainChar] using plain

theorem endsBare {s : String} (first : s.toList.head?.all isPlainChar = true)
    (last : s.toList.getLast?.all isPlainChar = true) :
    trim s.toList = s.toList ∧ unquote s = s := by
  rw [Option.all_eq_true] at first last
  have bare : trim s.toList = s.toList :=
    stripSelf.mpr ⟨fun c member => (plainCases (first c member)).1,
      fun c member => (plainCases (last c member)).1⟩
  have unquoted : strip isQuote s.toList = s.toList :=
    stripSelf.mpr ⟨fun c member => (plainCases (first c member)).2,
      fun c member => (plainCases (last c member)).2⟩
  exact ⟨bare, by rw [unquote, bare, unquoted, String.ofList_toList]⟩

theorem plainFits {s : String} (some : s.toList ≠ [])
    (plain : ∀ c ∈ s.toList, isPlainChar c = true) : ValueFits s ∧ unquote s = s := by
  obtain ⟨bare, same⟩ : trim s.toList = s.toList ∧ unquote s = s :=
    endsBare ((Option.all_eq_true ..).mpr fun c first => plain c (List.mem_of_mem_head? first))
      ((Option.all_eq_true ..).mpr fun c last => plain c (List.mem_of_getLast? last))
  have whole : ∀ other : Char, isBlank other = true → other ∉ s.toList := by
    intro other blank member
    rw [(plainCases (plain other member)).1] at blank
    cases blank
  exact ⟨⟨some, bare, whole '\n' (by decide), whole '\r' (by decide)⟩, same⟩

theorem numberFits (n : Nat) : ValueFits (toString n) ∧ unquote (toString n) = toString n := by
  have text : (toString n).toList = Nat.toDigits 10 n := by
    rw [Nat.toString_eq_ofList_toDigits, String.toList_ofList]
  refine plainFits (by rw [text]; exact Nat.toDigits_ne_nil) fun c member => ?_
  rw [text] at member
  have digit := Nat.isDigit_of_mem_toDigits (by decide) (by decide) member
  have single := @digitNot c '\'' digit (by decide)
  have double := @digitNot c '"' digit (by decide)
  simp [isPlainChar, digitNoBlank digit, isQuote, single, double]

end Restoring

section Options

variable {o : Choice}

theorem sameBool {a b : Bool} (same : (Value.bool a).same (.bool b) = true) : a = b := by
  revert a b
  decide

theorem sameText {s t : String} (same : (Value.text s).same (.text t) = true) : s = t := by
  have equal : (Value.text s == Value.text t) = true := same
  simpa using equal

theorem sameInt {m n : Int} (same : (Value.int m).same (.int n) = true) : m = n := by
  have equal : (m == n) = true := same
  simpa using equal

theorem returnsBool {name help : String} {fallback : Bool} (b : Bool) :
    Returns (booleanChoice name fallback help) (.bool b) := by
  have made : (booleanChoice name fallback help).format (.bool b) =
      .ok (.text (if b then "true" else "false")) := by
    cases b <;> rfl
  refine returnsText made (fun same => congrArg Value.bool (sameBool same)) ?_ ?_
  · cases b <;> exact ⟨by decide, by decide, by decide⟩
  · cases b <;> rfl

theorem levelBack {level : String} (known : (Log.severity? level).isSome) :
    readLevel level = .ok level ∧ ValueFits level ∧ unquote level = level := by
  have each : ∀ name ∈ Log.severityNames.map Prod.fst, name.toList ≠ [] ∧
      name.toList.all isPlainChar = true ∧
      name.toList.all (fun c => decide (c.toNat < 97)) = true := by
    decide
  obtain ⟨some, plain, capitals⟩ := each level (levelKnown known)
  simp only [List.all_eq_true, decide_eq_true_eq] at plain capitals
  obtain ⟨fits, same⟩ := plainFits some plain
  obtain ⟨severity, named⟩ := Option.isSome_iff_exists.mp known
  refine ⟨?_, fits, same⟩
  rw [readLevel, fits.bare, upperSelf capitals, String.ofList_toList, named]

theorem returnsLevel {fallback level : String} (default : o.fallback = .text fallback)
    (reader : o.reader = some .logLevel) (writer : o.writer = some .logLevel)
    (known : (Log.severity? level).isSome) : Returns o (.text level) := by
  obtain ⟨read, fits, same⟩ := levelBack known
  have applied : Conversion.logLevel.apply (.text level) = .ok (.text level) := by
    simp only [Conversion.apply, needText, read, bind, Except.bind, Except.map]
  have made : o.format (.text level) = .ok (.text level) := by
    rw [Choice.format, writer]
    exact applied
  refine returnsText made (fun equal => ?_) fits ?_
  · rw [default] at equal ⊢
    exact congrArg Value.text (sameText equal)
  · rw [same, Choice.parse, Choice.read, reader]
    exact applied

theorem returnsQuoted {fallback d : String} (default : o.fallback = .text fallback)
    (reader : o.reader = none) (writer : o.writer = none) (same : unquote d = d)
    (oneLine : '\n' ∉ d.toList ∧ '\r' ∉ d.toList) : Returns o (.text d) := by
  have made : o.format (.text d) = .ok (.text (addQuotes d)) := by
    rw [Choice.format, writer, default]
    simp only [Option.none_or, Choice.writerOf, Conversion.apply, textWritten, Except.map]
  refine returnsText made (fun equal => ?_) (quotesFit oneLine) ?_
  · rw [default] at equal ⊢
    exact congrArg Value.text (sameText equal)
  · rw [unquoteAddQuotes (unquoteSelf same).2, Choice.parse, Choice.read, reader, default]
    simp only [Option.none_or, Choice.readerOf, Conversion.apply, needText, Except.map, same]

theorem formattedNatural {k : Int} (default : o.fallback = .int k) (writer : o.writer = none)
    (n : Nat) : o.formatted (.int n) =
      if (Nat.toDigits 10 n).length ≤ maxDigits then .ok (toString n)
      else .error (.numeral .unwritten) := by
  have number : written (.int n) =
      if (Nat.toDigits 10 n).length ≤ maxDigits then .ok (toString n)
      else .error (.numeral .unwritten) := rfl
  rw [Choice.formatted, Choice.format, writer, default]
  simp only [Option.none_or, Choice.writerOf, number]
  split
  · exact textWritten _
  · rfl

theorem restoresNatural {k : Int} (default : o.fallback = .int k)
    (reader : o.reader = some .positive) (writer : o.writer = none) (n : Nat) :
    Restores o (.int n) := by
  refine ⟨fun equal => ?_, fun t made => ?_⟩
  · rw [default] at equal ⊢
    exact congrArg Value.int (sameInt equal)
  · rw [formattedNatural default writer] at made
    split at made
    · next short =>
      cases made
      obtain ⟨fits, same⟩ := numberFits n
      refine ⟨fits, ?_⟩
      have least : ¬ (n : Int) < 0 := by omega
      rw [same, Choice.parse, Choice.read, reader]
      simp only [Option.some_or, Conversion.apply, toNumber, readIntNatural short, Except.mapError,
        bind, Except.bind, if_neg least]
    · cases made

end Options

section Listings

variable {changedOnly : Bool} {c : Section}

theorem appendFailure (a b : Listing) :
    (a.append b).failure = none ↔ a.failure = none ∧ b.failure = none := by
  unfold Listing.append
  cases failed : a.failure with
  | none => simp
  | some e => simp [failed]

theorem appendLines {a b : Listing} (fine : a.failure = none) :
    (a.append b).lines = a.lines ++ b.lines := by
  rw [Listing.append, fine]

theorem joinFailure (ls : List Listing) :
    (Listing.join ls).failure = none ↔ ∀ l ∈ ls, l.failure = none := by
  induction ls with
  | nil => simp [Listing.join, Listing.empty]
  | cons l rest ih => rw [Listing.join, appendFailure, ih, List.forall_mem_cons]

theorem joinedLines {ls : List Listing} (fine : ∀ l ∈ ls, l.failure = none) :
    (Listing.join ls).lines = ls.flatMap Listing.lines := by
  induction ls with
  | nil => rfl
  | cons l rest ih =>
    rw [Listing.join, appendLines (fine l List.mem_cons_self),
      ih fun m member => fine m (List.mem_cons_of_mem l member), List.flatMap_cons]

def Writes (changedOnly : Bool) (c : Section) : Prop :=
  ∀ o ∈ c.listed changedOnly, ∃ t, o.formatted (c.valueOf o) = .ok t

def Section.iniText (c : Section) (o : Choice) : String :=
  (o.formatted (c.valueOf o)).toOption.getD ""

abbrev Section.heading (c : Section) : String := Config.headingOf c.name

def Section.block (changedOnly : Bool) (c : Section) : Block :=
  ⟨c.heading, (c.listed changedOnly).map fun o => (o.name, c.iniText o)⟩

theorem iniTextOf {o : Choice} {t : String} (made : o.formatted (c.valueOf o) = .ok t) :
    c.iniText o = t := by
  rw [Section.iniText, made]
  rfl

theorem iniLineOf {o : Choice} {t : String} (made : o.formatted (c.valueOf o) = .ok t) :
    o.iniLine (c.valueOf o) = .ok (Block.optionLine (o.name, c.iniText o)) := by
  rw [Choice.iniLine, iniTextOf made, made]
  rfl

theorem lineFailure (line : Except ConversionError String) :
    (Listing.ofLine line).failure = none ↔ ∃ text, line = .ok text := by
  cases line <;> simp [Listing.ofLine]

theorem iniLineWritten {o : Choice} {v : Value} :
    (∃ line, o.iniLine v = .ok line) ↔ ∃ t, o.formatted v = .ok t := by
  rw [Choice.iniLine]
  cases o.formatted v <;> simp [Except.map]

theorem sectionEmpty (none : c.listed changedOnly = []) :
    Store.sectionIni changedOnly c = Listing.empty := by
  rw [Store.sectionIni, none]

theorem sectionJoined (some : c.listed changedOnly ≠ []) :
    Store.sectionIni changedOnly c =
      Listing.join (Listing.ofLine (.ok ("\n[" ++ c.heading ++ "]")) ::
        (c.listed changedOnly).map fun o => Listing.ofLine (o.iniLine (c.valueOf o))) := by
  rw [Store.sectionIni]
  split
  · contradiction
  · rfl

theorem sectionFailure : (Store.sectionIni changedOnly c).failure = none ↔ Writes changedOnly c := by
  unfold Writes
  by_cases none : c.listed changedOnly = []
  · rw [sectionEmpty none, none]
    simp [Listing.empty]
  · rw [sectionJoined none, joinFailure, List.forall_mem_cons, List.forall_mem_map]
    simp only [lineFailure, iniLineWritten, Except.ok.injEq, exists_eq', true_and]

theorem writtenLines {os : List Choice} {line : Choice → Except ConversionError String}
    {text : Choice → String} (each : ∀ o ∈ os, line o = .ok (text o)) :
    (os.map fun o => Listing.ofLine (line o)).flatMap Listing.lines = os.map text := by
  induction os with
  | nil => rfl
  | cons o rest ih =>
    rw [List.map_cons, List.flatMap_cons, each o List.mem_cons_self,
      ih fun p member => each p (List.mem_cons_of_mem o member)]
    rfl

theorem sectionLines (some : c.listed changedOnly ≠ []) (writes : Writes changedOnly c) :
    fileText (Store.sectionIni changedOnly c).lines = fileText (c.block changedOnly).lines := by
  have fine := sectionFailure.mpr writes
  rw [sectionJoined some, joinFailure] at fine
  have options : ((c.listed changedOnly).map fun o =>
        Listing.ofLine (o.iniLine (c.valueOf o))).flatMap Listing.lines =
      (c.block changedOnly).options.map Block.optionLine := by
    rw [Section.block, List.map_map]
    refine writtenLines fun o member => ?_
    obtain ⟨t, made⟩ := writes o member
    exact iniLineOf made
  have heading : fileText ["\n[" ++ c.heading ++ "]"] =
      fileText ["", (c.block changedOnly).headingLine] := by
    apply String.toList_injective
    simp [fileTextList, Section.block, Block.headingLine, String.toList_append]
  rw [sectionJoined some, joinedLines fine, List.flatMap_cons, options, Listing.ofLine,
    fileTextAppend, heading, ← fileTextAppend]
  rfl

theorem iniFailure (s : Store) : (s.ini changedOnly).failure = none ↔
    ∀ c ∈ s.shownSections, Writes changedOnly c := by
  rw [Store.ini, joinFailure, List.forall_mem_map]
  simp only [sectionFailure]

def blocksOf (changedOnly : Bool) (cs : List Section) : List Block :=
  (cs.filter fun c => !(c.listed changedOnly).isEmpty).map (Section.block changedOnly)

theorem sectionsText {cs : List Section} (writes : ∀ c ∈ cs, Writes changedOnly c) :
    fileText ((cs.map (Store.sectionIni changedOnly)).flatMap Listing.lines) =
      fileText ((blocksOf changedOnly cs).flatMap Block.lines) := by
  induction cs with
  | nil => rfl
  | cons c rest ih =>
    have others := ih fun d member => writes d (List.mem_cons_of_mem c member)
    rw [blocksOf] at others ⊢
    rw [List.map_cons, List.flatMap_cons, fileTextAppend, others]
    by_cases none : c.listed changedOnly = []
    · rw [sectionEmpty none, List.filter_cons_of_neg (by simp [none])]
      exact String.empty_append
    · rw [sectionLines none (writes c List.mem_cons_self),
        List.filter_cons_of_pos (by simpa using none), List.map_cons, List.flatMap_cons,
        fileTextAppend]

theorem iniText {s : Store} (fine : (s.ini changedOnly).failure = none) :
    fileText (s.ini changedOnly).lines =
      fileText ((blocksOf changedOnly s.shownSections).flatMap Block.lines) := by
  rw [← sectionsText ((iniFailure s).mp fine)]
  rw [Store.ini, joinFailure] at fine
  rw [Store.ini, joinedLines fine]

theorem rowsOf {cs : List Section} {heading name value : String} :
    (heading, name, value) ∈ (blocksOf changedOnly cs).flatMap Block.rows ↔
      ∃ c ∈ cs, ∃ o ∈ c.listed changedOnly,
        c.heading = heading ∧ o.name = name ∧ c.iniText o = value := by
  rw [List.mem_flatMap]
  constructor
  · rintro ⟨b, inBlocks, inBlock⟩
    obtain ⟨c, kept, rfl⟩ := List.mem_map.mp inBlocks
    obtain ⟨row, inRows, same⟩ := List.mem_map.mp inBlock
    obtain ⟨o, listed, rfl⟩ := List.mem_map.mp inRows
    cases same
    exact ⟨c, (List.mem_filter.mp kept).1, o, listed, rfl, rfl, rfl⟩
  · rintro ⟨c, member, o, listed, rfl, rfl, rfl⟩
    have some : (!(c.listed changedOnly).isEmpty) = true := by
      cases chosen : c.listed changedOnly with
      | nil => rw [chosen] at listed; cases listed
      | cons _ _ => rfl
    refine ⟨c.block changedOnly, List.mem_map_of_mem (List.mem_filter.mpr ⟨member, some⟩), ?_⟩
    exact List.mem_map.mpr ⟨(o.name, c.iniText o), List.mem_map_of_mem listed, rfl⟩

end Listings

section Files

variable {changedOnly : Bool} {c : Section} {cs : List Section} {o : Choice}

structure Writable (c : Section) : Prop where
  heading : c.heading.toList ≠ [] ∧ '\n' ∉ c.heading.toList ∧ '\r' ∉ c.heading.toList
  own : c.heading ≠ sharedHeading
  names : ∀ o ∈ c.choices, NameFits o.name
  apart : (c.choices.map Choice.name).Nodup

structure Kept (changedOnly : Bool) (c : Section) : Prop where
  writable : Writable c
  restores : ∀ o ∈ c.choices, Restores o (c.valueOf o)
  writes : Writes changedOnly c

theorem listedDeclared (listed : o ∈ c.listed changedOnly) : o ∈ c.choices :=
  List.mem_of_mem_filter listed

theorem blockFits (kept : Kept changedOnly c) : (c.block changedOnly).Fits := by
  refine ⟨kept.writable.heading, kept.writable.own, fun row member => ?_, fun row member => ?_, ?_⟩
  · obtain ⟨o, listed, rfl⟩ := List.mem_map.mp member
    exact kept.writable.names o (listedDeclared listed)
  · obtain ⟨o, listed, rfl⟩ := List.mem_map.mp member
    obtain ⟨t, made⟩ := kept.writes o listed
    have fits := ((kept.restores o (listedDeclared listed)).text t made).1
    rwa [← iniTextOf made] at fits
  · have names : (c.block changedOnly).options.map Prod.fst =
        (c.listed changedOnly).map Choice.name := by
      rw [Section.block, List.map_map]
      rfl
    rw [names]
    exact kept.writable.apart.sublist (List.filter_sublist.map Choice.name)

theorem fileRead (kept : ∀ c ∈ cs, Kept changedOnly c)
    (apart : (cs.map Section.heading).Nodup) :
    ∃ file, Ini.read (fileText ((blocksOf changedOnly cs).flatMap Block.lines)) = .ok file ∧
      (∀ c ∈ cs, ∀ o ∈ c.choices, file.get? c.heading o.name =
        if o ∈ c.listed changedOnly then some (c.iniText o) else none) ∧
      ∀ heading ∉ cs.map Section.heading, ∀ name, file.get? heading name = none := by
  have fits : ∀ b ∈ blocksOf changedOnly cs, b.Fits := by
    intro b member
    obtain ⟨c, inside, rfl⟩ := List.mem_map.mp member
    exact blockFits (kept c (List.mem_filter.mp inside).1)
  have headings : ((blocksOf changedOnly cs).map Block.heading).Nodup := by
    rw [blocksOf, List.map_map]
    exact apart.sublist (List.filter_sublist.map Section.heading)
  obtain ⟨file, parsed, given, absent⟩ := blocksRead fits headings
  refine ⟨file, parsed, fun c member o declared => ?_, fun heading other name => ?_⟩
  · split
    · next listed => exact given _ _ _ (rowsOf.mpr ⟨c, member, o, listed, rfl, rfl, rfl⟩)
    · next unlisted =>
      refine absent _ _ fun value row => ?_
      obtain ⟨d, inside, p, listed, under, name, _⟩ := rowsOf.mp row
      have sameSection : d = c := List.inj_on_of_nodup_map apart inside member under
      subst sameSection
      have option : p = o := List.inj_on_of_nodup_map (kept d inside).writable.apart
        (listedDeclared listed) declared name
      exact unlisted (option ▸ listed)
  · refine absent _ _ fun value row => ?_
    obtain ⟨d, inside, _, _, under, _⟩ := rowsOf.mp row
    exact other (under ▸ List.mem_map_of_mem inside)

theorem slotBack {texts : String → String → Option String} (kept : Kept changedOnly c)
    (declared : o ∈ c.choices)
    (text : texts c.name o.name =
      (if o ∈ c.listed changedOnly then some (c.iniText o) else none).map unquote) :
    ¬ Refused texts (c.name, o) ∧
      heldRow texts (c.name, o) = (c.name, o.name, c.valueOf o) := by
  have restores := kept.restores o declared
  by_cases listed : o ∈ c.listed changedOnly
  · obtain ⟨t, made⟩ := kept.writes o listed
    have back := (restores.text t made).2
    rw [if_pos listed, iniTextOf made, Option.map_some] at text
    refine ⟨?_, ?_⟩
    · rintro ⟨u, e, given, refused⟩
      rw [text] at given
      rw [← Option.some.inj given, back] at refused
      cases refused
    · simp only [heldRow, text, Option.map_some, back]
  · rw [if_neg listed, Option.map_none] at text
    have same : (c.valueOf o).same o.fallback = true := by
      by_contra differs
      refine listed (List.mem_filter.mpr ⟨declared, ?_⟩)
      rw [Bool.eq_false_iff.mpr differs, Bool.not_false, Bool.or_true]
    refine ⟨?_, ?_⟩
    · rintro ⟨u, e, given, _⟩
      rw [text] at given
      cases given
    · simp only [heldRow, text, Option.map_none, restores.fallback same]

end Files

section Loads

variable {changedOnly : Bool} {s : Store} {texts : String → String → Option String}

theorem takenFine {options : List Slot} {rows : List (String × String × Value)}
    {e : Option LoadError} (taken : Taken texts options rows e)
    (fine : ∀ r ∈ options, ¬ Refused texts r) :
    rows = options.map (heldRow texts) ∧ e = none := by
  cases taken with
  | all _ => exact ⟨rfl, rfl⟩
  | front split _ given refused =>
    exact absurd ⟨_, _, given, refused⟩
      (fine _ (split ▸ List.mem_append_right _ List.mem_cons_self))

theorem sectionFine {c : Section} (settable : Settable c c.choices) (unset : c.values = [])
    (fine : ∀ r ∈ c.slots, ¬ Refused texts r) :
    ∃ c', c.load (texts c.name) = (c', none) ∧ c'.rows = c.slots.map (heldRow texts) := by
  obtain ⟨rows, quiet⟩ := takenFine (sectionTakes texts settable unset).1 fine
  exact ⟨_, Prod.ext rfl quiet, rows⟩

theorem readFine (fine : ∀ r ∈ slots, ¬ Refused texts r) (done : Bool) :
    ∃ loaded, { Store.fresh with loaded := done }.read texts = (loaded, none) ∧
      loaded.log.rows = logSection.slots.map (heldRow texts) ∧
      loaded.decode.rows = decodeSection.slots.map (heldRow texts) := by
  rw [slotsSections, List.forall_mem_append, List.forall_mem_append] at fine
  obtain ⟨log, logDone, logRows⟩ := sectionFine logSettable rfl fine.1
  obtain ⟨decode, decodeDone, decodeRows⟩ := sectionFine decodeSettable rfl fine.2.1
  obtain ⟨debug, debugDone, _⟩ := sectionFine debugSettable rfl fine.2.2
  refine ⟨⟨log, decode, debug, done⟩, ?_, logRows, decodeRows⟩
  unfold Store.read
  dsimp only [Store.fresh]
  rw [logDone, decodeDone, debugDone]

theorem alikeWritable {c d : Section} (alike : Alike c d) (writable : Writable d) : Writable c := by
  have heading : c.heading = d.heading := congrArg Config.headingOf alike.name
  refine ⟨?_, ?_, ?_, ?_⟩
  · rw [heading]; exact writable.heading
  · rw [heading]; exact writable.own
  · rw [alike.choices]; exact writable.names
  · rw [alike.choices]; exact writable.apart

def Unset (environment : Variables) : Prop :=
  ∀ r ∈ slots, environment.get? (pathOf "." r.1 r.2.name) = none ∧
    environment.get? (pathOf "_" r.1 r.2.name) = none

theorem textUnset {environment : Variables} (unset : Unset environment) (file : Ini.File)
    {r : Slot} (member : r ∈ slots) : textOf environment file r.1 r.2.name =
      (file.get? (Config.headingOf r.1) r.2.name).map unquote := by
  obtain ⟨dotted, underscored⟩ := unset r member
  rw [textOf, dotted, underscored, Option.none_or, Option.none_or]

theorem namesFit : ∀ o ∈ logSection.choices ++ decodeSection.choices, NameFits o.name := by
  have each : ∀ o ∈ logSection.choices ++ decodeSection.choices, o.name.toList ≠ [] ∧
      o.name.toList.all isNameChar = true ∧
      o.name.toList.all (fun c => decide (91 ≤ c.toNat ∧ c.toNat < 192)) = true := by
    decide
  intro o member
  obtain ⟨some, plain, between⟩ := each o member
  simp only [List.all_eq_true, decide_eq_true_eq] at plain between
  exact ⟨some, plain, lowerSelf between⟩

theorem logWritable : Writable logSection :=
  ⟨by decide, by decide, fun o member => namesFit o (List.mem_append_left _ member),
    logSettable.apart⟩

theorem decodeWritable : Writable decodeSection :=
  ⟨by decide, by decide, fun o member => namesFit o (List.mem_append_right _ member),
    decodeSettable.apart⟩

theorem declaredShown (declared : Declared s) : s.shownSections = [s.log, s.decode] := by
  have log : s.log.hidden = false := declared.log.hidden
  have decode : s.decode.hidden = false := declared.decode.hidden
  have debug : s.debug.hidden = true := declared.debug.hidden
  rw [Store.shownSections, Store.sections]
  simp only [List.filter, log, decode, debug, Bool.not_false, Bool.not_true]

variable {c : Section} {environment : Variables} {file : Ini.File}

theorem slotsBack (each : ∀ o ∈ c.choices, ¬ Refused texts (c.name, o) ∧
      heldRow texts (c.name, o) = (c.name, o.name, c.valueOf o)) :
    (∀ r ∈ c.slots, ¬ Refused texts r) ∧ c.slots.map (heldRow texts) = c.rows := by
  refine ⟨fun r member => ?_, ?_⟩
  · obtain ⟨o, declared, rfl⟩ := List.mem_map.mp member
    exact (each o declared).1
  · rw [Section.slots, Section.rows, Section.items, List.map_map, List.map_map]
    exact List.map_congr_left fun o declared => (each o declared).2

theorem sectionBack (kept : Kept changedOnly c) (unset : Unset environment)
    (inside : ∀ r ∈ c.slots, r ∈ slots)
    (given : ∀ o ∈ c.choices, file.get? c.heading o.name =
      if o ∈ c.listed changedOnly then some (c.iniText o) else none) :
    (∀ r ∈ c.slots, ¬ Refused (textOf environment file) r) ∧
      c.slots.map (heldRow (textOf environment file)) = c.rows := by
  refine slotsBack fun o declared => slotBack kept declared ?_
  rw [textUnset unset file (inside _ (List.mem_map_of_mem declared)), ← given o declared]

theorem storeBack {sources : Sources} (declared : Declared s) (good : sources.file = .ok file)
    (log : (∀ r ∈ s.log.slots, ¬ Refused (textOf sources.environment file) r) ∧
      s.log.slots.map (heldRow (textOf sources.environment file)) = s.log.rows)
    (decode : (∀ r ∈ s.decode.slots, ¬ Refused (textOf sources.environment file) r) ∧
      s.decode.slots.map (heldRow (textOf sources.environment file)) = s.decode.rows) :
    ∃ loaded, Store.fresh.load sources = (loaded, none) ∧
      loaded.log.rows = s.log.rows ∧ loaded.decode.rows = s.decode.rows := by
  rw [alikeSlots declared.log] at log
  rw [alikeSlots declared.decode] at decode
  have slotsFine : ∀ r ∈ slots, ¬ Refused (textOf sources.environment file) r := by
    rw [slotsSections, List.forall_mem_append, List.forall_mem_append]
    exact ⟨log.1, decode.1, debugFine _⟩
  obtain ⟨loaded, done, logLoaded, decodeLoaded⟩ := readFine slotsFine true
  exact ⟨loaded, (readable good).trans done, logLoaded.trans log.2, decodeLoaded.trans decode.2⟩

theorem declaredKept (declared : Declared s)
    (log : ∀ o ∈ s.log.choices, Restores o (s.log.valueOf o))
    (decode : ∀ o ∈ s.decode.choices, Restores o (s.decode.valueOf o))
    (fine : (s.ini changedOnly).failure = none) :
    Kept changedOnly s.log ∧ Kept changedOnly s.decode := by
  have writes := (iniFailure s).mp fine
  rw [declaredShown declared, List.forall_mem_cons, List.forall_mem_singleton] at writes
  exact ⟨⟨alikeWritable declared.log logWritable, log, writes.1⟩,
    ⟨alikeWritable declared.decode decodeWritable, decode, writes.2⟩⟩

theorem declaredBack (declared : Declared s)
    (log : ∀ o ∈ s.log.choices, Restores o (s.log.valueOf o))
    (decode : ∀ o ∈ s.decode.choices, Restores o (s.decode.valueOf o))
    (unset : Unset environment) (fine : (s.ini changedOnly).failure = none) :
    ∃ loaded, Store.fresh.load ⟨environment, some (fileText (s.ini changedOnly).lines)⟩ =
        (loaded, none) ∧
      loaded.log.rows = s.log.rows ∧ loaded.decode.rows = s.decode.rows := by
  obtain ⟨logKept, decodeKept⟩ := declaredKept declared log decode fine
  have headings : [s.log, s.decode].map Section.heading =
      ["prefixsid.log", "prefixsid.decode"] := by
    rw [List.map_cons, List.map_singleton, Section.heading, Section.heading, declared.log.name,
      declared.decode.name]
    rfl
  obtain ⟨file, parsed, given, _⟩ := fileRead
    (List.forall_mem_cons.mpr ⟨logKept, List.forall_mem_singleton.mpr decodeKept⟩)
    (by rw [headings]; decide)
  have good : Sources.file ⟨environment, some (fileText (s.ini changedOnly).lines)⟩ = .ok file := by
    rw [Sources.file, iniText fine, declaredShown declared]
    exact parsed
  exact storeBack declared good
    (sectionBack logKept unset (alikeSlots declared.log ▸ logInside) (given _ List.mem_cons_self))
    (sectionBack decodeKept unset (alikeSlots declared.decode ▸ decodeInside)
      (given _ (List.mem_cons_of_mem _ List.mem_cons_self)))

end Loads

section Results

structure Settings where
  enable : Bool
  level : String
  destination : String
  all : Bool
  configuration : Bool
  parser : Bool
  short : Bool
  siblings : Nat
  known : (Log.severity? level).isSome
  bare : unquote destination = destination
  oneLine : '\n' ∉ destination.toList ∧ '\r' ∉ destination.toList

def Settings.logItems (c : Settings) : List (String × Value) :=
  [("enable", .bool c.enable), ("level", .text c.level), ("destination", .text c.destination),
    ("all", .bool c.all), ("configuration", .bool c.configuration), ("parser", .bool c.parser),
    ("short", .bool c.short)]

def Settings.decodeItems (c : Settings) : List (String × Value) :=
  [("siblings", .int c.siblings)]

structure Holds (s : Store) (c : Settings) : Prop where
  declared : Declared s
  log : s.log.items = c.logItems
  decode : s.decode.items = c.decodeItems

variable {s : Store} {c : Settings}

theorem logReturns (held : Holds s c) : ∀ o ∈ s.log.choices, Returns o (s.log.valueOf o) := by
  have items := held.log
  rw [Section.items, held.declared.log.choices, logChoices, Settings.logItems] at items
  simp only [List.map_cons, List.map_nil, List.cons.injEq, Prod.mk.injEq] at items
  obtain ⟨⟨_, enable⟩, ⟨_, level⟩, ⟨_, destination⟩, ⟨_, all⟩, ⟨_, configuration⟩, ⟨_, parser⟩,
    ⟨_, short⟩, _⟩ := items
  rw [held.declared.log.choices, logChoices]
  simp only [List.forall_mem_cons, enable, level, destination, all, configuration, parser, short]
  refine ⟨returnsBool _, returnsLevel rfl rfl rfl c.known, ?_, returnsBool _, returnsBool _,
    returnsBool _, returnsBool _, fun _ member => absurd member List.not_mem_nil⟩
  exact returnsQuoted rfl rfl rfl c.bare c.oneLine

theorem decodeNatural (held : Holds s c) : ∀ o ∈ s.decode.choices,
    o.fallback = .int 3 ∧ o.reader = some .positive ∧ o.writer = none ∧
      s.decode.valueOf o = .int c.siblings := by
  have items := held.decode
  rw [Section.items, held.declared.decode.choices, decodeChoices, Settings.decodeItems] at items
  simp only [List.map_cons, List.map_nil, List.cons.injEq, Prod.mk.injEq] at items
  rw [held.declared.decode.choices, decodeChoices, List.forall_mem_singleton]
  exact ⟨rfl, rfl, rfl, items.1.2⟩

theorem decodeRestores (held : Holds s c) :
    ∀ o ∈ s.decode.choices, Restores o (s.decode.valueOf o) := by
  intro o member
  obtain ⟨default, reader, writer, value⟩ := decodeNatural held o member
  rw [value]
  exact restoresNatural default reader writer c.siblings

theorem decodeWrites (held : Holds s c) (changedOnly : Bool) :
    Writes changedOnly s.decode ↔ (Nat.toDigits 10 c.siblings).length ≤ maxDigits := by
  constructor
  · intro writes
    by_contra long
    obtain ⟨o, member⟩ : ∃ o, o ∈ s.decode.choices := by
      rw [held.declared.decode.choices, decodeChoices]
      exact ⟨_, List.mem_cons_self⟩
    obtain ⟨default, _, writer, value⟩ := decodeNatural held o member
    have differs : ((Value.int c.siblings).same (.int 3)) = false := by
      rw [Bool.eq_false_iff]
      intro same
      have three : c.siblings = 3 := by have := sameInt same; omega
      rw [three] at long
      exact long (by decide)
    have listed : o ∈ s.decode.listed changedOnly := by
      refine List.mem_filter.mpr ⟨member, ?_⟩
      rw [value, default, differs, Bool.not_false, Bool.or_true]
    obtain ⟨t, made⟩ := writes o listed
    rw [value, formattedNatural default writer, if_neg long] at made
    cases made
  · intro short o listed
    obtain ⟨default, _, writer, value⟩ := decodeNatural held o (listedDeclared listed)
    rw [value, formattedNatural default writer, if_pos short]
    exact ⟨_, rfl⟩

/-- What is written, all of it or what differs from the defaults, gives the same configuration when it is
loaded. Only one thing cannot be written: a number of more than `maxDigits` digits has no text at all,
neither to write nor to read, so a configuration with so many siblings has no lines to load. -/
theorem iniReadsBack {environment : Variables} (held : Holds s c) (unset : Unset environment)
    (changedOnly : Bool) :
    ((s.ini changedOnly).failure = none ↔
        (Nat.toDigits 10 c.siblings).length ≤ maxDigits) ∧
      ((s.ini changedOnly).failure = none →
        ∃ loaded, Store.fresh.load ⟨environment, some (fileText (s.ini changedOnly).lines)⟩ =
            (loaded, none) ∧
          loaded.log.items = c.logItems ∧ loaded.decode.items = c.decodeItems) := by
  constructor
  · have log : Writes changedOnly s.log := fun o listed =>
      (logReturns held o (listedDeclared listed)).writes
    rw [iniFailure, declaredShown held.declared, List.forall_mem_cons, List.forall_mem_singleton,
      decodeWrites held]
    exact and_iff_right log
  · intro fine
    obtain ⟨loaded, done, log, decode⟩ := declaredBack held.declared
      (fun o member => (logReturns held o member).toRestores) (decodeRestores held) unset fine
    refine ⟨loaded, done, ?_, ?_⟩
    · rw [← itemsRows, log, itemsRows, held.log]
    · rw [← itemsRows, decode, itemsRows, held.decode]

theorem iniReadsBackMarks :
    let s : Store := { Store.fresh with
      log := (logSection.set "destination" (.text "file:[x] = 'é\" %(a)s ; #1:")).set "short"
        (.bool false)
      decode := decodeSection.set "siblings" (.int 40) }
    (s.ini true).lines =
        ["\n[prefixsid.log]", "destination = 'file:[x] = 'é\" %(a)s ; #1:'", "short = false",
          "\n[prefixsid.decode]", "siblings = 40"] ∧
      ∃ loaded, Store.fresh.load ⟨[("HOME", "/")], some (fileText (s.ini true).lines)⟩ =
          (loaded, none) ∧
        loaded.log.items = s.log.items ∧ loaded.decode.items = s.decode.items := by
  intro s
  let c : Settings :=
    ⟨true, "INFO", "file:[x] = 'é\" %(a)s ; #1:", false, false, false, false, 40, by decide,
      (endsBare (by decide) (by decide)).2, by decide⟩
  have declared : Declared s := ⟨⟨rfl, rfl, rfl⟩, ⟨rfl, rfl, rfl⟩, ⟨rfl, rfl, rfl⟩⟩
  have held : Holds s c := ⟨declared, by decide, by decide⟩
  obtain ⟨fails, back⟩ := @iniReadsBack s c [("HOME", "/")] held (by unfold Unset; decide) true
  obtain ⟨loaded, done, log, decode⟩ := back (fails.mpr (by decide))
  exact ⟨by decide +kernel, loaded, done, by rw [log, held.log], by rw [decode, held.decode]⟩

end Results

end SidAttribute.Config
