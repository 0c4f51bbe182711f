import SidAttribute.Proofs.Config.ReadBack

/-! The configuration as assignments of variables, and loaded from these. A variable is read by the
reader of its option as it stands, so all comes back that is written without quotes or read with them.
The name of a level is written in quotes that its reader does not take away: a configuration is never
loaded from its own assignments, though it is once the level stands bare. -/
namespace SidAttribute.Config
open Text

def nameAndText (line : String) : String × String :=
  (String.ofList (line.toList.takeWhile (· != '=')),
    String.ofList ((line.toList.dropWhile (· != '=')).drop 1))

def Variables.assignAll (vs : Variables) (rows : List (String × String)) :
    Except VariableError Variables :=
  rows.foldlM (fun vs row => vs.assign row.1 row.2) vs

section Variables

variable {vs : Variables} {rows : List (String × String)} {name text : String}

theorem nameAndTextOf (plain : '=' ∉ name.toList) (text : String) :
    nameAndText (name ++ "=" ++ text) = (name, text) := by
  have whole : (name ++ "=" ++ text).toList = name.toList ++ '=' :: text.toList := by
    simp [String.toList_append]
  have front : ∀ c ∈ name.toList, (c != '=') = true := fun c member =>
    bne_iff_ne.mpr fun same => plain (same ▸ member)
  rw [nameAndText, whole, List.takeWhile_append_of_pos front, List.dropWhile_append_of_pos front]
  simp

def NameOf (name : String) : Prop :=
  '\x00' ∉ name.toList ∧ '=' ∉ name.toList ∧ name.isEmpty = false

theorem assignNamed (named : NameOf name) (text : String) : vs.assign name text =
    if '\x00' ∈ text.toList then .error .nul else .ok (vs.put name text) := by
  obtain ⟨noNul, noEquals, some⟩ := named
  simp [Variables.assign, String.contains_char_eq, noNul, noEquals, some]

def Variables.putAll (vs : Variables) (rows : List (String × String)) : Variables :=
  rows.foldl (fun vs row => vs.put row.1 row.2) vs

theorem assignAllNamed (named : ∀ row ∈ rows, NameOf row.1) : vs.assignAll rows =
    if ∃ row ∈ rows, '\x00' ∈ row.2.toList then .error .nul else .ok (vs.putAll rows) := by
  induction rows generalizing vs with
  | nil => simp [Variables.assignAll, Variables.putAll, pure, Except.pure]
  | cons row rest ih =>
    rw [List.forall_mem_cons] at named
    rw [Variables.assignAll, List.foldlM_cons, assignNamed named.1]
    by_cases nul : '\x00' ∈ row.2.toList
    · simp [nul, bind, Except.bind]
    · rw [if_neg nul]
      have later := @ih (vs.put row.1 row.2) named.2
      simp only [List.exists_mem_cons_iff, nul, false_or]
      exact later

theorem putAllOther (other : name ∉ rows.map Prod.fst) : (vs.putAll rows).get? name = vs.get? name := by
  induction rows generalizing vs with
  | nil => rfl
  | cons row rest ih =>
    rw [List.map_cons, List.mem_cons, not_or] at other
    have later := @ih (vs.put row.1 row.2) other.2
    rw [Variables.getPut, if_neg other.1] at later
    exact later

theorem putAllGiven (apart : (rows.map Prod.fst).Nodup) (given : (name, text) ∈ rows) :
    (vs.putAll rows).get? name = some text := by
  induction rows generalizing vs with
  | nil => cases given
  | cons row rest ih =>
    obtain ⟨fresh, apart⟩ := List.nodup_cons.mp apart
    rcases List.mem_cons.mp given with rfl | later
    · have here := @putAllOther (vs.put name text) rest name fresh
      rw [Variables.getPut, if_pos rfl] at here
      exact here
    · exact ih apart later

end Variables

section Texts

variable {o : Choice} {c : Section} {name help : String}

theorem variableBool {fallback : Bool} (b : Bool) :
    (booleanChoice name fallback help).variableText (.bool b) =
        .ok (if b then "true" else "false") ∧
      (booleanChoice name fallback help).parse (if b then "true" else "false") =
        .ok (.bool b) := by
  have made : (booleanChoice name fallback help).formatted (.bool b) =
      .ok (if b then "true" else "false") := by
    cases b <;> exact formattedText rfl
  have same : unquote (if b then "true" else "false") = if b then "true" else "false" := by
    cases b <;> decide
  have back := ((@returnsBool name help fallback b).text _ made).2
  exact ⟨made, by rwa [same] at back⟩

theorem variableQuoted {fallback : String} (default : o.fallback = .text fallback) (d : String) :
    o.variableText (.text d) = .ok (addQuotes d) := by
  rw [Choice.variableText, default]
  simp only [textWritten, Except.map]

theorem variableNatural {k : Int} {n : Nat} (default : o.fallback = .int k) (writer : o.writer = none)
    (brief : (Nat.toDigits 10 n).length ≤ maxDigits) :
    o.variableText (.int n) = .ok (toString n) := by
  rw [Choice.variableText, default]
  dsimp only
  rw [formattedNatural default writer, if_pos brief]

theorem quotedRead {fallback d : String} (default : o.fallback = .text fallback)
    (reader : o.reader = none) (unquoted : strip isQuote d.toList = d.toList) :
    o.parse (addQuotes d) = .ok (.text d) := by
  rw [Choice.parse, Choice.read, reader, default]
  simp only [Option.none_or, Choice.readerOf, Conversion.apply, needText, Except.map,
    unquoteAddQuotes unquoted]

theorem naturalRead {k : Int} {n : Nat} (default : o.fallback = .int k)
    (reader : o.reader = some .positive) (writer : o.writer = none)
    (brief : (Nat.toDigits 10 n).length ≤ maxDigits) : o.parse (toString n) = .ok (.int n) := by
  have made : o.formatted (.int n) = .ok (toString n) := by
    rw [formattedNatural default writer, if_pos brief]
  have back := ((restoresNatural default reader writer n).text _ made).2
  rwa [(numberFits n).2] at back

theorem levelRead {level : String} (reader : o.reader = some .logLevel)
    (known : (Log.severity? level).isSome) : o.parse level = .ok (.text level) := by
  rw [Choice.parse, Choice.read, reader]
  simp only [Option.some_or, Conversion.apply, needText, (levelBack known).1, bind, Except.bind,
    Except.map]

theorem levelRefused {t : String} {e : ConversionError} (reader : o.reader = some .logLevel)
    (refused : readLevel t = .error e) : o.parse t = .error e := by
  rw [Choice.parse, Choice.read, reader]
  simp only [Option.some_or, Conversion.apply, needText, refused, bind, Except.bind,
    Except.map]

theorem levelQuoted {level : String} (known : (Log.severity? level).isSome) :
    readLevel (addQuotes level) = .error (.unknownLevel (addQuotes level)) := by
  have each : ∀ name ∈ Log.severityNames.map Prod.fst,
      (addQuotes name).toList.all (fun c => decide (c.toNat < 97)) = true ∧
        Log.severity? (addQuotes name) = none := by
    decide
  obtain ⟨capitals, unknown⟩ := each level (levelKnown known)
  simp only [List.all_eq_true, decide_eq_true_eq] at capitals
  rw [readLevel, quotesBare, upperSelf capitals, String.ofList_toList, unknown]

theorem listedAll (c : Section) : c.listed false = c.choices := by
  simp [Section.listed]

theorem sectionAssigned {texts : List (String × String)}
    (each : List.Forall₂ (fun o row => row.1 = pathOf "." c.name o.name ∧
      o.variableText (c.valueOf o) = .ok row.2) c.choices texts) :
    Store.sectionVariables false c = ⟨texts.map fun row => row.1 ++ "=" ++ row.2, none⟩ := by
  rw [Store.sectionVariables, listedAll]
  generalize c.choices = os at each ⊢
  induction each with
  | nil => rfl
  | cons here _ ih =>
    rw [List.map_cons, List.map_cons, Listing.join, ih, Choice.variableLine, here.2, here.1]
    rfl

end Texts

section Stores

variable {s : Store} {c : Reading} {environment : Variables}

def Reading.logRows (c : Reading) : List (String × String) :=
  [("prefixsid.log.enable", if c.enable then "true" else "false"),
    ("prefixsid.log.level", addQuotes c.level),
    ("prefixsid.log.destination", addQuotes c.destination),
    ("prefixsid.log.all", if c.all then "true" else "false"),
    ("prefixsid.log.configuration", if c.configuration then "true" else "false"),
    ("prefixsid.log.parser", if c.parser then "true" else "false"),
    ("prefixsid.log.short", if c.short then "true" else "false")]

def Reading.decodeRows (c : Reading) : List (String × String) :=
  [("prefixsid.decode.siblings", toString c.siblings)]

def Reading.rows (c : Reading) : List (String × String) := c.logRows ++ c.decodeRows

theorem logValues (of : c.Of s) : s.log.choices.map s.log.valueOf =
    [.bool c.enable, .text c.level, .text c.destination, .bool c.all, .bool c.configuration,
      .bool c.parser, .bool c.short] := by
  have items := congrArg (List.map Prod.snd) of.log
  rw [Section.items, List.map_map] at items
  exact items

theorem decodeValues (of : c.Of s) : s.decode.choices.map s.decode.valueOf = [.int c.siblings] := by
  have items := congrArg (List.map Prod.snd) of.decode
  rw [Section.items, List.map_map] at items
  exact items

theorem logAssigned (of : c.Of s) :
    Store.sectionVariables false s.log = ⟨c.logRows.map fun row => row.1 ++ "=" ++ row.2, none⟩ := by
  have values := logValues of
  refine sectionAssigned ?_
  rw [of.declared.log.name]
  rw [of.declared.log.choices, logChoices] at values ⊢
  simp only [List.map_cons, List.map_nil, List.cons.injEq] at values
  obtain ⟨enable, level, destination, all, configuration, parser, short, _⟩ := values
  rw [Reading.logRows]
  simp only [List.forall₂_cons, enable, level, destination, all, configuration, parser, short]
  exact ⟨⟨rfl, (variableBool _).1⟩, ⟨rfl, variableQuoted rfl _⟩, ⟨rfl, variableQuoted rfl _⟩,
    ⟨rfl, (variableBool _).1⟩, ⟨rfl, (variableBool _).1⟩, ⟨rfl, (variableBool _).1⟩,
    ⟨rfl, (variableBool _).1⟩, .nil⟩

theorem decodeAssigned (of : c.Of s) : Store.sectionVariables false s.decode =
    ⟨c.decodeRows.map fun row => row.1 ++ "=" ++ row.2, none⟩ := by
  have values := decodeValues of
  refine sectionAssigned ?_
  rw [of.declared.decode.name]
  rw [of.declared.decode.choices, decodeChoices] at values ⊢
  simp only [List.map_cons, List.map_nil, List.cons.injEq] at values
  rw [Reading.decodeRows]
  simp only [List.forall₂_cons, values.1]
  exact ⟨⟨rfl, variableNatural rfl rfl c.brief⟩, .nil⟩

theorem assigned (of : c.Of s) :
    s.assignments false = ⟨c.rows.map fun row => row.1 ++ "=" ++ row.2, none⟩ := by
  rw [Store.assignments, declaredShown of.declared, List.map_cons, List.map_singleton,
    logAssigned of, decodeAssigned of, Reading.rows, List.map_append]
  simp [Listing.join, Listing.append, Listing.empty]

theorem rowNames (c : Reading) : c.rows.map Prod.fst =
    (logSection.slots ++ decodeSection.slots).map fun r => pathOf "." r.1 r.2.name := by
  have names : c.rows.map Prod.fst = ["prefixsid.log.enable", "prefixsid.log.level",
    "prefixsid.log.destination", "prefixsid.log.all", "prefixsid.log.configuration",
    "prefixsid.log.parser", "prefixsid.log.short", "prefixsid.decode.siblings"] := rfl
  rw [names]
  decide

theorem rowsNamed (c : Reading) : ∀ row ∈ c.rows, NameOf row.1 := by
  have each : ∀ name ∈ c.rows.map Prod.fst, NameOf name := by
    rw [rowNames]
    unfold NameOf
    decide
  exact fun row member => each row.1 (List.mem_map_of_mem member)

theorem rowsPut (c : Reading) (base : Variables) :
    ∀ row ∈ c.rows, (base.putAll c.rows).get? row.1 = some row.2 := by
  have apart : (c.rows.map Prod.fst).Nodup := by
    rw [rowNames]
    decide
  exact fun row member => putAllGiven apart member

theorem linesSplit (of : c.Of s) : (s.assignments false).lines.map nameAndText = c.rows := by
  rw [assigned of, List.map_map]
  refine List.map_congr_left (fun row member => ?_) |>.trans (List.map_id _)
  exact nameAndTextOf (rowsNamed c row member).2.1 row.2

theorem rowsNul (c : Reading) :
    (∃ row ∈ c.rows, '\x00' ∈ row.2.toList) ↔ '\x00' ∈ c.destination.toList := by
  have bool : ∀ b : Bool, '\x00' ∉ (if b then "true" else "false").toList := by decide
  have level : '\x00' ∉ (addQuotes c.level).toList := by
    have each : ∀ name ∈ Log.severityNames.map Prod.fst, '\x00' ∉ (addQuotes name).toList := by
      decide
    exact each c.level (levelKnown c.known)
  have number : '\x00' ∉ (toString c.siblings).toList := by
    rw [Nat.toString_eq_ofList_toDigits, String.toList_ofList]
    intro member
    have digit := Nat.isDigit_of_mem_toDigits (by decide) (by decide) member
    cases digit
  have quoted : '\x00' ∈ (addQuotes c.destination).toList ↔ '\x00' ∈ c.destination.toList := by
    rw [addQuotesList]
    simp
  simp only [Reading.rows, Reading.logRows, Reading.decodeRows, List.cons_append, List.nil_append,
    List.exists_mem_cons_iff, List.not_mem_nil, false_and, exists_false, or_false, bool, level,
    number, quoted, false_or]

structure Supplied (c : Reading) (environment : Variables) : Prop where
  level : environment.get? "prefixsid.log.level" = some c.level
  others : ∀ row ∈ c.rows, row.1 ≠ "prefixsid.log.level" → environment.get? row.1 = some row.2

theorem logSupplied (of : c.Of s) (given : Supplied c environment) : ∀ o ∈ s.log.choices, ∃ t,
    environment.get? (pathOf "." s.log.name o.name) = some t ∧
      o.parse t = .ok (s.log.valueOf o) := by
  have values := logValues of
  rw [of.declared.log.name]
  rw [of.declared.log.choices, logChoices] at values ⊢
  simp only [List.map_cons, List.map_nil, List.cons.injEq] at values
  obtain ⟨enable, level, destination, all, configuration, parser, short, _⟩ := values
  have row : ∀ row ∈ c.logRows, row.1 ≠ "prefixsid.log.level" →
      environment.get? row.1 = some row.2 := fun row member =>
    given.others row (List.mem_append_left _ member)
  simp only [Reading.logRows, List.forall_mem_cons] at row
  obtain ⟨enableRow, _, destinationRow, allRow, configurationRow, parserRow, shortRow, _⟩ := row
  simp only [List.forall_mem_cons, enable, level, destination, all, configuration, parser, short]
  exact ⟨⟨_, enableRow (by decide), (variableBool _).2⟩, ⟨_, given.level, levelRead rfl c.known⟩,
    ⟨_, destinationRow (by decide), quotedRead rfl rfl c.unquoted⟩,
    ⟨_, allRow (by decide), (variableBool _).2⟩,
    ⟨_, configurationRow (by decide), (variableBool _).2⟩,
    ⟨_, parserRow (by decide), (variableBool _).2⟩,
    ⟨_, shortRow (by decide), (variableBool _).2⟩, fun _ member => nomatch member⟩

theorem decodeSupplied (of : c.Of s) (given : Supplied c environment) : ∀ o ∈ s.decode.choices, ∃ t,
    environment.get? (pathOf "." s.decode.name o.name) = some t ∧
      o.parse t = .ok (s.decode.valueOf o) := by
  have values := decodeValues of
  rw [of.declared.decode.name]
  rw [of.declared.decode.choices, decodeChoices] at values ⊢
  simp only [List.map_cons, List.map_nil, List.cons.injEq] at values
  have other : "prefixsid.decode.siblings" ≠ "prefixsid.log.level" := by decide
  have row := given.others ("prefixsid.decode.siblings", toString c.siblings)
    (List.mem_append_right _ List.mem_cons_self) other
  rw [List.forall_mem_singleton, values.1]
  exact ⟨_, row, naturalRead rfl rfl rfl c.brief⟩

theorem loadedFrom (declared : Declared s)
    (given : ∀ d ∈ [s.log, s.decode], ∀ o ∈ d.choices, ∃ t,
      environment.get? (pathOf "." d.name o.name) = some t ∧ o.parse t = .ok (d.valueOf o)) :
    ∃ loaded, Store.fresh.load ⟨environment, none⟩ = (loaded, none) ∧
      loaded.log.items = s.log.items ∧ loaded.decode.items = s.decode.items := by
  have back : ∀ d ∈ [s.log, s.decode],
      (∀ r ∈ d.slots, ¬ Refused (textOf environment Ini.File.empty) r) ∧
        d.slots.map (heldRow (textOf environment Ini.File.empty)) = d.rows := by
    refine fun d shown => slotsBack fun o member => ?_
    obtain ⟨t, here, parsed⟩ := given d shown o member
    have text : textOf environment Ini.File.empty d.name o.name = some t := by
      rw [textOf, here, Option.some_or, Option.some_or]
    refine ⟨?_, by simp only [heldRow, text, Option.map_some, parsed]⟩
    rintro ⟨u, e, other, refused⟩
    rw [text] at other
    cases other
    rw [parsed] at refused
    cases refused
  rw [List.forall_mem_cons, List.forall_mem_singleton] at back
  obtain ⟨loaded, done, log, decode⟩ := @storeBack s Ini.File.empty ⟨environment, none⟩ declared rfl
    back.1 back.2
  refine ⟨loaded, done, ?_, ?_⟩
  · rw [← itemsRows, log, itemsRows]
  · rw [← itemsRows, decode, itemsRows]

theorem levelStops {t : String} (on : (environment.get? "prefixsid.log.enable").isSome)
    (given : environment.get? "prefixsid.log.level" = some t) {e : ConversionError}
    (refused : readLevel t = .error e) :
    (Store.fresh.load ⟨environment, none⟩).2 = some (.value "log" "level" t) := by
  obtain ⟨u, enable⟩ := Option.isSome_iff_exists.mp on
  have texts : ∀ {name v : String}, environment.get? (pathOf "." logSection.name name) = some v →
      textOf environment Ini.File.empty logSection.name name = some v := fun here => by
    rw [textOf, here, Option.some_or, Option.some_or]
  have stopped : (logSection.load (textOf environment Ini.File.empty logSection.name)).2 =
      some (.value "log" "level" t) := by
    have settable := logSettable
    rw [Section.load]
    rw [logChoices] at settable ⊢
    rw [loadTaken settable (texts enable) booleanTaken, loadRefused (t := t) (e := e)]
    · rfl
    · exact texts given
    · exact levelRefused rfl refused
  rw [@readable ⟨environment, none⟩ Ini.File.empty rfl, Store.read]
  dsimp only [Store.fresh]
  cases loaded : logSection.load (textOf environment Ini.File.empty logSection.name) with
  | mk log e =>
    rw [loaded] at stopped
    cases stopped
    rfl

theorem rowsStop (c : Reading) (base : Variables) :
    (Store.fresh.load ⟨base.putAll c.rows, none⟩).2 =
      some (.value "log" "level" (addQuotes c.level)) := by
  have put := rowsPut c base
  exact levelStops (Option.isSome_of_mem (put _ (.head _))) (put _ (.tail _ (.head _)))
    (levelQuoted c.known)

end Stores

section Results

/-- A configuration is written as one assignment for each option of the log and of decoding. These
cannot be made if the destination holds what no variable can. A load from all of them is refused at
the level for the quotes around it; once it stands without these, each option has its value again. -/
theorem assignmentsRefused (sources : Sources) (base : Variables) :
    let s := (Store.fresh.load sources).1
    let rows := (s.assignments false).lines.map nameAndText
    ∃ level destination, s.log.get "level" = .ok (.text level) ∧
      s.log.get "destination" = .ok (.text destination) ∧ (s.assignments false).failure = none ∧
      rows.map Prod.fst =
        (logSection.slots ++ decodeSection.slots).map (fun r => pathOf "." r.1 r.2.name) ∧
      ("prefixsid.log.level", addQuotes level) ∈ rows ∧
      ('\x00' ∈ destination.toList → base.assignAll rows = .error .nul) ∧
      ('\x00' ∉ destination.toList → ∃ vs, base.assignAll rows = .ok vs ∧
        (Store.fresh.load ⟨vs, none⟩).2 = some (.value "log" "level" (addQuotes level)) ∧
        ∃ loaded, Store.fresh.load ⟨vs.put "prefixsid.log.level" level, none⟩ = (loaded, none) ∧
          loaded.log.items = s.log.items ∧ loaded.decode.items = s.decode.items) := by
  intro s rows
  obtain ⟨c, of⟩ := loadedReading sources
  have split : rows = c.rows := linesSplit of
  have settable := alikeSettable of.declared.log logSettable
  have made := @assignAllNamed base c.rows (rowsNamed c)
  simp only [rowsNul] at made
  rw [split]
  refine ⟨c.level, c.destination, getItem settable (of.log ▸ .tail _ (.head _)),
    getItem settable (of.log ▸ .tail _ (.tail _ (.head _))), by rw [assigned of], rowNames c,
    .tail _ (.head _), fun nul => by rw [made, if_pos nul], fun noNul => ?_⟩
  rw [if_neg noNul] at made
  have given : Supplied c ((base.putAll c.rows).put "prefixsid.log.level" c.level) := by
    refine ⟨by rw [Variables.getPut, if_pos rfl], fun row member other => ?_⟩
    rw [Variables.getPut, if_neg other, rowsPut c base row member]
  refine ⟨_, made, rowsStop c base, loadedFrom of.declared ?_⟩
  rw [List.forall_mem_cons, List.forall_mem_singleton]
  exact ⟨logSupplied of given, decodeSupplied of given⟩

theorem defaultsRefused :
    let rows := ((Store.fresh.load ⟨[], none⟩).1.assignments false).lines.map nameAndText
    ∃ vs, Variables.assignAll [] rows = .ok vs ∧
      vs.get? "prefixsid.log.level" = some "'INFO'" ∧
      (Store.fresh.load ⟨vs, none⟩).2 = some (.value "log" "level" "'INFO'") := by
  intro rows
  let c : Reading := ⟨true, "INFO", "stderr", false, false, false, true, 3, false, by decide,
    by decide, by decide⟩
  have of : c.Of (Store.fresh.load ⟨[], none⟩).1 :=
    ⟨completeDeclared (loadedComplete _), by decide +kernel, by decide +kernel, by decide +kernel⟩
  have each : rows = c.rows := linesSplit of
  have made := @assignAllNamed [] c.rows (rowsNamed c)
  rw [if_neg (by decide)] at made
  rw [each]
  exact ⟨_, made, rowsPut c [] _ (.tail _ (.head _)), rowsStop c []⟩

end Results

end SidAttribute.Config
