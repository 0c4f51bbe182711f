import SidAttribute.Proofs.Config.Loading

/-! What a loaded configuration is, however the load ended: the sections of the program, and in them
truth values, the name of a level, a destination without quotes at its ends, and a number of siblings
that can be written. -/
namespace SidAttribute.Config
open Text

section Sections

variable {c d : Section} {o : Choice}

structure Alike (c d : Section) : Prop where
  name : c.name = d.name
  hidden : c.hidden = d.hidden
  choices : c.choices = d.choices

structure Declared (s : Store) : Prop where
  log : Alike s.log logSection
  decode : Alike s.decode decodeSection
  debug : Alike s.debug debugSection

theorem alikeSlots {c d : Section} (alike : Alike c d) : c.slots = d.slots := by
  rw [Section.slots, Section.slots, alike.name, alike.choices]

theorem itemsRows (d : Section) : d.rows.map Prod.snd = d.items := by
  rw [Section.rows, List.map_map]
  exact List.map_id _

theorem alikeSettable (alike : Alike c d) (settable : Settable d d.choices) :
    Settable c c.choices := by
  rw [alike.choices]
  exact ⟨fun o member => alike.choices ▸ settable.declared o member, settable.plain, settable.apart⟩

theorem getItem {name : String} {v : Value} (settable : Settable c c.choices)
    (member : (name, v) ∈ c.items) : c.get name = .ok v := by
  obtain ⟨o, declared, same⟩ := List.mem_map.mp member
  cases same
  exact getDeclared settable declared

theorem setKnown (name : String) (alike : Alike c d) (settable : Settable d d.choices)
    (known : name ∈ d.choices.map Choice.name) (v : Value) :
    Alike (c.set name v) d ∧
      (c.set name v).items = c.items.map fun row => if row.1 = name then (row.1, v) else row := by
  rw [← alike.choices] at known
  obtain ⟨o, member, rfl⟩ := List.mem_map.mp known
  rw [setDeclared member ((alikeSettable alike settable).plain o member)]
  refine ⟨⟨alike.name, alike.hidden, alike.choices⟩, ?_⟩
  simp only [Section.items, Section.valueOf, List.map_map, Function.comp_def, Values.getPut]
  refine List.map_congr_left fun p _ => ?_
  split <;> rfl

structure Filled (c d : Section) : Prop where
  alike : Alike c d
  holds : ∀ o ∈ d.choices, o.Holds (c.valueOf o)

theorem filledFresh (unset : c.values = [])
    (inside : ∀ r ∈ c.slots, r ∈ slots) : Filled c c := by
  refine ⟨⟨rfl, rfl, rfl⟩, fun o member => ?_⟩
  have value : c.valueOf o = o.fallback := by rw [Section.valueOf, unset]; rfl
  rw [value]
  exact (defaultHolds (inside _ (List.mem_map_of_mem member))).2.2

theorem filledLoaded (texts : String → String → Option String) (settable : Settable c c.choices)
    (unset : c.values = []) (inside : ∀ r ∈ c.slots, r ∈ slots) :
    Filled (c.load (texts c.name)).1 c := by
  have shape := (@loadFrame c (texts c.name) c.choices settable).1
  have alike : Alike (c.load (texts c.name)).1 c := by
    rw [Section.load, shape]
    exact ⟨rfl, rfl, rfl⟩
  refine ⟨alike, ?_⟩
  have held := takenHolds inside (sectionTakes texts settable unset).1
  rw [Section.rows, Section.items, List.map_map, alike.choices, Section.slots,
    List.forall₂_map_left_iff, List.forall₂_map_right_iff, List.forall₂_same] at held
  exact fun o member => (held o member).2.2

end Sections

section Stores

theorem logInside : ∀ r ∈ logSection.slots, r ∈ slots := fun _ member =>
  List.mem_append_left _ member

theorem decodeInside : ∀ r ∈ decodeSection.slots, r ∈ slots := fun _ member =>
  slotsSections ▸ List.mem_append_right _ (List.mem_append_left _ member)

theorem debugInside : ∀ r ∈ debugSection.slots, r ∈ slots := fun _ member =>
  slotsSections ▸ List.mem_append_right _ (List.mem_append_right _ member)

theorem booleanTaken {name help t : String} {fallback : Bool} :
    (booleanChoice name fallback help).parse t = .ok (.bool (readBool t)) := rfl

theorem debugFine (texts : String → String → Option String) :
    ∀ r ∈ debugSection.slots, ¬ Refused texts r := by
  rw [Section.slots, debugChoices, List.map_singleton, List.forall_mem_singleton]
  rintro ⟨t, e, _, refused⟩
  rw [booleanTaken] at refused
  cases refused

structure Complete (s : Store) : Prop where
  log : Filled s.log logSection
  decode : Filled s.decode decodeSection
  debug : Filled s.debug debugSection

theorem freshComplete (done : Bool) : Complete { Store.fresh with loaded := done } :=
  ⟨filledFresh rfl logInside, filledFresh rfl decodeInside, filledFresh rfl debugInside⟩

theorem loadedComplete (sources : Sources) : Complete (Store.fresh.load sources).1 := by
  cases parsed : sources.file with
  | error e =>
    rw [unreadable parsed]
    exact freshComplete true
  | ok file =>
    rw [readable parsed, Store.read]
    dsimp only [Store.fresh]
    have log := filledLoaded (textOf sources.environment file) logSettable rfl logInside
    have decode := filledLoaded (textOf sources.environment file) decodeSettable rfl decodeInside
    have debug := filledLoaded (textOf sources.environment file) debugSettable rfl debugInside
    cases first : logSection.load (textOf sources.environment file logSection.name) with
    | mk log' e =>
      rw [first] at log
      cases e with
      | some e => exact ⟨log, (freshComplete true).decode, (freshComplete true).debug⟩
      | none =>
        dsimp only
        cases second : decodeSection.load (textOf sources.environment file decodeSection.name) with
        | mk decode' e =>
          rw [second] at decode
          cases e with
          | some e => exact ⟨log, decode, (freshComplete true).debug⟩
          | none => exact ⟨log, decode, debug⟩

theorem completeDeclared {s : Store} (complete : Complete s) : Declared s :=
  ⟨complete.log.alike, complete.decode.alike, complete.debug.alike⟩

end Stores

section Readings

structure Reading where
  enable : Bool
  level : String
  destination : String
  all : Bool
  configuration : Bool
  parser : Bool
  short : Bool
  siblings : Nat
  pdb : Bool
  known : (Log.severity? level).isSome
  unquoted : strip isQuote destination.toList = destination.toList
  brief : (Nat.toDigits 10 siblings).length ≤ maxDigits

structure Reading.Of (c : Reading) (s : Store) : Prop where
  declared : Declared s
  log : s.log.items = [("enable", .bool c.enable), ("level", .text c.level),
    ("destination", .text c.destination), ("all", .bool c.all),
    ("configuration", .bool c.configuration), ("parser", .bool c.parser), ("short", .bool c.short)]
  decode : s.decode.items = [("siblings", .int c.siblings)]
  debug : s.debug.items = [("pdb", .bool c.pdb)]

theorem Reading.Of.unique {c other : Reading} {s : Store} (of : c.Of s) (too : other.Of s) :
    other = c := by
  have log := too.log.symm.trans of.log
  have decode := too.decode.symm.trans of.decode
  have debug := too.debug.symm.trans of.debug
  simp only [List.cons.injEq, Prod.mk.injEq, Value.bool.injEq, Value.text.injEq, Value.int.injEq,
    Int.natCast_inj, true_and, and_true] at log decode debug
  obtain ⟨enable, level, destination, all, configuration, parser, short⟩ := log
  cases c
  cases other
  subst enable level destination all configuration parser short decode debug
  rfl

variable {o : Choice} {v : Value}

theorem levelKnown {level : String} (known : (Log.severity? level).isSome) :
    level ∈ Log.severityNames.map Prod.fst := by
  rw [Log.severity?, Option.isSome_map, List.find?_isSome] at known
  obtain ⟨row, member, same⟩ := known
  exact beq_iff_eq.mp same ▸ List.mem_map_of_mem member

theorem positiveNumber {v : Value} (fits : Conversion.positive.yields v = true) :
    ∃ n : Nat, v = .int n := by
  cases v with
  | int n =>
    have least : 0 ≤ n := by simpa [Conversion.yields] using fits
    exact ⟨n.toNat, congrArg Value.int (Int.toNat_of_nonneg least).symm⟩
  | _ => simp [Conversion.yields] at fits

theorem holdsBool {name help : String} {fallback : Bool}
    (holds : (booleanChoice name fallback help).Holds v) : ∃ b, v = .bool b := by
  obtain ⟨c, reader, fits⟩ := holds.fitting
  cases reader
  cases v with
  | bool b => exact ⟨b, rfl⟩
  | _ => simp [Conversion.yields] at fits

theorem holdsLevel (reader : o.reader = some .logLevel) (holds : o.Holds v) :
    ∃ name, v = .text name ∧ (Log.severity? name).isSome := by
  obtain ⟨c, same, fits⟩ := holds.fitting
  rw [reader] at same
  cases same
  cases v with
  | text name => exact ⟨name, rfl, fits⟩
  | _ => simp [Conversion.yields] at fits

theorem holdsText {fallback : String} (default : o.fallback = .text fallback)
    (reader : o.reader = none) (plain : strip isQuote fallback.toList = fallback.toList)
    (holds : o.Holds v) : ∃ d, v = .text d ∧ strip isQuote d.toList = d.toList := by
  rcases holds.origin with rfl | ⟨t, parsed⟩
  · exact ⟨fallback, default, plain⟩
  · rw [Choice.parse, Choice.read, reader, default] at parsed
    cases parsed
    exact ⟨unquote t, rfl, by rw [unquote, String.toList_ofList, stripTwice]⟩

theorem holdsNatural {k : Nat} (default : o.fallback = .int k)
    (reader : o.reader = some .positive) (short : (Nat.toDigits 10 k).length ≤ maxDigits)
    (holds : o.Holds v) : ∃ n : Nat, v = .int n ∧ (Nat.toDigits 10 n).length ≤ maxDigits := by
  rcases holds.origin with rfl | ⟨t, parsed⟩
  · exact ⟨k, default, short⟩
  · have applied : Conversion.positive.apply (.text t) = .ok v := by
      rw [Choice.parse, Choice.read, reader] at parsed
      exact parsed
    obtain ⟨n, rfl⟩ := positiveNumber (applyYields applied)
    refine ⟨n, rfl, ?_⟩
    cases read : readInt t with
    | error e =>
      simp [Conversion.apply, toNumber, read, Except.mapError, bind, Except.bind] at applied
    | ok m =>
      simp only [Conversion.apply, toNumber, read, Except.mapError, bind, Except.bind] at applied
      split at applied
      · unfold refuseNegative at applied
        split at applied <;> cases applied
      · cases applied
        exact readIntShort read

theorem loadedReading (sources : Sources) : ∃ c : Reading, c.Of (Store.fresh.load sources).1 := by
  have complete := loadedComplete sources
  have declared := completeDeclared complete
  have log := complete.log.holds
  have decode := complete.decode.holds
  have debug := complete.debug.holds
  rw [logChoices] at log
  rw [decodeChoices] at decode
  rw [debugChoices] at debug
  simp only [List.forall_mem_cons] at log decode debug
  obtain ⟨enable, level, destination, all, configuration, parser, short, _⟩ := log
  obtain ⟨enable, enableIs⟩ := holdsBool enable
  obtain ⟨level, levelIs, known⟩ := holdsLevel rfl level
  obtain ⟨destination, destinationIs, unquoted⟩ := holdsText rfl rfl (by decide) destination
  obtain ⟨all, allIs⟩ := holdsBool all
  obtain ⟨configuration, configurationIs⟩ := holdsBool configuration
  obtain ⟨parser, parserIs⟩ := holdsBool parser
  obtain ⟨short, shortIs⟩ := holdsBool short
  obtain ⟨siblings, siblingsIs, brief⟩ := @holdsNatural _ _ 3 rfl rfl (by decide) decode.1
  obtain ⟨pdb, pdbIs⟩ := holdsBool debug.1
  refine ⟨⟨enable, level, destination, all, configuration, parser, short, siblings, pdb, known,
    unquoted, brief⟩, declared, ?_, ?_, ?_⟩
  · rw [Section.items, declared.log.choices, logChoices]
    simp only [List.map_cons, List.map_nil, enableIs, levelIs, destinationIs, allIs, configurationIs,
      parserIs, shortIs]
    rfl
  · rw [Section.items, declared.decode.choices, decodeChoices]
    simp only [List.map_cons, List.map_nil, siblingsIs]
  · rw [Section.items, declared.debug.choices, debugChoices]
    simp only [List.map_cons, List.map_nil, pdbIs]
    rfl

end Readings

end SidAttribute.Config
