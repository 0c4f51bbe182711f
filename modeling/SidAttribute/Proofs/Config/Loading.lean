import Mathlib.Data.List.Forall2
import Mathlib.Data.List.Nodup
import SidAttribute.Config.Store

/-! Loading of the configuration, from the first option to the last or to the first whose text is
refused. What was read before it stays, it and all behind it keep their defaults, and a store that was
loaded once answers to no later load. So in every state that edits, loads and fresh starts lead to each
option has its default or a value of its own reader. -/
namespace SidAttribute.Config

abbrev Slot := String × Choice

def Section.slots (s : Section) : List Slot := s.choices.map (s.name, ·)

def Section.rows (s : Section) : List (String × String × Value) :=
  s.items.map fun (name, value) => (s.name, name, value)

def slots : List Slot := Store.fresh.sections.flatMap Section.slots

section Taking

variable (text : String → String → Option String)

def Refused (r : Slot) : Prop := ∃ t e, text r.1 r.2.name = some t ∧ r.2.parse t = .error e

def heldRow (r : Slot) : String × String × Value :=
  (r.1, r.2.name, match (text r.1 r.2.name).map r.2.parse with
    | some (.ok v) => v
    | _ => r.2.fallback)

def defaultRow (r : Slot) : String × String × Value := (r.1, r.2.name, r.2.fallback)

inductive Taken (options : List Slot) :
    List (String × String × Value) → Option LoadError → Prop where
  | all (fine : ∀ r ∈ options, ¬ Refused text r) : Taken options (options.map (heldRow text)) none
  | front {before after : List Slot} {bad : Slot} {t : String} {e : ConversionError}
      (split : options = before ++ bad :: after) (fine : ∀ r ∈ before, ¬ Refused text r)
      (given : text bad.1 bad.2.name = some t) (refused : bad.2.parse t = .error e) :
      Taken options (before.map (heldRow text) ++ (bad :: after).map defaultRow)
        (some (.value bad.1 bad.2.name t))

variable {text} {one two : List Slot} {rows more : List (String × String × Value)}

theorem takenThen {e : Option LoadError} (first : Taken text one rows none)
    (rest : Taken text two more e) : Taken text (one ++ two) (rows ++ more) e := by
  cases first with
  | all fine =>
    cases rest with
    | all others =>
      rw [← List.map_append]
      refine .all fun r member => ?_
      rcases List.mem_append.mp member with front | back
      · exact fine r front
      · exact others r back
    | @front before after bad t e split others given refused =>
      rw [← List.append_assoc, ← List.map_append]
      refine .front (by rw [split, List.append_assoc]) (fun r member => ?_) given refused
      rcases List.mem_append.mp member with front | back
      · exact fine r front
      · exact others r back

theorem takenStopped {e : LoadError} (first : Taken text one rows (some e)) (two : List Slot) :
    Taken text (one ++ two) (rows ++ two.map defaultRow) (some e) := by
  cases first with
  | @front before after bad t e split fine given refused =>
    rw [List.append_assoc, ← List.map_append]
    exact .front (by rw [split, List.append_assoc]; rfl) fine given refused

variable {r : Slot} {t : String} {v : Value}

theorem takenAbsent (absent : text r.1 r.2.name = none) :
    Taken text [r] [(r.1, r.2.name, r.2.fallback)] none := by
  have row : heldRow text r = (r.1, r.2.name, r.2.fallback) := by
    simp only [heldRow, absent, Option.map_none]
  rw [← row]
  refine .all (List.forall_mem_singleton.mpr ?_)
  rintro ⟨t, e, there, _⟩
  rw [absent] at there
  cases there

theorem takenRead (given : text r.1 r.2.name = some t) (read : r.2.parse t = .ok v) :
    Taken text [r] [(r.1, r.2.name, v)] none := by
  have row : heldRow text r = (r.1, r.2.name, v) := by
    simp only [heldRow, given, Option.map_some, read]
  rw [← row]
  refine .all (List.forall_mem_singleton.mpr ?_)
  rintro ⟨u, e, there, bad⟩
  rw [given] at there
  cases there
  rw [read] at bad
  cases bad

end Taking

section Sections

variable {s : Section} {text : String → Option String} {o : Choice} {os : List Choice}

structure Settable (s : Section) (os : List Choice) : Prop where
  declared : ∀ o ∈ os, o ∈ s.choices
  plain : ∀ o ∈ os, undashed o.name = o.name
  apart : (os.map Choice.name).Nodup

theorem setDeclared (member : o ∈ s.choices) (plain : undashed o.name = o.name) (v : Value) :
    s.set o.name v = { s with values := s.values.put o.name v } := by
  have known : (s.choice? o.name).isSome := by
    rw [Section.choice?, List.find?_isSome]
    exact ⟨o, member, beq_self_eq_true _⟩
  obtain ⟨found, here⟩ := Option.isSome_iff_exists.mp known
  unfold Section.set
  dsimp only
  rw [plain, here]

theorem getDeclared (settable : Settable s s.choices) (member : o ∈ s.choices) :
    s.get o.name = .ok (s.valueOf o) := by
  have known : (s.choices.find? fun p => p.name == o.name).isSome :=
    List.find?_isSome.mpr ⟨o, member, beq_self_eq_true _⟩
  obtain ⟨found, here⟩ := Option.isSome_iff_exists.mp known
  have name : found.name = o.name := by simpa using List.find?_some here
  have same : found = o :=
    List.inj_on_of_nodup_map settable.apart (List.mem_of_find?_eq_some here) member name
  rw [Section.get]
  rw [settable.plain o member, Section.choice?, here, same]

theorem settableRest (settable : Settable s (o :: os)) (values : Values) :
    Settable { s with values := values } os :=
  ⟨fun p member => settable.declared p (List.mem_cons_of_mem o member),
    fun p member => settable.plain p (List.mem_cons_of_mem o member),
    (List.nodup_cons.mp settable.apart).2⟩

theorem loadNone (absent : text o.name = none) :
    s.loadChoices text (o :: os) = s.loadChoices text os := by
  rw [Section.loadChoices, absent]

theorem loadTaken (settable : Settable s (o :: os)) {t : String} {v : Value}
    (given : text o.name = some t) (read : o.parse t = .ok v) :
    s.loadChoices text (o :: os) =
      { s with values := s.values.put o.name v }.loadChoices text os := by
  rw [Section.loadChoices, given]
  dsimp only
  rw [read, ← setDeclared (settable.declared o List.mem_cons_self)
    (settable.plain o List.mem_cons_self)]

theorem loadRefused {t : String} {e : ConversionError} (given : text o.name = some t)
    (refused : o.parse t = .error e) :
    s.loadChoices text (o :: os) = (s, some (.value s.name o.name t)) := by
  rw [Section.loadChoices, given]
  dsimp only
  rw [refused]

theorem loadFrame (settable : Settable s os) :
    (s.loadChoices text os).1 = { s with values := (s.loadChoices text os).1.values } ∧
      ∀ name ∉ os.map Choice.name,
        (s.loadChoices text os).1.values.get? name = s.values.get? name := by
  induction os generalizing s with
  | nil => exact ⟨rfl, fun _ _ => rfl⟩
  | cons o rest ih =>
    cases given : text o.name with
    | none =>
      obtain ⟨shape, others⟩ := ih (settableRest settable s.values)
      rw [loadNone given]
      exact ⟨shape, fun name other => others name fun member =>
        other (List.mem_cons_of_mem _ member)⟩
    | some t =>
      cases read : o.parse t with
      | error e =>
        rw [loadRefused given read]
        exact ⟨rfl, fun _ _ => rfl⟩
      | ok v =>
        obtain ⟨shape, others⟩ := ih (settableRest settable (s.values.put o.name v))
        rw [loadTaken settable given read]
        refine ⟨shape, fun name other => ?_⟩
        have apart : name ≠ o.name := fun same => other (same ▸ List.mem_cons_self)
        rw [others name fun member => other (List.mem_cons_of_mem _ member), Values.getPut,
          if_neg apart]

theorem valueUnset (unset : s.values.get? o.name = none) : s.valueOf o = o.fallback := by
  rw [Section.valueOf, unset, Option.getD_none]

theorem takenRefused (texts : String → String → Option String)
    (unset : ∀ p ∈ o :: os, s.values.get? p.name = none) {t : String} {e : ConversionError}
    (given : texts s.name o.name = some t) (refused : o.parse t = .error e) :
    Taken texts ((o :: os).map (s.name, ·)) ((o :: os).map fun p => (s.name, p.name, s.valueOf p))
      (some (.value s.name o.name t)) := by
  have defaults : (o :: os).map (fun p => (s.name, p.name, s.valueOf p)) =
      ((o :: os).map (s.name, ·)).map defaultRow := by
    rw [List.map_map]
    exact List.map_congr_left fun p member => by rw [valueUnset (unset p member)]; rfl
  rw [defaults]
  exact @Taken.front texts _ [] (os.map (s.name, ·)) (s.name, o) t e rfl
    (fun _ member => nomatch member) given refused

/-- The induction is on the options that are left; those read before have their values, and each of
the others has none yet. -/
theorem loadTakes (texts : String → String → Option String) (settable : Settable s os)
    (unset : ∀ o ∈ os, s.values.get? o.name = none) :
    Taken texts (os.map (s.name, ·))
      (os.map fun o => (s.name, o.name, (s.loadChoices (texts s.name) os).1.valueOf o))
      (s.loadChoices (texts s.name) os).2 := by
  induction os generalizing s with
  | nil => exact .all fun _ member => nomatch member
  | cons o rest ih =>
    have fresh : o.name ∉ rest.map Choice.name := (List.nodup_cons.mp settable.apart).1
    have later : ∀ p ∈ rest, s.values.get? p.name = none := fun p member =>
      unset p (List.mem_cons_of_mem o member)
    cases given : texts s.name o.name with
    | none =>
      have own := @takenAbsent texts (s.name, o) given
      have value : (s.loadChoices (texts s.name) rest).1.valueOf o = o.fallback := by
        refine valueUnset ?_
        rw [(loadFrame (settableRest settable s.values)).2 _ fresh, unset o List.mem_cons_self]
      have more := takenThen own (ih (settableRest settable s.values) later)
      rw [loadNone given]
      simpa only [List.map_cons, value, List.singleton_append] using more
    | some t =>
      cases read : o.parse t with
      | error e =>
        rw [loadRefused given read]
        exact takenRefused texts unset given read
      | ok v =>
        have own := @takenRead texts (s.name, o) t v given read
        obtain ⟨next, made⟩ : ∃ next : Section, next = { s with values := s.values.put o.name v } :=
          ⟨_, rfl⟩
        have settableNext : Settable next rest := made ▸ settableRest settable _
        have name : next.name = s.name := by rw [made]
        have put : next.values = s.values.put o.name v := by rw [made]
        have unsetNext : ∀ p ∈ rest, next.values.get? p.name = none := by
          intro p member
          have apart : p.name ≠ o.name := fun same =>
            fresh (same ▸ List.mem_map_of_mem member)
          rw [put, Values.getPut, if_neg apart]
          exact later p member
        have value : (next.loadChoices (texts s.name) rest).1.valueOf o = v := by
          rw [Section.valueOf, (loadFrame settableNext).2 _ fresh, put, Values.getPut, if_pos rfl,
            Option.getD_some]
        have more := ih settableNext unsetNext
        rw [name] at more
        rw [loadTaken settable given read, ← made]
        simpa only [List.map_cons, value, List.singleton_append] using takenThen own more

theorem sectionTakes (texts : String → String → Option String) (settable : Settable s s.choices)
    (unset : s.values = []) :
    Taken texts s.slots (s.load (texts s.name)).1.rows (s.load (texts s.name)).2 ∧
      (s.load (texts s.name)).1.name = s.name := by
  have shape := (@loadFrame s (texts s.name) s.choices settable).1
  have name : (s.load (texts s.name)).1.name = s.name := by rw [Section.load, shape]
  have choices : (s.load (texts s.name)).1.choices = s.choices := by rw [Section.load, shape]
  refine ⟨?_, name⟩
  have rows : (s.load (texts s.name)).1.rows =
      s.choices.map fun o => (s.name, o.name, (s.load (texts s.name)).1.valueOf o) := by
    rw [Section.rows, Section.items, List.map_map, choices, name]
    rfl
  rw [rows]
  exact loadTakes texts settable fun o _ => by rw [unset]; rfl

end Sections

section Stores

def Sources.file (sources : Sources) : Except Ini.IniError Ini.File :=
  (sources.ini.map Ini.read).getD (.ok Ini.File.empty)

theorem logSettable : Settable logSection logSection.choices :=
  ⟨fun _ member => member, by decide, by decide⟩

theorem decodeSettable : Settable decodeSection decodeSection.choices :=
  ⟨fun _ member => member, by decide, by decide⟩

theorem debugSettable : Settable debugSection debugSection.choices :=
  ⟨fun _ member => member, by decide, by decide⟩

theorem logChoices : logSection.choices =
    [booleanChoice "enable" true "enable logging",
      ⟨"level", .text "INFO", "log message with at least the priority SYSLOG.<level>",
        some .logLevel, some .logLevel⟩,
      ⟨"destination", .text "stderr",
        "where logging should log: syslog, stdout, stderr or file:<filename>", none, none⟩,
      booleanChoice "all" false "report debug information for everything",
      booleanChoice "configuration" false "report configuration loading",
      booleanChoice "parser" false "report Prefix-SID TLV parsing details",
      booleanChoice "short" true "use short log format (not prepended with time,level,pid)"] := by
  decide

theorem decodeChoices : decodeSection.choices =
    [⟨"siblings", .int 3,
      "stop decoding a TLV level once more than this many sibling TLVs were seen",
      some .positive, none⟩] := by
  decide

theorem debugChoices : debugSection.choices =
    [booleanChoice "pdb" false "enable python debugger on errors"] := by
  decide

theorem storeRows (s : Store) : s.rows = s.log.rows ++ (s.decode.rows ++ s.debug.rows) := by
  simp [Store.rows, Store.sections, Section.rows]

theorem slotsSections : slots = logSection.slots ++ (decodeSection.slots ++ debugSection.slots) := rfl

theorem freshRows (s : Section) (unset : s.values = []) : s.rows = s.slots.map defaultRow := by
  rw [Section.rows, Section.items, Section.slots, List.map_map, List.map_map]
  refine List.map_congr_left fun o _ => ?_
  simp [defaultRow, Section.valueOf, unset, Values.get?]

theorem readTakes (texts : String → String → Option String) (done : Bool) :
    Taken texts slots ({ Store.fresh with loaded := done }.read texts).1.rows
      ({ Store.fresh with loaded := done }.read texts).2 := by
  obtain ⟨logTaken, _⟩ := sectionTakes texts logSettable rfl
  obtain ⟨decodeTaken, _⟩ := sectionTakes texts decodeSettable rfl
  obtain ⟨debugTaken, _⟩ := sectionTakes texts debugSettable rfl
  rw [slotsSections]
  unfold Store.read
  dsimp only [Store.fresh]
  cases first : logSection.load (texts logSection.name) with
  | mk log e =>
    rw [first] at logTaken
    cases e with
    | some e =>
      rw [storeRows, freshRows decodeSection rfl, freshRows debugSection rfl, ← List.map_append]
      exact takenStopped logTaken _
    | none =>
      cases second : decodeSection.load (texts decodeSection.name) with
      | mk decode e =>
        rw [second] at decodeTaken
        cases e with
        | some e =>
          rw [storeRows, freshRows debugSection rfl]
          exact takenThen logTaken (takenStopped decodeTaken _)
        | none =>
          rw [storeRows]
          exact takenThen logTaken (takenThen decodeTaken debugTaken)

end Stores

section Values

def Conversion.yields (c : Conversion) : Value → Bool
  | .bool _ => c == .boolean
  | .int n => c == .integer || c == .positive && decide (0 ≤ n)
  | .text s =>
    match c with
    | .string | .quoted | .lowercase => true
    | .logLevel => (Log.severity? s).isSome
    | _ => false
  | _ => false

theorem applyYields {c : Conversion} {v w : Value} (done : c.apply v = .ok w) : c.yields w = true := by
  cases c with
  | integer =>
    cases number : toNumber v with
    | error e => simp [Conversion.apply, number, Except.map] at done
    | ok n =>
      simp only [Conversion.apply, number, Except.map, Except.ok.injEq] at done
      rw [← done]
      rfl
  | positive =>
    cases number : toNumber v with
    | error e => simp [Conversion.apply, number, bind, Except.bind] at done
    | ok n =>
      simp only [Conversion.apply, number, bind, Except.bind] at done
      split at done
      · unfold refuseNegative at done
        split at done <;> cases done
      · next least =>
        cases done
        simpa [Conversion.yields] using least
  | boolean | string =>
    cases given : needText v with
    | error e => simp [Conversion.apply, given, Except.map] at done
    | ok s =>
      simp only [Conversion.apply, given, Except.map, Except.ok.injEq] at done
      rw [← done]
      rfl
  | quoted | lowercase =>
    cases text : written v with
    | error e => simp [Conversion.apply, text, Except.map] at done
    | ok s =>
      simp only [Conversion.apply, text, Except.map, Except.ok.injEq] at done
      rw [← done]
      rfl
  | logLevel =>
    cases given : needText v with
    | error e => simp [Conversion.apply, given, bind, Except.bind] at done
    | ok s =>
      simp only [Conversion.apply, given, bind, Except.bind, readLevel] at done
      split at done
      · next n known =>
        cases done
        simp only [Conversion.yields, known, Option.isSome_some]
      · cases done

/-- A value that an option can come to have: its default or what its own reader made of a text, and
in either case what that reader can make. -/
structure Choice.Holds (o : Choice) (v : Value) : Prop where
  origin : v = o.fallback ∨ ∃ t, o.parse t = .ok v
  fitting : ∃ c, o.reader.or (Choice.readerOf o.fallback) = some c ∧ c.yields v = true

def RowHolds (r : Slot) (row : String × String × Value) : Prop :=
  row.1 = r.1 ∧ row.2.1 = r.2.name ∧ r.2.Holds row.2.2

theorem slotsFit : ∀ r ∈ slots, ∃ c, r.2.reader.or (Choice.readerOf r.2.fallback) = some c ∧
    c.yields r.2.fallback = true := by
  have each : slots.all (fun r => (r.2.reader.or (Choice.readerOf r.2.fallback)).any
      fun c => c.yields r.2.fallback) = true := by decide
  intro r member
  exact (Option.any_eq_true ..).mp (List.all_eq_true.mp each r member)

theorem defaultHolds {r : Slot} (member : r ∈ slots) : RowHolds r (defaultRow r) :=
  ⟨rfl, rfl, .inl rfl, slotsFit r member⟩

theorem heldHolds (text : String → String → Option String) {r : Slot} (member : r ∈ slots) :
    RowHolds r (heldRow text r) := by
  unfold heldRow
  split
  · next v read =>
    obtain ⟨t, _, parsed⟩ := Option.map_eq_some_iff.mp read
    obtain ⟨c, reader, _⟩ := slotsFit r member
    refine ⟨rfl, rfl, .inr ⟨t, parsed⟩, c, reader, ?_⟩
    rw [Choice.parse, Choice.read, reader] at parsed
    exact applyYields parsed
  · exact defaultHolds member

theorem takenHolds {text : String → String → Option String} {options : List Slot}
    {rows : List (String × String × Value)} {e : Option LoadError}
    (inside : ∀ r ∈ options, r ∈ slots) (taken : Taken text options rows e) :
    List.Forall₂ RowHolds options rows := by
  cases taken with
  | all fine =>
    rw [List.forall₂_map_right_iff, List.forall₂_same]
    exact fun r member => heldHolds text (inside r member)
  | @front before after bad t e split fine given refused =>
    rw [split] at inside ⊢
    refine List.rel_append ?_ ?_
    all_goals rw [List.forall₂_map_right_iff, List.forall₂_same]
    · exact fun r member => heldHolds text (inside r (List.mem_append_left _ member))
    · exact fun r member => defaultHolds (inside r (List.mem_append_right _ member))

end Values

section Histories

structure Scene where
  sources : Sources
  store : Store
  deriving DecidableEq, Repr

inductive Act where
  | setVariable (name value : String)
  | unsetVariable (name : String)
  | writeFile (ini : Option String)
  | load
  | reset
  deriving DecidableEq, Repr

def Scene.act (s : Scene) : Act → Scene × Option LoadError
  | .setVariable name value =>
    match s.sources.environment.assign name value with
    | .ok vs => (⟨⟨vs, s.sources.ini⟩, s.store⟩, none)
    | .error _ => (s, none)
  | .unsetVariable name => (⟨⟨s.sources.environment.erase name, s.sources.ini⟩, s.store⟩, none)
  | .writeFile ini => (⟨⟨s.sources.environment, ini⟩, s.store⟩, none)
  | .load => (⟨s.sources, (s.store.load s.sources).1⟩, (s.store.load s.sources).2)
  | .reset => (⟨s.sources, Store.fresh⟩, none)

def Scene.run (s : Scene) : List Act → Scene × List LoadError
  | [] => (s, [])
  | a :: rest =>
    (((s.act a).1.run rest).1, (s.act a).2.toList ++ ((s.act a).1.run rest).2)

theorem readLoaded (s : Store) (text : String → String → Option String) :
    (s.read text).1.loaded = s.loaded := by
  unfold Store.read
  split
  · rfl
  · split <;> rfl

theorem loadLoaded (s : Store) (sources : Sources) : (s.load sources).1.loaded = true := by
  unfold Store.load
  split
  · assumption
  · dsimp only
    split
    · rfl
    · rw [readLoaded]

theorem actLoaded {s : Scene} {a : Act} (loaded : s.store.loaded = true) (kept : a ≠ .reset) :
    (s.act a).1.store = s.store ∧ (s.act a).2 = none := by
  cases a with
  | setVariable name value =>
    unfold Scene.act
    dsimp only
    split <;> exact ⟨rfl, rfl⟩
  | unsetVariable name | writeFile ini => exact ⟨rfl, rfl⟩
  | load =>
    have once := s.store.loadOnce s.sources loaded
    exact ⟨congrArg Prod.fst once, congrArg Prod.snd once⟩
  | reset => exact absurd rfl kept

theorem runLoaded {s : Scene} {acts : List Act} (loaded : s.store.loaded = true)
    (kept : .reset ∉ acts) : (s.run acts).1.store = s.store ∧ (s.run acts).2 = [] := by
  induction acts generalizing s with
  | nil => exact ⟨rfl, rfl⟩
  | cons a rest ih =>
    obtain ⟨same, quiet⟩ := actLoaded loaded fun reset => kept (reset ▸ List.mem_cons_self)
    obtain ⟨last, others⟩ := ih (s := (s.act a).1) (by rw [same, loaded])
      fun member => kept (List.mem_cons_of_mem a member)
    refine ⟨last.trans same, ?_⟩
    rw [Scene.run, quiet, others]
    rfl

def Settled (s : Store) : Prop := s = Store.fresh ∨ ∃ sources, s = (Store.fresh.load sources).1

theorem actSettled {s : Scene} (settled : Settled s.store) (a : Act) :
    Settled (s.act a).1.store := by
  rcases settled with fresh | ⟨sources, loaded⟩
  · cases a with
    | setVariable name value =>
      refine .inl ?_
      unfold Scene.act
      dsimp only
      split <;> exact fresh
    | unsetVariable name | writeFile ini => exact .inl fresh
    | load => exact .inr ⟨s.sources, by rw [← fresh]; rfl⟩
    | reset => exact .inl rfl
  · by_cases again : a = .reset
    · exact .inl (by rw [again]; rfl)
    · have done : s.store.loaded = true := by rw [loaded, loadLoaded]
      exact .inr ⟨sources, (actLoaded done again).1.trans loaded⟩

theorem runSettled {s : Scene} (settled : Settled s.store) (acts : List Act) :
    Settled (s.run acts).1.store := by
  induction acts generalizing s with
  | nil => exact settled
  | cons a rest ih => exact ih (actSettled settled a)

end Histories

section Results

variable {sources : Sources}

theorem freshDefaults : Store.fresh.rows = slots.map defaultRow := rfl

theorem unreadable {e : Ini.IniError} (bad : sources.file = .error e) :
    Store.fresh.load sources = ({ Store.fresh with loaded := true }, some (.file e)) := by
  rw [Sources.file] at bad
  simp only [Store.load, bad]
  rfl

theorem readable {file : Ini.File} (good : sources.file = .ok file) :
    Store.fresh.load sources =
      { Store.fresh with loaded := true }.read (textOf sources.environment file) := by
  rw [Sources.file] at good
  simp only [Store.load, good]
  rfl

theorem settledHolds {s : Store} (settled : Settled s) : List.Forall₂ RowHolds slots s.rows := by
  have fresh : List.Forall₂ RowHolds slots (slots.map defaultRow) := by
    rw [List.forall₂_map_right_iff, List.forall₂_same]
    exact fun r member => defaultHolds member
  rcases settled with rfl | ⟨sources, rfl⟩
  · rwa [freshDefaults]
  · cases parsed : sources.file with
    | error e => rwa [unreadable parsed]
    | ok file =>
      rw [readable parsed]
      exact takenHolds (fun _ member => member) (readTakes _ true)

/-- After any history the options hold values of their own readers or their defaults. Starting afresh
there, the next load ends with the error of the file and all defaults, or takes the options in their
order; and whatever comes behind a load, short of a fresh start, changes nothing and raises nothing. -/
theorem loadingSettles {past later : List Act} (kept : .reset ∉ later) (scene : Scene)
    (reached : scene = (Scene.run ⟨sources, Store.fresh⟩ past).1) :
    List.Forall₂ RowHolds slots scene.store.rows ∧
      (scene.act .reset).1 = ⟨scene.sources, Store.fresh⟩ ∧
      (∀ e, scene.sources.file = .error e →
        Store.fresh.load scene.sources =
            ({ Store.fresh with loaded := true }, some (.file e)) ∧
          (Store.fresh.load scene.sources).1.rows = slots.map defaultRow) ∧
      (∀ file, scene.sources.file = .ok file →
        Taken (textOf scene.sources.environment file) slots
          (Store.fresh.load scene.sources).1.rows (Store.fresh.load scene.sources).2) ∧
      ((scene.act .load).1.run later).1.store = (scene.act .load).1.store ∧
      ((scene.act .load).1.run later).2 = [] := by
  subst reached
  refine ⟨settledHolds (runSettled (.inl rfl) past), rfl, fun e bad => ?_, fun file good => ?_, ?_⟩
  · rw [unreadable bad]
    exact ⟨rfl, rfl⟩
  · rw [readable good]
    exact readTakes _ true
  · exact runLoaded (loadLoaded _ _) kept

theorem loadingSettlesBehindBadNumber :
    let sources : Sources := ⟨[("prefixsid_decode_siblings", "-2")], none⟩
    let past : List Act := [.load, .writeFile (some "[prefixsid.log]\nlevel = 'debug'\n"), .reset]
    let scene := (Scene.run ⟨sources, Store.fresh⟩ past).1
    (scene.act .load).2 = some (.value "decode" "siblings" "-2") ∧
      ("log", "level", .text "DEBUG") ∈ (scene.act .load).1.store.rows ∧
      ("decode", "siblings", .int 3) ∈ (scene.act .load).1.store.rows ∧
      List.Forall₂ RowHolds slots scene.store.rows ∧
      ((scene.act .load).1.run [.writeFile none, .load]).2 = [] := by
  intro sources past scene
  obtain ⟨held, _, _, _, _, quiet⟩ :=
    @loadingSettles sources past [.writeFile none, .load] (by decide) scene rfl
  exact ⟨by decide +kernel, by decide +kernel, by decide +kernel, held, quiet⟩

end Results

end SidAttribute.Config
