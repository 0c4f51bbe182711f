import SidAttribute.Log.Report
import SidAttribute.Proofs.Noted

/-! What is logged against what is decoded. A request comes to the same tree or the same error
whoever reads along, and a level only leaves lines out. -/
namespace SidAttribute.Logged
open Wire Log Config

section Gates

variable (g : Gate) (stamp : Stamp)

def record (n : Notice) : Run (List Report) Unit := fun written =>
  if g.renders parserSource n.method.levelName then
    match n.rendered with
    | .error e => (.error (.message e), written)
    | .ok text => (.ok (), written ++ (messageLines text).map fun line =>
        ⟨n.method, g.form.line stamp parserSource n.method.levelName line⟩)
  else (.ok (), written)

def write (f : Facility) (n : Notice) : Run Channels Unit := fun c =>
  if g.renders parserSource n.method.levelName then
    match n.rendered with
    | .error e => (.error (.message e), c)
    | .ok text => (.ok (), g.say f stamp n.method parserSource n.method.levelName text c)
  else (.ok (), c)

def recorded (told : List Notice) : List Report :=
  if g.logger.isSome then g.reports stamp told else []

theorem recordShows : Shows (recorded g stamp) (record g stamp) := by
  intro n plain told
  rw [record, Notice.renderedText plain, Gate.renders, recorded]
  have next : recorded g stamp (told ++ [n]) =
      if g.logger.isSome then g.reports stamp told ++ g.report stamp n else [] := by
    rw [recorded, Gate.reports, List.flatMap_append, List.flatMap_singleton]
    rfl
  rw [note, next, Gate.report]
  cases g.logger.isSome with
  | false => rfl
  | true =>
    cases g.passes parserSource n.method.levelName with
    | false => simp
    | true => rfl

theorem writeShows (f : Facility) (c : Channels) :
    Shows (fun told => g.tell f stamp told c) (write g stamp f) := by
  intro n plain told
  rw [write, Notice.renderedText plain, Gate.renders]
  have next : g.tell f stamp (told ++ [n]) c =
      g.say f stamp n.method parserSource n.method.levelName n.text (g.tell f stamp told c) := by
    rw [Gate.tell, List.foldl_append]
    rfl
  rw [note]
  dsimp only
  rw [next, Gate.say, Gate.emit]
  cases g.logger with
  | none => rfl
  | some name =>
    cases g.passes parserSource n.method.levelName with
    | false => rfl
    | true => rfl

variable {g}

theorem recordedNone (shut : g.logger = none ∨ g.parser = false) (told : List Notice) :
    recorded g stamp told = [] := by
  rw [recorded]
  rcases shut with absent | off
  · rw [absent]
    rfl
  · have quiet : ∀ n ∈ told, g.report stamp n = [] := by
      intro n _
      have source : g.sourcePasses parserSource = g.parser := rfl
      rw [Gate.report, Gate.passes, source, off]
      rfl
    rw [Gate.reports, List.flatMap_eq_nil_iff.mpr quiet, ite_self]

theorem withLevelNamed {name : String} {least : Nat} (known : severity? name = some least) :
    (g.withLevel (.text name)).1 = { g with level := .text name, threshold := some least } := by
  rw [Gate.withLevel]
  dsimp only
  rw [known]

theorem reportAt {name : String} {least : Nat} (known : severity? name = some least) (n : Notice) :
    (g.withLevel (.text name)).1.report stamp n =
      if g.parser && decide (least ≤ n.method.severity) then
        (messageLines n.text).map fun line =>
          ⟨n.method, g.form.line stamp parserSource n.method.levelName line⟩
      else [] := by
  have source : ∀ h : Gate, h.sourcePasses parserSource = h.parser := fun _ => rfl
  rw [withLevelNamed known, Gate.report, Gate.passes, source, Gate.levelPasses,
    Method.levelNameSeverity]

theorem recordedAt {name : String} {least : Nat} (known : severity? name = some least)
    (told : List Notice) :
    recorded (g.withLevel (.text name)).1 stamp told =
      (recorded (g.withLevel (.text "DEBUG")).1 stamp told).filter
        fun r => least ≤ r.method.severity := by
  have debug : severity? "DEBUG" = some 10 := by decide
  have logger : ∀ {name least}, severity? name = some least →
      (g.withLevel (.text name)).1.logger = g.logger := fun known => by rw [withLevelNamed known]
  rw [recorded, recorded, logger known, logger debug]
  cases g.logger.isSome with
  | false => rfl
  | true =>
    rw [if_pos rfl, if_pos rfl, Gate.reports, Gate.reports, List.filter_flatMap]
    refine List.flatMap_congr fun n _ => ?_
    have lowest : 10 ≤ n.method.severity := by cases n.method <;> decide
    rw [reportAt stamp known, reportAt stamp debug, decide_eq_true lowest, Bool.and_true]
    cases g.parser with
    | false => rfl
    | true =>
      simp only [Bool.true_and, if_true, List.filter_map]
      by_cases loud : least ≤ n.method.severity
      · simp [loud, Function.comp_def]
      · simp [loud, Function.comp_def]

end Gates

section Answers

variable {σ : Type} (say : Notice → Run σ Unit) (rs : Registries) (r : Request) (store : Store)
  (sources : Sources)

def answer : Store × Run σ Tree :=
  match Decode.window r.data r.declared with
  | .error e => (store, .fail (.request (.decode e)))
  | .ok octets =>
    match r.bound with
    | some n =>
      (store, match Decode.checkBound n with
        | .error e => .fail (.request (.decode e))
        | .ok n => level say rs (.int n) r.scope octets)
    | none =>
      match store.load sources with
      | (loaded, some e) => (loaded, .fail (.request (.load e)))
      | (loaded, none) =>
        (loaded, level say rs (Request.configuredBound loaded) r.scope octets)

variable {say}

theorem answerFollows {view : List Notice → σ} (shown : Shows view say) :
    (answer say rs r store sources).1 = (answer note rs r store sources).1 ∧
      Follows view (answer say rs r store sources).2 (answer note rs r store sources).2 := by
  unfold answer
  cases Decode.window r.data r.declared with
  | error e => exact ⟨rfl, followsFail _⟩
  | ok octets =>
    dsimp only
    cases r.bound with
    | some n =>
      refine ⟨rfl, ?_⟩
      dsimp only
      cases Decode.checkBound n with
      | error e => exact followsFail _
      | ok n => exact levelFollows shown _ _
    | none =>
      dsimp only
      cases store.load sources with
      | mk loaded e =>
        cases e with
        | some e => exact ⟨rfl, followsFail _⟩
        | none => exact ⟨rfl, levelFollows shown _ _⟩

/-- The outcome of a run that only notes is that of the request, and its notices are those. -/
def Agrees (run : Except Fault Tree × List Notice) (answered : Except RequestError Decoded) : Prop :=
  run.1 = (answered.map Decoded.tree).mapError .request ∧ ∀ d, answered = .ok d → run.2 = d.notices

theorem uncountedAgrees {bound : Value} (none : bound.number? = none) (octets : Octets) :
    let d := Decode.level rs (-1) r.scope octets
    Agrees (level note rs bound r.scope octets [])
      (if d.notices.any Notice.isTooMany then .error (.uncountable bound.kindName) else .ok d) := by
  intro d
  have run := @levelUncounted rs bound none r.scope octets []
  split at run
  · next many =>
    rw [if_pos many]
    exact ⟨run, fun _ ok => nomatch ok⟩
  · next few =>
    rw [if_neg few, run, List.nil_append]
    exact ⟨rfl, fun d same => by cases same; rfl⟩

theorem levelAgrees (bound : Value) (octets : Octets) :
    Agrees (level note rs bound r.scope octets []) (r.decodeUnder rs octets bound) := by
  unfold Request.decodeUnder
  cases bound with
  | int n =>
    rw [levelNotes rfl (wordsNumber n), List.nil_append, List.map_id]
    exact ⟨rfl, fun d same => by cases same; rfl⟩
  | bool b =>
    rw [levelNotes rfl (wordsUnder _ _), List.nil_append]
    exact ⟨rfl, fun d same => by cases same; rfl⟩
  | null | text | list | tree => exact uncountedAgrees rs r rfl octets

theorem answerAgrees :
    (answer note rs r store sources).1 = (r.answer rs store sources).1 ∧
      Agrees ((answer note rs r store sources).2 []) (r.answer rs store sources).2 := by
  unfold answer Request.answer
  cases Decode.window r.data r.declared with
  | error e => exact ⟨rfl, rfl, fun _ ok => nomatch ok⟩
  | ok octets =>
    dsimp only
    cases r.bound with
    | some n =>
      refine ⟨rfl, ?_⟩
      dsimp only
      cases Decode.checkBound n with
      | error e => exact ⟨rfl, fun _ ok => nomatch ok⟩
      | ok n => exact levelAgrees rs r (.int n) octets
    | none =>
      dsimp only
      cases store.load sources with
      | mk loaded e =>
        cases e with
        | some e => exact ⟨rfl, rfl, fun _ ok => nomatch ok⟩
        | none => exact ⟨rfl, levelAgrees rs r _ octets⟩

/-- Whoever reads along, on lines or on the channels of loggers, a request leaves the same store and
comes to the same result; where nothing is let through nothing is written, and the lines at one level
are, in their order, those of the lines at the lowest level whose own level is not below it. -/
theorem loggingChangesNothing (g : Gate) (stamp : Stamp) :
    (answer (record g stamp) rs r store sources).1 = (r.answer rs store sources).1 ∧
      ((answer (record g stamp) rs r store sources).2 []).1 =
        ((r.answer rs store sources).2.map Decoded.tree).mapError .request ∧
      (∀ f c, ((answer (write g stamp f) rs r store sources).2 c).1 =
        ((r.answer rs store sources).2.map Decoded.tree).mapError .request) ∧
      (∀ d, (r.answer rs store sources).2 = .ok d →
        ((answer (record g stamp) rs r store sources).2 []).2 = recorded g stamp d.notices) ∧
      (g.logger = none ∨ g.parser = false →
        ((answer (record g stamp) rs r store sources).2 []).2 = []) ∧
      ∀ name least, severity? name = some least →
        ((answer (record (g.withLevel (.text name)).1 stamp) rs r store sources).2 []).2 =
          ((answer (record (g.withLevel (.text "DEBUG")).1 stamp) rs r store sources).2 []).2.filter
            fun line => least ≤ line.method.severity := by
  obtain ⟨left, result, notices⟩ := answerAgrees rs r store sources
  have lines : ∀ h : Gate, (answer (record h stamp) rs r store sources).2 [] =
      (((answer note rs r store sources).2 []).1,
        recorded h stamp ((answer note rs r store sources).2 []).2) := by
    intro h
    have empty : recorded h stamp [] = [] := by rw [recorded, Gate.reports]; exact ite_self _
    have follows := (answerFollows rs r store sources (recordShows h stamp)).2 []
    rwa [empty] at follows
  refine ⟨?_, ?_, fun f c => ?_, fun d ok => ?_, fun shut => ?_, fun name least known => ?_⟩
  · rw [(answerFollows rs r store sources (recordShows g stamp)).1, left]
  · rw [lines, ← result]
  · have follows := (answerFollows rs r store sources (writeShows g stamp f c)).2 []
    rw [← result]
    exact congrArg Prod.fst follows
  · rw [lines, notices d ok]
  · rw [lines]
    exact recordedNone stamp shut _
  · rw [lines, lines]
    exact recordedAt stamp known _

end Answers

theorem loggingChangesNothingAtInfo :
    let r : Request := ⟨.top, [9, 0, 1, 0], 4, some 0⟩
    let g : Gate := { Gate.closed with parser := true, logger := some "prefixsid.stderr" }
    let lines (name : String) := ((answer (record (g.withLevel (.text name)).1 ⟨"", "", []⟩)
      Registries.standard r Store.fresh ⟨[], none⟩).2 []).2
    lines "INFO" = [⟨.info, "too many Prefix-SID TLVs (more than 0), stopping"⟩] ∧
      (lines "DEBUG").length = 3 ∧
      lines "INFO" = (lines "DEBUG").filter (fun line => 20 ≤ line.method.severity) ∧
      ((answer (record Gate.closed ⟨"", "", []⟩) Registries.standard r Store.fresh ⟨[], none⟩).2 []).2 =
        [] := by
  intro r g lines
  have level : Decode.level Registries.standard 0 .top [9, 0, 1, 0] =
      ⟨[], [.element "Prefix-SID TLV" ⟨9, 0, []⟩, .unregistered "Prefix-SID TLV" 9,
        .tooMany "Prefix-SID TLV" (.int 0)]⟩ := by
    have head : scanHead [9, 0, 1, 0] = .element ⟨9, 0, []⟩ [] := by decide
    rw [Decode.levelEq, walkElement head]
    rfl
  have told : (r.answer Registries.standard Store.fresh ⟨[], none⟩).2 =
      .ok ⟨[], [.element "Prefix-SID TLV" ⟨9, 0, []⟩, .unregistered "Prefix-SID TLV" 9,
        .tooMany "Prefix-SID TLV" (.int 0)]⟩ := by
    rw [← level]
    rfl
  have all := loggingChangesNothing Registries.standard r Store.fresh ⟨[], none⟩
  obtain ⟨_, _, _, written, _, filtered⟩ := all g ⟨"", "", []⟩
  obtain ⟨_, _, _, info, _, _⟩ := all (g.withLevel (.text "INFO")).1 ⟨"", "", []⟩
  obtain ⟨_, _, _, debug, _, _⟩ := all (g.withLevel (.text "DEBUG")).1 ⟨"", "", []⟩
  obtain ⟨_, _, _, _, silent, _⟩ := all Gate.closed ⟨"", "", []⟩
  refine ⟨?_, ?_, filtered "INFO" 20 (by decide), silent (.inl rfl)⟩
  · exact (info _ told).trans (by decide +kernel)
  · exact (congrArg List.length (debug _ told)).trans (by decide +kernel)

end SidAttribute.Logged
