import SidAttribute.Proofs.Log.Written

/-! The last set-up decides. Whatever was done with the log before, it was set up for elsewhere, turned
off or refused, what passes its two filters after a set-up goes to the destination of that set-up alone,
each line once and in the form that it asked for. A log that was turned off writes nothing and makes no
text until it is set up again. -/
namespace SidAttribute.Log
open Config Text

def Use.IsMessage : Use → Prop
  | .message .. => True
  | _ => False

def Use.IsSetup : Use → Prop
  | .setup .. => True
  | _ => False

namespace Site

def delivered (s : Site) : Use → List Delivery
  | .message stamp method source level text =>
    s.gate.deliver s.facility stamp method source level text
  | _ => []

structure LetThrough (s : Site) (method : Method) (source level : String) : Prop where
  gate : s.gate.renders source level = true
  logger : ∀ name, s.gate.logger = some name → s.facility.severity name ≤ method.severity

/-- A log as a configuration wants it, with all that it writes going to one sink. -/
structure Governed (s : Site) (r : Reading) (least : Nat) (sink : Sink) : Prop where
  form : s.gate.form = if r.short = true ∨ outletOf r.destination = syslogName then .short else .long
  gate : ∀ source level, s.gate.renders source level = true ↔
    enabledIn r source = true ∧ ∃ n, severity? level = some n ∧ least ≤ n
  logger : ∀ name, s.gate.logger = some name →
    s.facility.severity name = if least = 0 then (Method.warning.severity : Int) else least
  called : ∀ stamp method source level text, (s.use (.message stamp method source level text)).calls =
    if s.gate.renders source level then s.calls + 1 else s.calls
  written : ∀ stamp method source level text, s.LetThrough method source level →
    s.delivered (.message stamp method source level text) =
      (messageLines text).map fun line => (sink, s.gate.form.line stamp source level line)
  dropped : ∀ stamp method source level text, ¬ s.LetThrough method source level →
    s.delivered (.message stamp method source level text) = []

end Site

section Steps

variable {s : Site} {u : Use} {uses : List Use}

theorem messageKeeps (message : u.IsMessage) :
    (s.use u).gate = s.gate ∧ (s.use u).facility = s.facility ∧
      (s.use u).channels = putAll (s.delivered u) s.channels := by
  cases u with
  | setup | disable => cases message
  | message => exact ⟨rfl, rfl, gateDelivers ..⟩

theorem deliveredSame {t : Site} (gate : t.gate = s.gate) (facility : t.facility = s.facility) :
    t.delivered = s.delivered := by
  funext u
  cases u with
  | setup | disable => rfl
  | message => rw [Site.delivered, Site.delivered, gate, facility]

theorem messagesKeep (messages : ∀ u ∈ uses, u.IsMessage) :
    (s.run uses).gate = s.gate ∧ (s.run uses).facility = s.facility ∧
      (s.run uses).channels = putAll (uses.flatMap s.delivered) s.channels := by
  induction uses generalizing s with
  | nil => exact ⟨rfl, rfl, rfl⟩
  | cons u rest ih =>
    rw [List.forall_mem_cons] at messages
    obtain ⟨gate, facility, channels⟩ := @messageKeeps s u messages.1
    obtain ⟨gates, facilities, all⟩ := @ih (s.use u) messages.2
    refine ⟨gates.trans gate, facilities.trans facility, ?_⟩
    rw [deliveredSame gate facility, channels] at all
    rw [List.flatMap_cons, putAll, List.foldl_append]
    exact all

theorem offKeeps (off : s.gate.logger = none) (other : ¬ u.IsSetup) :
    (s.use u).gate.logger = none ∧ (s.use u).channels = s.channels ∧ (s.use u).calls = s.calls := by
  cases u with
  | setup => exact absurd trivial other
  | disable => exact ⟨rfl, rfl, rfl⟩
  | message =>
    simp [Site.use, Gate.emit, off]

theorem offStays (off : s.gate.logger = none) (others : ∀ u ∈ uses, ¬ u.IsSetup) :
    (s.run uses).gate.logger = none ∧ (s.run uses).channels = s.channels ∧
      (s.run uses).calls = s.calls := by
  induction uses generalizing s with
  | nil => exact ⟨off, rfl, rfl⟩
  | cons u rest ih =>
    rw [List.forall_mem_cons] at others
    obtain ⟨still, channels, calls⟩ := offKeeps off others.1
    obtain ⟨last, all, count⟩ := ih still others.2
    exact ⟨last, all.trans channels, count.trans calls⟩

theorem offSilent (off : s.gate.logger = none) :
    (∀ source level, s.gate.renders source level = false) ∧ ∀ u, s.delivered u = [] := by
  refine ⟨fun source level => ?_, fun u => ?_⟩
  · rw [Gate.renders, off]
    rfl
  · cases u with
    | setup | disable => rfl
    | message => rw [Site.delivered, Gate.deliver, off]

end Steps

section Filters

variable {g : Gate} {f : Facility} {out : String} {sink : Sink} {least : Nat}

theorem standingHeard (standing : Standing g f out sink least) {method : Method}
    (heard : f.severity (Gate.loggerNamed (kindOf out)) ≤ method.severity) (stamp : Stamp)
    (text : String) :
    f.deliver stamp (Gate.loggerNamed (kindOf out)) method text = [(sink, text)] := by
  have bound := standingSeverity standing
  by_cases zero : least = 0
  · rw [if_pos zero] at bound
    rw [standingDelivers standing _ _ _ (by omega), if_pos (by omega)]
  · rw [if_neg zero] at bound
    rw [standingDelivers standing _ _ _ (by omega), if_pos (.inl zero)]

theorem kindSyslog (out : String) : kindOf out = syslogName ↔ out = syslogName := by
  unfold kindOf
  split
  · rfl
  · split
    · next same => simp [same]
    · next other =>
      constructor
      · intro same
        exact absurd same (by decide)
      · intro same
        exact absurd same other

end Filters

section Setups

variable {platform : Platform} {r : Reading} {least : Nat} {sink : Sink} {s : Site}

theorem readyGate (ready : Ready platform r s.gate s.facility sink least) (source level : String) :
    s.gate.renders source level = true ↔
      enabledIn r source = true ∧ ∃ n, severity? level = some n ∧ least ≤ n := by
  rw [Gate.renders, ready.logger, Option.isSome_some, Bool.true_and, Gate.passes,
    Bool.and_eq_true, ready.sources, Gate.levelPasses, ready.threshold]
  cases severity? level with
  | none => simp
  | some n => simp

theorem passedDelivers (ready : Ready platform r s.gate s.facility sink least)
    {source level : String} (through : s.gate.renders source level = true) (stamp : Stamp)
    (method : Method) (text : String) :
    s.delivered (.message stamp method source level text) =
      (messageLines text).flatMap fun line =>
        s.facility.deliver stamp (Gate.loggerNamed (kindOf (outletOf r.destination))) method
          (s.gate.form.line stamp source level line) := by
  have passes : s.gate.passes source level = true := by
    rw [Gate.renders, Bool.and_eq_true] at through
    exact through.2
  rw [Site.delivered, Gate.deliver, ready.logger]
  dsimp only
  rw [if_pos passes]

theorem readyGoverned (ready : Ready platform r s.gate s.facility sink least) :
    s.Governed r least sink := by
  have standing := ready.toStanding
  have logger : ∀ name, s.gate.logger = some name →
      name = Gate.loggerNamed (kindOf (outletOf r.destination)) := by
    intro name own
    rw [standing.logger] at own
    exact (Option.some.inj own).symm
  constructor
  case form =>
    rw [ready.form, Form.choose]
    simp only [kindSyslog, or_comm]
  case gate => exact readyGate ready
  case logger =>
    intro name own
    rw [logger name own]
    exact standingSeverity standing
  case called => exact fun stamp method source level text => gateCalls ..
  case written =>
    intro stamp method source level text through
    have heard := through.logger _ standing.logger
    rw [passedDelivers ready through.gate]
    simp only [standingHeard standing heard]
    exact List.flatMap_pure_eq_map ..
  case dropped =>
    intro stamp method source level text stopped
    by_cases gate : s.gate.renders source level = true
    · have quiet : (method.severity : Int) <
          s.facility.severity (Gate.loggerNamed (kindOf (outletOf r.destination))) := by
        refine Int.not_le.mp fun heard => stopped ⟨gate, fun name own => ?_⟩
        rwa [logger name own]
      rw [passedDelivers ready gate]
      simp only [Facility.deliver, if_pos quiet]
      exact List.flatMap_eq_nil_iff.mpr fun _ _ => rfl
    · rw [Gate.renders, standing.logger, Option.isSome_some, Bool.true_and] at gate
      rw [Site.delivered, Gate.deliver, standing.logger]
      dsimp only
      rw [if_neg gate]

theorem governedSink (governed : s.Governed r least sink) (u : Use) :
    ∀ d ∈ s.delivered u, d.1 = sink := by
  cases u with
  | setup | disable => exact fun d member => nomatch member
  | message stamp method source level text =>
    intro d member
    by_cases through : s.LetThrough method source level
    · rw [governed.written _ _ _ _ _ through] at member
      obtain ⟨line, _, rfl⟩ := List.mem_map.mp member
      rfl
    · rw [governed.dropped _ _ _ _ _ through] at member
      cases member

theorem readyMessages {platform : Platform} (ready : Ready platform r s.gate s.facility sink least)
    {messages : List Use} (each : ∀ u ∈ messages, u.IsMessage) :
    (s.run messages).Governed r least sink ∧
      (s.run messages).channels = putAll (messages.flatMap s.delivered) s.channels ∧
      Adds sink ((messages.flatMap s.delivered).map Prod.snd) s.channels
        (s.run messages).channels := by
  obtain ⟨gate, facility, channels⟩ := @messagesKeep s messages each
  have still : Ready platform r (s.run messages).gate (s.run messages).facility sink least := by
    rw [gate, facility]
    exact ready
  have own : ∀ d ∈ messages.flatMap s.delivered, (sink, d.2) = d := by
    intro d member
    obtain ⟨u, _, there⟩ := List.mem_flatMap.mp member
    exact Prod.ext (governedSink (readyGoverned ready) u d there).symm rfl
  have all : ((messages.flatMap s.delivered).map Prod.snd).map (sink, ·) =
      messages.flatMap s.delivered := by
    rw [List.map_map]
    exact (List.map_congr_left own).trans (List.map_id' _)
  refine ⟨readyGoverned still, channels, ?_⟩
  rw [channels]
  nth_rewrite 2 [← all]
  exact putAllAdds (leadsKept ready.leads) _ _

theorem governedThrough (governed : s.Governed r least sink) {method : Method}
    {source level : String} {n : Nat} (enabled : enabledIn r source = true)
    (known : severity? level = some n) (enough : least ≤ n)
    (heard : (if least = 0 then (Method.warning.severity : Int) else least) ≤ method.severity) :
    s.LetThrough method source level := by
  refine ⟨(governed.gate source level).mpr ⟨enabled, n, known, enough⟩, fun name own => ?_⟩
  rw [governed.logger name own]
  exact heard

theorem governedStopped (governed : s.Governed r least sink) {method : Method}
    {source level : String} {n : Nat} (known : severity? level = some n) (less : n < least) :
    ¬ s.LetThrough method source level := by
  intro through
  obtain ⟨_, m, same, enough⟩ := (governed.gate source level).mp through.gate
  cases known.symm.trans same
  omega

theorem setupDone {platform : Platform} {log : Section} (fine : (s.setup platform log).2 = none) :
    ∃ after, s.setup platform log = (after, none) := ⟨_, Prod.ext rfl fine⟩

/-- A log is set up from a loaded configuration, after anything at all, which writes nothing: from then
on messages go where that configuration sends them. It is turned off, after anything at all: nothing is
written, and no message called for its text, by whatever is not a set-up. -/
theorem lastSetupGoverns :
    (∀ {sources : Sources} {start : Channels} {before : List Use} {platform : Platform} {s : Site},
      ((Site.start start).run before).setup platform (Store.fresh.load sources).1.log = (s, none) →
      ∃ r least sink, r.Of (Store.fresh.load sources).1 ∧ severity? r.level = some least ∧
        Leads platform (outletOf r.destination) sink ∧
        Untouched ((Site.start start).run before).channels s.channels ∧
        ∀ messages : List Use, (∀ u ∈ messages, u.IsMessage) →
          (s.run messages).Governed r least sink ∧
            (s.run messages).channels = putAll (messages.flatMap s.delivered) s.channels ∧
            Adds sink ((messages.flatMap s.delivered).map Prod.snd) s.channels
              (s.run messages).channels) ∧
    ∀ (start : Channels) (before later : List Use), (∀ u ∈ later, ¬ u.IsSetup) →
      let off := (Site.start start).run (before ++ .disable :: later)
      off.channels = ((Site.start start).run before).channels ∧
        off.calls = ((Site.start start).run before).calls ∧
        (∀ source level, off.gate.renders source level = false) ∧ ∀ u, off.delivered u = [] := by
  constructor
  · intro sources start before platform s done
    obtain ⟨r, of⟩ := loadedReading sources
    have tidy : Tidy ((Site.start start).run before).facility := runTidy tidyStart before
    obtain ⟨least, sink, ready, untouched⟩ := siteReady of tidy done
    exact ⟨r, least, sink, of, ready.known, ready.leads, untouched,
      fun messages each => readyMessages ready each⟩
  · intro start before later others off
    have split : off = (((Site.start start).run before).use .disable).run later :=
      List.foldl_append ..
    obtain ⟨closed, channels, calls⟩ :=
      @offStays (((Site.start start).run before).use .disable) later rfl others
    rw [← split] at closed channels calls
    exact ⟨channels, calls, offSilent closed⟩

theorem lastSetupGovernsFiles :
    let sources : Sources :=
      ⟨[("prefixsid_log_short", "false"), ("prefixsid_log_destination", "file:/tmp/b.log")], none⟩
    let before : List Use := [.setup temporary (logSection.set "destination" (.text "stdout")),
      .setup temporary (logSection.set "destination" (.text "file:/tmp/a.log")),
      .message ⟨"", "", []⟩ .error "" "ERROR" "filed"]
    let told := Use.message ⟨"Mon", "7", []⟩ .error "cli" "ERROR" "one\ntwo"
    let untold := Use.message ⟨"Mon", "7", []⟩ .debug "cli" "DEBUG" "lost"
    let off := (Site.start .empty).run (before ++ [.disable, told])
    told.IsMessage ∧ untold.IsMessage ∧ ¬ told.IsSetup ∧
      (∃ after, ((Site.start .empty).run before).setup temporary
          (Store.fresh.load sources).1.log = (after, none) ∧
        let c := (after.run [told, untold]).channels
        c.output = "" ∧ c.errors = "" ∧ c.system = [] ∧
          c.files.text "/tmp/a.log" = "                filed\n" ∧
          c.files.text "/tmp/b.log" = "Mon 7      ERROR    cli             one\n" ++
            "Mon 7      ERROR    cli             two\n") ∧
      off.channels = ((Site.start .empty).run before).channels ∧ off.calls = 1 ∧
      off.gate.renders "cli" "ERROR" = false ∧ off.delivered told = [] := by
  intro sources before told untold off
  have messages : ∀ u ∈ [told, untold], u.IsMessage := by simp [told, untold, Use.IsMessage]
  have others : ∀ u ∈ [told], ¬ u.IsSetup := by simp [told, Use.IsSetup]
  let r : Reading := ⟨true, "INFO", "file:/tmp/b.log", false, false, false, false, 3, false,
    by decide, by decide, by decide⟩
  have of : r.Of (Store.fresh.load sources).1 :=
    ⟨completeDeclared (loadedComplete _), by decide +kernel, by decide +kernel, by decide +kernel⟩
  have refused : (((Site.start .empty).run before).setup temporary
      (Store.fresh.load sources).1.log).2 = none := by
    decide +kernel
  obtain ⟨after, done⟩ := setupDone refused
  obtain ⟨held, least, sink, of', known, leads, untouched, each⟩ := lastSetupGoverns.1 done
  cases of.unique of'
  cases known
  have out : outletOf "file:/tmp/b.log" = "/tmp/b.log" := by decide
  have sinks : sink = .file ⟨⟨"/tmp/b.log", true⟩, 1048576, some 3⟩ := by
    obtain ⟨name, file, plain, opens, rfl⟩ := leadsFile (out ▸ leads) (by decide)
    rw [plain (by decide), show temporary.opens "/tmp/b.log" = some ⟨"/tmp/b.log", true⟩ by decide]
      at opens
    cases opens
    rfl
  subst sinks
  have governed : after.Governed r 20 _ := (each [] (List.forall_mem_nil _)).1
  have form : after.gate.form = .long := by
    rw [governed.form]
    decide
  have known : severity? "ERROR" = some 40 := by decide
  have through : after.LetThrough .error "cli" "ERROR" :=
    governedThrough governed rfl known (by decide) (by decide)
  have stopped : ¬ after.LetThrough .debug "cli" "DEBUG" :=
    governedStopped governed (by decide : severity? "DEBUG" = some 10) (by decide)
  have lines : ([told, untold].flatMap after.delivered).map Prod.snd =
      ["Mon 7      ERROR    cli             one", "Mon 7      ERROR    cli             two"] := by
    rw [List.flatMap_cons, List.flatMap_singleton, governed.dropped _ _ _ _ _ stopped,
      governed.written _ _ _ _ _ through, form]
    decide
  obtain ⟨-, -, adds⟩ := each [told, untold] messages
  rw [lines] at adds
  have empty : after.channels.files.text "/tmp/b.log" = "" := by
    rw [untouched.files]
    decide +kernel
  obtain ⟨text, rest⟩ := (adds.file _ rfl).roomy (by dsimp only; rw [empty]; decide)
  obtain ⟨channels, calls, closed, silent⟩ := lastSetupGoverns.2 .empty before [told] others
  refine ⟨trivial, trivial, id, ⟨after, done, ?_, ?_, ?_, ?_, ?_⟩, channels, ?_, closed _ _, silent _⟩
  · rw [adds.output, untouched.output]
    decide +kernel
  · rw [adds.errors, untouched.errors]
    decide +kernel
  · rw [adds.system, untouched.system]
    decide +kernel
  · rw [Files.text, rest _ (by decide)]
    exact (untouched.files _).trans (by decide +kernel)
  · rw [text]
    dsimp only
    rw [empty]
    decide
  · rw [calls]
    decide +kernel

end Setups

end SidAttribute.Log
