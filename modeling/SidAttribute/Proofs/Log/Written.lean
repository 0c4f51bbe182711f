import SidAttribute.Proofs.Log.Rotation
import SidAttribute.Proofs.Log.Setup

/-! What becomes of a message. The gate decides whether it is called for its text, and the logger once
more whether its lines are written. For a log that was set up from a loaded configuration the two agree
but on one level: with no least severity the gate lets everything through, and the logger takes that of
the root. -/
namespace SidAttribute.Log
open Config Text

section Deliveries

variable {c : Channels}

abbrev Delivery := Sink × String

def putAll (ds : List Delivery) (c : Channels) : Channels := ds.foldl (fun c d => d.1.write d.2 c) c

def Handler.deliver (h : Handler) (r : Record) : List Delivery :=
  if r.severity < h.level.severity then []
  else (Layout.fill h.layout r).toList.map (h.sink, ·)

theorem handlerDelivers (h : Handler) (r : Record) (c : Channels) :
    h.write r c = putAll (h.deliver r) c := by
  unfold Handler.write Handler.deliver
  split
  · rfl
  · cases Layout.fill h.layout r <;> rfl

def Facility.deliver (f : Facility) (stamp : Stamp) (name : String) (method : Method)
    (message : String) : List Delivery :=
  if (method.severity : Int) < f.severity name then []
  else match Facility.reached (f.chain name) with
    | [] => if (method.severity : Int) < lastResort then [] else [(.stream true, message)]
    | handlers => handlers.flatMap fun h =>
        h.deliver ⟨(f.logger name).name, method.severity, method.levelName, message, stamp.fields⟩

theorem facilityDelivers (f : Facility) (stamp : Stamp) (name : String) (method : Method)
    (message : String) (c : Channels) :
    f.write stamp name method message c = putAll (f.deliver stamp name method message) c := by
  unfold Facility.write Facility.deliver
  dsimp only
  split
  · rfl
  · cases Facility.reached (f.chain name) with
    | nil =>
      dsimp only
      split <;> rfl
    | cons h more =>
      simp only [putAll, List.foldl_flatMap, handlerDelivers]

def Gate.deliver (g : Gate) (f : Facility) (stamp : Stamp) (method : Method)
    (source level message : String) : List Delivery :=
  match g.logger with
  | none => []
  | some name =>
    if g.passes source level then
      (messageLines message).flatMap fun line =>
        f.deliver stamp name method (g.form.line stamp source level line)
    else []

section Emitting

variable {σ : Type} (g : Gate) (f : Facility) (stamp : Stamp) (method : Method)
  (source level : String)

theorem gateDelivers (message : StateM σ String) (c : Channels) (kept : σ) :
    (g.emit f stamp method source level message c kept).1 =
      putAll (g.deliver f stamp method source level (message kept).1) c := by
  unfold Gate.emit Gate.deliver
  cases g.logger with
  | none => rfl
  | some name =>
    dsimp only
    split
    · simp only [putAll, List.foldl_flatMap, facilityDelivers]
      rfl
    · rfl

theorem gateCalls (message : StateM σ String) (c : Channels) (kept : σ) :
    (g.emit f stamp method source level message c kept).2 =
      if g.renders source level then (message kept).2 else kept := by
  unfold Gate.emit Gate.renders
  cases g.logger with
  | none => rfl
  | some name =>
    dsimp only
    cases g.passes source level <;> rfl

theorem sayDelivers (text : String) (c : Channels) :
    g.say f stamp method source level text c =
      putAll (g.deliver f stamp method source level text) c :=
  gateDelivers ..

end Emitting

def textTo (errors : Bool) : List Delivery → String
  | [] => ""
  | d :: rest => (if d.1 = .stream errors then d.2 ++ "\n" else "") ++ textTo errors rest

theorem putAllStreams (ds : List Delivery) (c : Channels) :
    (putAll ds c).output = c.output ++ textTo false ds ∧
      (putAll ds c).errors = c.errors ++ textTo true ds := by
  induction ds generalizing c with
  | nil => simp [putAll, textTo]
  | cons d rest ih =>
    obtain ⟨sink, line⟩ := d
    have later := ih (sink.write line c)
    rw [putAll] at later
    rw [putAll, List.foldl_cons, later.1, later.2]
    cases sink with
    | stream errors =>
      cases errors <;>
        simp [Sink.write, textTo, Channels.print, Channels.complain, String.append_assoc]
    | syslog | file => simp [Sink.write, textTo]

theorem textToOther {errors : Bool} {ds : List Delivery} (other : ∀ d ∈ ds, d.1 ≠ .stream errors) :
    textTo errors ds = "" := by
  induction ds with
  | nil => rfl
  | cons d rest ih =>
    rw [List.forall_mem_cons] at other
    rw [textTo, if_neg other.1, ih other.2]
    rfl

/-- Lines are written to a sink, each once and in their order, and to nothing else. -/
structure Adds (sink : Sink) (ls : List String) (before after : Channels) : Prop where
  output : after.output = before.output ++ if sink = .stream false then fileText ls else ""
  errors : after.errors = before.errors ++ if sink = .stream true then fileText ls else ""
  system : after.system = before.system ++ if sink = .syslog then ls else []
  file : ∀ f, sink = .file f → f.Writes (ls.map (· ++ "\n")) before.files after.files
  files : (∀ f, sink ≠ .file f) → after.files = before.files

theorem putAllFile (f : LogFile) (ls : List String) (c : Channels) :
    putAll (ls.map (.file f, ·)) c =
      { c with files := (ls.map (· ++ "\n")).foldl f.write c.files } := by
  induction ls generalizing c with
  | nil => rfl
  | cons line rest ih => exact ih _

theorem putAllSystem (ls : List String) (c : Channels) :
    putAll (ls.map (.syslog, ·)) c = { c with system := c.system ++ ls } := by
  induction ls generalizing c with
  | nil => simp [putAll]
  | cons line rest ih =>
    have later := ih { c with system := c.system ++ [line] }
    rw [List.append_assoc] at later
    exact later

theorem putAllStream (errors : Bool) (ls : List String) (c : Channels) :
    putAll (ls.map (.stream errors, ·)) c =
      if errors then c.complain (fileText ls) else c.print (fileText ls) := by
  induction ls generalizing c with
  | nil => cases errors <;> simp [putAll, fileText, Channels.complain, Channels.print]
  | cons line rest ih =>
    have later := ih ((Sink.stream errors).write line c)
    rw [putAll] at later
    rw [putAll, List.map_cons, List.foldl_cons, later]
    cases errors <;>
      simp [Sink.write, fileText, Channels.complain, Channels.print, String.append_assoc]

theorem putAllAdds {sink : Sink} (held : ∀ f, sink = .file f → ∃ n, f.kept = some n ∧ 0 < n)
    (ls : List String) (c : Channels) : Adds sink ls c (putAll (ls.map (sink, ·)) c) := by
  cases sink with
  | stream errors =>
    rw [putAllStream]
    constructor
    case file => nofun
    all_goals cases errors <;> simp [Channels.complain, Channels.print]
  | syslog =>
    rw [putAllSystem]
    constructor
    case file => nofun
    all_goals simp
  | file f =>
    obtain ⟨n, kept, some⟩ := held f rfl
    rw [putAllFile]
    constructor
    case file =>
      rintro _ ⟨⟩
      exact LogFile.writesAll kept some _ _
    case files => exact fun none => absurd rfl (none f)
    all_goals simp

theorem fillPlain (r : Record) : Layout.fill plainFormat.toList r = some r.message := by
  have bare : (Layout.Parts.ofText none r.message).laidOut false false 0 = r.message.toList := by
    simp [Layout.Parts.ofText, Layout.Parts.laidOut]
  have field : Layout.fillField r (some r.whole)
      ['(', 'm', 'e', 's', 's', 'a', 'g', 'e', ')', 's'] = some ⟨r.message.toList, none, []⟩ := by
    rw [← bare]
    rfl
  have layout : plainFormat.toList =
      ['%', '(', 'm', 'e', 's', 's', 'a', 'g', 'e', ')', 's'] := by
    decide
  rw [Layout.fill, layout]
  dsimp only [List.length_cons]
  rw [Layout.fillFrom, if_neg (by decide), field]
  simp [Layout.fillFrom]

end Deliveries

section Histories

structure Site where
  gate : Gate
  facility : Facility
  channels : Channels
  calls : Nat
  deriving DecidableEq, Repr

def counted (text : String) : StateM Nat String := fun calls => (text, calls + 1)

inductive Use where
  | setup (platform : Platform) (log : Section)
  | disable
  | message (stamp : Stamp) (method : Method) (source level text : String)

namespace Site

def start (c : Channels) : Site := ⟨Gate.closed, Facility.start, c, 0⟩

def setup (s : Site) (platform : Platform) (log : Section) : Site × Option GateError :=
  let (gate, facility, channels, e) := s.gate.setup log platform s.facility s.channels
  (⟨gate, facility, channels, s.calls⟩, e)

def use (s : Site) : Use → Site
  | .setup platform log => (s.setup platform log).1
  | .disable => { s with gate := s.gate.disable }
  | .message stamp method source level text =>
    let done := s.gate.emit s.facility stamp method source level (counted text) s.channels s.calls
    { s with channels := done.1, calls := done.2 }

def run (s : Site) (uses : List Use) : Site := uses.foldl use s

end Site

variable {s : Site}

theorem useTidy (tidy : Tidy s.facility) (u : Use) : Tidy (s.use u).facility := by
  cases u with
  | setup platform log => exact tidySetup tidy s.gate log
  | disable | message => exact tidy

theorem runTidy (tidy : Tidy s.facility) (uses : List Use) : Tidy (s.run uses).facility := by
  induction uses generalizing s with
  | nil => exact tidy
  | cons u rest ih => exact ih (useTidy tidy u)

end Histories

section Standing

variable {g : Gate} {f : Facility} {out : String} {sink : Sink} {least : Nat}

theorem standingLevel (standing : Standing g f out sink least) (method : Method) :
    g.levelPasses method.levelName = decide (least ≤ method.severity) := by
  rw [Gate.levelPasses, standing.threshold, method.levelNameSeverity]

theorem standingSeverity (standing : Standing g f out sink least) :
    f.severity (Gate.loggerNamed (kindOf out)) =
      if least = 0 then (Method.warning.severity : Int) else least := by
  rw [Facility.severity, standing.chain]
  by_cases zero : least = 0
  · rw [zero]
    rfl
  · have own : ((loggerAt out least sink).level.severity != 0) = true := by
      simpa [loggerAt, Level.severity] using zero
    rw [List.find?_cons, own, if_neg zero]
    rfl

theorem standingDelivers (standing : Standing g f out sink least) (stamp : Stamp)
    (method : Method) (text : String) (loud : least ≤ method.severity) :
    f.deliver stamp (Gate.loggerNamed (kindOf out)) method text =
      if least ≠ 0 ∨ Method.warning.severity ≤ method.severity then [(sink, text)] else [] := by
  have reached : Facility.reached [loggerAt out least sink, Facility.start.root] =
      [⟨handlerName out, sink, .number least, plainFormat.toList⟩] := rfl
  have one : ∀ named levelName fields,
      (Handler.mk (handlerName out) sink (.number least) plainFormat.toList).deliver
        ⟨named, method.severity, levelName, text, fields⟩ = [(sink, text)] := by
    intro named levelName fields
    have heard : ¬ ((method.severity : Int) < (Level.number least).severity) := by
      rw [Level.severity]
      omega
    rw [Handler.deliver, if_neg heard, fillPlain]
    rfl
  rw [Facility.deliver, standingSeverity standing, standing.chain, reached]
  have quiet : ((method.severity : Int) <
      if least = 0 then (Method.warning.severity : Int) else least) ↔
      ¬ (least ≠ 0 ∨ Method.warning.severity ≤ method.severity) := by
    split <;> omega
  simp only [quiet, ite_not, List.flatMap_singleton, one]

theorem standingWrites (standing : Standing g f out sink least) (stamp : Stamp) (method : Method)
    (source message : String) :
    g.deliver f stamp method source method.levelName message =
      if (g.sourcePasses source = true ∧ least ≤ method.severity) ∧
          (least ≠ 0 ∨ Method.warning.severity ≤ method.severity) then
        (messageLines message).map fun line =>
          (sink, g.form.line stamp source method.levelName line)
      else [] := by
  have passes : g.passes source method.levelName =
      (g.sourcePasses source && decide (least ≤ method.severity)) := by
    rw [Gate.passes, standingLevel standing]
  rw [Gate.deliver, standing.logger]
  dsimp only
  by_cases wanted : g.sourcePasses source = true ∧ least ≤ method.severity
  · have lines := fun text => standingDelivers standing stamp method text wanted.2
    have through : g.passes source method.levelName = true := by simp [passes, wanted]
    simp only [through, if_true, lines, wanted, true_and]
    split
    · exact List.flatMap_pure_eq_map ..
    · simp
  · have shut : g.passes source method.levelName = false := by
      rw [passes]
      simpa using wanted
    rw [shut, if_neg Bool.false_ne_true, if_neg fun both => wanted both.1]

theorem standingRenders (standing : Standing g f out sink least) (method : Method)
    (source : String) : g.renders source method.levelName = true ↔
      g.sourcePasses source = true ∧ least ≤ method.severity := by
  rw [Gate.renders, standing.logger, Option.isSome_some, Bool.true_and, Gate.passes,
    standingLevel standing, Bool.and_eq_true, decide_eq_true_iff]

/-- What a log makes of messages, each at the level of its method. A message is called for its text just
when its source is enabled and its method severe enough; the lines then go to the sink. With no least
severity they do so only from that of the root on. -/
structure Emits (s : Site) (enabled : String → Bool) (least : Nat) (sink : Sink) : Prop where
  called : ∀ {σ : Type} (message : StateM σ String) stamp (method : Method) source c (kept : σ),
    (s.gate.emit s.facility stamp method source method.levelName message c kept).2 =
      if enabled source = true ∧ least ≤ method.severity then (message kept).2 else kept
  delivered : ∀ stamp (method : Method) source text,
    s.gate.deliver s.facility stamp method source method.levelName text =
      if (enabled source = true ∧ least ≤ method.severity) ∧
          (least ≠ 0 ∨ Method.warning.severity ≤ method.severity) then
        (messageLines text).map fun line =>
          (sink, s.gate.form.line stamp source method.levelName line)
      else []
  put : ∀ {σ : Type} (message : StateM σ String) stamp method source level c (kept : σ),
    (s.gate.emit s.facility stamp method source level message c kept).1 =
      putAll (s.gate.deliver s.facility stamp method source level (message kept).1) c
  written : ∀ {σ : Type} (message : StateM σ String) stamp (method : Method) source c (kept : σ),
    Adds sink
      (if (enabled source = true ∧ least ≤ method.severity) ∧
          (least ≠ 0 ∨ Method.warning.severity ≤ method.severity) then
        (messageLines (message kept).1).map (s.gate.form.line stamp source method.levelName)
      else [])
      c (s.gate.emit s.facility stamp method source method.levelName message c kept).1

theorem leadsKept {platform : Platform} (leads : Leads platform out sink) :
    ∀ f, sink = .file f → ∃ n, f.kept = some n ∧ 0 < n := by
  rintro f rfl
  cases leads
  exact ⟨3, rfl, by decide⟩

theorem standingEmits {s : Site} {enabled : String → Bool} {platform : Platform}
    (standing : Standing s.gate s.facility out sink least) (leads : Leads platform out sink)
    (sources : ∀ source, s.gate.sourcePasses source = enabled source) :
    Emits s enabled least sink where
  called message stamp method source c kept := by
    simp only [gateCalls, standingRenders standing, sources]
  delivered stamp method source text := by
    rw [standingWrites standing, sources]
  put message stamp method source level c kept := gateDelivers ..
  written message stamp method source c kept := by
    rw [gateDelivers, standingWrites standing, sources]
    split
    · have lines := putAllAdds (leadsKept leads) ((messageLines (message kept).1).map
        (s.gate.form.line stamp source method.levelName)) c
      rwa [List.map_map] at lines
    · exact putAllAdds (leadsKept leads) [] c

end Standing

section Ready

variable {platform : Platform} {r : Reading} {g : Gate} {f : Facility} {sink : Sink} {least : Nat}

theorem leadsErrors (leads : Leads platform errorsName sink) : sink = .stream true := by
  obtain ⟨destination, same⟩ : ∃ d, d = errorsName := ⟨_, rfl⟩
  rw [← same] at leads
  cases leads with
  | errors => rfl
  | output | syslog => exact absurd same (by decide)
  | file apart other plain opened =>
    rw [same] at apart
    exact absurd apart (by decide)

theorem leadsFile {out : String} (leads : Leads platform out sink)
    (apart : ¬ (isStreamName out ∨ out = syslogName)) : ∃ name file,
    (Reference.ofText? out = none → name = out) ∧ platform.opens name = some file ∧
      sink = .file (logFile file) := by
  cases leads with
  | output | errors | syslog => exact absurd (by decide) apart
  | @file _ name file _ _ plain opened => exact ⟨name, file, plain, opened, rfl⟩

theorem readySink (ready : Ready platform r g f sink least) {stamp : Stamp} {method : Method}
    {source message : String} :
    ∀ d ∈ g.deliver f stamp method source method.levelName message, d.1 = sink := by
  intro d member
  rw [standingWrites ready.toStanding] at member
  split at member
  · obtain ⟨line, _, rfl⟩ := List.mem_map.mp member
    rfl
  · cases member

theorem siteReady {before after : Site} {store : Store} (of : r.Of store)
    (tidy : Tidy before.facility) (done : before.setup platform store.log = (after, none)) :
    ∃ least sink, Ready platform r after.gate after.facility sink least ∧
      Untouched before.channels after.channels := by
  rw [Site.setup] at done
  cases made : before.gate.setup store.log platform before.facility before.channels with
  | mk gate rest =>
    obtain ⟨facility, channels, e⟩ := rest
    rw [made] at done
    cases done
    exact setupReady of tidy made

end Ready

section Results

variable {sources : Sources} {uses : List Use} {platform : Platform} {start : Channels}

/-- After whatever was done with the log before, a configuration is loaded and the log set up from it.
From then on a message is called for its text, once, just when its source is enabled and its method is
at least as severe as the configuration asks for; its lines are then written in their order, each once,
to the destination. Only where the configuration names no least severity, the lines of a method below
that of the root are lost, although the message was called. -/
theorem renderedAndWritten {after : Site}
    (done : ((Site.start start).run uses).setup platform (Store.fresh.load sources).1.log =
      (after, none)) :
    ∃ r least sink, r.Of (Store.fresh.load sources).1 ∧ severity? r.level = some least ∧
      Leads platform (outletOf r.destination) sink ∧
      Emits after (enabledIn r) least sink := by
  obtain ⟨r, of⟩ := loadedReading sources
  have tidy : Tidy ((Site.start start).run uses).facility := runTidy tidyStart uses
  obtain ⟨least, sink, ready, _⟩ := siteReady of tidy done
  exact ⟨r, least, sink, of, ready.known, ready.leads,
    standingEmits ready.toStanding ready.leads ready.sources⟩

def temporary : Platform where
  name := "linux"
  constant? _ := none
  opens name :=
    if '/' ∉ name.toList ∧ name ∉ ["", ".", ".."] then some ⟨"/tmp/" ++ name, true⟩
    else if "/tmp/".toList.isPrefixOf name.toList then some ⟨name, true⟩
    else none

theorem renderedAndWrittenError :
    let sources : Sources := ⟨[("prefixsid_log_level", "warning")], none⟩
    let uses : List Use := [.setup temporary logSection,
      .message ⟨"", "", []⟩ .info "" "INFO" "before", .disable]
    ∃ after, ((Site.start .empty).run uses).setup temporary (Store.fresh.load sources).1.log =
        (after, none) ∧
      (after.gate.emit after.facility ⟨"", "", []⟩ .error "cli" "ERROR" (counted "one\ntwo")
        .empty 0) = (⟨"", "cli             one\ncli             two\n", [], []⟩, 1) ∧
      (after.gate.emit after.facility ⟨"", "", []⟩ .error "parser" "ERROR" (counted "one")
        .empty 0) = (.empty, 0) := by
  intro sources uses
  let r : Reading := ⟨true, "WARNING", "stderr", false, false, false, true, 3, false, by decide,
    by decide, by decide⟩
  have of : r.Of (Store.fresh.load sources).1 :=
    ⟨completeDeclared (loadedComplete _), by decide +kernel, by decide +kernel, by decide +kernel⟩
  have tidy : Tidy ((Site.start .empty).run uses).facility := runTidy tidyStart uses
  obtain ⟨least, gate, facility, made, ready⟩ :=
    @setupErrors _ r ((Site.start .empty).run uses).gate _ ((Site.start .empty).run uses).channels
      temporary of tidy (by decide)
  have done : ((Site.start .empty).run uses).setup temporary (Store.fresh.load sources).1.log =
      (⟨gate, facility, ((Site.start .empty).run uses).channels,
        ((Site.start .empty).run uses).calls⟩, none) := by
    rw [Site.setup, made]
  obtain ⟨held, bound, sink, of', known, leads, emits⟩ := renderedAndWritten done
  cases of.unique of'
  cases known
  cases leadsErrors leads
  have form : gate.form = .short := by
    rw [ready.form]
    decide
  refine ⟨_, done, Prod.ext ?_ (emits.called ..), Prod.ext ?_ (emits.called ..)⟩
  · have lines := emits.delivered ⟨"", "", []⟩ .error "cli" "one\ntwo"
    rw [form] at lines
    rw [emits.put]
    exact (congrArg (putAll · .empty) lines).trans (by decide)
  · have lines := emits.delivered ⟨"", "", []⟩ .error "parser" "one"
    rw [form] at lines
    rw [emits.put]
    exact (congrArg (putAll · .empty) lines).trans (by decide)

theorem renderedUnwritten :
    let sources : Sources := ⟨[("prefixsid.log.level", "NOTSET")], none⟩
    ∃ after, (Site.start .empty).setup temporary (Store.fresh.load sources).1.log =
        (after, none) ∧
      after.gate.emit after.facility ⟨"", "", []⟩ .debug "" "DEBUG" (counted "x") after.channels 0 =
        (after.channels, 1) := by
  intro sources
  let r : Reading := ⟨true, "NOTSET", "stderr", false, false, false, true, 3, false, by decide,
    by decide, by decide⟩
  have of : r.Of (Store.fresh.load sources).1 :=
    ⟨completeDeclared (loadedComplete _), by decide +kernel, by decide +kernel, by decide +kernel⟩
  obtain ⟨least, gate, facility, made, ready⟩ :=
    @setupErrors _ r Gate.closed Facility.start Channels.empty temporary of tidyStart (by decide)
  cases ready.known
  have done : (Site.start .empty).setup temporary (Store.fresh.load sources).1.log =
      (⟨gate, facility, Channels.empty, 0⟩, none) := by
    rw [Site.setup, Site.start, made]
  refine ⟨_, done, Prod.ext ?_ ?_⟩
  · have lines := standingWrites ready.toStanding ⟨"", "", []⟩ .debug "" "x"
    rw [gateDelivers]
    exact congrArg (putAll · .empty) lines
  · rw [gateCalls]
    have through : gate.renders "" "DEBUG" = true :=
      (standingRenders ready.toStanding .debug "").mpr ⟨rfl, by decide⟩
    rw [through]
    rfl

end Results

end SidAttribute.Log
