import SidAttribute.Log.Gate
import SidAttribute.Proofs.Config.Loaded

/-! What setting up the log leaves behind. A loaded configuration asks for one handler, at its
destination and from its level on, with the message alone as its layout; whether the log is set up is
whether that destination can be opened. -/
namespace SidAttribute.Log
open Config Text

section Loggers

variable {f : Facility} {name : String} {l : Logger}

theorem loggerName (apart : Facility.isRoot name = false) : (f.logger name).name = name := by
  rw [Facility.logger, apart, if_neg Bool.false_ne_true]
  cases found : f.loggers.find? fun l => l.name == name with
  | none => rfl
  | some l =>
    have same := List.find?_some found
    exact beq_iff_eq.mp same

theorem putInNames {ls : List Logger} {m : Logger} (member : m ∈ Facility.putIn ls l) :
    m ∈ ls ∨ m = l := by
  induction ls with
  | nil => exact .inr (List.mem_singleton.mp member)
  | cons first rest ih =>
    rw [Facility.putIn] at member
    split at member
    · rcases List.mem_cons.mp member with same | later
      · exact .inr same
      · exact .inl (List.mem_cons_of_mem _ later)
    · rcases List.mem_cons.mp member with same | later
      · exact .inl (same ▸ List.mem_cons_self)
      · exact (ih later).imp_left (List.mem_cons_of_mem _)

theorem putInFound (ls : List Logger) (named : l.name = name) :
    (Facility.putIn ls l).find? (fun m => m.name == name) = some l := by
  induction ls with
  | nil => simp [Facility.putIn, named]
  | cons first rest ih =>
    rw [Facility.putIn]
    by_cases same : first.name = l.name
    · simp [same, named]
    · have other : (first.name == name) = false := beq_false_of_ne (named ▸ same)
      rw [if_neg same, List.find?_cons, other]
      exact ih

theorem belowSelf (name : String) : Facility.isBelow name name = false := by
  rw [Bool.eq_false_iff]
  intro below
  have short := (List.isPrefixOf_iff_prefix.mp below).length_le
  rw [List.length_append, List.length_singleton] at short
  omega

theorem putLogger (apart : Facility.isRoot name = false) (named : l.name = name) :
    ((f.put name l).resetBelow name).logger name = l := by
  have some : name ≠ "" := by
    rintro rfl
    cases apart
  have kept : ∀ m : Logger, (if Facility.isBelow name m.name then Facility.blank m.name else m).name =
      m.name := by
    intro m
    split <;> rfl
  have found : ((Facility.putIn f.loggers l).map fun m =>
      if Facility.isBelow name m.name then Facility.blank m.name else m).find?
        (fun m => m.name == name) = .some l := by
    rw [List.find?_map]
    simp only [Function.comp_def, kept, putInFound f.loggers named, Option.map_some, named,
      belowSelf, if_neg Bool.false_ne_true]
  rw [Facility.logger, apart, if_neg Bool.false_ne_true, Facility.resetBelow, if_neg some,
    Facility.put, apart, if_neg Bool.false_ne_true, found, Option.getD_some]

end Loggers

section Tidiness

def loggerNames : List String :=
  [outputName, errorsName, syslogName, "file"].map Gate.loggerNamed

theorem loggerNamesApart : ∀ name ∈ loggerNames, Facility.isRoot name = false ∧
    Facility.namesAbove name = [application] ∧ application ∉ loggerNames := by
  decide

structure Tidy (f : Facility) : Prop where
  root : f.root = Facility.start.root
  named : ∀ l ∈ f.loggers, l.name ∈ loggerNames

variable {f : Facility} {platform : Platform} {name : String} {l : Logger} {c : Channels}

theorem tidyStart : Tidy Facility.start := ⟨rfl, fun _ member => nomatch member⟩

theorem tidyPut (tidy : Tidy f) (known : name ∈ loggerNames) (named : l.name = name) :
    Tidy (f.put name l) := by
  rw [Facility.put, (loggerNamesApart name known).1, if_neg Bool.false_ne_true]
  refine ⟨tidy.root, fun m member => ?_⟩
  rcases putInNames member with old | rfl
  · exact tidy.named m old
  · exact named ▸ known

theorem tidyReset (tidy : Tidy f) (name : String) : Tidy (f.resetBelow name) := by
  unfold Facility.resetBelow
  split
  · exact tidy
  · refine ⟨tidy.root, fun m member => ?_⟩
    obtain ⟨old, there, rfl⟩ := List.mem_map.mp member
    split <;> exact tidy.named old there

theorem tidyConfigure (tidy : Tidy f) (known : name ∈ loggerNames) (o : LoggerOptions) :
    Tidy (f.configure platform name o c).1 := by
  have named := @loggerName f name (loggerNamesApart name known).1
  unfold Facility.configure
  dsimp only
  split
  · exact tidy
  · split
    · exact tidy
    · split
      · refine tidyReset (tidyPut tidy known ?_) name
        exact named
      · exact tidyPut tidy known named

theorem tidyGet (tidy : Tidy f) (known : name ∈ loggerNames) (replace : Bool)
    (options : Option LoggerOptions) : Tidy (f.get platform name replace options c).1 := by
  unfold Facility.get
  split
  · exact tidy
  · have configured := @tidyConfigure f platform name c tidy known (options.getD {})
    split
    · next made =>
      rw [made] at configured
      exact configured
    · next made =>
      rw [made] at configured
      exact ⟨configured.root, configured.named⟩

theorem requestNamed (g : Gate) : Gate.loggerNamed g.loggerRequest.1 ∈ loggerNames := by
  refine List.mem_map_of_mem ?_
  unfold Gate.loggerRequest
  split
  · next stream =>
    rw [isStreamName, Bool.or_eq_true, beq_iff_eq, beq_iff_eq] at stream
    rcases stream with same | same <;> simp [same]
  · split <;> simp

theorem tidySetup (tidy : Tidy f) (g : Gate) (log : Section) :
    Tidy (g.setup log platform f c).2.1 := by
  unfold Gate.setup
  split
  · exact tidy
  · next g _ =>
    have got := @tidyGet f platform _ c tidy (requestNamed g) true g.loggerRequest.2
    dsimp only
    split
    all_goals
      next made =>
        rw [made] at got
        exact got

theorem tidyChain (tidy : Tidy f) (known : name ∈ loggerNames) :
    f.chain name = [f.logger name, Facility.start.root] := by
  obtain ⟨apart, above, none⟩ := loggerNamesApart name known
  have absent : (f.loggers.find? fun l => l.name == application) = .none :=
    List.find?_eq_none.mpr fun l member same => none (beq_iff_eq.mp same ▸ tidy.named l member)
  rw [Facility.chain, apart, if_neg Bool.false_ne_true, above, tidy.root]
  simp [absent]

end Tidiness

section Requests

variable {f : Facility} {platform : Platform} {name level : String} {n : Nat} {c : Channels}

theorem levelPlain (known : severity? level = some n) :
    Reference.ofText? level = none ∧ level ≠ "WARN" := by
  have each : ∀ name ∈ severityNames.map Prod.fst,
      Reference.ofText? name = none ∧ name ≠ "WARN" := by
    decide
  exact each level (levelKnown (by rw [known]; rfl))

theorem levelResolves (known : severity? level = some n) (d : Description) :
    d.resolve (.text level) = some (.setting (.text level)) :=
  Description.resolvePlain (levelPlain known).1 d

theorem levelNumber (known : severity? level = some n) :
    levelOf (.setting (.text level)) = .ok (some (.number n)) := by
  simp only [levelOf, facilitySeverity?, if_neg (levelPlain known).2, known, Option.map_some]
  rfl

theorem layoutPlain (d : Description) : layoutOf d (.text plainFormat) = .ok plainFormat.toList := by
  have plain := Description.valuePlain (by decide : Reference.ofText? plainFormat = none) d
  have holds : (Value.text plainFormat).holds = true := by decide
  have valid : Layout.isValid plainFormat.toList = true := by decide
  simp only [layoutOf, plain, holds, valid, if_true, Bool.not_true, if_neg Bool.false_ne_true]

def HandlerPlan.opening (p : HandlerPlan) (d : Description) : Description :=
  (d.without p.name ["formatter", "level"]).without p.name ["class"]

theorem realizeNamed {p : HandlerPlan} (asked : p.level = .text level)
    (known : severity? level = some n) (d : Description) (layout : List Char) :
    p.realize d layout c = match p.target.open? (p.opening d) c with
      | some (c, sink) => (c, .ok ⟨p.name, sink, .number n, layout⟩)
      | none => (c, .error (.handler p.name)) := by
  rw [HandlerPlan.realize, asked, levelResolves known, HandlerPlan.opening]
  cases p.target.open? ((d.without p.name ["formatter", "level"]).without p.name ["class"]) c with
  | none => rfl
  | some opened =>
    simp only [levelNumber known]
    rfl

theorem configureOne {o : LoggerOptions} {p : HandlerPlan} (plans : o.plans platform name = [p])
    (format : o.format = .text plainFormat) (asked : o.level = .text level)
    (plan : p.level = .text level) (known : severity? level = some n) :
    ∃ d : Description, d.platform = platform ∧
      f.configure platform name o c = match p.target.open? d c with
      | some (c, sink) =>
        ((f.put name ⟨(f.logger name).name, .number n,
          [⟨p.name, sink, .number n, plainFormat.toList⟩], false⟩).resetBelow name, c, none)
      | none => (f, c, some (.handler p.name)) := by
  refine ⟨p.opening (Description.ofPlans platform name o [p]).withLayoutMade, rfl, ?_⟩
  rw [Facility.configure, plans, format, layoutPlain, asked]
  dsimp only [sortPlans, List.foldr, insertPlan]
  rw [realizePlans, realizeNamed plan known]
  cases p.target.open? (p.opening (Description.ofPlans platform name o [p]).withLayoutMade) c with
  | none => rfl
  | some opened =>
    simp [realizePlans, levelResolves known, levelNumber known]

end Requests

section Destinations

variable {platform : Platform} {destination : String} {c : Channels}

/-- The file of a log: it has a limit, and three files are put aside for it. -/
def logFile (file : OpenFile) : LogFile := ⟨file, 1048576, some 3⟩

inductive Leads (platform : Platform) : String → Sink → Prop where
  | output : Leads platform outputName (.stream false)
  | errors : Leads platform errorsName (.stream true)
  | syslog : Leads platform syslogName .syslog
  | file {destination name : String} {file : OpenFile} (apart : isStreamName destination = false)
      (other : destination ≠ syslogName)
      (plain : Reference.ofText? destination = none → name = destination)
      (opened : platform.opens name = some file) : Leads platform destination (.file (logFile file))

def kindOf (destination : String) : String :=
  if isStreamName destination then destination
  else if destination = syslogName then syslogName
  else "file"

def targetOf (platform : Platform) (destination : String) : Target :=
  if isStreamName destination then .stream (destination == errorsName)
  else if destination = syslogName then .syslog (.text (syslogAddress platform.name)) (.text "daemon")
  else .file (.text destination) (.int 1048576) (.int 3)

theorem streamNames (stream : isStreamName destination = true) :
    destination = outputName ∨ destination = errorsName := by
  rwa [isStreamName, Bool.or_eq_true, beq_iff_eq, beq_iff_eq] at stream

theorem targetKind (platform : Platform) (destination : String) :
    (targetOf platform destination).kindName = kindOf destination := by
  unfold targetOf kindOf
  split
  · next stream => rcases streamNames stream with rfl | rfl <;> rfl
  · split <;> rfl

theorem requestOne (g : Gate) (platform : Platform) (name : String) :
    g.loggerRequest.1 = kindOf g.destination ∧
      g.loggerRequest.2.plans platform name = [⟨name, targetOf platform g.destination, g.level⟩] ∧
      g.loggerRequest.2.format = .text plainFormat ∧ g.loggerRequest.2.level = g.level := by
  unfold Gate.loggerRequest kindOf targetOf
  split
  · next stream =>
    refine ⟨rfl, ?_, rfl, rfl⟩
    by_cases errors : g.destination = errorsName
    · rw [errors]
      rfl
    · have other : (g.destination == errorsName) = false := beq_false_of_ne errors
      rw [if_neg errors, other]
      rfl
  · split <;> exact ⟨rfl, rfl, rfl, rfl⟩

structure Untouched (before after : Channels) : Prop where
  output : after.output = before.output
  errors : after.errors = before.errors
  system : after.system = before.system
  files : ∀ path, after.files.text path = before.files.text path

theorem untouchedSelf (c : Channels) : Untouched c c := ⟨rfl, rfl, rfl, fun _ => rfl⟩

theorem madeUntouched (c : Channels) (path : String) :
    Untouched c { c with files := c.files.append path "" } := by
  refine ⟨rfl, rfl, rfl, fun other => ?_⟩
  dsimp only
  rw [Files.text, Files.getAppend]
  split
  · next same => rw [Option.getD_some, String.append_empty, same]
  · rfl

theorem openLeads {d : Description} {opened : Channels} {sink : Sink}
    (done : (targetOf d.platform destination).open? d c = some (opened, sink)) :
    Leads d.platform destination sink ∧ Untouched c opened := by
  unfold targetOf at done
  split at done
  · next stream =>
    cases done
    rcases streamNames stream with rfl | rfl
    · exact ⟨.output, untouchedSelf c⟩
    · exact ⟨.errors, untouchedSelf c⟩
  · next apart =>
    split at done
    · next same =>
      simp only [Target.open?, bind, Option.bind_eq_some_iff] at done
      obtain ⟨address, _, facility, _, done⟩ := done
      split at done
      · cases done
        exact ⟨same ▸ .syslog, untouchedSelf c⟩
      · cases done
    · next other =>
      simp only [Target.open?, bind, Option.bind_eq_some_iff] at done
      obtain ⟨name, resolved, largest, size, backups, kept, number, counted, done⟩ := done
      cases size
      cases kept
      cases counted
      have plain : Reference.ofText? destination = none → name = .text destination := by
        intro plain
        rw [Description.valuePlain plain] at resolved
        cases resolved
        rfl
      cases name with
      | text name =>
        obtain ⟨file, opens, done⟩ := Option.bind_eq_some_iff.mp done
        cases done
        have leads : Leads d.platform destination (.file (logFile file)) :=
          .file (Bool.eq_false_iff.mpr apart) other (fun text => by cases plain text; rfl) opens
        exact ⟨leads, madeUntouched c file.path⟩
      | _ => cases done

end Destinations

section Asked

variable {log : Section} {level destination out : String} {least : Nat} {platform : Platform}
  {g : Gate} {f : Facility} {c : Channels} {sink : Sink}

structure Directed (log : Section) (level destination : String) : Prop where
  level : optionOf log "level" = .text level
  destination : optionOf log "destination" = .text destination

def outletOf (destination : String) : String :=
  if isStreamName destination ∨ destination = syslogName then destination
  else (after? "file:" destination).getD outputName

def sourceEnabled (enable all parser configuration : Bool) : String → Bool
  | "parser" => enable && (all || parser)
  | "configuration" => enable && (all || configuration)
  | "cli" => enable
  | _ => true

def enabledBy (log : Section) : String → Bool :=
  let on (name : String) := (optionOf log name).holds
  sourceEnabled (on "enable") (on "all") (on "parser") (on "configuration")

def askedGate (g : Gate) (log : Section) (level : String) (least : Nat) (out : String) : Gate :=
  let on (name : String) := (optionOf log name).holds
  { g with
    short := optionOf log "short"
    level := .text level
    threshold := some least
    parser := on "enable" && (on "all" || on "parser")
    configuration := on "enable" && (on "all" || on "configuration")
    cli := on "enable"
    destination := out }

def openGate (g : Gate) (log : Section) (level : String) (least : Nat) (out : String) : Gate :=
  { askedGate g log level least out with
    logger := some (Gate.loggerNamed (kindOf out))
    form := Form.choose (optionOf log "short").holds (kindOf out) }

def handlerName (out : String) : String := Gate.loggerNamed (kindOf out) ++ "_" ++ kindOf out

def loggerAt (out : String) (least : Nat) (sink : Sink) : Logger :=
  ⟨Gate.loggerNamed (kindOf out), .number least,
    [⟨handlerName out, sink, .number least, plainFormat.toList⟩], false⟩

theorem gateAsked (directed : Directed log level destination) (known : severity? level = some least)
    (g : Gate) : g.load log = (askedGate g log level least (outletOf destination), none) := by
  have outlets : destinationOf (.text destination) = .ok (outletOf destination) := rfl
  simp only [Gate.load, directed.level, directed.destination, Gate.withLevel, known, outlets]
  rfl

def withLogger (f : Facility) (l : Logger) : Facility :=
  let f := (f.put l.name l).resetBelow l.name
  { f with created := if l.name ∈ f.created then f.created else f.created ++ [l.name] }

theorem withLoggerFound {name : String} {l : Logger} (apart : Facility.isRoot name = false)
    (named : l.name = name) : (withLogger f l).logger name = l := by
  subst named
  have created : (withLogger f l).logger l.name =
      ((f.put l.name l).resetBelow l.name).logger l.name := rfl
  rw [created, putLogger apart rfl]

theorem kindKnown (out : String) : Gate.loggerNamed (kindOf out) ∈ loggerNames := by
  have known := requestNamed { Gate.closed with destination := out }
  rwa [(requestOne { Gate.closed with destination := out } ⟨"", fun _ => none, fun _ => none⟩ "").1]
    at known

theorem setupAsked (directed : Directed log level destination)
    (known : severity? level = some least) :
    ∃ d : Description, d.platform = platform ∧
      g.setup log platform f c =
        match (targetOf platform (outletOf destination)).open? d c with
        | some (c, sink) =>
          (openGate g log level least (outletOf destination),
            withLogger f (loggerAt (outletOf destination) least sink), c, none)
        | none => (askedGate g log level least (outletOf destination), f, c,
            some (.facility (.handler (handlerName (outletOf destination))))) := by
  obtain ⟨out, outlet⟩ : ∃ out, out = outletOf destination := ⟨_, rfl⟩
  rw [← outlet]
  have kind : (askedGate g log level least out).loggerRequest.1 = kindOf out :=
    (requestOne _ platform "").1
  obtain ⟨_, request⟩ :=
    requestOne (askedGate g log level least out) platform (Gate.loggerNamed (kindOf out))
  have plans : (askedGate g log level least out).loggerRequest.2.plans platform
      (Gate.loggerNamed (kindOf out)) =
        [⟨Gate.loggerNamed (kindOf out), targetOf platform out, .text level⟩] := request.1
  have asked : (askedGate g log level least out).loggerRequest.2.level = .text level := request.2.2
  have handler : HandlerPlan.name ⟨Gate.loggerNamed (kindOf out), targetOf platform out,
      .text level⟩ = handlerName out := by
    rw [HandlerPlan.name, targetKind, handlerName]
  obtain ⟨d, own, configured⟩ :=
    @configureOne f platform _ level least c _ _ plans request.2.1 asked rfl known
  have name := @loggerName f _ (loggerNamesApart _ (kindKnown out)).1
  refine ⟨d, own, ?_⟩
  rw [Gate.setup, gateAsked directed known g, ← outlet]
  simp only [kind, Facility.get, Bool.not_true, Bool.false_eq_true, and_false, if_false,
    Option.getD_some, configured, name, handler]
  cases (targetOf platform out).open? d c with
  | none => rfl
  | some opened => rfl

structure Standing (g : Gate) (f : Facility) (out : String) (sink : Sink) (least : Nat) : Prop where
  logger : g.logger = some (Gate.loggerNamed (kindOf out))
  threshold : g.threshold = some least
  chain : f.chain (Gate.loggerNamed (kindOf out)) = [loggerAt out least sink, Facility.start.root]

theorem withLoggerChain (tidy : Tidy f) (out : String) (least : Nat) (sink : Sink) :
    (withLogger f (loggerAt out least sink)).chain (Gate.loggerNamed (kindOf out)) =
      [loggerAt out least sink, Facility.start.root] := by
  have named : (loggerAt out least sink).name = Gate.loggerNamed (kindOf out) := rfl
  have put := tidyReset (tidyPut tidy (kindKnown out) named) (Gate.loggerNamed (kindOf out))
  have held : Tidy (withLogger f (loggerAt out least sink)) := ⟨put.root, put.named⟩
  have found := @withLoggerFound f _ (loggerAt out least sink)
    (loggerNamesApart _ (kindKnown out)).1 named
  rw [tidyChain held (kindKnown out), found]

theorem openStanding (tidy : Tidy f) (g : Gate) (log : Section) (level out : String) (least : Nat)
    (sink : Sink) : Standing (openGate g log level least out)
      (withLogger f (loggerAt out least sink)) out sink least :=
  ⟨rfl, rfl, withLoggerChain tidy out least sink⟩

end Asked

section Loaded

variable {s : Store} {r : Reading} {g : Gate} {f : Facility} {c : Channels} {platform : Platform}
  {least : Nat} {sink : Sink}

def enabledIn (r : Reading) : String → Bool :=
  sourceEnabled r.enable r.all r.parser r.configuration

theorem optionItem {d : Section} {name : String} {v : Value} (settable : Settable d d.choices)
    (member : (name, v) ∈ d.items) : optionOf d name = v := by
  rw [optionOf, getItem settable member]

theorem readingDirected (of : r.Of s) :
    Directed s.log r.level r.destination ∧ enabledBy s.log = enabledIn r ∧
      optionOf s.log "short" = .bool r.short := by
  have settable := alikeSettable of.declared.log logSettable
  have item : ∀ row ∈ s.log.items, optionOf s.log row.1 = row.2 := fun row member =>
    optionItem settable member
  simp only [of.log, List.forall_mem_cons] at item
  obtain ⟨enable, level, destination, all, configuration, parser, short, _⟩ := item
  refine ⟨⟨level, destination⟩, ?_, short⟩
  simp only [enabledBy, enable, all, configuration, parser]
  rfl

/-- A log set up from a configuration: the gate, and under its logger one handler, at the sink. -/
structure Ready (platform : Platform) (r : Reading) (g : Gate) (f : Facility) (sink : Sink)
    (least : Nat) : Prop extends Standing g f (outletOf r.destination) sink least where
  known : severity? r.level = some least
  leads : Leads platform (outletOf r.destination) sink
  sources : ∀ source, g.sourcePasses source = enabledIn r source
  form : g.form = Form.choose r.short (kindOf (outletOf r.destination))

theorem openReady (of : r.Of s) (tidy : Tidy f) (known : severity? r.level = some least)
    (leads : Leads platform (outletOf r.destination) sink) :
    Ready platform r (openGate g s.log r.level least (outletOf r.destination))
      (withLogger f (loggerAt (outletOf r.destination) least sink)) sink least := by
  obtain ⟨_, enabled, short⟩ := readingDirected of
  have sources : ∀ source, (openGate g s.log r.level least (outletOf r.destination)).sourcePasses
      source = enabledBy s.log source := fun _ => rfl
  have form : (openGate g s.log r.level least (outletOf r.destination)).form =
      Form.choose (optionOf s.log "short").holds (kindOf (outletOf r.destination)) := rfl
  refine ⟨openStanding tidy g s.log r.level _ least sink, known, leads, ?_, ?_⟩
  · rwa [enabled] at sources
  · rwa [short] at form

theorem setupReady {after : Gate} {other : Facility} {more : Channels} (of : r.Of s)
    (tidy : Tidy f) (done : g.setup s.log platform f c = (after, other, more, none)) :
    ∃ least sink, Ready platform r after other sink least ∧ Untouched c more := by
  obtain ⟨least, known⟩ := Option.isSome_iff_exists.mp r.known
  obtain ⟨d, rfl, setup⟩ := @setupAsked _ _ _ least platform g f c (readingDirected of).1 known
  rw [setup] at done
  split at done
  · next opened sink here =>
    cases done
    obtain ⟨leads, untouched⟩ := openLeads here
    exact ⟨least, sink, openReady of tidy known leads, untouched⟩
  · cases done

theorem setupErrors (of : r.Of s) (tidy : Tidy f) (errors : outletOf r.destination = errorsName) :
    ∃ least after other, g.setup s.log platform f c = (after, other, c, none) ∧
      Ready platform r after other (.stream true) least := by
  obtain ⟨least, known⟩ := Option.isSome_iff_exists.mp r.known
  obtain ⟨d, rfl, setup⟩ := @setupAsked _ _ _ least platform g f c (readingDirected of).1 known
  have opens : (targetOf d.platform (outletOf r.destination)).open? d c = some (c, .stream true) := by
    rw [errors]
    rfl
  have leads : Leads d.platform (outletOf r.destination) (.stream true) := errors ▸ .errors
  rw [opens] at setup
  exact ⟨least, _, _, setup, openReady of tidy known leads⟩

end Loaded

end SidAttribute.Log
