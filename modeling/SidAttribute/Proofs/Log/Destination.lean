import SidAttribute.Proofs.Log.Written

/-! Where the lines of a log go, for every text of its destination. What a destination asks for is
said by its kinds alone: two streams, the system log, a file behind its mark, and the standard output
for all the rest. Taking the destination in forgets the mark, so a file with the name of a stream or of
the system log is taken for that one, and a file whose name is a reference for what that stands for. -/
namespace SidAttribute.Log
open Config Text

def ownNames : List String := [outputName, errorsName, syslogName]

inductive Asks (platform : Platform) : String → Sink → Prop where
  | output : Asks platform outputName (.stream false)
  | errors : Asks platform errorsName (.stream true)
  | syslog : Asks platform syslogName .syslog
  | file {name : String} {file : OpenFile} (opens : platform.opens name = some file) :
      Asks platform ("file:" ++ name) (.file (logFile file))
  | other {destination : String} (apart : destination ∉ ownNames)
      (unmarked : ∀ name, destination ≠ "file:" ++ name) : Asks platform destination (.stream false)

/-- The log was set up, which wrote nothing, and sends what it is given to the sink. -/
structure Sent (log : Section) (least : Nat) (before : Site) (done : Site × Option GateError)
    (sink : Sink) : Prop where
  finished : done.2 = none
  untouched : Untouched before.channels done.1.channels
  emits : Emits done.1 (enabledBy log) least sink

structure Refused (before : Site) (done : Site × Option GateError) : Prop where
  error : done.2 = some (.facility (.handler "prefixsid.file_file"))
  logger : done.1.gate.logger = before.gate.logger
  facility : done.1.facility = before.facility
  channels : done.1.channels = before.channels

def NamesFile (name : String) : Prop := name ∉ ownNames ∧ Reference.ofText? name = none

/-- What setting a log up makes of its destination. -/
structure Directs (platform : Platform) (log : Section) (least : Nat) (destination : String)
    (before : Site) (done : Site × Option GateError) : Prop where
  asked : ∀ sink, Asks platform destination sink →
    (∀ name, destination = "file:" ++ name → NamesFile name) → Sent log least before done sink
  marked : ∀ name, destination = "file:" ++ name → name ∉ ownNames →
    (∃ file, Sent log least before done (.file (logFile file))) ∨ Refused before done
  unopened : ∀ name, destination = "file:" ++ name → NamesFile name →
    platform.opens name = none → Refused before done
  mistaken : ∀ name, destination = "file:" ++ name → name ∈ ownNames →
    ∃ sink, Asks platform name sink ∧ Sent log least before done sink

section Outlets

variable {platform : Platform} {destination : String}

theorem ownName : (isStreamName destination ∨ destination = syslogName) ↔
    destination ∈ ownNames := by
  simp [isStreamName, ownNames, or_assoc]

theorem outletOwn (own : destination ∈ ownNames) : outletOf destination = destination := by
  rw [outletOf, if_pos (ownName.mpr own)]

theorem markedApart (name : String) : "file:" ++ name ∉ ownNames := by
  intro own
  simp only [ownNames, List.mem_cons, List.not_mem_nil, or_false, String.ext_iff,
    String.toList_append] at own
  rcases own with same | same | same
  all_goals exact absurd (List.cons.inj same).1 (by decide)

theorem outletFile (name : String) : outletOf ("file:" ++ name) = name := by
  have front : "file:".toList.isPrefixOf ("file:" ++ name).toList = true := by
    rw [List.isPrefixOf_iff_prefix, String.toList_append]
    exact List.prefix_append ..
  have rest : ("file:" ++ name).toList.drop "file:".length = name.toList := by
    rw [String.toList_append]
    rfl
  rw [outletOf, if_neg (mt ownName.mp (markedApart name)), after?, if_pos front, rest]
  exact String.ofList_toList

theorem outletOther (apart : destination ∉ ownNames)
    (unmarked : ∀ name, destination ≠ "file:" ++ name) : outletOf destination = outputName := by
  have missing : after? "file:" destination = none := by
    rw [after?, if_neg]
    intro front
    obtain ⟨rest, same⟩ := List.isPrefixOf_iff_prefix.mp front
    refine unmarked (String.ofList rest) (String.toList_inj.mp ?_)
    simpa using same.symm
  rw [outletOf, if_neg (mt ownName.mp apart), missing]
  rfl

theorem asksLeads {sink : Sink} (asks : Asks platform destination sink)
    (plain : ∀ name, destination = "file:" ++ name → NamesFile name) :
    Leads platform (outletOf destination) sink ∧ Reference.ofText? (outletOf destination) = none := by
  cases asks with
  | output => exact ⟨.output, by decide⟩
  | errors => exact ⟨.errors, by decide⟩
  | syslog => exact ⟨.syslog, by decide⟩
  | @file name file opens =>
    obtain ⟨apart, text⟩ := plain name rfl
    rw [← ownName, not_or] at apart
    rw [outletFile]
    exact ⟨.file (Bool.eq_false_iff.mpr apart.1) apart.2 (fun _ => rfl) opens, text⟩
  | other apart unmarked =>
    rw [outletOther apart unmarked]
    exact ⟨.output, by decide⟩

theorem ownAsks (own : destination ∈ ownNames) : ∃ sink, Asks platform destination sink := by
  simp only [ownNames, List.mem_cons, List.not_mem_nil, or_false] at own
  rcases own with rfl | rfl | rfl
  · exact ⟨_, .output⟩
  · exact ⟨_, .errors⟩
  · exact ⟨_, .syslog⟩

end Outlets

section Opening

variable {out : String} {sink : Sink}

theorem addressPlain (platform : String) : Reference.ofText? (syslogAddress platform) = none := by
  unfold syslogAddress
  split
  · decide
  · split <;> decide

theorem leadsOpen {d : Description} (leads : Leads d.platform out sink)
    (plain : Reference.ofText? out = none) (c : Channels) :
    ∃ opened, (targetOf d.platform out).open? d c = some (opened, sink) := by
  cases leads with
  | output => exact ⟨c, rfl⟩
  | errors => exact ⟨c, rfl⟩
  | syslog =>
    have target : targetOf d.platform syslogName =
        .syslog (.text (syslogAddress d.platform.name)) (.text "daemon") := rfl
    have daemon : d.resolve (.text "daemon") = some (.setting (.text "daemon")) :=
      Description.resolvePlain (by decide) d
    refine ⟨c, ?_⟩
    rw [target]
    simp only [Target.open?, Description.valuePlain (addressPlain d.platform.name), daemon, bind,
      Option.bind, Listener.platformAddress, if_true]
  | @file _ name file apart other same opened =>
    cases same plain
    have target : targetOf d.platform out = .file (.text out) (.int 1048576) (.int 3) := by
      rw [targetOf, apart, if_neg Bool.false_ne_true, if_neg other]
    have largest : d.value? (.int 1048576) = some (.int 1048576) := rfl
    have backups : d.resolve (.int 3) = some (.setting (.int 3)) := rfl
    rw [target]
    simp only [Target.open?, Description.valuePlain plain, largest, backups, bind, Option.bind,
      opened]
    exact ⟨_, rfl⟩

end Opening

section Settled

variable {log : Section} {level destination out : String} {platform : Platform} {least : Nat}
  {before : Site} {sink : Sink}

theorem setupSends (directed : Directed log level destination)
    (known : severity? level = some least) (tidy : Tidy before.facility) :
    ∃ d : Description, d.platform = platform ∧
      match (targetOf platform (outletOf destination)).open? d before.channels with
      | some (_, sink) => Sent log least before (before.setup platform log) sink
      | none => before.setup platform log =
          (⟨askedGate before.gate log level least (outletOf destination), before.facility,
            before.channels, before.calls⟩,
          some (.facility (.handler (handlerName (outletOf destination))))) := by
  obtain ⟨d, rfl, setup⟩ := @setupAsked _ _ _ least platform before.gate before.facility
    before.channels directed known
  refine ⟨d, rfl, ?_⟩
  rw [Site.setup, setup]
  cases opens : (targetOf d.platform (outletOf destination)).open? d before.channels with
  | none => rfl
  | some opened =>
    obtain ⟨channels, sink⟩ := opened
    obtain ⟨leads, untouched⟩ := openLeads opens
    have standing := openStanding tidy before.gate log level (outletOf destination) least sink
    exact ⟨rfl, untouched, standingEmits standing leads fun _ => rfl⟩

theorem fileHandler (apart : out ∉ ownNames) : handlerName out = "prefixsid.file_file" := by
  rw [← ownName, not_or] at apart
  rw [handlerName, kindOf, if_neg apart.1, if_neg apart.2]
  rfl

theorem leadsSent (directed : Directed log level destination)
    (known : severity? level = some least) (tidy : Tidy before.facility)
    (leads : Leads platform (outletOf destination) sink)
    (plain : Reference.ofText? (outletOf destination) = none) :
    Sent log least before (before.setup platform log) sink := by
  obtain ⟨d, rfl, result⟩ := @setupSends _ _ _ platform _ _ directed known tidy
  obtain ⟨opened, opens⟩ := leadsOpen leads plain before.channels
  rwa [opens] at result

theorem fileSent {name : String} (directed : Directed log level ("file:" ++ name))
    (known : severity? level = some least) (tidy : Tidy before.facility) (apart : name ∉ ownNames) :
    (∃ file, Leads platform name (.file (logFile file)) ∧
      Sent log least before (before.setup platform log) (.file (logFile file))) ∨
      Refused before (before.setup platform log) := by
  obtain ⟨d, rfl, result⟩ := @setupSends _ _ _ platform _ _ directed known tidy
  rw [outletFile] at result
  cases opens : (targetOf d.platform name).open? d before.channels with
  | none =>
    rw [opens, fileHandler apart] at result
    rw [result]
    exact .inr ⟨rfl, rfl, rfl, rfl⟩
  | some opened =>
    obtain ⟨channels, sink⟩ := opened
    rw [opens] at result
    have leads := (openLeads opens).1
    obtain ⟨_, file, _, _, rfl⟩ := leadsFile leads (mt ownName.mp apart)
    exact .inl ⟨file, leads, result⟩

theorem destinationSent (directed : Directed log level destination)
    (known : severity? level = some least) (start : Channels) (uses : List Use)
    (platform : Platform) :
    Directs platform log least destination ((Site.start start).run uses)
      (((Site.start start).run uses).setup platform log) := by
  have tidy : Tidy ((Site.start start).run uses).facility := runTidy tidyStart uses
  constructor
  case asked =>
    intro sink asks plain
    obtain ⟨leads, text⟩ := asksLeads asks plain
    exact leadsSent directed known tidy leads text
  case marked =>
    rintro name rfl apart
    exact (fileSent directed known tidy apart).imp_left fun ⟨file, _, sent⟩ => ⟨file, sent⟩
  case unopened =>
    rintro name rfl plain none
    refine (fileSent directed known tidy plain.1).resolve_left fun ⟨file, leads, _⟩ => ?_
    cases leads with
    | file apart other same opened =>
      rw [same plain.2, none] at opened
      cases opened
  case mistaken =>
    rintro name rfl own
    obtain ⟨sink, asks⟩ := @ownAsks platform _ own
    obtain ⟨leads, text⟩ := asksLeads asks fun p same => absurd own (same ▸ markedApart p)
    have outlet : outletOf ("file:" ++ name) = outletOf name := by
      rw [outletFile, outletOwn own]
    rw [← outlet] at leads text
    exact ⟨sink, asks, leadsSent directed known tidy leads text⟩

theorem destinationSentFile :
    let uses : List Use := [.setup temporary logSection,
      .message ⟨"", "", []⟩ .error "" "ERROR" "before",
      .setup temporary (logSection.set "destination" (.text "file:/none/out.log"))]
    let log := logSection.set "destination" (.text ("file:" ++ "/tmp/out.log"))
    let done := ((Site.start .empty).run uses).setup temporary log
    Sent log 20 ((Site.start .empty).run uses) done
      (.file ⟨⟨"/tmp/out.log", true⟩, 1048576, some 3⟩) := by
  intro uses log done
  have directed : Directed log "INFO" ("file:" ++ "/tmp/out.log") :=
    ⟨by decide +kernel, by decide +kernel⟩
  have opens : temporary.opens "/tmp/out.log" = some ⟨"/tmp/out.log", true⟩ := by decide
  refine (destinationSent directed rfl .empty uses temporary).asked _ (.file opens)
    fun name same => ?_
  have given : name = "/tmp/out.log" := by
    rw [← outletFile name, ← same, outletFile]
  rw [given]
  exact ⟨by decide, by decide⟩

theorem destinationMistaken :
    let log := logSection.set "destination" (.text "file:stdout")
    let done := (Site.start .empty).setup temporary log
    Asks temporary "file:stdout" (.file ⟨⟨"/tmp/stdout", true⟩, 1048576, some 3⟩) ∧
      done.2 = none ∧
      done.1.gate.emit done.1.facility ⟨"", "", []⟩ .error "" "ERROR" (counted "x")
        done.1.channels 0 = (⟨"                x\n", "", [], []⟩, 1) := by
  have opens : temporary.opens "stdout" = some ⟨"/tmp/stdout", true⟩ := by decide
  exact ⟨.file opens, by decide +kernel, by decide +kernel⟩

end Settled

end SidAttribute.Log
