import SidAttribute.Command.Run
import SidAttribute.Proofs.Config.Snapshot
import SidAttribute.Proofs.Log.Written
import SidAttribute.Proofs.OneLine

/-! Payloads line by line. The command that decodes its input writes one text for each payload that is
hexadecimal and complains about each other one; neither touches what the rest of the lines come to, and
the log, wherever it goes, leaves the standard output alone. -/
namespace SidAttribute

namespace Json
open Text

theorem hexDigitsUnbroken (n value : Nat) : '\n' ∉ hexDigits n value := by
  have digit : ∀ d < 16, Nat.digitChar d ≠ '\n' := by decide
  have digits : '\n' ∉ Nat.toDigits 16 value := by
    induction value using Nat.strongRecOn with
    | ind value ih =>
      rw [Nat.toDigits_eq_if (by decide)]
      split
      · next small => exact fun same => digit value small (List.mem_singleton.mp same).symm
      · next large =>
        rw [List.mem_append, List.mem_singleton, not_or]
        exact ⟨ih (value / 16) (by omega), (digit _ (Nat.mod_lt _ (by decide))).symm⟩
  rw [hexDigits, List.mem_append, not_or]
  exact ⟨fun zero => absurd (List.eq_of_mem_replicate zero) (by decide), digits⟩

theorem escapeUnbroken (c : Char) : '\n' ∉ escapeChar c := by
  have unicode : ∀ n, '\n' ∉ unicodeEscape n := fun n => by
    simp [unicodeEscape, hexDigitsUnbroken]
  by_cases feed : c = '\n'
  · rw [feed]
    decide
  · have self : '\n' ∉ [c] := fun same => feed (List.mem_singleton.mp same).symm
    unfold escapeChar
    repeat' split
    all_goals first
      | exact self
      | exact unicode _
      | exact List.not_mem_append (unicode _) (unicode _)
      | decide

theorem stringUnbroken (s : String) : Unbroken (string s) := by
  have inside : '\n' ∉ s.toList.flatMap escapeChar := by
    rw [List.mem_flatMap]
    rintro ⟨c, _, member⟩
    exact escapeUnbroken c member
  rw [string, unbrokenAppend, unbrokenAppend]
  refine ⟨⟨by decide, ?_⟩, by decide⟩
  rwa [Unbroken, String.toList_ofList]

theorem intUnbroken (n : Int) : Unbroken (toString n) := by
  cases n with
  | ofNat m => exact unbrokenNat m
  | negSucc m =>
    have shown : toString (Int.negSucc m) = "-" ++ toString (m + 1) := rfl
    rw [shown, unbrokenAppend]
    exact ⟨by decide, unbrokenNat _⟩

mutual

theorem valueUnbroken (depth : Nat) : (v : Value) → Unbroken (value none depth v)
  | .null | .bool true | .bool false | .list [] | .tree [] => by rw [value]; decide
  | .int n => by rw [value]; exact intUnbroken n
  | .text s => by rw [value]; exact stringUnbroken s
  | .list (item :: rest) => by
    simp only [value, unbrokenAppend, lineBreak, valueUnbroken _ item, itemsUnbroken _ rest]
    decide
  | .tree (field :: rest) => by
    simp only [value, unbrokenAppend, lineBreak, stringUnbroken, valueUnbroken _ field.2,
      fieldsUnbroken _ rest]
    decide

theorem itemsUnbroken (depth : Nat) : (items : List Value) → Unbroken (Json.items none depth items)
  | [] => by rw [items]; decide
  | item :: rest => by
    simp only [items, unbrokenAppend, separator, valueUnbroken _ item, itemsUnbroken _ rest]
    decide

theorem fieldsUnbroken (depth : Nat) :
    (fields : List (String × Value)) → Unbroken (Json.fields none depth fields)
  | [] => by rw [fields]; decide
  | field :: rest => by
    simp only [fields, unbrokenAppend, separator, stringUnbroken, valueUnbroken _ field.2,
      fieldsUnbroken _ rest]
    decide

end

end Json

namespace Command
open Config Log Text Wire

section Telling

variable {s : Session} {host : Host} {source message : String}

theorem debugDelivers : s.debug host source message =
    { s with channels := putAll (s.gate.deliver s.facility host.stamp .debug source
      Method.debug.levelName message) s.channels } := by
  rw [Session.debug, sayDelivers]

def noticed (s : Session) (host : Host) (ns : List Notice) : List Delivery :=
  ns.flatMap fun m =>
    s.gate.deliver s.facility host.stamp m.method parserSource m.method.levelName m.text

theorem tellDelivers (ns : List Notice) : s.tell host ns =
    { s with channels := putAll (noticed s host ns) s.channels } := by
  simp only [Session.tell, Gate.tell, sayDelivers, noticed, putAll, List.foldl_flatMap]

def Aside (g : Gate) (f : Facility) : Prop :=
  ∀ stamp, ∀ method ∈ [Method.debug, .info], ∀ source ∈ ["configuration", "cli", parserSource],
    ∀ message, ∀ d ∈ g.deliver f stamp method source method.levelName message,
      d.1 ≠ .stream false

theorem leadsAway {platform : Platform} {destination : String} {sink : Sink}
    (leads : Leads platform destination sink) (away : destination ≠ outputName) : sink ≠ .stream false := by
  cases leads with
  | output => exact absurd rfl away
  | errors | syslog | file => exact nofun

theorem readyAside {platform : Platform} {r : Reading} {g : Gate} {f : Facility} {sink : Sink}
    {least : Nat} (ready : Ready platform r g f sink least)
    (away : outletOf r.destination ≠ outputName) : Aside g f := by
  intro stamp method _ source _ message d member
  rw [readySink ready d member]
  exact leadsAway ready.leads away

end Telling

section Lines

structure Listening (s : Session) : Prop where
  aside : Aside s.gate s.facility
  loaded : s.store.loaded = true
  calm : wantsDebugger s = false
  standard : s.registries = Registries.standard

def BoundIs (store : Store) (bound : Option Int) (n : Nat) : Prop :=
  bound = some (n : Int) ∨ bound = none ∧ store.decode.items = [("siblings", .int n)]

def decoded (n : Nat) (octets : Octets) : Decoded :=
  Decode.level Registries.standard n .top octets

def told (s : Session) (host : Host) (n : Nat) (octets : Octets) : List Delivery :=
  s.gate.deliver s.facility host.stamp .debug "cli" Method.debug.levelName
    (octetsLine "decoding" octets) ++ noticed s host (decoded n octets).notices

def shown (n : Nat) (indent : Option Int) (payload : String) : String :=
  match readHex payload with
  | .ok octets => (decoded n octets).tree.json indent ++ "\n"
  | .error _ => ""

def complained (s : Session) (host : Host) (n : Nat) (payload : String) : String :=
  match readHex payload with
  | .ok octets => textTo true (told s host n octets)
  | .error e => "invalid payload: " ++ e.message ++ "\n"

variable {s : Session} {host : Host} {v : Given} {bound indent : Option Int} {n : Nat}
  {octets : Octets} {payload : String}

theorem windowWhole (octets : Octets) : Decode.window octets octets.length = .ok octets := by
  have within : ¬ ((octets.length : Int) < 0 ∨ (octets.length : Int) < octets.length) := by omega
  rw [Decode.window, if_neg within, Int.toNat_natCast, List.take_length]

theorem decodedWhole (n : Nat) (octets : Octets) :
    Decode.decode Registries.standard .top octets octets.length n = .ok (decoded n octets) := by
  have least : ¬ (n : Int) < 0 := by omega
  simp only [Decode.decode, windowWhole, Decode.checkBound, if_neg least, bind, Except.bind,
    decoded]

theorem answerWhole (loaded : s.store.loaded = true) (standard : s.registries = Registries.standard)
    (bounded : BoundIs s.store bound n) (octets : Octets) :
    (Request.mk .top octets octets.length bound).answer s.registries s.store s.sources =
      (s.store, .ok (decoded n octets)) := by
  have least : ¬ (n : Int) < 0 := by omega
  rw [standard, Request.answer]
  dsimp only
  rw [windowWhole]
  rcases bounded with rfl | ⟨rfl, items⟩
  · simp only [Decode.checkBound, if_neg least, Except.mapError, Except.map, decoded]
  · simp only [s.store.loadOnce s.sources loaded, Request.decodeUnder, configuredItem items, decoded]

theorem payloadAccepted (listening : Listening s) (bounded : BoundIs s.store bound n)
    (asked : v.number? "siblings" .emptyBound = .ok bound) (read : readHex payload = .ok octets) :
    decodePayload host v s payload =
      ({ s with channels := putAll (told s host n octets) s.channels },
        .ok (decoded n octets).tree) := by
  rw [decodePayload, read]
  dsimp only
  rw [asked, debugDelivers]
  dsimp only
  rw [answerWhole listening.loaded listening.standard bounded]
  dsimp only
  rw [tellDelivers, told, putAll, putAll, putAll, List.foldl_append]
  rfl

theorem payloadRejected {e : HexError} (read : readHex payload = .error e) :
    decodePayload host v s payload = (s, .error (.hex e)) := by
  rw [decodePayload, read]

theorem toldAside (listening : Listening s) :
    textTo false (told s host n octets) = "" := by
  refine textToOther fun d member => ?_
  rcases List.mem_append.mp member with about | after
  · exact listening.aside _ .debug (by simp) "cli" (by simp) _ d about
  · obtain ⟨m, _, there⟩ := List.mem_flatMap.mp after
    refine listening.aside _ m.method ?_ parserSource (by simp) _ d there
    unfold Notice.method
    split <;> simp

theorem listeningOn (listening : Listening s) (c : Channels) :
    Listening { s with channels := c } :=
  ⟨listening.aside, listening.loaded, listening.calm, listening.standard⟩

theorem payloadsStep (listening : Listening s) (bounded : BoundIs s.store bound n)
    (asked : v.number? "siblings" .emptyBound = .ok bound)
    (indented : v.number? "indent" .emptyIndent = .ok indent) (code : Nat) (rest : List String) :
    ∃ c, decodePayloads host v code (payload :: rest) s =
        decodePayloads host v (if (readHex payload).isOk then code else 1) rest
          { s with channels := c } ∧
      c.output = s.channels.output ++ shown n indent payload ∧
      c.errors = s.channels.errors ++ complained s host n payload := by
  rw [decodePayloads]
  unfold shown complained
  cases read : readHex payload with
  | ok octets =>
    obtain ⟨output, errors⟩ := putAllStreams (told s host n octets) s.channels
    rw [toldAside listening, String.append_empty] at output
    refine ⟨(putAll (told s host n octets) s.channels).print
      ((decoded n octets).tree.json indent ++ "\n"), ?_, ?_, errors⟩
    · rw [payloadAccepted listening bounded asked read]
      dsimp only
      rw [indented]
      rfl
    · rw [Channels.print, output]
  | error e =>
    refine ⟨s.channels.complain ("invalid payload: " ++ e.message ++ "\n"), ?_, ?_, rfl⟩
    · rw [payloadRejected read]
      dsimp only
      rw [listening.calm]
      rfl
    · exact String.append_empty.symm

theorem payloadsRun (listening : Listening s) (bounded : BoundIs s.store bound n)
    (asked : v.number? "siblings" .emptyBound = .ok bound)
    (indented : v.number? "indent" .emptyIndent = .ok indent) (code : Nat) (payloads : List String) :
    ∃ c, decodePayloads host v code payloads s = ({ s with channels := c },
        .finished (if ∀ p ∈ payloads, (readHex p).isOk then code else 1)) ∧
      c.output = s.channels.output ++ String.join (payloads.map (shown n indent)) ∧
      c.errors = s.channels.errors ++ String.join (payloads.map (complained s host n)) := by
  induction payloads generalizing s code with
  | nil =>
    refine ⟨s.channels, ?_, String.append_empty.symm, String.append_empty.symm⟩
    simp [decodePayloads]
  | cons payload rest ih =>
    obtain ⟨first, step, output, errors⟩ :=
      @payloadsStep s host v bound indent n payload listening bounded asked indented code rest
    obtain ⟨last, run, more, other⟩ :=
      @ih { s with channels := first } (listeningOn listening first) bounded
        (if (readHex payload).isOk then code else 1)
    refine ⟨last, ?_, ?_, ?_⟩
    · rw [step, run]
      refine congrArg (fun code => (_, Outcome.finished code)) ?_
      by_cases accepted : (readHex payload).isOk = true <;> simp [accepted]
    · rw [more, output, List.map_cons, String.join_cons, String.append_assoc]
    · rw [other, errors, List.map_cons, String.join_cons, String.append_assoc]
      rfl

end Lines

section Preparing

variable {store : Store} {r : Reading}

def detailed (r : Reading) : Reading :=
  { r with
    enable := true
    level := "DEBUG"
    destination := errorsName
    all := true
    short := false
    known := by decide
    unquoted := by decide }

theorem detailsOf (of : r.Of store) :
    (detailed r).Of { store with log := askForDetails store.log } := by
  have log := of.declared.log
  obtain ⟨log, enable⟩ := setKnown "enable" log logSettable (by decide) (.bool true)
  obtain ⟨log, all⟩ := setKnown "all" log logSettable (by decide) (.bool true)
  obtain ⟨log, level⟩ := setKnown "level" log logSettable (by decide) (.text "DEBUG")
  obtain ⟨log, destination⟩ := setKnown "destination" log logSettable (by decide) (.text "stderr")
  obtain ⟨log, short⟩ := setKnown "short" log logSettable (by decide) (.bool false)
  refine ⟨⟨log, of.declared.decode, of.declared.debug⟩, ?_, of.decode, of.debug⟩
  change (askForDetails store.log).items = _
  rw [askForDetails, short, destination, level, all, enable, of.log]
  rfl

def mentioned (s : Session) (host : Host) (source : String) (messages : List String) :
    List Delivery :=
  messages.flatMap fun message =>
    s.gate.deliver s.facility host.stamp .debug source Method.debug.levelName message

theorem mentionDelivers (host : Host) (source : String) (messages : List String) (s : Session) :
    messages.foldl (fun s message => s.debug host source message) s =
      { s with channels := putAll (mentioned s host source messages) s.channels } := by
  induction messages generalizing s with
  | nil => rfl
  | cons message rest ih =>
    rw [List.foldl_cons, debugDelivers, ih, mentioned, mentioned, List.flatMap_cons, putAll, putAll,
      putAll, List.foldl_append]

variable {sources : Sources} {v : Given} {host : Host} {gate : Gate} {facility : Facility}
  {channels : Channels}

theorem logsAside (of : r.Of store)
    (logs : Gate.closed.setup store.log host.platform Facility.start Channels.empty =
      (gate, facility, channels, none)) (aside : Aside gate facility) (v : Given) :
    ∃ g f c, Gate.closed.setup (if v.has "debug" then askForDetails store.log else store.log)
        host.platform Facility.start Channels.empty = (g, f, c, none) ∧ Aside g f ∧ c.output = "" := by
  by_cases debug : v.has "debug" = true
  · obtain ⟨least, g, f, made, ready⟩ := @setupErrors _ _ Gate.closed Facility.start Channels.empty
      host.platform (detailsOf of) tidyStart rfl
    have away : outletOf (detailed r).destination ≠ outputName := by
      rw [show outletOf (detailed r).destination = errorsName from rfl]
      decide
    rw [if_pos debug]
    exact ⟨g, f, _, made, readyAside ready away, rfl⟩
  · obtain ⟨least, sink, _, untouched⟩ := setupReady of tidyStart logs
    rw [if_neg debug]
    exact ⟨gate, facility, channels, logs, aside, untouched.output⟩

theorem prepared (loads : Store.fresh.load sources = (store, none))
    (calm : (optionOf store.debug "pdb").holds = false)
    (logs : Gate.closed.setup store.log host.platform Facility.start Channels.empty =
      (gate, facility, channels, none)) (aside : Aside gate facility)
    (undebugged : v.has "pdb" = false) :
    ∃ s, prepareDecoding host v (Session.start sources) = (s, none) ∧ Listening s ∧
      s.channels.output = "" ∧ s.store.decode = store.decode := by
  obtain ⟨r, of⟩ := loadedReading sources
  rw [loads] at of
  obtain ⟨g, f, c, made, quiet, output⟩ := logsAside of logs aside v
  obtain ⟨chosen, same⟩ : ∃ chosen : Store, chosen =
      if v.has "debug" then { store with log := askForDetails store.log } else store := ⟨_, rfl⟩
  have log : chosen.log = if v.has "debug" then askForDetails store.log else store.log := by
    rw [same]
    split <;> rfl
  have others : chosen.decode = store.decode ∧ chosen.debug = store.debug ∧
      chosen.loaded = true := by
    have loaded := loadLoaded Store.fresh sources
    rw [loads] at loaded
    rw [same]
    split <;> exact ⟨rfl, rfl, loaded⟩
  obtain ⟨decode, debug, loaded⟩ := others
  rw [prepareDecoding, Session.load]
  dsimp only [Session.start]
  rw [loads]
  dsimp only
  rw [undebugged, ← same]
  simp only [Bool.false_eq_true, if_false, Session.setupLog, log, made]
  let s : Session := ⟨sources, chosen, Registries.standard, g, f, c, true⟩
  let messages := (chosen.assignments true).lines.map ("using " ++ ·)
  have undisturbed : ∀ t : Session, t.store = chosen → wantsDebugger t = false := by
    rintro t rfl
    rw [wantsDebugger, debug, calm]
  have mentions := mentionDelivers host "configuration" messages s
  rw [List.foldl_map] at mentions
  refine ⟨{ s with channels := putAll (mentioned s host "configuration" messages) c }, ?_,
    ⟨quiet, loaded, undisturbed _ rfl, rfl⟩, ?_, decode⟩
  · rw [undisturbed _ rfl]
    exact congrArg (·, none) mentions
  · have silent : textTo false (mentioned s host "configuration" messages) = "" := by
      refine textToOther fun d member => ?_
      obtain ⟨message, _, there⟩ := List.mem_flatMap.mp member
      exact quiet _ .debug (by simp) "configuration" (by simp) message d there
    rw [(putAllStreams _ c).1, silent, output]
    rfl

end Preparing

section Results

variable {host : Host} {sources : Sources} {store : Store} {gate : Gate} {facility : Facility}
  {channels : Channels} {v : Given} {bound indent : Option Int} {n : Nat}

def accepted (payloads : List String) : List Octets :=
  payloads.filterMap fun payload => (readHex payload).toOption

def jsonLine (n : Nat) (indent : Option Int) (octets : Octets) : String :=
  (decoded n octets).tree.json indent ++ "\n"

theorem shownAccepted (n : Nat) (indent : Option Int) (payloads : List String) :
    String.join (payloads.map (shown n indent)) =
      String.join ((accepted payloads).map (jsonLine n indent)) := by
  induction payloads with
  | nil => rfl
  | cons payload rest ih =>
    rw [List.map_cons, String.join_cons, ih, shown]
    unfold accepted
    rw [List.filterMap_cons]
    cases readHex payload with
    | ok octets => exact String.join_cons.symm
    | error e => exact String.empty_append

theorem jsonLines (n : Nat) (all : List Octets) :
    lines (String.join (all.map (jsonLine n none))).toList =
      all.map fun octets => (jsonLine n none octets).toList := by
  have one : ∀ l ∈ all.map fun octets => ((decoded n octets).tree.json none).toList, '\n' ∉ l := by
    intro l member
    obtain ⟨octets, _, rfl⟩ := List.mem_map.mp member
    exact Json.valueUnbroken 0 _
  have written := linesWritten one
  rw [List.flatMap_map, List.map_map] at written
  rw [String.toList_join, List.flatMap_map]
  simpa [jsonLine, String.toList_append, Function.comp_def] using written

theorem linesTrimmed {ls : List (List Char)} (one : ∀ l ∈ ls, '\n' ∉ l) :
    ((lines (List.intercalate ['\n'] ls)).map trim).filter (fun l => !l.isEmpty) =
      (ls.map trim).filter fun l => !l.isEmpty := by
  induction ls with
  | nil => rfl
  | cons l rest ih =>
    rw [List.forall_mem_cons] at one
    cases rest with
    | nil =>
      cases l with
      | nil => rfl
      | cons c more => rw [List.intercalate_singleton, linesOne one.1 (by simp), List.map_singleton]
    | cons m more =>
      have ended : trim (l ++ ['\n']) = trim l := stripEnd (by decide)
      rw [List.intercalate_cons_cons, List.append_assoc, List.singleton_append, linesCons one.1]
      generalize m :: more = rest at ih one
      rw [List.map_cons, List.map_cons, ended, List.filter_cons, List.filter_cons, ih one.2]

theorem payloadsRead {ls : List String} (one : ∀ l ∈ ls, Unbroken l) :
    payloadLines ("\n".intercalate ls) =
      (ls.map fun l => String.ofList (trim l.toList)).filter (· ≠ "") := by
  have apart : ∀ l ∈ ls.map String.toList, '\n' ∉ l := by
    intro l member
    obtain ⟨s, inside, rfl⟩ := List.mem_map.mp member
    exact one s inside
  have feed : "\n".toList = ['\n'] := by decide
  rw [payloadLines, String.toList_intercalate, feed, linesTrimmed apart, List.map_map, List.filter_map,
    List.map_map, List.filter_map]
  have empty : ∀ l : List Char, (!l.isEmpty) = decide (String.ofList l ≠ "") := by
    intro l
    cases l <;> simp
  simp [Function.comp_def, empty]

theorem commandRun (input : String) (loads : Store.fresh.load sources = (store, none))
    (calm : (optionOf store.debug "pdb").holds = false)
    (logs : Gate.closed.setup store.log host.platform Facility.start Channels.empty =
      (gate, facility, channels, none)) (aside : Aside gate facility) (bare : v.operand = none)
    (undebugged : v.has "pdb" = false) (asked : v.number? "siblings" .emptyBound = .ok bound)
    (bounded : BoundIs store bound n) (indented : v.number? "indent" .emptyIndent = .ok indent) :
    ∃ after before, decodeCommand host v (some input) (Session.start sources) =
        (after, .finished (if ∀ p ∈ payloadLines input, (readHex p).isOk then 0 else 1)) ∧
      after.channels.output =
        String.join ((accepted (payloadLines input)).map (jsonLine n indent)) ∧
      after.channels.errors =
        before ++ String.join ((payloadLines input).map (complained after host n)) := by
  obtain ⟨s, made, listening, empty, decode⟩ := prepared loads calm logs aside undebugged
  have own : BoundIs s.store bound n := by
    rw [BoundIs, decode]
    exact bounded
  obtain ⟨c, run, output, errors⟩ :=
    payloadsRun listening own asked indented 0 (payloadLines input)
  refine ⟨{ s with channels := c }, s.channels.errors, ?_, ?_, errors⟩
  · rw [decodeCommand, bare]
    dsimp only [Option.map_none, Option.map_some, Option.none_or]
    rw [made]
    exact run
  · rw [output, empty, String.empty_append, shownAccepted]

def Given.debugged (v : Given) : Given := { v with flags := "debug" :: v.flags }

end Results

end Command

end SidAttribute
