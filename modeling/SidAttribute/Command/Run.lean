import SidAttribute.Command.CrashReport
import SidAttribute.Command.Menu
import SidAttribute.Text.Hex
import SidAttribute.Tree.Json

/-! What the commands do. Every command takes the session it runs in and gives it back with how it
ended. Payloads are decoded one by one: an invalid one is complained about and the rest go on,
unless the debugger was asked for. -/
namespace SidAttribute.Command
open Config Log Text

def showVersion (host : Host) (s : Session) : Session × Outcome :=
  let rows := [("prefixsid", version), ("Python", host.runtime), ("Uname", host.system),
    ("From", host.folder)]
  (rows.foldl (fun s (name, value) => s.print (padRight 10 name ++ ": " ++ value ++ "\n")) s,
    .finished 0)

def showConfiguration (v : Given) (s : Session) : Session × Outcome :=
  match s.load with
  | (s, some e) => (s, .failed (.load e))
  | (s, none) =>
    let changedOnly := v.has "diff"
    let l := if v.has "env" then s.store.assignments changedOnly else s.store.ini changedOnly
    (l.lines.foldl (fun s line => s.print (line ++ "\n")) s, .finished 0)

def defaultLines (mark : String) : String :=
  "\n".intercalate (Store.fresh.summary.map fun line => mark ++ line)

def decodeUsage : String :=
  "Environment values are:\n" ++ defaultLines " - " ++ "\n\nUsage: prefixsid decode <hex>\n" ++
  "       echo \"<hex>\" | prefixsid decode\n\n" ++
  "The Prefix-SID attribute value must be an hexadecimal string.\n"

def payloadLines (input : String) : List String :=
  ((lines input.toList).map trim |>.filter fun l => !l.isEmpty).map String.ofList

def askForDetails (log : Section) : Section :=
  ((((log.set "enable" (.bool true)).set "all" (.bool true)).set "level" (.text "DEBUG")).set
    "destination" (.text "stderr")).set "short" (.bool false)

def wantsDebugger (s : Session) : Bool := (optionOf s.store.debug "pdb").holds

def Given.number? (v : Given) (long : String) (empty : Failure) : Except Failure (Option Int) :=
  match v.amount? long with
  | none => .ok none
  | some (.number n) => .ok (some n)
  | some .nothing => .error empty

def decodePayload (host : Host) (v : Given) (s : Session) (payload : String) :
    Session × Except Failure Tree :=
  match readHex payload with
  | .error e => (s, .error (.hex e))
  | .ok octets =>
    let s := s.debug host "cli" (octetsLine "decoding" octets)
    match v.number? "siblings" .emptyBound with
    | .error e => (s, .error e)
    | .ok bound =>
      let request : Request := ⟨.top, octets, octets.length, bound⟩
      match request.answer s.registries s.store s.sources with
      | (store, .error e) => ({ s with store := store }, .error (.request e))
      | (store, .ok d) => (({ s with store := store } : Session).tell host d.notices, .ok d.tree)

def Failure.isInvalidPayload : Failure → Bool
  | .hex _ => true
  | .request (.decode _) => true
  | _ => false

def decodePayloads (host : Host) (v : Given) : Nat → List String → Session → Session × Outcome
  | code, [], s => (s, .finished code)
  | code, payload :: rest, s =>
    match decodePayload host v s payload with
    | (s, .ok tree) =>
      match v.number? "indent" .emptyIndent with
      | .error e => (s, .failed e)
      | .ok indent => decodePayloads host v code rest (s.print (tree.json indent ++ "\n"))
    | (s, .error e) =>
      if wantsDebugger s || !e.isInvalidPayload then (s, .failed e)
      else decodePayloads host v 1 rest (s.complain ("invalid payload: " ++ e.message "" ++ "\n"))

def prepareDecoding (host : Host) (v : Given) (s : Session) : Session × Option Failure :=
  match s.load with
  | (s, some e) => (s, some (.load e))
  | (s, none) =>
    let store := s.store
    let store := if v.has "debug" then { store with log := askForDetails store.log } else store
    let store :=
      if v.has "pdb" then { store with debug := store.debug.set "pdb" (.bool true) } else store
    match ({ s with store := store } : Session).setupLog host with
    | (s, some e) => (s, some (.gate e))
    | (s, none) =>
      let s := s.installReporter (wantsDebugger s)
      ((s.store.assignments true).lines.foldl
        (fun s line => s.debug host "configuration" ("using " ++ line)) s, none)

/-- Decodes the payload given, else those on the input; none: there is no input to read. -/
def decodeCommand (host : Host) (v : Given) (input : Option String) (s : Session) :
    Session × Outcome :=
  match v.operand.map (fun p => [p]) |>.or (input.map payloadLines) with
  | none => (s.print decodeUsage, .finished 1)
  | some payloads =>
    match prepareDecoding host v s with
    | (s, some e) => (s, .failed e)
    | (s, none) => decodePayloads host v 0 payloads s

def Order.carryOut (host : Host) (input : Option String) (s : Session) : Order → Session × Outcome
  | .help g => (s.print g.help, .exited 0)
  | .refused g message => (s.complain (g.complaint message), .exited 2)
  | .bare =>
    (s.print (mainGrammar.help ++ "\nEnvironment values are:\n" ++ defaultLines "    " ++ "\n"),
      .finished 1)
  | .perform .version _ => showVersion host s
  | .perform .env v => showConfiguration v s
  | .perform .decode v => decodeCommand host v input s

def runProgram (host : Host) (sources : Sources) (entry : Option Action) (args : List String)
    (input : Option String) : Session × Outcome :=
  (entryOrder entry args).carryOut host input (Session.start sources)

end SidAttribute.Command
