import SidAttribute.Command.Run
import SidAttribute.Config.InstallRoot
import Std.Time.DateTime.Timestamp

/-! The program itself. It gathers what a run reads, hands it over, and writes out what the run
gives back: text for the standard streams, text for files, and a status. Times of day are those of
universal time; the number of the process is not known here and shown as a dash. -/
namespace SidAttribute.Program
open Command Config Text

def twoDigits (n : Nat) : String := if n < 10 then "0" ++ toString n else toString n

def clockText (seconds : Nat) : String :=
  twoDigits (seconds / 3600 % 24) ++ ":" ++ twoDigits (seconds / 60 % 60) ++ ":" ++
  twoDigits (seconds % 60)

def variableNames : List String :=
  debuggerVariable :: Store.fresh.rows.flatMap fun (heading, name, _) =>
    [pathOf "." heading name, pathOf "_" heading name]

def readVariables : IO Variables := do
  let mut vs : Variables := []
  for name in variableNames do
    if let some value ← IO.getEnv name then
      vs := vs ++ [(name, value)]
  return vs

def readFile? (path : String) : IO (Option String) := do
  try
    return some (← IO.FS.readFile path)
  catch _ =>
    return none

def findFile? (name : String) : IO (Option Log.OpenFile) := do
  let path := (← IO.currentDir) / name
  if ← path.isDir then return none
  if ← path.pathExists then
    let data ← path.metadata
    return some ⟨path.normalize.toString, data.type == .file⟩
  match path.parent with
  | some folder => return if ← folder.isDir then some ⟨path.normalize.toString, true⟩ else none
  | none => return none

def readLogs (file : Log.OpenFile) : IO Log.Files := do
  let mut files := []
  for path in file.path :: (List.range 3).map fun n => Log.aside file.path (n + 1) do
    if file.regular then
      if let some text ← readFile? path then
        files := files ++ [(path, text)]
  return files

def writeFiles (before after : Log.Files) : IO Unit := do
  for (path, _) in before do
    if (after.get? path).isNone then IO.FS.removeFile path
  for (path, text) in after do
    if before.get? path ≠ some text then IO.FS.writeFile path text

def tellFailure (host : Host) (path : String) (s : Session) (e : Failure) : Session :=
  let message := e.message path
  if s.reporter then s.reportCrash host ⟨e.kind, message⟩
  else s.complain (application ++ ": " ++ message ++ "\n")

def run (args : List String) : IO UInt32 := do
  let here := (← IO.currentDir).toString
  let root := InstallRoot.find here.toList ((← IO.getEnv InstallRoot.askedVariable).map String.toList)
    (← IO.appPath).toString.toList
  let path := String.ofList (InstallRoot.settingsFile root)
  let sources : Sources := ⟨← readVariables, ← readFile? path⟩
  let seconds := (← Std.Time.Timestamp.now).toSecondsSinceUnixEpoch.val.toNat
  -- no other file is asked for than the one that the configuration names
  let gate := (Log.Gate.closed.load (Store.fresh.load sources).1.log).1
  let file ← findFile? gate.destination
  let logs ← (file.map readLogs).getD (pure [])
  let platform : Log.Platform :=
    ⟨"linux", fun _ => none, fun name => if name = gate.destination then file else none⟩
  let host : Host := ⟨platform, "-", "-", String.ofList root, ⟨clockText seconds, "-", []⟩⟩
  let stdin ← IO.getStdin
  let order := entryOrder none args
  let input ← if order.readsInput && !(← stdin.isTty) then some <$> stdin.readToEnd else pure none
  let start : Session := { Session.start sources with channels := ⟨"", "", [], logs⟩ }
  let (s, outcome) := order.carryOut host input start
  let s := match outcome with
    | .failed e => tellFailure host path s e
    | _ => s
  writeFiles logs s.channels.files
  (← IO.getStderr).putStr s.channels.errors
  (← IO.getStdout).putStr s.channels.output
  return match outcome with
    | .finished code => code.toUInt32
    | .exited status => status.toUInt32
    | .failed _ => 1

end SidAttribute.Program

def main (args : List String) : IO UInt32 := SidAttribute.Program.run args
