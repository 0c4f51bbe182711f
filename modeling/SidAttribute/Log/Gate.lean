import SidAttribute.Config.Store
import SidAttribute.Log.Facility
import SidAttribute.Log.Line

/-! The gate in front of the loggers. Every message comes from a source and has the name of a level;
the gate lets it through by both before its text is made. Sources that the gate does not know are
let through; of the known ones each is switched by the configuration. Until a logger is set up
nothing is written. -/
namespace SidAttribute.Log
open Config Text

structure Gate where
  short : Value
  level : Value
  /-- The least severity let through; none: nothing is. -/
  threshold : Option Nat
  parser : Bool
  configuration : Bool
  cli : Bool
  destination : String
  logger : Option String
  form : Form
  deriving DecidableEq, Repr

inductive GateError where
  | unknownLevel (level : Value)
  | levelKind (kind : String)
  | destinationKind (kind : String)
  | facility (e : FacilityError)
  deriving DecidableEq, Repr

def GateError.message : GateError → String
  | .unknownLevel (.text s) => quoted s
  | .unknownLevel other => other.shown
  | .levelKind kind => "unhashable type: '" ++ kind ++ "'"
  | .destinationKind kind => "'" ++ kind ++ "' object has no attribute 'startswith'"
  | .facility e => e.message

def outputName : String := "stdout"

def errorsName : String := "stderr"

def isStreamName (s : String) : Bool := s == outputName || s == errorsName

def after? (mark s : String) : Option String :=
  if mark.toList.isPrefixOf s.toList then some (String.ofList (s.toList.drop mark.length)) else none

def destinationOf : Value → Except GateError String
  | .text s =>
    .ok (if isStreamName s ∨ s = syslogName then s else (after? "file:" s).getD outputName)
  | other => .error (.destinationKind other.kindName)

def optionOf (c : Section) (name : String) : Value :=
  match c.get name with
  | .ok v => v
  | .error _ => .null

namespace Gate

def closed : Gate := ⟨.bool true, .text "WARNING", none, false, false, false, "", none, .bare⟩

def sourcePasses (g : Gate) : String → Bool
  | "parser" => g.parser
  | "configuration" => g.configuration
  | "cli" => g.cli
  | _ => true

def levelPasses (g : Gate) (level : String) : Bool :=
  match g.threshold, severity? level with
  | some least, some n => least ≤ n
  | _, _ => false

def passes (g : Gate) (source level : String) : Bool := g.sourcePasses source && g.levelPasses level

def withLevel (g : Gate) (level : Value) : Gate × Option GateError :=
  let g := { g with level := level }
  match level with
  | .text name =>
    match severity? name with
    | some n => ({ g with threshold := some n }, none)
    | none => (g, some (.unknownLevel level))
  | .list _ => (g, some (.levelKind level.kindName))
  | .tree _ => (g, some (.levelKind level.kindName))
  | _ => (g, some (.unknownLevel level))

/-- Takes the configuration in. What was taken before an error stays. -/
def load (g : Gate) (log : Section) : Gate × Option GateError :=
  match { g with short := optionOf log "short" }.withLevel (optionOf log "level") with
  | (g, some e) => (g, some e)
  | (g, none) =>
    let on (name : String) := (optionOf log name).holds
    let enable := on "enable"
    let g := { g with
      parser := enable && (on "all" || on "parser")
      configuration := enable && (on "all" || on "configuration")
      cli := enable }
    match destinationOf (optionOf log "destination") with
    | .ok d => ({ g with destination := d }, none)
    | .error e => (g, some e)

def loggerRequest (g : Gate) : String × LoggerOptions :=
  let o : LoggerOptions := { level := g.level, format := .text plainFormat }
  if isStreamName g.destination then
    (g.destination,
      { o with stream := some (if g.destination = errorsName then .errors else .output) })
  else if g.destination = syslogName then (syslogName, { o with syslog := .bool true })
  else ("file", { o with file := .text g.destination })

def loggerNamed (kind : String) : String := application ++ "." ++ kind

def setup (g : Gate) (log : Section) (platform : Platform) (f : Facility) (c : Channels) :
    Gate × Facility × Channels × Option GateError :=
  match g.load log with
  | (g, some e) => (g, f, c, some e)
  | (g, none) =>
    let (kind, options) := g.loggerRequest
    match f.get platform (loggerNamed kind) true (some options) c with
    | (f, c, .error e) => (g, f, c, some (.facility e))
    | (f, c, .ok _) =>
      ({ g with logger := some (loggerNamed kind), form := Form.choose g.short.holds kind }, f, c,
        none)

def disable (g : Gate) : Gate := { g with logger := none }

def renders (g : Gate) (source level : String) : Bool := g.logger.isSome && g.passes source level

/-- Calls for the text of a message that gets through and writes its lines, each in the gate's form, by
the method's own severity. Whoever is called for a text may keep something of it. -/
def emit {σ : Type} (g : Gate) (f : Facility) (stamp : Stamp) (method : Method)
    (source level : String) (message : StateM σ String) (c : Channels) (s : σ) : Channels × σ :=
  match g.logger with
  | none => (c, s)
  | some name =>
    if g.passes source level then
      let (text, s) := message s
      ((messageLines text).foldl
        (fun c line => f.write stamp name method (g.form.line stamp source level line) c) c, s)
    else (c, s)

def say (g : Gate) (f : Facility) (stamp : Stamp) (method : Method) (source level text : String)
    (c : Channels) : Channels :=
  (g.emit f stamp method source level (pure text) c ()).1

end Gate
end SidAttribute.Log
