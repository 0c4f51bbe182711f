import SidAttribute.Config.Conversion
import SidAttribute.Log.Channel
import SidAttribute.Log.Listener

/-! Plans of handlers. A logger is asked for with a stream, the system log or a file; each of them
makes one handler, named after the logger and its kind. -/
namespace SidAttribute.Log
open Config

structure Platform where
  name : String
  /-- What a name of something outside of all settings stands for. -/
  constant? : String → Option Value
  /-- The file that a name opens; once open it takes all that is written to it. -/
  opens : String → Option OpenFile

inductive Stream where
  | output
  | errors
  | other
  deriving DecidableEq, Repr

def Stream.isErrors : Stream → Bool
  | .errors => true
  | _ => false

def plainFormat : String := "%(message)s"

def fullFormat : String := "%(levelname)s %(asctime)s %(filename)s: %(message)s"

structure LoggerOptions where
  level : Value := .text "DEBUG"
  format : Value := .text fullFormat
  stream : Option Stream := none
  syslog : Value := .null
  address : Value := .null
  facility : Value := .text "daemon"
  file : Value := .null
  largest : Value := .int 1048576
  backups : Value := .int 3
  deriving DecidableEq, Repr

structure RepeatedOption where
  taker : String
  name : String
  deriving DecidableEq, Repr

def RepeatedOption.message (e : RepeatedOption) : String :=
  e.taker ++ "() got multiple values for argument '" ++ e.name ++ "'"

def repeatedOption? (taker : String) (places names : List String) : Option RepeatedOption :=
  (names.find? fun name => places.contains name).map fun name => ⟨taker, name⟩

inductive Target where
  | stream (errors : Bool)
  | syslog (address facility : Value)
  | file (name largest backups : Value)
  deriving DecidableEq, Repr

def Target.kindName : Target → String
  | .stream true => "stderr"
  | .stream false => "stdout"
  | .syslog .. => "syslog"
  | .file .. => "file"

structure HandlerPlan where
  logger : String
  target : Target
  level : Value
  deriving DecidableEq, Repr

def HandlerPlan.name (p : HandlerPlan) : String := p.logger ++ "_" ++ p.target.kindName

def layoutName : String := "default"

def HandlerPlan.settings (p : HandlerPlan) : List (String × Value) :=
  let shared := [("formatter", Value.text layoutName), ("level", p.level)]
  match p.target with
  | .stream errors =>
    [("class", .text "logging.StreamHandler")] ++ shared ++
      [("stream", .text (if errors then "ext://sys.stderr" else "ext://sys.stdout"))]
  | .syslog address facility =>
    [("address", address), ("class", .text "logging.handlers.SysLogHandler"),
      ("facility", facility)] ++ shared
  | .file name largest backups =>
    [("backupCount", backups), ("class", .text "logging.handlers.RotatingFileHandler"),
      ("filename", name)] ++ shared ++ [("maxBytes", largest)]

def LoggerOptions.streamTarget (o : LoggerOptions) : Option Target :=
  o.stream.map fun s => .stream s.isErrors

/-- An address asks for the system log too; an empty one stands for the platform's. -/
def LoggerOptions.syslogTarget (platform : Platform) (o : LoggerOptions) : Option Target :=
  if o.syslog.holds ∨ o.address ≠ .null then
    let address := if o.address.holds then o.address else .text (syslogAddress platform.name)
    some (.syslog address o.facility)
  else none

def LoggerOptions.fileTarget (o : LoggerOptions) : Option Target :=
  if o.file = .null then none else some (.file o.file o.largest o.backups)

def LoggerOptions.plans (platform : Platform) (logger : String) (o : LoggerOptions) :
    List HandlerPlan :=
  [o.streamTarget, o.syslogTarget platform, o.fileTarget].filterMap fun t =>
    t.map fun target => ⟨logger, target, o.level⟩

end SidAttribute.Log
