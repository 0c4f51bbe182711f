/-! Severities of log lines. A severity is a number; names stand for numbers, two of them for the
same one, and only the first name of a number is shown. -/
namespace SidAttribute.Log

def severityNames : List (String × Nat) :=
  [("FATAL", 50), ("CRITICAL", 50), ("ERROR", 40), ("WARNING", 30), ("INFO", 20), ("DEBUG", 10),
    ("NOTSET", 0)]

def severity? (name : String) : Option Nat :=
  (severityNames.find? fun row => row.1 == name).map Prod.snd

inductive Method where
  | debug
  | info
  | warning
  | error
  deriving DecidableEq, Repr

namespace Method

def severity : Method → Nat
  | .debug => 10
  | .info => 20
  | .warning => 30
  | .error => 40

def levelName : Method → String
  | .debug => "DEBUG"
  | .info => "INFO"
  | .warning => "WARNING"
  | .error => "ERROR"

theorem levelNameSeverity (m : Method) : severity? m.levelName = some m.severity := by
  cases m <;> decide

end Method

def severityName (n : Int) : String :=
  match n with
  | 50 => "CRITICAL"
  | 40 => "ERROR"
  | 30 => "WARNING"
  | 20 => "INFO"
  | 10 => "DEBUG"
  | 0 => "NOTSET"
  | other => "Level " ++ toString other

/-- The severity from which on loggers and handlers write: a number, or a truth value in its place,
which counts as a number but keeps its own name. -/
inductive Level where
  | number (n : Int)
  | truth (b : Bool)
  deriving DecidableEq, Repr

namespace Level

def severity : Level → Int
  | .number n => n
  | .truth b => if b then 1 else 0

def name : Level → String
  | .truth true => "Level True"
  | l => severityName l.severity

def unset : Level := .number 0

end Level
end SidAttribute.Log
