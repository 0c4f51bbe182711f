import SidAttribute.Log.Record
import SidAttribute.Text.Line

/-! Log lines. A short line has the source in a column before the message; a long one also the time
of day, the process and the level. The system log adds these itself, so lines for it are short. -/
namespace SidAttribute.Log
open Text

inductive Form where
  | bare
  | short
  | long
  deriving DecidableEq, Repr

def syslogName : String := "syslog"

namespace Form

def choose (short : Bool) (destination : String) : Form :=
  if destination = syslogName ∨ short then .short else .long

def line (stamp : Stamp) (source level message : String) : Form → String
  | .bare => message
  | .short => padRight 15 source ++ " " ++ message
  | .long =>
    stamp.clock ++ " " ++ padRight 6 stamp.process ++ " " ++ padRight 8 level ++ " " ++
    padRight 15 source ++ " " ++ message

end Form

def messageLines (message : String) : List String :=
  (pieces '\n' message.toList).map String.ofList

end SidAttribute.Log
