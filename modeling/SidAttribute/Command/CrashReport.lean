import SidAttribute.Command.Session

/-! The report of a crash: the versions, the settings that are not the defaults, and the error. A
variable tells whether the debugger is opened after it. -/
namespace SidAttribute.Command
open Config

def debuggerVariable : String := "PDB"

structure Crash where
  kind : String
  message : String
  deriving DecidableEq, Repr

def Crash.line (c : Crash) : String :=
  if c.message.isEmpty then c.kind else c.kind ++ ": " ++ c.message

inductive CrashError where
  | missing (names : List String)
  | tooMany (values : Nat)
  deriving DecidableEq, Repr

def CrashError.message : CrashError → String
  | .missing names =>
    "OutOfBounds.__init__() missing " ++ toString names.length ++ " required positional argument" ++
    (if names.length = 1 then "" else "s") ++ ": " ++ " and ".intercalate (names.map Text.quoted)
  | .tooMany values =>
    "OutOfBounds.__init__() takes from 3 to 4 positional arguments but " ++ toString (values + 1) ++
    " were given"

namespace Crash

def textOf : List Value → String
  | [] => ""
  | [v] => v.shown
  | vs => "(" ++ ", ".intercalate (vs.map Value.inspected) ++ ")"

def ofValues (kind : String) (vs : List Value) : Crash := ⟨kind, textOf vs⟩

def shortfall : List Value → Except CrashError Crash
  | [] => .error (.missing ["needed", "available"])
  | [_] => .error (.missing ["available"])
  | [needed, available] => .ok (tell needed available (.int 0))
  | [needed, available, offset] => .ok (tell needed available offset)
  | more => .error (.tooMany more.length)
where
  tell (needed available offset : Value) : Crash :=
    ⟨"prefixsid.tlv.error.OutOfBounds",
      Wire.shortfallText needed.shown available.shown offset.shown⟩

end Crash

def crashReport (host : Host) (store : Store) (c : Crash) : String :=
  let head := ["prefixsid crashed, please report the issue with this output", "",
    "prefixsid version : " ++ version, "Python version    : " ++ host.runtime,
    "System Uname      : " ++ host.system, "", "-- Configuration", ""]
  "\n".intercalate
    (head ++ (store.assignments true).lines ++ ["", "-- Traceback", "", c.line ++ "\n"])

namespace Session

def installReporter (s : Session) (debugger : Bool) : Session :=
  let environment :=
    if debugger then s.sources.environment.put debuggerVariable "1" else s.sources.environment
  { s with reporter := true, sources := { s.sources with environment := environment } }

def opensDebugger (s : Session) : Bool :=
  match s.sources.environment.get? debuggerVariable with
  | none => false
  | some v => v != "0" && v != ""

def reportCrash (s : Session) (host : Host) (c : Crash) : Session :=
  s.complain (crashReport host s.store c ++ "\n")

end Session
end SidAttribute.Command
