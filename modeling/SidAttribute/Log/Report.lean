import SidAttribute.Log.Gate
import SidAttribute.Notice

/-! Notices on the log. A notice is written by the method of its severity, under the name of that
severity, from the source called parser. -/
namespace SidAttribute

def Notice.method (n : Notice) : Log.Method := if n.isInfo then .info else .debug

namespace Log
open Config

def parserSource : String := "parser"

structure Report where
  method : Method
  line : String
  deriving DecidableEq, Repr

namespace Gate

def ofLevel (level : String) : Gate × Option GateError :=
  { closed with parser := true, form := .short }.withLevel (.text level)

def report (g : Gate) (stamp : Stamp) (n : Notice) : List Report :=
  let level := n.method.levelName
  if g.passes parserSource level then
    (messageLines n.text).map fun line => ⟨n.method, g.form.line stamp parserSource level line⟩
  else []

def reports (g : Gate) (stamp : Stamp) (ns : List Notice) : List Report :=
  ns.flatMap (g.report stamp)

def tell (g : Gate) (f : Facility) (stamp : Stamp) (ns : List Notice) (c : Channels) : Channels :=
  ns.foldl
    (fun c n => g.say f stamp n.method parserSource n.method.levelName n.text c) c

end Gate
end Log
end SidAttribute
