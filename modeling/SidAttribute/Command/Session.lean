import SidAttribute.Config.Listing
import SidAttribute.Log.Report
import SidAttribute.Request

/-! One run of the program: everything it reads, holds and has written so far, and the ways in which
a run can end. -/
namespace SidAttribute.Command
open Config Log

structure Host where
  platform : Platform
  runtime : String
  system : String
  folder : String
  stamp : Stamp

structure Session where
  sources : Sources
  store : Store
  registries : Registries
  gate : Gate
  facility : Facility
  channels : Channels
  reporter : Bool
  deriving DecidableEq, Repr

def Session.start (sources : Sources) : Session :=
  ⟨sources, Store.fresh, Registries.standard, Gate.closed, Facility.start, Channels.empty, false⟩

inductive Failure where
  | load (e : LoadError)
  | gate (e : GateError)
  | hex (e : Text.HexError)
  | request (e : RequestError)
  | emptyBound
  | emptyIndent
  deriving DecidableEq, Repr

def Failure.message (path : String) : Failure → String
  | .load e => e.message path
  | .gate e => e.message
  | .hex e => e.message
  | .request e => e.message path
  | .emptyBound => "'<' not supported between instances of 'list' and 'int'"
  | .emptyIndent => "can't multiply sequence by non-int of type 'list'"

def Failure.kind : Failure → String
  | .emptyBound => "TypeError"
  | .emptyIndent => "TypeError"
  | _ => "ValueError"

inductive Outcome where
  | finished (code : Nat)
  | exited (status : Nat)
  | failed (e : Failure)
  deriving DecidableEq, Repr

namespace Session

def print (s : Session) (text : String) : Session := { s with channels := s.channels.print text }

def complain (s : Session) (text : String) : Session :=
  { s with channels := s.channels.complain text }

def load (s : Session) : Session × Option LoadError :=
  let (store, e) := s.store.load s.sources
  ({ s with store := store }, e)

def setupLog (s : Session) (host : Host) : Session × Option GateError :=
  let (gate, facility, channels, e) :=
    s.gate.setup s.store.log host.platform s.facility s.channels
  ({ s with gate := gate, facility := facility, channels := channels }, e)

def debug (s : Session) (host : Host) (source message : String) : Session :=
  { s with channels :=
      s.gate.say s.facility host.stamp .debug source Method.debug.levelName message s.channels }

def tell (s : Session) (host : Host) (ns : List Notice) : Session :=
  { s with channels := s.gate.tell s.facility host.stamp ns s.channels }

end Session
end SidAttribute.Command
