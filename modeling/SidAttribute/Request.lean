import SidAttribute.Config.Store
import SidAttribute.Decode

/-! Requests to decode. The bound on the elements of a level is the one asked for, else the
configured one, for which the configuration is loaded if it was not yet. A configured bound is used
as it stands: one below zero ends every level after its first element, and one that is no number
fails as soon as an element is counted against it. -/
namespace SidAttribute
open Wire

structure Request where
  scope : Scope
  data : Octets
  declared : Int
  bound : Option Int
  deriving DecidableEq, Repr

inductive RequestError where
  | decode (e : DecodeError)
  | load (e : Config.LoadError)
  | uncountable (kind : String)
  deriving DecidableEq, Repr

def RequestError.message (path : String) : RequestError → String
  | .decode e => e.message
  | .load e => e.message path
  | .uncountable kind => "'>' not supported between instances of 'int' and '" ++ kind ++ "'"

def Notice.isTooMany : Notice → Bool
  | .tooMany .. => true
  | _ => false

def Notice.under (bound : Value) : Notice → Notice
  | .tooMany level _ => .tooMany level bound
  | other => other

namespace Request

/-- A level under a bound that is no number gets no further than its first element, which is where a
bound below zero is exceeded too. A truth value counts as a number and is told as it stands. -/
def decodeUnder (r : Request) (rs : Registries) (octets : Octets) (bound : Value) :
    Except RequestError Decoded :=
  match bound with
  | .int n => .ok (Decode.level rs n r.scope octets)
  | .bool b =>
    let d := Decode.level rs (if b then 1 else 0) r.scope octets
    .ok ⟨d.tree, d.notices.map (Notice.under bound)⟩
  | _ =>
    let d := Decode.level rs (-1) r.scope octets
    if d.notices.any Notice.isTooMany then .error (.uncountable bound.kindName) else .ok d

def configuredBound (store : Config.Store) : Value :=
  match store.decode.get "siblings" with
  | .ok v => v
  | .error _ => .null

def answer (r : Request) (rs : Registries) (store : Config.Store) (sources : Config.Sources) :
    Config.Store × Except RequestError Decoded :=
  match Decode.window r.data r.declared with
  | .error e => (store, .error (.decode e))
  | .ok octets =>
    match r.bound with
    | some n =>
      (store, (Decode.checkBound n).mapError .decode |>.map fun n => Decode.level rs n r.scope octets)
    | none =>
      match store.load sources with
      | (loaded, some e) => (loaded, .error (.load e))
      | (loaded, none) => (loaded, r.decodeUnder rs octets (configuredBound loaded))

end Request
end SidAttribute
