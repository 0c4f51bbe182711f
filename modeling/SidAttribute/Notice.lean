import SidAttribute.Text.Hex
import SidAttribute.Value
import SidAttribute.Wire.Walk

/-! What decoding has to tell. A notice is data; its text and its severity are functions of it, so
nothing that is decoded can depend on whether anybody reads it. -/
namespace SidAttribute
open Wire Text

inductive Notice where
  | element (level : String) (e : Element)
  | unregistered (level : String) (code : UInt8)
  | malformed (level : String) (code : UInt8) (short : Shortfall)
  | sid (address : String) (flags behavior : Nat) (name : String)
  | truncatedHeader (level : String) (left : Nat)
  | zeroLength (level : String) (code : UInt8)
  | overrun (level : String) (code : UInt8) (length left : Nat)
  | tooMany (level : String) (bound : Value)
  deriving DecidableEq, Repr

def elementLine (level : String) (code length : Int) (payload : Octets) : String :=
  let line := padRight 30 level ++ " type " ++ padRight 3 (toString code) ++ " len " ++
    padRight 5 (toString length)
  if payload.isEmpty then String.ofList (trimEnd line.toList)
  else line ++ " payload " ++ dump payload

def octetsLine (label : String) (octets : Octets) : String :=
  label ++ " (" ++ padLeft 4 (toString octets.length) ++ ") " ++ dump octets

namespace Notice

def isInfo : Notice → Bool
  | .element .. => false
  | .unregistered .. => false
  | .sid .. => false
  | _ => true

def text : Notice → String
  | .element level e => elementLine level e.code.toNat e.length e.payload
  | .unregistered level code =>
    level ++ " type " ++ toString code.toNat ++
    " is not implemented or intentionally ignored, skipping"
  | .malformed level code short =>
    level ++ " type " ++ toString code.toNat ++ " is malformed (" ++ short.message ++ "), stopping"
  | .sid address flags behavior name =>
    "SID " ++ address ++ " flags 0x" ++
    String.ofList (octetHex true (UInt8.ofNat flags)) ++ " endpoint behavior " ++
    toString behavior ++ " (" ++ name ++ ")"
  | .truncatedHeader level left =>
    level ++ " header truncated, " ++ toString left ++ " byte(s) left, stopping"
  | .zeroLength level code =>
    level ++ " type " ++ toString code.toNat ++ " has a zero length, stopping"
  | .overrun level code length left =>
    level ++ " type " ++ toString code.toNat ++ " length " ++ toString length ++ " needs " ++
    toString (length + 3) ++ " byte(s), only " ++ toString left ++ " left, stopping"
  | .tooMany level bound =>
    "too many " ++ level ++ "s (more than " ++ bound.shown ++ "), stopping"

end Notice

def Wire.Stop.notice (level : String) (bound : Int) : Stop → List Notice
  | .exhausted => []
  | .truncatedHeader left => [.truncatedHeader level left]
  | .zeroLength code => [.zeroLength level code]
  | .overrun code length left => [.overrun level code length left]
  | .tooMany => [.tooMany level (.int bound)]

def Wire.Walk.notices (level : String) (bound : Int) (w : Walk) : List Notice :=
  w.elements.map (Notice.element level) ++ w.stop.notice level bound

end SidAttribute
