import SidAttribute.Text.Hex
import SidAttribute.Value

/-! Where the system log listens: at a path, or at a host under the number of a service. Every path
will do, as nothing has to listen there yet; a host has to be known and a service has to be a number.
The hosts known without asking anyone are this one and those written as numbers. -/
namespace SidAttribute.Log
open Text

def syslogAddress (platform : String) : String :=
  if platform = "darwin" then "/var/run/syslog"
  else if platform.startsWith "freebsd" ∨ platform.startsWith "netbsd" then "/var/run/log"
  else "/dev/log"

namespace Listener

def digits? (base : Nat) (cs : List Char) : Option Nat :=
  if cs.isEmpty then none
  else cs.foldlM (fun n c =>
    (hexValue? c).bind fun d => if d < base then some (n * base + d) else none) 0

def number? : List Char → Option Nat
  | '0' :: 'x' :: ds => digits? 16 ds
  | '0' :: 'X' :: ds => digits? 16 ds
  | '0' :: ds => if ds.isEmpty then some 0 else digits? 8 ds
  | ds => digits? 10 ds

def isQuad (cs : List Char) : Bool :=
  match (pieces '.' cs).mapM number? with
  | none => false
  | some parts =>
    parts.length ≤ 4 && parts.dropLast.all (fun n => n < 256) &&
    (parts.getLast?.getD 0) < Nat.pow 256 (5 - parts.length)

def isGroup (cs : List Char) : Bool := cs.length ≤ 4 && (digits? 16 cs).isSome

def groupCount? : List (List Char) → Option Nat
  | [] => some 0
  | [last] =>
    if isGroup last then some 1
    else if (pieces '.' last).length = 4 && isQuad last then some 2
    else none
  | g :: rest => if isGroup g then (groupCount? rest).map (· + 1) else none

def splitGap : List Char → Option (List Char × List Char)
  | [] => none
  | ':' :: ':' :: rest => some ([], rest)
  | c :: rest => (splitGap rest).map fun (before, after) => (c :: before, after)

def side (cs : List Char) : List (List Char) := if cs.isEmpty then [] else pieces ':' cs

def isGroups (cs : List Char) : Bool :=
  match splitGap cs with
  | none => groupCount? (pieces ':' cs) == some 8
  | some (before, after) =>
    match groupCount? (side after) with
    | some n => (side before).all isGroup && (side before).length + n < 8
    | none => false

def localHost : String := "localhost"

def isHost : Value → Bool
  | .null => true
  | .text s =>
    s.toList.map Char.toLower == localHost.toList || s == "*" || isQuad s.toList ||
    isGroups s.toList
  | _ => false

def maxService : Nat := Nat.pow 2 31

/-- A number larger than sixteen bits loses the rest of them. -/
def isService : Value → Bool
  | .null => true
  | .int n => 0 ≤ n && n < maxService
  | .text s => s.isEmpty || (digits? 10 s.toList).any fun n => n < maxService
  | _ => false

def isEndpoint (host service : Value) : Bool :=
  isHost host && isService service && !(host == .null && service == .null)

def isAddress : Value → Bool
  | .text _ => true
  | .list [host, service] => isEndpoint host service
  | .tree [(host, _), (service, _)] => isEndpoint (.text host) (.text service)
  | _ => false

theorem platformAddress (platform : String) : isAddress (.text (syslogAddress platform)) = true :=
  rfl

end Listener
end SidAttribute.Log
