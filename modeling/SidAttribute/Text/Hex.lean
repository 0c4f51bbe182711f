import SidAttribute.Text.Blank
import SidAttribute.Text.Line
import SidAttribute.Text.Quoted

/-! Octets as hexadecimal text: a reader that skips colons and plain blanks and one leading 0x, and
the grouped upper case dump used on log lines. -/
namespace SidAttribute.Text

inductive HexError where
  | notHex (text : String)
  | oddCount (text : String)
  deriving DecidableEq, Repr

def HexError.message : HexError → String
  | .notHex text => "invalid hexadecimal payload: " ++ quoted text
  | .oddCount text => "odd number of hexadecimal digits: " ++ quoted text

def hexValue? (c : Char) : Option Nat :=
  let n := c.toNat
  if 48 ≤ n ∧ n ≤ 57 then some (n - 48)
  else if 65 ≤ n ∧ n ≤ 70 then some (n - 55)
  else if 97 ≤ n ∧ n ≤ 102 then some (n - 87)
  else none

def isHexSeparator (c : Char) : Bool := c == ':' || isPlainBlank c

def dropHexMark : List Char → List Char
  | '0' :: 'x' :: rest => rest
  | '0' :: 'X' :: rest => rest
  | cs => cs

def hexBody (cs : List Char) : List Char := dropHexMark (cs.filter fun c => !isHexSeparator c)

def octetPairs : List Char → Option (List UInt8)
  | [] => some []
  | hi :: lo :: rest => do
    let h ← hexValue? hi
    let l ← hexValue? lo
    let octets ← octetPairs rest
    some (UInt8.ofNat (h * 16 + l) :: octets)
  | [_] => none

def readHex (text : String) : Except HexError (List UInt8) :=
  let body := hexBody text.toList
  if body.any fun c => (hexValue? c).isNone then .error (.notHex text)
  else match octetPairs body with
    | some octets => .ok octets
    | none => .error (.oddCount text)

def hexDigit (upper : Bool) (n : Nat) : Char :=
  if n < 10 then Char.ofNat (48 + n) else Char.ofNat ((if upper then 55 else 87) + n)

def octetHex (upper : Bool) (b : UInt8) : List Char :=
  [hexDigit upper (b.toNat / 16), hexDigit upper (b.toNat % 16)]

def plainHex (octets : List UInt8) : String := String.ofList (octets.flatMap (octetHex false))

def dumpChars : List UInt8 → List Char
  | [] => []
  | [a] => octetHex true a
  | [a, b] => octetHex true a ++ octetHex true b
  | a :: b :: rest => octetHex true a ++ octetHex true b ++ ' ' :: dumpChars rest

def dump (octets : List UInt8) : String := String.ofList (dumpChars octets)

theorem hexValueBound {c : Char} {n : Nat} (h : hexValue? c = some n) : n < 16 := by
  unfold hexValue? at h
  dsimp only at h
  split at h
  · simp at h; omega
  · split at h
    · simp at h; omega
    · split at h
      · simp at h; omega
      · simp at h

end SidAttribute.Text
