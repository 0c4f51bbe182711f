/-! Whole numbers written with a fixed count of places, in scientific notation, or in whichever of
the two suits their size. They are first taken to the nearest number that has 53 binary digits before
its zeros; a tie goes to the even neighbour, here and wherever digits are cut off. -/
namespace SidAttribute.Text

def nearest (n d : Nat) : Nat :=
  let q := n / d
  let twice := 2 * (n % d)
  if twice < d then q
  else if d < twice then q + 1
  else if q % 2 = 0 then q else q + 1

def binaryDigits : Nat := 53

def longestBinary : Nat := 1024

def toBinary (n : Nat) : Option Nat :=
  let unit := Nat.pow 2 (Nat.log2 n + 1 - binaryDigits)
  let m := nearest n unit * unit
  if Nat.log2 m < longestBinary then some m else none

def leadingDigits (count n : Nat) : List Char × Nat :=
  let digits := Nat.toDigits 10 n
  let length := digits.length
  if length ≤ count then (digits ++ List.replicate (count - length) '0', length - 1)
  else
    let m := nearest n (Nat.pow 10 (length - count))
    if m < Nat.pow 10 count then (Nat.toDigits 10 m, length - 1)
    else (Nat.toDigits 10 (Nat.pow 10 (count - 1)), length)

structure Written where
  whole : List Char
  tail : List Char
  deriving DecidableEq, Repr

namespace Written

def fraction (keepPoint : Bool) (digits : List Char) : List Char :=
  if digits.isEmpty && !keepPoint then [] else '.' :: digits

def exponent (mark : Char) (n : Nat) : List Char :=
  let digits := Nat.toDigits 10 n
  mark :: '+' :: (List.replicate (2 - digits.length) '0' ++ digits)

def fixed (keepPoint : Bool) (places n : Nat) : Written :=
  ⟨Nat.toDigits 10 n, fraction keepPoint (List.replicate places '0')⟩

def scientific (keepPoint : Bool) (mark : Char) (places n : Nat) : Written :=
  let (digits, power) := leadingDigits (places + 1) n
  ⟨digits.take 1, fraction keepPoint (digits.drop 1) ++ exponent mark power⟩

def shortFraction (keepZeros : Bool) (digits : List Char) : List Char :=
  if keepZeros then fraction true digits
  else fraction false (digits.reverse.dropWhile fun c => c == '0').reverse

def general (keepZeros : Bool) (mark : Char) (count n : Nat) : Written :=
  let count := max count 1
  let (digits, power) := leadingDigits count n
  if power < count then
    ⟨digits.take (power + 1), shortFraction keepZeros (digits.drop (power + 1))⟩
  else ⟨digits.take 1, shortFraction keepZeros (digits.drop 1) ++ exponent mark power⟩

end Written

def realKinds : List Char := "eEfFgG".toList

def usualPlaces : Nat := 6

def Written.ofKind (kind : Char) (alternate : Bool) (precision : Option Nat) (n : Nat) : Written :=
  let places := precision.getD usualPlaces
  match kind with
  | 'e' => scientific alternate 'e' places n
  | 'E' => scientific alternate 'E' places n
  | 'g' => general alternate 'e' places n
  | 'G' => general alternate 'E' places n
  | _ => fixed alternate places n

end SidAttribute.Text
