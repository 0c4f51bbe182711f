import SidAttribute.Wire.Octets

/-! A SID written as an IPv6 address. Groups are lower case without leading zeros; the first longest
run of two or more zero groups becomes a double colon; the last 32 bits are dotted behind six
leading zero groups exactly, and behind five of them and a group of ones. -/
namespace SidAttribute.Sid
open Wire

abbrev Groups := List Nat

def groups : Octets → Groups
  | high :: low :: rest => (high.toNat * 256 + low.toNat) :: groups rest
  | _ => []

structure ZeroRun where
  start : Nat
  length : Nat
  deriving DecidableEq, Repr

def leadingZeros : Groups → Nat
  | 0 :: rest => leadingZeros rest + 1
  | _ => 0

def longestRun (position : Nat) : Groups → Option ZeroRun
  | [] => none
  | g :: rest =>
    let here := leadingZeros (g :: rest)
    match longestRun (position + 1) rest with
    | some later => if later.length ≤ here then some ⟨position, here⟩ else some later
    | none => if 2 ≤ here then some ⟨position, here⟩ else none

def groupText (g : Nat) : List Char := Nat.toDigits 16 g

def joinWith (separator : Char) : List (List Char) → List Char
  | [] => []
  | [x] => x
  | x :: rest => x ++ separator :: joinWith separator rest

def dotted (gs : Groups) : List Char :=
  joinWith '.' (gs.flatMap fun g => [Nat.toDigits 10 (g / 256), Nat.toDigits 10 (g % 256)])

def textChars (gs : Groups) : List Char :=
  let plain := fun gs => joinWith ':' (gs.map groupText)
  match longestRun 0 gs with
  | none => plain gs
  | some run =>
    if run.start = 0 ∧ run.length = 6 then ':' :: ':' :: dotted (gs.drop 6)
    else if run.start = 0 ∧ run.length = 5 ∧ gs[5]? = some 0xffff then
      ':' :: ':' :: groupText 0xffff ++ ':' :: dotted (gs.drop 6)
    else plain (gs.take run.start) ++ ':' :: ':' :: plain (gs.drop (run.start + run.length))

def addressText (octets : Octets) : String := String.ofList (textChars (groups octets))

theorem groupsLength (octets : Octets) : (groups octets).length = octets.length / 2 := by
  fun_induction groups octets with
  | case1 high low rest ih => simp [ih]; omega
  | case2 octets short =>
    match octets, short with
    | [], _ => simp
    | [_], _ => simp
    | a :: b :: rest, short => exact absurd rfl (short a b rest)

theorem groupsBound (octets : Octets) : ∀ g ∈ groups octets, g < 65536 := by
  fun_induction groups octets with
  | case1 high low rest ih =>
    intro g member
    have top := high.toNat_lt
    have bottom := low.toNat_lt
    rcases List.mem_cons.mp member with same | later
    · omega
    · exact ih g later
  | case2 => simp

end SidAttribute.Sid
