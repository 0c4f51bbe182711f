import Mathlib.Algebra.BigOperators.Intervals
import Mathlib.Algebra.BigOperators.Ring.Finset
import Mathlib.Data.List.GetD
import Mathlib.Data.Nat.Digits.Lemmas
import SidAttribute.Proofs.Wire.Numbers
import SidAttribute.Wire.Input

/-! Numbers of any width in positional notation. A machine word has the value of its octets one by
one, so no width is special; octets are digits to the base 256, and a number read in one go is what
its two parts make of each other. -/
namespace SidAttribute.Wire
open Finset

theorem octetJoined (above : Nat) (b : UInt8) :
    above <<< 8 ||| b.toNat = above * 256 + b.toNat := by
  have small : b.toNat < 2 ^ 8 := b.toNat_lt
  rw [← Nat.shiftLeft_add_eq_or_of_lt small, Nat.shiftLeft_eq]

theorem word16Value (a b : UInt8) : (word16 a b).toNat = bigEndian [a, b] := by
  have first := a.toNat_lt
  have room : a.toNat <<< 8 < 65536 := by rw [Nat.shiftLeft_eq]; omega
  calc (word16 a b).toNat
      = a.toNat <<< 8 ||| b.toNat := by
        simp [word16, UInt16.toNat_or, UInt16.toNat_shiftLeft, Nat.mod_eq_of_lt room]
    _ = a.toNat * 256 + b.toNat := octetJoined _ b
    _ = bigEndian [a, b] := by simp [bigEndian]

theorem word32Value (a b c d : UInt8) : (word32 a b c d).toNat = bigEndian [a, b, c, d] := by
  have first := a.toNat_lt
  have second := b.toNat_lt
  have third := c.toNat_lt
  have room : a.toNat <<< 24 < 4294967296 ∧ b.toNat <<< 16 < 4294967296 ∧
      c.toNat <<< 8 < 4294967296 := by
    simp only [Nat.shiftLeft_eq]
    omega
  calc (word32 a b c d).toNat
      = a.toNat <<< 24 ||| b.toNat <<< 16 ||| c.toNat <<< 8 ||| d.toNat := by
        simp [word32, UInt32.toNat_or, UInt32.toNat_shiftLeft, Nat.mod_eq_of_lt room.1,
          Nat.mod_eq_of_lt room.2.1, Nat.mod_eq_of_lt room.2.2]
    -- one octet at a time, each behind all that was shifted before it
    _ = ((a.toNat <<< 8 ||| b.toNat) <<< 8 ||| c.toNat) <<< 8 ||| d.toNat := by
        simp only [Nat.shiftLeft_or_distrib, ← Nat.shiftLeft_add]
    _ = bigEndian [a, b, c, d] := by
        simp only [octetJoined]
        simp [bigEndian]

theorem bigEndianPadded (octets : Octets) : bigEndian (0 :: octets) = bigEndian octets := rfl

theorem valueEach (order : ByteOrder) (octets : Octets) :
    order.value octets = order.readEach octets := by
  cases order with
  | network =>
    fun_cases ByteOrder.value .network octets with
    | case1 a => exact (bigEndianOctet a).symm
    | case2 a b => exact word16Value a b
    | case3 a b c => exact (word32Value 0 a b c).trans (bigEndianPadded _)
    | case4 a b c d => exact word32Value a b c d
    | case5 => rfl
  | reversed =>
    rw [ByteOrder.readEach, littleEndianReverse]
    fun_cases ByteOrder.value .reversed octets with
    | case1 a => exact (bigEndianOctet a).symm
    | case2 a b => exact word16Value b a
    | case3 a b c => exact (word32Value 0 c b a).trans (bigEndianPadded _)
    | case4 a b c d => exact word32Value d c b a
    | case5 => exact littleEndianReverse octets

theorem littleEndianDigits (octets : Octets) :
    littleEndian octets = Nat.ofDigits 256 (octets.map UInt8.toNat) := by
  induction octets with
  | nil => rfl
  | cons b rest ih =>
    rw [List.map_cons, Nat.ofDigits_cons, ← ih, Nat.mul_comm]
    rfl

theorem bigEndianDigits (octets : Octets) :
    bigEndian octets = Nat.ofDigits 256 (octets.reverse.map UInt8.toNat) := by
  rw [← littleEndianDigits, littleEndianReverse, List.reverse_reverse]

theorem bigEndianAppend (front back : Octets) :
    bigEndian (front ++ back) = bigEndian front * 256 ^ back.length + bigEndian back := by
  simp only [bigEndianDigits, List.reverse_append, List.map_append, Nat.ofDigits_append,
    List.length_map, List.length_reverse]
  rw [Nat.add_comm, Nat.mul_comm]

theorem littleEndianSum (octets : Octets) :
    littleEndian octets = ∑ i ∈ range octets.length, (octets.getD i 0).toNat * 256 ^ i := by
  induction octets with
  | nil => rfl
  | cons b rest ih =>
    calc littleEndian (b :: rest)
        = littleEndian rest * 256 + b.toNat := Nat.add_comm _ _
      _ = ∑ i ∈ range rest.length, (rest.getD i 0).toNat * 256 ^ (i + 1) + b.toNat := by
        rw [ih, sum_mul]
        simp only [pow_succ, Nat.mul_assoc]
      _ = ∑ i ∈ range (b :: rest).length, ((b :: rest).getD i 0).toNat * 256 ^ i := by
        rw [List.length_cons, sum_range_succ']
        simp

theorem bigEndianSum (octets : Octets) :
    bigEndian octets =
      ∑ i ∈ range octets.length, (octets.getD i 0).toNat * 256 ^ (octets.length - 1 - i) := by
  have turned : bigEndian octets = littleEndian octets.reverse := by
    rw [littleEndianReverse, List.reverse_reverse]
  rw [turned, littleEndianSum, List.length_reverse, ← sum_range_reflect]
  apply sum_congr rfl
  intro i member
  have inside := mem_range.mp member
  have place : octets.length - 1 - (octets.length - 1 - i) = i := by omega
  rw [List.getD_reverse _ (by omega), place]

section Window

variable {data : Octets} {offset n : Nat}

theorem windowLength (inside : offset + n ≤ data.length ∨ n = 0) :
    ((data.drop offset).take n).length = n := by
  rw [List.length_take, List.length_drop]
  omega

theorem windowRead (inside : offset + n ≤ data.length ∨ n = 0) (order : ByteOrder) :
    readNumber data offset n order = .ok (order.readEach ((data.drop offset).take n)) := by
  have octets : readOctets data offset n = .ok ((data.drop offset).take n) :=
    readHeld (rangeHeld (by omega))
  rw [readNumber, octets, ← valueEach]
  rfl

theorem windowOctet {i : Nat} (early : i < n) :
    ((data.drop offset).take n).getD i 0 = data.getD (offset + i) 0 := by
  simp [List.getD_eq_getElem?_getD, early]

theorem windowSplit (data : Octets) (offset p q : Nat) :
    (data.drop offset).take (p + q) =
      (data.drop offset).take p ++ (data.drop (offset + p)).take q := by
  rw [List.take_add, List.drop_drop]

theorem wholeRead (octets : Octets) (order : ByteOrder) :
    readNumber octets (0 : Nat) octets.length order = .ok (order.readEach octets) := by
  rw [windowRead (.inl (Nat.zero_add _).le), List.drop_zero, List.take_length]

end Window

/-- What so many octets from a place on are read to, and what either order has to do with the octets,
with the other order and with its own parts. All places of the sums are inside the buffer. -/
structure Positional (data : Octets) (offset n network reversed : Nat) : Prop where
  read : readNumber data offset n .network = .ok network
  readReversed : readNumber data offset n .reversed = .ok reversed
  sum : network = ∑ i ∈ range n, (data.getD (offset + i) 0).toNat * 256 ^ (n - 1 - i)
  sumReversed : reversed = ∑ i ∈ range n, (data.getD (offset + i) 0).toNat * 256 ^ i
  bound : network < 256 ^ n ∧ reversed < 256 ^ n
  turned : readNumber ((data.drop offset).take n).reverse (0 : Nat) n .network = .ok reversed ∧
    readNumber ((data.drop offset).take n).reverse (0 : Nat) n .reversed = .ok network
  parts : ∀ p q, n = p + q → ∃ high low, readNumber data offset p .network = .ok high ∧
    readNumber data (offset + p : Nat) q .network = .ok low ∧ network = high * 256 ^ q + low

theorem readsPositional (data : Octets) (offset n : Nat)
    (inside : offset + n ≤ data.length ∨ n = 0) :
    ∃ network reversed, Positional data offset n network reversed := by
  have size := windowLength inside
  have places : ∀ i ∈ range n,
      ((data.drop offset).take n).getD i 0 = data.getD (offset + i) 0 :=
    fun i member => windowOctet (mem_range.mp member)
  have turned := wholeRead ((data.drop offset).take n).reverse
  rw [List.length_reverse, size] at turned
  refine ⟨bigEndian ((data.drop offset).take n), littleEndian ((data.drop offset).take n), ?_⟩
  constructor
  case read => exact windowRead inside .network
  case readReversed => exact windowRead inside .reversed
  case sum =>
    rw [bigEndianSum, size]
    exact sum_congr rfl fun i member => by rw [places i member]
  case sumReversed =>
    rw [littleEndianSum, size]
    exact sum_congr rfl fun i member => by rw [places i member]
  case bound =>
    have network := bigEndianBound ((data.drop offset).take n)
    have reversed := bigEndianBound ((data.drop offset).take n).reverse
    rw [← littleEndianReverse, List.length_reverse] at reversed
    rw [size] at network reversed
    exact ⟨network, reversed⟩
  case turned =>
    refine ⟨(turned .network).trans ?_, (turned .reversed).trans ?_⟩
    · rw [ByteOrder.readEach, ← littleEndianReverse]
    · rw [ByteOrder.readEach, littleEndianReverse, List.reverse_reverse]
  case parts =>
    rintro p q rfl
    refine ⟨_, _, windowRead (by omega) .network, windowRead (by omega) .network, ?_⟩
    have back : ((data.drop (offset + p)).take q).length = q := windowLength (by omega)
    rw [windowSplit, bigEndianAppend, back]
    rfl

theorem readsPositionalSeven :
    let data : Octets := [9, 1, 2, 3, 4, 5, 6, 255]
    1 + 7 ≤ data.length ∧ Positional data 1 7 0x010203040506FF 0xFF060504030201 ∧
      ∃ high low, readNumber data (1 : Nat) (3 : Nat) .network = .ok high ∧
        readNumber data (4 : Nat) (4 : Nat) .network = .ok low ∧
        0x010203040506FF = high * 256 ^ 4 + low := by
  intro data
  have inside : 1 + 7 ≤ data.length := by decide
  obtain ⟨network, reversed, all⟩ := readsPositional data 1 7 (.inl inside)
  have same : network = 0x010203040506FF := by
    have read := all.read
    injection read with value
    exact value.symm
  have sameReversed : reversed = 0xFF060504030201 := by
    have read := all.readReversed
    injection read with value
    exact value.symm
  subst same sameReversed
  exact ⟨inside, all, all.parts 3 4 rfl⟩

end SidAttribute.Wire
