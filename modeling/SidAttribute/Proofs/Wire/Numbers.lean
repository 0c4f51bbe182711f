import SidAttribute.Wire.Octets

/-! Numbers written in network order and read back, and how large a number of so many octets is. -/
namespace SidAttribute.Wire

theorem bigEndianOctet (b : UInt8) : bigEndian [b] = b.toNat := by simp [bigEndian]

theorem bigEndian16 {n : Nat} (fits : n < 65536) : bigEndian (octets16 n) = n := by
  simp only [bigEndian, octets16, List.foldl_cons, List.foldl_nil, UInt8.toNat_ofNat']
  omega

theorem bigEndian24 {n : Nat} (fits : n < 16777216) : bigEndian (octets24 n) = n := by
  simp only [bigEndian, octets24, octets16, List.foldl_cons, List.foldl_nil, UInt8.toNat_ofNat']
  omega

theorem octets24Of (a b c : UInt8) : octets24 (bigEndian [a, b, c]) = [a, b, c] := by
  have first := a.toNat_lt
  have second := b.toNat_lt
  have third := c.toNat_lt
  simp only [octets24, octets16, bigEndian, List.foldl_cons, List.foldl_nil, List.cons.injEq,
    ← UInt8.toNat_inj, UInt8.toNat_ofNat', and_true]
  omega

theorem bigEndian32 {n : Nat} (fits : n < 4294967296) : bigEndian (octets32 n) = n := by
  simp only [bigEndian, octets32, octets16, List.cons_append, List.nil_append, List.foldl_cons,
    List.foldl_nil, UInt8.toNat_ofNat']
  omega

theorem bigEndianFrom (octets : Octets) (read : Nat) :
    octets.foldl (fun value b => value * 256 + b.toNat) read + 1 ≤
      (read + 1) * Nat.pow 256 octets.length := by
  induction octets generalizing read with
  | nil => exact Nat.le_of_eq (Nat.mul_one _).symm
  | cons b rest ih =>
    have octet := b.toNat_lt
    have more : read * 256 + b.toNat + 1 ≤ (read + 1) * 256 := by omega
    calc rest.foldl (fun value b => value * 256 + b.toNat) (read * 256 + b.toNat) + 1
        ≤ (read * 256 + b.toNat + 1) * Nat.pow 256 rest.length := ih _
      _ ≤ (read + 1) * 256 * Nat.pow 256 rest.length := Nat.mul_le_mul_right _ more
      _ = (read + 1) * Nat.pow 256 (b :: rest).length := by
        rw [Nat.mul_assoc, Nat.mul_comm 256]
        rfl

theorem bigEndianBound (octets : Octets) : bigEndian octets < Nat.pow 256 octets.length := by
  have bound := bigEndianFrom octets 0
  rw [Nat.zero_add, Nat.one_mul] at bound
  exact bound

theorem numberFits {octets : Octets} {n : Nat} (enough : octets.length = n) :
    bigEndian octets < Nat.pow 256 n := by
  rw [← enough]
  exact bigEndianBound octets

end SidAttribute.Wire
