/-! Octets, numbers made of them, and reads at any position of a buffer. A read is refused before
anything is looked at: for a negative position or size, or for more octets than are left. -/
namespace SidAttribute.Wire

abbrev Octets := List UInt8

def bigEndian (octets : Octets) : Nat := octets.foldl (fun value b => value * 256 + b.toNat) 0

def littleEndian (octets : Octets) : Nat := octets.foldr (fun b value => b.toNat + value * 256) 0

theorem littleEndianReverse (octets : Octets) :
    littleEndian octets = bigEndian octets.reverse := by
  simp [littleEndian, bigEndian, List.foldl_reverse, Nat.add_comm]

def octets16 (n : Nat) : Octets := [UInt8.ofNat (n / 256), UInt8.ofNat n]

theorem octets16Of (high low : UInt8) : octets16 (high.toNat * 256 + low.toNat) = [high, low] := by
  have top := high.toNat_lt
  have bottom := low.toNat_lt
  have first : UInt8.ofNat ((high.toNat * 256 + low.toNat) / 256) = high := by
    rw [show (high.toNat * 256 + low.toNat) / 256 = high.toNat by omega]
    exact UInt8.ofNat_toNat
  have second : UInt8.ofNat (high.toNat * 256 + low.toNat) = low := by
    apply UInt8.toNat_inj.mp
    simp only [UInt8.toNat_ofNat']
    omega
  rw [octets16, first, second]

def octets24 (n : Nat) : Octets := UInt8.ofNat (n / 65536) :: octets16 n

def octets32 (n : Nat) : Octets := octets16 (n / 65536) ++ octets16 n

structure Shortfall where
  needed : Nat
  available : Nat
  offset : Nat
  deriving DecidableEq, Repr

inductive ReadError where
  | negative (offset size : Int)
  | short (s : Shortfall)
  deriving DecidableEq, Repr

def shortfallText (needed available offset : String) : String :=
  "need " ++ needed ++ " byte(s) at offset " ++ offset ++ ", only " ++ available ++ " available"

def Shortfall.message (s : Shortfall) : String :=
  shortfallText (toString s.needed) (toString s.available) (toString s.offset)

def ReadError.message : ReadError → String
  | .negative offset size =>
    "invalid read of " ++ toString size ++ " byte(s) at offset " ++ toString offset
  | .short s => s.message

def checkRange (data : Octets) (offset size : Int) : Except ReadError Unit :=
  if offset < 0 ∨ size < 0 then .error (.negative offset size)
  else
    let available := data.length - offset.toNat
    if available < size.toNat then .error (.short ⟨size.toNat, available, offset.toNat⟩)
    else .ok ()

def readOctets (data : Octets) (offset size : Int) : Except ReadError Octets := do
  checkRange data offset size
  return (data.drop offset.toNat).take size.toNat

theorem rangeNegative {data : Octets} {offset size : Int} (below : offset < 0 ∨ size < 0) :
    checkRange data offset size = .error (.negative offset size) := by
  rw [checkRange, if_pos below]

theorem rangeShort {data : Octets} {offset size : Nat} (beyond : data.length - offset < size) :
    checkRange data offset size = .error (.short ⟨size, data.length - offset, offset⟩) := by
  rw [checkRange, if_neg (by omega)]
  exact if_pos beyond

theorem rangeHeld {data : Octets} {offset size : Nat} (enough : size ≤ data.length - offset) :
    checkRange data offset size = .ok () := by
  rw [checkRange, if_neg (by omega)]
  exact if_neg (Nat.not_lt.mpr enough)

theorem readRefused {data offset size e} (refused : checkRange data offset size = .error e) :
    readOctets data offset size = .error e := by
  rw [readOctets, refused]
  rfl

theorem readHeld {data offset size} (held : checkRange data offset size = .ok ()) :
    readOctets data offset size = .ok ((data.drop offset.toNat).take size.toNat) := by
  rw [readOctets, held]
  rfl

inductive ByteOrder where
  | network
  | reversed
  deriving DecidableEq, Repr

def word16 (a b : UInt8) : UInt16 := a.toUInt16 <<< 8 ||| b.toUInt16

def word32 (a b c d : UInt8) : UInt32 :=
  a.toUInt32 <<< 24 ||| b.toUInt32 <<< 16 ||| c.toUInt32 <<< 8 ||| d.toUInt32

namespace ByteOrder

def read16 : ByteOrder → UInt8 → UInt8 → UInt16
  | .network, a, b => word16 a b
  | .reversed, a, b => word16 b a

def read32 : ByteOrder → UInt8 → UInt8 → UInt8 → UInt8 → UInt32
  | .network, a, b, c, d => word32 a b c d
  | .reversed, a, b, c, d => word32 d c b a

/-- Three octets are read as four, with a zero on the side that counts most. -/
def read24 : ByteOrder → UInt8 → UInt8 → UInt8 → UInt32
  | .network, a, b, c => read32 .network 0 a b c
  | .reversed, a, b, c => read32 .reversed a b c 0

def readEach : ByteOrder → Octets → Nat
  | .network => bigEndian
  | .reversed => littleEndian

def value (order : ByteOrder) : Octets → Nat
  | [a] => a.toNat
  | [a, b] => (order.read16 a b).toNat
  | [a, b, c] => (order.read24 a b c).toNat
  | [a, b, c, d] => (order.read32 a b c d).toNat
  | octets => order.readEach octets

end ByteOrder

def readNumber (data : Octets) (offset size : Int) (order : ByteOrder) : Except ReadError Nat :=
  (readOctets data offset size).map order.value

theorem readSome {data offset size octets} (ok : readOctets data offset size = .ok octets) :
    0 ≤ offset ∧ 0 ≤ size ∧ size.toNat ≤ data.length - offset.toNat ∧
      octets = (data.drop offset.toNat).take size.toNat := by
  rw [readOctets, checkRange] at ok
  by_cases below : offset < 0 ∨ size < 0
  · rw [if_pos below] at ok
    cases ok
  · rw [if_neg below] at ok
    dsimp only at ok
    by_cases beyond : data.length - offset.toNat < size.toNat
    · rw [if_pos beyond] at ok
      cases ok
    · rw [if_neg beyond] at ok
      cases ok
      exact ⟨by omega, by omega, by omega, rfl⟩

end SidAttribute.Wire
