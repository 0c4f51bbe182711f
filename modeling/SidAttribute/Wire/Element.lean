import SidAttribute.Wire.Octets

/-! One element of an attribute: code, Length, a reserved octet and the payload. Length counts the
reserved octet and the payload, so a whole element is three octets longer than its Length. -/
namespace SidAttribute.Wire

structure Element where
  code : UInt8
  reserved : UInt8
  payload : Octets
  deriving DecidableEq, Repr

def Element.length (e : Element) : Nat := e.payload.length + 1

def Element.encode (e : Element) : Octets :=
  e.code :: octets16 e.length ++ e.reserved :: e.payload

def Element.Fits (e : Element) : Prop := e.length < 65536

instance (e : Element) : Decidable e.Fits := by unfold Element.Fits; infer_instance

inductive Stop where
  | exhausted
  | truncatedHeader (left : Nat)
  | zeroLength (code : UInt8)
  | overrun (code : UInt8) (length left : Nat)
  | tooMany
  deriving DecidableEq, Repr

inductive Head where
  | stop (reason : Stop)
  | element (e : Element) (rest : Octets)
  deriving DecidableEq, Repr

def scanHead : Octets → Head
  | [] => .stop .exhausted
  | code :: high :: low :: reserved :: rest =>
    let length := high.toNat * 256 + low.toNat
    if length < 1 then .stop (.zeroLength code)
    else if rest.length < length - 1 then .stop (.overrun code length (rest.length + 4))
    else .element ⟨code, reserved, rest.take (length - 1)⟩ (rest.drop (length - 1))
  | short => .stop (.truncatedHeader short.length)

theorem scanElement {data e rest} (h : scanHead data = .element e rest) :
    data = e.encode ++ rest ∧ e.Fits := by
  unfold scanHead at h
  split at h
  · simp at h
  · next code high low reserved tail =>
    dsimp only at h
    split at h
    · simp at h
    · split at h
      · simp at h
      · next positive inside =>
        cases h
        have size : (tail.take (high.toNat * 256 + low.toNat - 1)).length + 1 =
            high.toNat * 256 + low.toNat := by
          rw [List.length_take]; omega
        have top := high.toNat_lt
        have bottom := low.toNat_lt
        refine ⟨?_, ?_⟩
        · rw [Element.encode, Element.length]
          dsimp only
          rw [size, octets16Of]
          simp
        · unfold Element.Fits Element.length
          rw [size]
          omega
  · simp at h

theorem scanEncoded (e : Element) (fits : e.Fits) (rest : Octets) :
    scanHead (e.encode ++ rest) = .element e rest := by
  unfold Element.Fits Element.length at fits
  have value : (UInt8.ofNat ((e.payload.length + 1) / 256)).toNat * 256 +
      (UInt8.ofNat (e.payload.length + 1)).toNat = e.payload.length + 1 := by
    simp only [UInt8.toNat_ofNat']
    omega
  simp only [Element.encode, Element.length, octets16, List.cons_append, List.nil_append, scanHead,
    value]
  rw [if_neg (by omega), if_neg (by simp)]
  simp

theorem encodeLength (e : Element) : e.encode.length = e.payload.length + 4 := by
  simp [Element.encode, octets16]

theorem scanShrinks {data e rest} (h : scanHead data = .element e rest) :
    rest.length + e.payload.length + 4 = data.length := by
  rw [(scanElement h).1, List.length_append, encodeLength]
  omega

end SidAttribute.Wire
