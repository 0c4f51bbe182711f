import SidAttribute.Wire.Octets

/-! Forward reading of one payload. What is left is held as a list, with the count of octets already
taken, so no read can be negative and the only failure is a shortfall. -/
namespace SidAttribute.Wire

structure Input where
  rest : Octets
  taken : Nat
  deriving DecidableEq, Repr

namespace Input

def ofOctets (octets : Octets) : Input := ⟨octets, 0⟩

def take (i : Input) (n : Nat) : Except Shortfall (Octets × Input) :=
  if n ≤ i.rest.length then .ok (i.rest.take n, ⟨i.rest.drop n, i.taken + n⟩)
  else .error ⟨n, i.rest.length, i.taken⟩

def number (i : Input) (n : Nat) : Except Shortfall (Nat × Input) :=
  (i.take n).map fun (octets, next) => (bigEndian octets, next)

theorem takeShrinks {i : Input} {n : Nat} {octets next} (ok : i.take n = .ok (octets, next)) :
    next.rest.length + n = i.rest.length := by
  unfold take at ok
  split at ok
  · cases ok
    simp only [List.length_drop]
    omega
  · simp at ok

theorem numberShrinks {i : Input} {n : Nat} {value next} (ok : i.number n = .ok (value, next)) :
    next.rest.length + n = i.rest.length := by
  unfold number at ok
  cases h : i.take n with
  | error s => simp [h, Except.map] at ok
  | ok pair =>
    obtain ⟨octets, after⟩ := pair
    simp only [h, Except.map, Except.ok.injEq, Prod.mk.injEq] at ok
    rw [← ok.2]
    exact takeShrinks h

end Input
end SidAttribute.Wire
