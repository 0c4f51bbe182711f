import SidAttribute.Proofs.Damage

/-! Levels decoded on their own against the same levels inside others. What an element of a service or
of a SID information stands for is what the level of its kind gives for the octets inside it, when the
element is alone and wherever it stands among others; what was seen elsewhere has no part in it. -/
namespace SidAttribute
open Wire SidAttribute.Tree

theorem Wire.shortFits {payload : Octets} (short : payload.length ≤ 65534) (code reserved : UInt8) :
    (⟨code, reserved, payload⟩ : Element).Fits := by
  unfold Element.Fits Element.length
  dsimp only
  omega

namespace Decode

theorem servicesAlike (bound : Int) (data : Octets) :
    level Registries.standard bound .l2Service data =
      level Registries.standard bound .l3Service data := by
  rw [levelEq, levelEq]
  rfl

/-- Alone the element gives a tree of its own child only; among others this child has the place that
the elements of the same code before it leave it. -/
structure StandsFor (n : Nat) (scope : Scope) (e : Element) (key : String) (child : Tree) : Prop where
  alone : ∃ d, decode Registries.standard scope e.encode e.encode.length n = .ok d ∧
    d.tree = [(key, .tree child)]
  among : ∀ before after, (∀ f ∈ before, f.Fits) → Reached Registries.standard n scope before →
    ∃ d, decode Registries.standard scope (around before e after) (around before e after).length n =
        .ok d ∧
      (d.tree.children key)[before.countP fun f => f.code = e.code]? = some (.tree child)

variable {n : Nat} {scope : Scope} {e : Element} {key : String} {child : Tree}

theorem walkAlone (own : e.Fits) (n : Nat) : (walk n e.encode).elements = [e] := by
  have whole : Admissible n e.encode [e] [] :=
    ⟨by simp [encodeAll], by simpa using own, by simp, fun _ => .inl rfl⟩
  exact walkedExactly whole

theorem levelAlone (keyed : Registries.standard.Keyed scope) (own : e.Fits)
    (named : keyOf Registries.standard scope e = some key)
    (gives : Gives Registries.standard n scope e (.tree child)) :
    (level Registries.standard n scope e.encode).tree = [(key, .tree child)] := by
  obtain ⟨fine, node⟩ := givesFound named gives
  have accepts : accepted Registries.standard n ⟨scope, e.encode⟩ = [e] := by
    rw [accepted, walkAlone own]
    apply passedAll
    intro f member
    rw [List.mem_singleton.mp member]
    exact (notRefused silent).mp fine
  rw [levelNodes keyed, accepts, node]
  simp [grouped, stored, under, List.eraseDups_cons]

theorem standsFor (keyed : Registries.standard.Keyed scope) (own : e.Fits)
    (named : ∀ f : Element, keyOf Registries.standard scope f = some key ↔ f.code = e.code)
    (gives : Gives Registries.standard n scope e (.tree child)) :
    StandsFor n scope e key child := by
  refine ⟨?_, ?_⟩
  · exact ⟨_, decodeWhole _ _ _ _, levelAlone keyed own ((named e).mpr rfl) gives⟩
  · intro before after fits reached
    obtain ⟨d, _, decoded, _, swapped, _⟩ :=
      changesOnly keyed fits after own own named rfl gives gives
    exact ⟨d, decoded, (swapped reached).old⟩

end Decode
end SidAttribute
