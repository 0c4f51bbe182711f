import SidAttribute.Proofs.Damage

/-! Elements of codes that nothing is registered for. One that stands anywhere in a level takes a place
under the bound and the octets of its Length, and leaves the tree of the level as it would be without
it, whatever octets are behind it. -/
namespace SidAttribute
open Wire

namespace Wire

def elementsOf (data : Octets) : List Element :=
  match _head : scanHead data with
  | .stop _ => []
  | .element e rest => e :: elementsOf rest
termination_by data.length
decreasing_by have := scanShrinks _head; omega

theorem elementsStop {data reason} (h : scanHead data = .stop reason) : elementsOf data = [] := by
  rw [elementsOf]
  split
  · rfl
  · next other => rw [h] at other; cases other

theorem elementsNext {data e rest} (h : scanHead data = .element e rest) :
    elementsOf data = e :: elementsOf rest := by
  rw [elementsOf]
  split
  · next other => rw [h] at other; cases other
  · next other => rw [h] at other; cases other; rfl

theorem elementsEncoded {e : Element} (own : e.Fits) (rest : Octets) :
    elementsOf (e.encode ++ rest) = e :: elementsOf rest :=
  elementsNext (scanEncoded e own rest)

theorem elementsFront {es : List Element} (fits : ∀ e ∈ es, e.Fits) (rest : Octets) :
    elementsOf (encodeAll es ++ rest) = es ++ elementsOf rest := by
  induction es with
  | nil => rfl
  | cons e es ih =>
    have later := ih fun f member => fits f (List.mem_cons_of_mem e member)
    rw [encodeAllCons, List.append_assoc, elementsEncoded (fits e List.mem_cons_self), later]
    rfl

theorem elementsAround {before : List Element} (fits : ∀ e ∈ before, e.Fits) {e : Element}
    (own : e.Fits) (after : Octets) :
    elementsOf (around before e after) = before ++ e :: elementsOf after := by
  rw [around, elementsFront fits, elementsEncoded own]

theorem walkUnbounded {n : Nat} {data : Octets} (few : (elementsOf data).length ≤ n + 1) :
    (walk n data).elements = elementsOf data := by
  induction n generalizing data with
  | zero =>
    cases head : scanHead data with
    | stop reason => rw [walkStop head, elementsStop head]
    | element e rest =>
      rw [elementsNext head] at few ⊢
      have none : elementsOf rest = [] := List.length_eq_zero_iff.mp (by simpa using few)
      rw [walkLast head, none]
  | succ n ih =>
    cases head : scanHead data with
    | stop reason => rw [walkStop head, elementsStop head]
    | element e rest =>
      rw [elementsNext head] at few ⊢
      rw [walkNext head, Walk.cons, ih (by simpa using few)]

end Wire

namespace Decode

theorem passedUnregistered {finding : Element → Finding} {u : Element}
    (unknown : finding u = .unregistered) (before later : List Element) (t : Tree) :
    (passed finding (before ++ u :: later)).foldl (fun t e => (finding e).attachTo t) t =
      (passed finding (before ++ later)).foldl (fun t e => (finding e).attachTo t) t := by
  have good : (finding u).isMalformed = false := by rw [unknown]; rfl
  by_cases through : ∀ e ∈ before, (finding e).isMalformed = false
  · have own : passed finding (u :: later) = u :: passed finding later :=
      List.takeWhile_cons_of_pos (by rw [good]; rfl)
    rw [passedThrough through, passedThrough through, own, List.foldl_append, List.foldl_append,
      List.foldl_cons, unknown]
    rfl
  · rw [passedStopped through, passedStopped through]

theorem unregisteredTransparent (rs : Registries) (scope : Scope) {before : List Element}
    (fits : ∀ e ∈ before, e.Fits) {u : Element} (own : u.Fits)
    (unknown : rs.kind? scope u.code.toNat = none) (after : Octets) {n : Nat}
    (few : (elementsOf (encodeAll before ++ u.encode ++ after)).length ≤ n + 1) :
    ∃ d c, decode rs scope (encodeAll before ++ u.encode ++ after)
        (encodeAll before ++ u.encode ++ after).length n = .ok d ∧
      decode rs scope (encodeAll before ++ after) (encodeAll before ++ after).length n = .ok c ∧
      d.tree = c.tree := by
  have whole : elementsOf (encodeAll before ++ u.encode ++ after) =
      before ++ u :: elementsOf after := by
    rw [List.append_assoc]
    exact elementsAround fits own after
  have rest : elementsOf (encodeAll before ++ after) = before ++ elementsOf after :=
    elementsFront fits after
  have fewer : (elementsOf (encodeAll before ++ after)).length ≤ n + 1 := by
    rw [whole, List.length_append, List.length_cons] at few
    rw [rest, List.length_append]
    omega
  refine ⟨_, _, decodeWhole _ _ _ _, decodeWhole _ _ _ _, ?_⟩
  rw [levelEq, levelEq, collectTree, collectTree, walkUnbounded few, walkUnbounded fewer, whole, rest]
  exact passedUnregistered (findNone unknown) before (elementsOf after) []

def twoServices : List Element := [⟨6, 0, []⟩, ⟨5, 9, [1, 0, 1]⟩]

def unknownElement : Element := ⟨99, 7, [5, 0, 1, 0]⟩

def thirdService : Octets := [5, 0, 1, 0, 5, 0, 9, 0]

theorem unregisteredBetweenServices :
    (∀ e ∈ twoServices, e.Fits) ∧ unknownElement.Fits ∧
    Registries.standard.kind? .top unknownElement.code.toNat = none ∧
    (elementsOf (encodeAll twoServices ++ unknownElement.encode ++ thirdService)).length ≤ 3 + 1 ∧
    ∃ d c,
      decode Registries.standard .top (encodeAll twoServices ++ unknownElement.encode ++ thirdService)
        (encodeAll twoServices ++ unknownElement.encode ++ thirdService).length (3 : Nat) = .ok d ∧
      decode Registries.standard .top (encodeAll twoServices ++ thirdService)
        (encodeAll twoServices ++ thirdService).length (3 : Nat) = .ok c ∧
      d.tree = c.tree := by
  have fits : ∀ e ∈ twoServices, e.Fits := by decide
  have own : unknownElement.Fits := by decide
  have few : (elementsOf (encodeAll twoServices ++ unknownElement.encode ++ thirdService)).length ≤
      3 + 1 := by
    decide +kernel
  exact ⟨fits, own, rfl, few, unregisteredTransparent _ _ fits own rfl _ few⟩

end Decode
end SidAttribute
