import SidAttribute.Wire.Element

/-! The elements of one level in wire order, and the reason why the level ends. The bound is looked
at after an element was read: a level gives at most one element more than its bound, and reaching
that count is itself a reason to stop, whether or not octets are left. -/
namespace SidAttribute.Wire

structure Walk where
  elements : List Element
  stop : Stop
  deriving DecidableEq, Repr

def Walk.cons (e : Element) (w : Walk) : Walk := ⟨e :: w.elements, w.stop⟩

def walk (bound : Int) (data : Octets) : Walk :=
  match h : scanHead data with
  | .stop reason => ⟨[], reason⟩
  | .element e rest =>
    if bound ≤ 0 then ⟨[e], .tooMany⟩ else (walk (bound - 1) rest).cons e
termination_by data.length
decreasing_by have := scanShrinks h; omega

def encodeAll (es : List Element) : Octets := es.flatMap Element.encode

theorem walkStop {bound data reason} (h : scanHead data = .stop reason) :
    walk bound data = ⟨[], reason⟩ := by
  rw [walk]
  split
  · next other => rw [h] at other; cases other; rfl
  · next other => rw [h] at other; cases other

theorem walkElement {bound data e rest} (h : scanHead data = .element e rest) :
    walk bound data = if bound ≤ 0 then ⟨[e], .tooMany⟩ else (walk (bound - 1) rest).cons e := by
  rw [walk]
  split
  · next other => rw [h] at other; cases other
  · next other => rw [h] at other; cases other; rfl

theorem walkPayload {bound data e} (member : e ∈ (walk bound data).elements) :
    e.payload.length + 4 ≤ data.length := by
  fun_induction walk bound data with
  | case1 => simp at member
  | case2 bound data first rest head low =>
    have := scanShrinks head
    simp only [List.mem_singleton] at member
    subst member
    omega
  | case3 bound data first rest head high ih =>
    have := scanShrinks head
    simp only [Walk.cons, List.mem_cons] at member
    rcases member with same | later
    · subst same; omega
    · have := ih later; omega

end SidAttribute.Wire
