import SidAttribute.Proofs.Keyed

/-! What is left of a level when its octets are cut off somewhere. The elements before the cut are
walked as they were, so keys and children stand at the front of those of the whole level, and each
child comes from an element that lies before the cut with all its octets. -/
namespace SidAttribute
open Wire SidAttribute.Tree

theorem Wire.walkGrows (n : Nat) (a b : Octets) :
    (walk n a).elements <+: (walk n (a ++ b)).elements := by
  obtain ⟨rest, octets, fits, few, _⟩ := walkAdmissible n a
  have longer : a ++ b = encodeAll (walk n a).elements ++ (rest ++ b) := by
    rw [← List.append_assoc, ← octets]
  rw [longer]
  exact frontIsWalked n _ (rest ++ b) fits few

theorem Tree.keysFront {nodes more : Nodes} (front : nodes <+: more) :
    (grouped nodes).keys <+: (grouped more).keys := by
  obtain ⟨added, rfl⟩ := front
  rw [keysGrouped, keysGrouped, List.map_append, List.eraseDups_append]
  exact List.prefix_append _ _

theorem Tree.underFront {nodes more : Nodes} (front : nodes <+: more) (key : String) :
    under nodes key <+: under more key :=
  (front.filter _).map _

namespace Decode

theorem passedFront {finding : Element → Finding} {es more : List Element} (front : es <+: more) :
    passed finding es <+: passed finding more := by
  obtain ⟨added, rfl⟩ := front
  by_cases good : ∀ e ∈ es, (finding e).isMalformed = false
  · rw [passedThrough good, passedAll good]
    exact List.prefix_append _ _
  · exact ⟨[], by rw [List.append_nil, passedStopped good]⟩

theorem acceptedFront (rs : Registries) (n : Nat) (scope : Scope) (a b : Octets) :
    accepted rs n ⟨scope, a⟩ <+: accepted rs n ⟨scope, a ++ b⟩ :=
  passedFront (walkGrows n a b)

theorem acceptedInside {rs : Registries} {n : Nat} {v : Visit} {e : Element}
    (member : e ∈ accepted rs n v) :
    e.Fits ∧ ∃ front rest, v.data = front ++ e.encode ++ rest := by
  obtain ⟨rest, octets, fits, _, _⟩ := walkAdmissible n v.data
  have walked := (List.takeWhile_prefix _).subset member
  obtain ⟨before, after, split⟩ := List.append_of_mem walked
  refine ⟨fits e walked, encodeAll before, encodeAll after ++ rest, ?_⟩
  rw [octets, split, encodeAllAppend, encodeAllCons]
  simp only [List.append_assoc]

theorem pairedMember {R : Element → Value → Prop} {es : List Element} {children : List Value}
    (paired : List.Forall₂ R es children) {child : Value} (member : child ∈ children) :
    ∃ e ∈ es, R e child := by
  induction paired with
  | nil => cases member
  | @cons e first es rest gives later ih =>
    rcases List.mem_cons.mp member with rfl | inside
    · exact ⟨e, List.mem_cons_self, gives⟩
    · obtain ⟨f, there, given⟩ := ih inside
      exact ⟨f, List.mem_cons_of_mem e there, given⟩

variable {rs : Registries} {scope : Scope}

theorem childGiven (keyed : rs.Keyed scope) {n : Nat} {data : Octets} {key : String} {child : Value}
    (member : child ∈ (level rs n scope data).tree.children key) :
    ∃ e ∈ accepted rs n ⟨scope, data⟩, keyOf rs scope e = some key ∧ Gives rs n scope e child := by
  have given := givenUnder keyed (acceptedGood rs n ⟨scope, data⟩) key
  rw [levelChildren keyed] at member
  obtain ⟨e, there, gives⟩ := pairedMember given member
  obtain ⟨inside, named⟩ := List.mem_filter.mp there
  exact ⟨e, inside, by simpa using named, gives⟩

theorem truncationKeepsFront (keyed : rs.Keyed scope) (n : Nat) (a b : Octets) :
    ∃ cut whole, decode rs scope a a.length n = .ok cut ∧
      decode rs scope (a ++ b) (a ++ b).length n = .ok whole ∧
      cut.tree.keys <+: whole.tree.keys ∧
      (∀ key, cut.tree.children key <+: whole.tree.children key) ∧
      ∀ key, ∀ child ∈ cut.tree.children key, ∃ front e rest, a = front ++ e.encode ++ rest ∧
        e.Fits ∧ keyOf rs scope e = some key ∧ Gives rs n scope e child := by
  have nodes : nodesOf rs n scope (accepted rs n ⟨scope, a⟩) <+:
      nodesOf rs n scope (accepted rs n ⟨scope, a ++ b⟩) :=
    (acceptedFront rs n scope a b).filterMap _
  refine ⟨level rs n scope a, level rs n scope (a ++ b), decodeWhole _ _ _ _, decodeWhole _ _ _ _,
    ?_, ?_, ?_⟩
  · rw [levelNodes keyed, levelNodes keyed]
    exact keysFront nodes
  · intro key
    rw [levelChildren keyed, levelChildren keyed]
    exact underFront nodes key
  · intro key child member
    obtain ⟨e, inside, named, gives⟩ := childGiven keyed member
    obtain ⟨fits, front, rest, octets⟩ := acceptedInside inside
    exact ⟨front, e, rest, octets, fits, named, gives⟩

def cutOctets : Octets := encodeAll [⟨5, 0, [9, 0, 1, 0]⟩] ++ [6, 0, 5, 0]

theorem truncationKeepsService :
    Registries.standard.Keyed .top ∧
    ∃ cut whole, decode Registries.standard .top cutOctets cutOctets.length 3 = .ok cut ∧
      decode Registries.standard .top (cutOctets ++ [9, 0, 1, 0]) (cutOctets ++ [9, 0, 1, 0]).length
        3 = .ok whole ∧
      cut.tree.keys <+: whole.tree.keys ∧
      (∀ key, cut.tree.children key <+: whole.tree.children key) ∧
      ∀ key, ∀ child ∈ cut.tree.children key, ∃ front e rest, cutOctets = front ++ e.encode ++ rest ∧
        e.Fits ∧ keyOf Registries.standard .top e = some key ∧
        Gives Registries.standard (3 : Nat) .top e child := by
  have keyed : Registries.standard.Keyed .top := Registries.standardKeyed (by decide)
  exact ⟨keyed, truncationKeepsFront keyed 3 cutOctets [9, 0, 1, 0]⟩

end Decode
end SidAttribute
