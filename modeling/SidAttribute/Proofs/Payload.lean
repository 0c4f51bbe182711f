import SidAttribute.Decode
import SidAttribute.Proofs.Tree.Grouped

/-! The decoder of each kind against the octets of its payload: which sizes it takes, and what it
reads out of them. A payload of any other size is a shortfall and nothing else. -/
namespace SidAttribute
open Wire

namespace Wire.Input

theorem takeEnough {i : Input} {n : Nat} (enough : n ≤ i.rest.length) :
    i.take n = .ok (i.rest.take n, ⟨i.rest.drop n, i.taken + n⟩) := if_pos enough

theorem takeMissing {i : Input} {n : Nat} (missing : i.rest.length < n) :
    i.take n = .error ⟨n, i.rest.length, i.taken⟩ := if_neg (Nat.not_le.mpr missing)

theorem numberEnough {i : Input} {n : Nat} (enough : n ≤ i.rest.length) :
    i.number n = .ok (bigEndian (i.rest.take n), ⟨i.rest.drop n, i.taken + n⟩) := by
  rw [number, takeEnough enough]
  rfl

theorem numberMissing {i : Input} {n : Nat} (missing : i.rest.length < n) :
    i.number n = .error ⟨n, i.rest.length, i.taken⟩ := by
  rw [number, takeMissing missing]
  rfl

end Wire.Input

namespace Decode

theorem labelIndexRead {e : Element} (enough : 6 ≤ e.payload.length) :
    labelIndex e = .ok [("flags", .int (bigEndian (e.payload.take 2))),
      ("label_index", .int (bigEndian ((e.payload.drop 2).take 4)))] := by
  unfold labelIndex Input.ofOctets
  rw [Input.numberEnough (by dsimp only; omega)]
  simp only [bind, Except.bind]
  rw [Input.numberEnough (by simp only [List.length_drop]; omega)]

theorem labelIndexShort {e : Element} (short : e.payload.length < 6) :
    ∃ s, labelIndex e = .error s := by
  unfold labelIndex Input.ofOctets
  by_cases flags : e.payload.length < 2
  · rw [Input.numberMissing flags]
    exact ⟨_, rfl⟩
  · rw [Input.numberEnough (by dsimp only; omega)]
    simp only [bind, Except.bind]
    rw [Input.numberMissing (by simp only [List.length_drop]; omega)]
    exact ⟨_, rfl⟩

def rangePairs : Octets → List (Nat × Nat)
  | a :: b :: c :: x :: y :: z :: rest =>
    (bigEndian [a, b, c], bigEndian [x, y, z]) :: rangePairs rest
  | _ => []

theorem labelRangesFirst (a b c x y z : UInt8) (rest : Octets) (taken : Nat) :
    labelRanges ⟨a :: b :: c :: x :: y :: z :: rest, taken⟩ =
      (labelRanges ⟨rest, taken + 6⟩).map ((bigEndian [a, b, c], bigEndian [x, y, z]) :: ·) := by
  rw [labelRanges]
  rfl

theorem shortOfPair (rest : Octets)
    (short : ∀ a b c x y z more, rest = a :: b :: c :: x :: y :: z :: more → False) :
    rest.length < 6 := by
  match rest, short with
  | [], _ => simp
  | [_], _ => simp
  | [_, _], _ => simp
  | [_, _, _], _ => simp
  | [_, _, _, _], _ => simp
  | [_, _, _, _, _], _ => simp
  | a :: b :: c :: x :: y :: z :: more, short => exact (short a b c x y z more rfl).elim

theorem labelRangesPart {rest : Octets} (some : rest ≠ []) (few : rest.length < 6) (taken : Nat) :
    labelRanges ⟨rest, taken⟩ = .error ⟨3, rest.length % 3, taken + rest.length / 3 * 3⟩ := by
  have there : rest.isEmpty = false := by simpa using some
  rw [labelRanges]
  simp only [there, Bool.false_eq_true, if_false]
  by_cases base : rest.length < 3
  · have none : rest.length / 3 * 3 = 0 := by omega
    rw [Nat.mod_eq_of_lt base, none]
    split
    · next first =>
      rw [Input.numberMissing base] at first
      cases first
      rfl
    · next first =>
      rw [Input.numberMissing base] at first
      cases first
  · have left : rest.length % 3 = rest.length - 3 := by omega
    have one : rest.length / 3 * 3 = 3 := by omega
    rw [left, one]
    split
    · next first =>
      rw [Input.numberEnough (Nat.le_of_not_lt base)] at first
      cases first
    · next j first =>
      rw [Input.numberEnough (Nat.le_of_not_lt base)] at first
      cases first
      have range : (rest.drop 3).length < 3 := by rw [List.length_drop]; omega
      split
      · next second =>
        rw [Input.numberMissing range] at second
        cases second
        rw [List.length_drop]
      · next second =>
        rw [Input.numberMissing range] at second
        cases second

theorem labelRangesRead (rest : Octets) (taken : Nat) (whole : rest.length % 6 = 0) :
    labelRanges ⟨rest, taken⟩ = .ok (rangePairs rest) := by
  fun_induction rangePairs rest generalizing taken with
  | case1 a b c x y z rest ih =>
    rw [labelRangesFirst, ih _ (by simp only [List.length_cons] at whole; omega)]
    rfl
  | case2 rest short =>
    have few : rest.length < 6 := shortOfPair rest short
    have none : rest = [] := List.length_eq_zero_iff.mp (by omega)
    subst none
    rw [labelRanges]
    rfl

theorem labelRangesShort (rest : Octets) (taken : Nat) (part : rest.length % 6 ≠ 0) :
    labelRanges ⟨rest, taken⟩ = .error ⟨3, rest.length % 3, taken + rest.length / 3 * 3⟩ := by
  fun_induction rangePairs rest generalizing taken with
  | case1 a b c x y z rest ih =>
    have later := ih (taken + 6) (by simp only [List.length_cons] at part; omega)
    have left : (rest.length + 6) % 3 = rest.length % 3 := by omega
    have place : taken + (rest.length + 6) / 3 * 3 = taken + 6 + rest.length / 3 * 3 := by omega
    simp only [List.length_cons, Nat.add_assoc, Nat.reduceAdd]
    rw [labelRangesFirst, later, left, place]
    rfl
  | case2 rest short =>
    have few : rest.length < 6 := shortOfPair rest short
    exact labelRangesPart (fun none => part (by simp [none])) few taken

def rangeNode (r : Nat × Nat) : String × Value := ("srgb", labelRange r)

theorem rangeNodesPlain (ranges : List (Nat × Nat)) :
    ∀ node ∈ ranges.map rangeNode, ¬ node.2.IsList := by
  intro node member
  obtain ⟨r, _, rfl⟩ := List.mem_map.mp member
  rintro ⟨items, list⟩
  cases list

theorem rangesBehind (flags : Value) (ranges : List (Nat × Nat)) :
    Tree.addAll [("flags", flags)] (ranges.map rangeNode) =
      ("flags", flags) :: Tree.grouped (ranges.map rangeNode) := by
  have apart : ∀ node ∈ ranges.map rangeNode, node.1 ∉ Tree.keys [("flags", flags)] := by
    intro node member
    obtain ⟨r, _, rfl⟩ := List.mem_map.mp member
    simp [rangeNode, Tree.keys]
  rw [← Tree.addAllGrouped _ (rangeNodesPlain ranges)]
  exact Tree.addAllBehind apart []

theorem originatorSrgbRead {e : Element} (size : e.payload.length % 6 = 1) :
    originatorSrgb e = .ok
      (("flags", .int (e.reserved.toNat * 256 + bigEndian (e.payload.take 1))) ::
        Tree.grouped ((rangePairs (e.payload.drop 1)).map rangeNode)) := by
  unfold originatorSrgb Input.ofOctets
  have whole : (e.payload.drop 1).length % 6 = 0 := by
    rw [List.length_drop]
    omega
  rw [Input.numberEnough (by dsimp only; omega)]
  simp only [bind, Except.bind]
  rw [labelRangesRead _ _ whole, ← rangesBehind, Tree.addAll, List.foldl_map]
  rfl

def rangesShortfall (size : Nat) : Shortfall :=
  if size = 0 then ⟨1, 0, 0⟩ else ⟨3, (size - 1) % 3, 1 + (size - 1) / 3 * 3⟩

theorem originatorSrgbShort {e : Element} (size : e.payload.length % 6 ≠ 1) :
    originatorSrgb e = .error (rangesShortfall e.payload.length) := by
  unfold originatorSrgb Input.ofOctets rangesShortfall
  by_cases flags : e.payload.length = 0
  · rw [Input.numberMissing (by dsimp only; omega), if_pos flags, flags]
    rfl
  · have part : (e.payload.drop 1).length % 6 ≠ 0 := by
      rw [List.length_drop]
      omega
    rw [Input.numberEnough (by dsimp only; omega)]
    simp only [bind, Except.bind]
    rw [labelRangesShort _ (0 + 1) part, if_neg flags, List.length_drop]

def fieldsOf (payload : Octets) : SidFields :=
  ⟨payload.take 16, bigEndian ((payload.drop 16).take 1), bigEndian ((payload.drop 17).take 2)⟩

theorem sidFieldsRead {payload : Octets} (enough : 20 ≤ payload.length) :
    sidFields payload = .ok (fieldsOf payload, payload.drop 20) := by
  unfold sidFields Input.ofOctets
  rw [Input.takeEnough (by dsimp only; omega)]
  simp only [bind, Except.bind]
  rw [Input.numberEnough (by simp only [List.length_drop]; omega)]
  dsimp only
  rw [Input.numberEnough (by simp only [List.length_drop]; omega)]
  dsimp only
  rw [Input.takeEnough (by simp only [List.length_drop]; omega)]
  simp [fieldsOf]

theorem sidFieldsShort {payload : Octets} (short : payload.length < 20) :
    ∃ s, sidFields payload = .error s := by
  cases read : sidFields payload with
  | error s => exact ⟨s, rfl⟩
  | ok pair =>
    have size := sidFieldsShrinks read
    omega

theorem structureOctetsSix {e : Element} (six : e.length = 6) :
    structureOctets e = .ok (e.reserved :: e.payload) := if_pos six

theorem structureOctetsMore {e : Element} (more : 6 < e.length) :
    structureOctets e = .ok (e.payload.take 6) := by
  have size : e.length = e.payload.length + 1 := rfl
  unfold structureOctets Input.ofOctets
  rw [if_neg (by omega), Input.takeEnough (by dsimp only; omega)]
  rfl

theorem structureOctetsShort {e : Element} (short : e.length < 6) :
    ∃ s, structureOctets e = .error s := by
  have size : e.length = e.payload.length + 1 := rfl
  unfold structureOctets Input.ofOctets
  rw [if_neg (by omega), Input.takeMissing (by dsimp only; omega)]
  exact ⟨_, rfl⟩

end Decode
end SidAttribute
