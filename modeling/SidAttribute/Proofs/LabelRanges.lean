import SidAttribute.Proofs.RoundTrip

/-! A payload of label ranges is read exactly or not at all. Behind the one octet of flags every six
octets are a base and a range, so the ranges that were read can be written back to the payload; a
payload that ends within a pair is refused, whatever was read before. -/
namespace SidAttribute.Description
open Wire Decode

def LabelRange.child (r : LabelRange) : Value :=
  .tree [("base", .int r.base.val), ("range", .int r.size.val)]

theorem nodesUnder (ranges : List LabelRange) :
    Tree.under (ranges.map LabelRange.node) "srgb" = ranges.map LabelRange.child := by
  induction ranges with
  | nil => rfl
  | cons r rest ih =>
    rw [List.map_cons, LabelRange.node, Tree.underCons, if_pos rfl, ih]
    rfl

theorem rangeWritten (a b c x y z : UInt8) :
    ∃ r : LabelRange, r.octets = [a, b, c, x, y, z] := by
  have base : bigEndian [a, b, c] < 16777216 := numberFits (n := 3) rfl
  have size : bigEndian [x, y, z] < 16777216 := numberFits (n := 3) rfl
  refine ⟨⟨⟨_, base⟩, ⟨_, size⟩⟩, ?_⟩
  rw [LabelRange.octets, octets24Of, octets24Of]
  rfl

theorem rangesWritten (octets : Octets) (whole : octets.length % 6 = 0) :
    ∃ ranges : List LabelRange, octets = ranges.flatMap LabelRange.octets := by
  fun_induction rangePairs octets with
  | case1 a b c x y z rest ih =>
    obtain ⟨ranges, later⟩ := ih (by simp only [List.length_cons] at whole; omega)
    obtain ⟨r, first⟩ := rangeWritten a b c x y z
    exact ⟨r :: ranges, by rw [List.flatMap_cons, first, ← later]; rfl⟩
  | case2 rest short =>
    have few : rest.length < 6 := shortOfPair rest short
    exact ⟨[], List.length_eq_zero_iff.mp (by omega)⟩

theorem rangesHeld (flags : Value) (ranges : List LabelRange) :
    Tree.get? (("flags", flags) :: Tree.grouped (ranges.map LabelRange.node)) "srgb" =
      if ranges = [] then none else some (Tree.stored (ranges.map LabelRange.child)) := by
  have apart : ¬ "flags" = "srgb" := by decide
  rw [Tree.get?, if_neg apart, Tree.getGrouped, nodesUnder]
  cases ranges with
  | nil => rfl
  | cons r rest => simp [LabelRange.node]

theorem rangesChildren (flags : Value) (ranges : List LabelRange) :
    Tree.children (("flags", flags) :: Tree.grouped (ranges.map LabelRange.node)) "srgb" =
      ranges.map LabelRange.child := by
  have held := rangesHeld flags ranges
  by_cases none : ranges = []
  · subst none
    rw [Tree.children, held]
    rfl
  · rw [if_neg none] at held
    apply Tree.childrenStored held
    · exact fun empty => none (List.map_eq_nil_iff.mp empty)
    · intro c member
      obtain ⟨r, _, rfl⟩ := List.mem_map.mp member
      rintro ⟨items, list⟩
      cases list

theorem rangesKeys (flags : Value) (ranges : List LabelRange) :
    Tree.keys (("flags", flags) :: Tree.grouped (ranges.map LabelRange.node)) =
      if ranges = [] then ["flags"] else ["flags", "srgb"] := by
  have grouped := Tree.keysGrouped (ranges.map LabelRange.node)
  rw [List.map_map] at grouped
  rw [Tree.keys, List.map_cons, ← Tree.keys, grouped]
  cases ranges with
  | nil => rfl
  | cons r rest =>
    -- all nodes have the one key, so none is left once it was listed
    have noOther :
        (rest.map (Prod.fst ∘ LabelRange.node)).filter (fun key => !key == "srgb") = [] := by
      rw [List.filter_eq_nil_iff]
      intro key member
      obtain ⟨other, _, rfl⟩ := List.mem_map.mp member
      simp [LabelRange.node]
    rw [List.map_cons, List.eraseDups_cons, Function.comp_apply, LabelRange.node, noOther]
    rfl

structure RangesRead (e : Element) (first : UInt8) (ranges : List LabelRange) (node : Tree) :
    Prop where
  read : originatorSrgb e = .ok node
  written : e.payload = first :: ranges.flatMap LabelRange.octets
  count : ranges.length = (e.payload.length - 1) / 6
  keys : node.keys = if ranges = [] then ["flags"] else ["flags", "srgb"]
  flags : node.get? "flags" = some (.int (256 * e.reserved.toNat + first.toNat))
  children : node.children "srgb" = ranges.map LabelRange.child
  absent : ranges = [] → node.get? "srgb" = none
  bare : ∀ r, ranges = [r] → node.get? "srgb" = some r.child
  several : 2 ≤ ranges.length → node.get? "srgb" = some (.list (ranges.map LabelRange.child))

theorem rangesRead {e : Element} (size : e.payload.length % 6 = 1) :
    ∃ first ranges node, RangesRead e first ranges node := by
  obtain ⟨first, octets, payload⟩ : ∃ first octets, e.payload = first :: octets :=
    List.exists_cons_of_length_pos (by omega)
  have whole : octets.length % 6 = 0 := by
    rw [payload, List.length_cons] at size
    omega
  obtain ⟨ranges, rfl⟩ := rangesWritten octets whole
  have read := originatorSrgbRead size
  rw [payload, rangeNodesSent, List.take_succ_cons, List.take_zero, bigEndianOctet] at read
  have held := rangesHeld (.int (e.reserved.toNat * 256 + first.toNat)) ranges
  refine ⟨first, ranges, ("flags", .int (e.reserved.toNat * 256 + first.toNat)) ::
    Tree.grouped (ranges.map LabelRange.node), ?_⟩
  constructor
  case read => exact read
  case written => exact payload
  case count =>
    have six := rangesLength ranges
    rw [payload, List.length_cons]
    omega
  case keys => exact rangesKeys _ ranges
  case flags => rw [Tree.get?, if_pos rfl, Int.mul_comm]
  case children => exact rangesChildren _ ranges
  case absent => exact fun none => held.trans (if_pos none)
  case bare =>
    rintro r rfl
    exact held
  case several =>
    intro two
    have some : ranges ≠ [] := List.ne_nil_of_length_pos (by omega)
    rw [held, if_neg some, Tree.storedSeveral (by rwa [List.length_map])]

theorem rangesExact (e : Element) :
    (∀ s, originatorSrgb e = .error s ↔
      e.payload.length % 6 ≠ 1 ∧ s = rangesShortfall e.payload.length) ∧
    (e.payload.length % 6 = 1 → ∃ first ranges node, RangesRead e first ranges node) := by
  refine ⟨fun s => ?_, rangesRead⟩
  by_cases size : e.payload.length % 6 = 1
  · obtain ⟨first, ranges, node, all⟩ := rangesRead size
    simp [all.read, size]
  · simp [originatorSrgbShort size, size, eq_comm]

theorem rangesExactTwo :
    let e : Element := ⟨3, 1, [2, 0, 62, 128, 0, 31, 64, 1, 134, 160, 0, 3, 232]⟩
    e.payload.length % 6 = 1 ∧ ∃ ranges node, RangesRead e 2 ranges node ∧
      node.get? "flags" = some (.int 258) ∧ ranges.length = 2 ∧
      node.get? "srgb" = some (.list (ranges.map LabelRange.child)) := by
  intro e
  have size : e.payload.length % 6 = 1 := by decide
  obtain ⟨first, ranges, node, all⟩ := (rangesExact e).2 size
  obtain ⟨here, _⟩ := List.cons.inj all.written
  subst here
  have two : ranges.length = 2 := all.count.trans (by decide)
  exact ⟨size, ranges, node, all, all.flags, two, all.several (Nat.le_of_eq two.symm)⟩

end SidAttribute.Description
