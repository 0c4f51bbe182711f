import SidAttribute.Proofs.Conformance

/-! The six fields that a SID information shows. They are those of the last structure before the first
one that is too short for them, whatever stands between the structures and whichever layout each of
them has. -/
namespace SidAttribute.Decode
open Wire Description

instance : DecidablePred StructureFits := fun e => by unfold StructureFits; infer_instance

def wholeStructures (es : List Element) : List Element :=
  (es.takeWhile fun e => StructureFits e).filter fun e => e.code = 1

theorem structureAccepted (bound : Int) (data : Octets) :
    accepted Registries.standard bound ⟨.sidInformation, data⟩ =
      (walk bound data).elements.takeWhile fun e => StructureFits e := by
  have good : ∀ e, (!(find Registries.standard .sidInformation silent e).isMalformed) =
      decide (StructureFits e) := by
    intro e
    rw [Bool.eq_iff_iff, Bool.not_eq_true', decide_eq_true_iff, goodFits, standardSidInformation]
    by_cases code : e.code = 1 <;> simp [code, StructureFits, KindFits]
  simp only [accepted, passed, good]

theorem fittingItem {e : Element} (fits : StructureFits e) :
    ∃ i : InnerItem, i.element = e ∧
      i.fields?.map StructureFields.octets = if e.code = 1 then some (structureOf e) else none := by
  obtain ⟨code, reserved, payload⟩ := e
  by_cases known : code = 1
  · subst known
    have enough : 6 ≤ payload.length + 1 := fits rfl
    match payload, enough with
    | [b, c, x, y, z], _ => exact ⟨.compact ⟨reserved, b, c, x, y, z⟩, rfl, rfl⟩
    | a :: b :: c :: x :: y :: z :: trailing, _ =>
      refine ⟨.padded reserved ⟨a, b, c, x, y, z⟩ trailing, rfl, ?_⟩
      simp [InnerItem.fields?, StructureFields.octets, structureOf, Element.length]
  · exact ⟨.other code reserved payload known, rfl, (if_neg known).symm⟩

theorem fittingItems {es : List Element} (fits : ∀ e ∈ es, StructureFits e) :
    ∃ inner : List InnerItem, inner.map InnerItem.element = es ∧
      (inner.filterMap InnerItem.fields?).map StructureFields.octets =
        (es.filter fun e => e.code = 1).map structureOf := by
  induction es with
  | nil => exact ⟨[], rfl, rfl⟩
  | cons e rest ih =>
    rw [List.forall_mem_cons] at fits
    obtain ⟨i, rfl, own⟩ := fittingItem fits.1
    obtain ⟨inner, rfl, later⟩ := ih fits.2
    refine ⟨i :: inner, rfl, ?_⟩
    cases fields : i.fields? with
    | none =>
      have other : i.element.code ≠ 1 := by
        intro code
        simp [fields, code] at own
      simp [fields, other, later]
    | some f =>
      have code : i.element.code = 1 := by
        by_contra other
        simp [fields, other] at own
      have same : f.octets = structureOf i.element := by simpa [fields, code] using own
      simp [fields, code, same, later]

theorem levelLast (bound : Int) (data : Octets) :
    ∃ last : Option StructureFields,
      (level Registries.standard bound .sidInformation data).tree = structureTree last ∧
      last.map StructureFields.octets =
        (wholeStructures (walk bound data).elements).getLast?.map structureOf := by
  have fits : ∀ e ∈ accepted Registries.standard bound ⟨.sidInformation, data⟩, StructureFits e := by
    intro e member
    rw [structureAccepted] at member
    simpa using List.mem_takeWhile_imp member
  obtain ⟨inner, elements, octets⟩ := fittingItems fits
  refine ⟨(inner.filterMap InnerItem.fields?).getLast?, ?_, ?_⟩
  · have merged := innerMerged (level Registries.standard bound) inner none
    rw [Option.or_none, elements] at merged
    exact (levelTree Registries.standard bound ⟨.sidInformation, data⟩).trans merged
  · rw [← List.getLast?_map, ← List.getLast?_map, octets, structureAccepted]
    rfl

theorem layoutsAlike (n : Nat) (fields : StructureFields) (reserved : UInt8) {trailing : Octets}
    (short : trailing.length ≤ 65528) :
    ∀ i ∈ [InnerItem.compact fields, .padded reserved fields trailing],
      ∃ d, decode Registries.standard .sidInformation i.encode i.encode.length n = .ok d ∧
        d.tree = fields.tree := by
  intro i member
  have own : Short i.encode ∧ i.fields? = some fields := by
    rcases List.mem_pair.mp member with rfl | rfl
    · exact ⟨by simp [Short, InnerItem.encode, octets16, StructureFields.octets], rfl⟩
    · refine ⟨?_, rfl⟩
      simp only [Short, InnerItem.encode, withHeader, octets16, StructureFields.octets,
        List.length_cons, List.length_append, List.length_nil]
      omega
  have alone := @innerLevel n [i] (by simpa using own.1) (by simp)
  refine ⟨_, decodeWhole _ _ _ _, ?_⟩
  simpa [own.2, structureTree] using alone

theorem lastStructureShown (n : Nat) :
    (∀ (data : Octets) (declared : Nat), declared ≤ data.length →
      ∃ d, decode Registries.standard .sidInformation data declared n = .ok d ∧
        match (wholeStructures (walk n (data.take declared)).elements).getLast? with
        | none => d.tree = []
        | some e => ∃ fields : StructureFields, fields.octets = structureOf e ∧ d.tree = fields.tree) ∧
    ∀ (fields : StructureFields) (reserved : UInt8) (trailing : Octets), trailing.length ≤ 65528 →
      ∀ i ∈ [InnerItem.compact fields, .padded reserved fields trailing],
        ∃ d, decode Registries.standard .sidInformation i.encode i.encode.length n = .ok d ∧
          d.tree = fields.tree := by
  refine ⟨fun data declared inside => ?_,
    fun fields reserved trailing => layoutsAlike n fields reserved⟩
  obtain ⟨last, tree, octets⟩ := levelLast n (data.take declared)
  refine ⟨_, decodeDeclared _ _ inside n, ?_⟩
  rw [tree]
  cases found : (wholeStructures (walk n (data.take declared)).elements).getLast? with
  | none =>
    rw [found, Option.map_none, Option.map_eq_none_iff] at octets
    rw [octets]
    rfl
  | some e =>
    rw [found] at octets
    obtain ⟨fields, rfl, same⟩ := Option.map_eq_some_iff.mp octets
    exact ⟨fields, same, rfl⟩

def mixedStructures : List Element :=
  [⟨1, 32, [16, 16, 0, 0, 0]⟩, ⟨9, 0, [1]⟩, ⟨1, 255, [40, 24, 16, 0, 8, 64, 7]⟩, ⟨1, 0, [1, 2, 3]⟩,
    ⟨1, 48, [1, 1, 1, 1, 1]⟩]

theorem lastStructureMixed :
    41 ≤ (encodeAll mixedStructures ++ [1, 0]).length ∧
    (∃ d, decode Registries.standard .sidInformation (encodeAll mixedStructures ++ [1, 0]) (41 : Nat)
        (4 : Nat) = .ok d ∧
      d.tree = StructureFields.tree ⟨40, 24, 16, 0, 8, 64⟩) ∧
    [7, 8].length ≤ 65528 ∧
    ∀ i ∈ [InnerItem.compact ⟨1, 2, 3, 4, 5, 6⟩, .padded 9 ⟨1, 2, 3, 4, 5, 6⟩ [7, 8]],
      ∃ d, decode Registries.standard .sidInformation i.encode i.encode.length (4 : Nat) = .ok d ∧
        d.tree = StructureFields.tree ⟨1, 2, 3, 4, 5, 6⟩ := by
  have inside : 41 ≤ (encodeAll mixedStructures ++ [1, 0]).length := by decide
  have whole : Admissible 4 (encodeAll mixedStructures) mixedStructures [] :=
    ⟨(List.append_nil _).symm, by decide, by decide, fun _ => .inl rfl⟩
  have front : (encodeAll mixedStructures ++ [1, 0]).take 41 = encodeAll mixedStructures := by decide
  obtain ⟨mixed, alike⟩ := lastStructureShown 4
  refine ⟨inside, ?_, by decide, alike _ 9 [7, 8] (by decide)⟩
  obtain ⟨d, decoded, shown⟩ := mixed _ 41 inside
  have last : (wholeStructures mixedStructures).getLast? =
      some ⟨1, 255, [40, 24, 16, 0, 8, 64, 7]⟩ := by
    decide
  rw [front, walkedExactly whole, last] at shown
  obtain ⟨⟨a, b, c, x, y, z⟩, octets, tree⟩ := shown
  refine ⟨d, decoded, tree.trans ?_⟩
  cases octets
  rfl

end SidAttribute.Decode
