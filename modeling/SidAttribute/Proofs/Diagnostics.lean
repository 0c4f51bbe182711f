import SidAttribute.Log.Report
import SidAttribute.Proofs.OneLine
import SidAttribute.Proofs.WellFormed

/-! Diagnostics against the octets. With the parser on the log from its lowest level, lines at INFO
are missing exactly when the whole attribute fits its bound, and each level that is gone through has
one such line when it was not got through or came to its bound, else none. -/
namespace SidAttribute
open Wire Log

def Log.infoLines (stamp : Stamp) (ns : List Notice) : List Report :=
  ((Gate.ofLevel "DEBUG").1.reports stamp ns).filter fun r => r.method = .info

namespace Log

variable (stamp : Stamp)

theorem reportMethod {m : Notice} {r : Report}
    (member : r ∈ (Gate.ofLevel "DEBUG").1.report stamp m) : r.method = m.method := by
  rw [Gate.report] at member
  split at member
  · obtain ⟨line, _, rfl⟩ := List.mem_map.mp member
    rfl
  · cases member

theorem reportLength {m : Notice} (info : m.isInfo = true) :
    ((Gate.ofLevel "DEBUG").1.report stamp m).length = (messageLines m.text).length := by
  have method : m.method = .info := if_pos info
  rw [Gate.report, method, if_pos (by decide), List.length_map]

theorem infoLinesEq (ns : List Notice) :
    infoLines stamp ns = (Decode.infos ns).flatMap ((Gate.ofLevel "DEBUG").1.report stamp) := by
  rw [infoLines, Gate.reports, List.filter_flatMap]
  induction ns with
  | nil => rfl
  | cons m ns ih =>
    have next : Decode.infos (m :: ns) =
        if m.isInfo then m :: Decode.infos ns else Decode.infos ns := List.filter_cons
    rw [List.flatMap_cons, ih, next]
    cases info : m.isInfo with
    | false =>
      have none : ((Gate.ofLevel "DEBUG").1.report stamp m).filter
          (fun r => r.method = .info) = [] := by
        rw [List.filter_eq_nil_iff]
        intro r member
        rw [reportMethod stamp member, Notice.method, info]
        decide
      rw [none]
      rfl
    | true =>
      have all : ((Gate.ofLevel "DEBUG").1.report stamp m).filter
          (fun r => r.method = .info) = (Gate.ofLevel "DEBUG").1.report stamp m := by
        rw [List.filter_eq_self]
        intro r member
        rw [reportMethod stamp member, Notice.method, info]
        decide
      rw [all]
      rfl

theorem infoLinesNone (ns : List Notice) : infoLines stamp ns = [] ↔ Decode.infos ns = [] := by
  rw [infoLinesEq, List.flatMap_eq_nil_iff, List.eq_nil_iff_forall_not_mem]
  refine forall_congr' fun m => imp_congr_right fun member => ?_
  have info : m.isInfo = true := (List.mem_filter.mp member).2
  rw [← List.length_eq_zero_iff, reportLength stamp info, List.length_eq_zero_iff]
  exact iff_false_intro fun none => Text.piecesNotEmpty _ _ (List.map_eq_nil_iff.mp none)

theorem infoLinesCount {ns : List Notice}
    (whole : ∀ m ∈ Decode.infos ns, Text.Unbroken m.text) :
    (infoLines stamp ns).length = (Decode.infos ns).length := by
  have one : ∀ m ∈ Decode.infos ns,
      ((Gate.ofLevel "DEBUG").1.report stamp m).length = 1 := by
    intro m member
    rw [reportLength stamp (List.mem_filter.mp member).2, messageLinesOne (whole m member)]
    rfl
  rw [infoLinesEq, List.length_flatMap, List.map_congr_left one]
  simp

end Log

namespace Decode

variable (rs : Registries) (n : Nat) (v : Visit)

theorem endingUnbroken (finding : Element → Finding) (es : List Element) (stop : Stop) :
    ∀ m ∈ infos (ending v.scope.levelName n stop finding es), Text.Unbroken m.text := by
  intro m member
  obtain ⟨told, info⟩ := List.mem_filter.mp member
  cases bad : refused finding es with
  | none =>
    rw [endingThrough _ _ _ bad] at told
    exact Notice.unbrokenStop v.scope n stop m told
  | some e =>
    obtain ⟨s, found⟩ := refusedMalformed bad
    rw [endingRefused _ _ _ bad found] at told
    rcases List.mem_cons.mp told with rfl | last
    · cases info
    · rw [List.mem_singleton.mp last]
      exact Notice.unbrokenMalformed v.scope e.code s

theorem ownLines (stamp : Stamp) :
    (infoLines stamp (ownNotices rs n v)).length = (infos (ownNotices rs n v)).length := by
  apply infoLinesCount
  rw [ownInfos]
  exact endingUnbroken n v _ _ _

theorem ownLinesCases (stamp : Stamp) :
    (infoLines stamp (ownNotices rs n v)).length =
      if encodeAll (accepted rs n v) = v.data ∧ (accepted rs n v).length ≤ n then 0 else 1 := by
  rw [ownLines, ownInfos, endingCases]
  simp only [acceptedAll rs n v]

theorem levelLines (stamp : Stamp) :
    infoLines stamp (level rs n v.scope v.data).notices =
      (visits rs n v).flatMap fun w => infoLines stamp (ownNotices rs n w) := by
  rw [infoLinesEq, infoPartition, List.flatMap_assoc]
  simp only [infoLinesEq]

theorem diagnosticsExact (stamp : Stamp) (n : Nat) (data : Octets) :
    ∃ d, decode Registries.standard .top data data.length n = .ok d ∧
      (infoLines stamp d.notices = [] ↔ WellFormed n data) ∧
      infoLines stamp d.notices = (visits Registries.standard n ⟨.top, data⟩).flatMap
        (fun v => infoLines stamp (ownNotices Registries.standard n v)) ∧
      ∀ v ∈ visits Registries.standard n ⟨.top, data⟩,
        (infoLines stamp (ownNotices Registries.standard n v)).length ≤ 1 ∧
        ((infoLines stamp (ownNotices Registries.standard n v)).length = 1 ↔
          encodeAll (accepted Registries.standard n v) ≠ v.data ∨
            (accepted Registries.standard n v).length = n + 1) := by
  refine ⟨level Registries.standard n .top data, decodeWhole _ _ _ _, ?_, ?_, ?_⟩
  · rw [infoLinesNone]
    exact topQuiet n data
  · exact levelLines Registries.standard n ⟨.top, data⟩ stamp
  · intro v _
    have few := acceptedFew Registries.standard n v
    rw [ownLinesCases]
    by_cases whole : encodeAll (accepted Registries.standard n v) = v.data ∧
        (accepted Registries.standard n v).length ≤ n
    · rw [if_pos whole]
      refine ⟨by omega, ?_⟩
      simp only [whole.1, ne_eq, not_true, false_or, Nat.zero_ne_one, false_iff]
      omega
    · rw [if_neg whole]
      refine ⟨by omega, ?_⟩
      simp only [true_iff]
      by_cases octets : encodeAll (accepted Registries.standard n v) = v.data
      · right
        have many : ¬ (accepted Registries.standard n v).length ≤ n := fun le => whole ⟨octets, le⟩
        omega
      · exact .inl octets

end Decode
end SidAttribute
