import SidAttribute.Proofs.Visits

/-! Attributes that fit their bound at every level. The rule is said of octets alone: each level is
made of complete elements, no more than the bound, and what has a decoder has the size it needs. -/
namespace SidAttribute.Decode
open Wire

/-- At most n complete elements and nothing else. -/
def Filled (n : Nat) (fitting : Element → Prop) (data : Octets) : Prop :=
  ∃ es : List Element, data = encodeAll es ∧ es.length ≤ n ∧ ∀ e ∈ es, e.Fits ∧ fitting e

def StructureFits (e : Element) : Prop := e.code = 1 → 6 ≤ e.length

def SidFits (n : Nat) (e : Element) : Prop :=
  e.code = 1 → 20 ≤ e.payload.length ∧ Filled n StructureFits (e.payload.drop 20)

def TopFits (n : Nat) (e : Element) : Prop :=
  (e.code = 1 → 6 ≤ e.payload.length) ∧ (e.code = 3 → e.payload.length % 6 = 1) ∧
  (e.code = 5 ∨ e.code = 6 → Filled n (SidFits n) e.payload)

def WellFormed (n : Nat) (data : Octets) : Prop := Filled n (TopFits n) data

theorem filledCongr {n : Nat} {one two : Element → Prop} (same : ∀ e, one e ↔ two e)
    (data : Octets) : Filled n one data ↔ Filled n two data := by
  simp only [Filled, same]

def KindFits (e : Element) : Kind → Prop
  | .labelIndex => 6 ≤ e.payload.length
  | .originatorSrgb => e.payload.length % 6 = 1
  | .l3Service => True
  | .l2Service => True
  | .sidInformation => 20 ≤ e.payload.length
  | .sidStructure => 6 ≤ e.length

section Fits

variable {nested : Scope → Octets → Decoded} {e : Element}

theorem unpackFits {kind : Kind} (fits : KindFits e kind) : ∃ d, unpack nested e kind = .ok d := by
  cases kind with
  | labelIndex => exact ⟨_, by rw [unpack, labelIndexRead fits]; rfl⟩
  | originatorSrgb => exact ⟨_, by rw [unpack, originatorSrgbRead fits]; rfl⟩
  | l3Service => exact ⟨_, rfl⟩
  | l2Service => exact ⟨_, rfl⟩
  | sidInformation => exact ⟨_, by rw [unpack, sidFieldsRead fits]; rfl⟩
  | sidStructure =>
    rcases Nat.lt_or_eq_of_le (show 6 ≤ e.length from fits) with more | six
    · exact ⟨_, by rw [unpack, sidStructure, structureOctetsMore more]; rfl⟩
    · exact ⟨_, by rw [unpack, sidStructure, structureOctetsSix six.symm]; rfl⟩

theorem unpackUnfit {kind : Kind} (unfit : ¬ KindFits e kind) :
    ∃ s, unpack nested e kind = .error s := by
  cases kind with
  | labelIndex =>
    obtain ⟨s, short⟩ := labelIndexShort (Nat.lt_of_not_le unfit)
    exact ⟨s, by rw [unpack, short]; rfl⟩
  | originatorSrgb =>
    exact ⟨_, by rw [unpack, originatorSrgbShort unfit]; rfl⟩
  | l3Service => exact absurd trivial unfit
  | l2Service => exact absurd trivial unfit
  | sidInformation =>
    obtain ⟨s, short⟩ := sidFieldsShort (Nat.lt_of_not_le unfit)
    exact ⟨s, by rw [unpack, short]; rfl⟩
  | sidStructure =>
    obtain ⟨s, short⟩ := structureOctetsShort (Nat.lt_of_not_le unfit)
    exact ⟨s, by rw [unpack, sidStructure, short]; rfl⟩

theorem goodFits {rs : Registries} {scope : Scope} :
    (find rs scope nested e).isMalformed = false ↔
      ∀ kind, rs.kind? scope e.code.toNat = some kind → KindFits e kind := by
  cases known : rs.kind? scope e.code.toNat with
  | none =>
    rw [findNone known]
    simp [Finding.isMalformed]
  | some kind =>
    by_cases fits : KindFits e kind
    · obtain ⟨d, read⟩ : ∃ d, unpack nested e kind = .ok d := unpackFits fits
      rw [findNode known read]
      simp [Finding.isMalformed, fits]
    · obtain ⟨s, short⟩ : ∃ s, unpack nested e kind = .error s := unpackUnfit fits
      rw [findMalformed known short]
      simp [Finding.isMalformed, fits]

end Fits

section Level

variable (rs : Registries) (n : Nat) (v : Visit)

theorem encodeAllEmpty {es : List Element} (none : encodeAll es = []) : es = [] := by
  cases es with
  | nil => rfl
  | cons e rest =>
    have size := congrArg List.length none
    rw [encodeAllCons, List.length_append, encodeLength] at size
    simp at size

theorem refusedNone {finding : Element → Finding} {es : List Element} :
    refused finding es = none ↔ passed finding es = es := by
  constructor
  · intro none
    apply passedAll
    intro e member
    simpa using List.find?_eq_none.mp none e member
  · intro all
    apply List.find?_eq_none.mpr
    intro e member
    rw [← all] at member
    simp [passedGood member]

theorem acceptedAll :
    refused (find rs v.scope silent) (walk n v.data).elements = none ∧
        (walk n v.data).stop = .exhausted ↔
      encodeAll (accepted rs n v) = v.data ∧ (accepted rs n v).length ≤ n := by
  rw [refusedNone, walkExhausted]
  constructor
  · rintro ⟨all, whole⟩
    rw [accepted, all]
    exact whole
  · rintro ⟨octets, few⟩
    obtain ⟨more, split⟩ : accepted rs n v <+: (walk n v.data).elements :=
      List.takeWhile_prefix _
    obtain ⟨rest, admissible⟩ := walkAdmissible n v.data
    have left : encodeAll more ++ rest = [] := by
      have same := admissible.octets
      rw [← split, encodeAllAppend, octets, List.append_assoc] at same
      simpa using same.symm
    have none : more = [] := encodeAllEmpty (List.append_eq_nil_iff.mp left).1
    rw [none, List.append_nil] at split
    rw [← split]
    refine ⟨?_, octets, few⟩
    rw [split]
    exact split

theorem ownQuiet :
    infos (ownNotices rs n v) = [] ↔
      encodeAll (accepted rs n v) = v.data ∧ (accepted rs n v).length ≤ n := by
  rw [← acceptedAll, ← List.length_eq_zero_iff, ownInfos, endingCases]
  split
  · next quiet => simp [quiet]
  · next loud => simp [loud]

theorem filledAccepted (P : Element → Prop) :
    Filled n (fun e => (find rs v.scope silent e).isMalformed = false ∧ P e) v.data ↔
      (encodeAll (accepted rs n v) = v.data ∧ (accepted rs n v).length ≤ n) ∧
        ∀ e ∈ accepted rs n v, P e := by
  constructor
  · rintro ⟨es, octets, few, each⟩
    have whole : Admissible n v.data es [] :=
      ⟨by rw [List.append_nil, octets], fun e member => (each e member).1, by omega,
        fun _ => .inl rfl⟩
    have all : accepted rs n v = es := by
      rw [accepted, walkedExactly whole]
      exact passedAll fun e member => (each e member).2.1
    rw [all]
    exact ⟨⟨octets.symm, few⟩, fun e member => (each e member).2.2⟩
  · rintro ⟨⟨octets, few⟩, each⟩
    obtain ⟨rest, admissible⟩ := walkAdmissible n v.data
    refine ⟨accepted rs n v, octets.symm, few, ?_⟩
    intro e member
    have walked := (List.takeWhile_prefix _).subset member
    exact ⟨admissible.fits e walked, passedGood member, each e member⟩

theorem levelQuiet :
    infos (level rs n v.scope v.data).notices = [] ↔
      Filled n (fun e => (find rs v.scope silent e).isMalformed = false ∧
        ∀ inner, opened rs v.scope e = some inner →
          infos (level rs n inner.scope inner.data).notices = []) v.data := by
  rw [filledAccepted, levelInfos, List.append_eq_nil_iff, ownQuiet, List.flatMap_eq_nil_iff,
    and_comm]
  refine and_congr_right fun _ => forall_congr' fun e => imp_congr_right fun _ => ?_
  cases opened rs v.scope e with
  | none => simp
  | some inner => simp

end Level

section Standard

variable (n : Nat)

theorem structureQuiet (data : Octets) :
    infos (level Registries.standard n .sidInformation data).notices = [] ↔
      Filled n StructureFits data := by
  refine (levelQuiet Registries.standard n ⟨.sidInformation, data⟩).trans ?_
  apply filledCongr
  intro e
  rw [goodFits, opened, standardSidInformation]
  by_cases code : e.code = 1
  · simp [code, StructureFits, KindFits, opens]
  · simp [code, StructureFits]

theorem serviceQuiet {scope : Scope} (service : scope = .l3Service ∨ scope = .l2Service)
    (data : Octets) :
    infos (level Registries.standard n scope data).notices = [] ↔ Filled n (SidFits n) data := by
  refine (levelQuiet Registries.standard n ⟨scope, data⟩).trans ?_
  apply filledCongr
  intro e
  have kind : Registries.standard.kind? scope e.code.toNat =
      if e.code = 1 then some .sidInformation else none := by
    rcases service with rfl | rfl
    · exact standardL3Service e.code
    · exact standardL2Service e.code
  rw [goodFits, opened, kind]
  by_cases code : e.code = 1
  · rw [if_pos code]
    constructor
    · rintro ⟨fits, quiet⟩ _
      have enough : 20 ≤ e.payload.length := fits _ rfl
      refine ⟨enough, (structureQuiet n _).mp (quiet ⟨.sidInformation, e.payload.drop 20⟩ ?_)⟩
      exact if_pos enough
    · intro fits
      obtain ⟨enough, filled⟩ := fits code
      constructor
      · intro kind known
        cases known
        exact enough
      · intro inner inside
        have one : some ⟨.sidInformation, e.payload.drop 20⟩ = some inner :=
          (if_pos enough).symm.trans inside
        cases one
        exact (structureQuiet n _).mpr filled
  · simp [code, SidFits]

theorem topQuiet (data : Octets) :
    infos (level Registries.standard n .top data).notices = [] ↔ WellFormed n data := by
  refine (levelQuiet Registries.standard n ⟨.top, data⟩).trans ?_
  apply filledCongr
  intro e
  rw [goodFits, opened, standardTop]
  by_cases one : e.code = 1
  · simp [one, TopFits, KindFits, opens]
  by_cases three : e.code = 3
  · simp [three, TopFits, KindFits, opens]
  by_cases five : e.code = 5
  · simp [five, TopFits, KindFits, opens, serviceQuiet n (.inl rfl)]
  by_cases six : e.code = 6
  · simp [six, TopFits, KindFits, opens, serviceQuiet n (.inr rfl)]
  · simp [one, three, five, six, TopFits]

end Standard

end SidAttribute.Decode
