import Mathlib.Data.List.Basic
import Mathlib.Data.List.TakeWhile
import SidAttribute.Proofs.Level
import SidAttribute.Proofs.Wire.Admissible

/-! The levels that one decode goes through, the innermost first, and what each of them tells of
itself. Together they tell what the decode tells; a level tells at most once that it ended early or
at its bound. -/
namespace SidAttribute.Decode
open Wire

structure Visit where
  scope : Scope
  data : Octets
  deriving DecidableEq, Repr

def silent (_ : Scope) (_ : Octets) : Decoded := Decoded.empty

def opens (e : Element) : Kind → Option Visit
  | .l3Service => some ⟨.l3Service, e.payload⟩
  | .l2Service => some ⟨.l2Service, e.payload⟩
  | .sidInformation =>
    if 20 ≤ e.payload.length then some ⟨.sidInformation, e.payload.drop 20⟩ else none
  | _ => none

def opened (rs : Registries) (scope : Scope) (e : Element) : Option Visit :=
  (rs.kind? scope e.code.toNat).bind (opens e)

/-- The elements a level gets through: those before the first malformed one. -/
def accepted (rs : Registries) (bound : Int) (v : Visit) : List Element :=
  passed (find rs v.scope silent) (walk bound v.data).elements

def visits (rs : Registries) (bound : Int) (v : Visit) : List Visit :=
  (accepted rs bound v).flatMap (fun e =>
    match opened rs v.scope e with
    | some inner => if inner.data.length < v.data.length then visits rs bound inner else []
    | none => []) ++ [v]
termination_by v.data.length

def ownNotices (rs : Registries) (bound : Int) (v : Visit) : List Notice :=
  (collect v.scope.levelName bound (walk bound v.data).stop (find rs v.scope silent)
    (walk bound v.data).elements []).notices

def infos (ns : List Notice) : List Notice := ns.filter Notice.isInfo

theorem infosAppend (ms ns : List Notice) : infos (ms ++ ns) = infos ms ++ infos ns :=
  List.filter_append ms ns

theorem openedShrinks {rs : Registries} {scope : Scope} {e : Element} {v : Visit}
    (h : opened rs scope e = some v) : v.data.length ≤ e.payload.length := by
  obtain ⟨kind, _, inside⟩ := Option.bind_eq_some_iff.mp h
  cases kind with
  | l3Service => cases inside; exact Nat.le_refl _
  | l2Service => cases inside; exact Nat.le_refl _
  | sidInformation =>
    simp only [opens] at inside
    split at inside
    · cases inside
      dsimp only
      rw [List.length_drop]
      omega
    · cases inside
  | labelIndex => cases inside
  | originatorSrgb => cases inside
  | sidStructure => cases inside

theorem acceptedPayload {rs : Registries} {bound : Int} {v : Visit} {e : Element}
    (member : e ∈ accepted rs bound v) : e.payload.length + 4 ≤ v.data.length :=
  walkPayload (List.takeWhile_subset _ member)

theorem acceptedFew (rs : Registries) (n : Nat) (v : Visit) : (accepted rs n v).length ≤ n + 1 := by
  obtain ⟨rest, admissible⟩ := walkAdmissible n v.data
  have few := admissible.few
  have front : (accepted rs n v).length ≤ (walk n v.data).elements.length :=
    (List.takeWhile_prefix _).length_le
  omega

theorem visitsEq (rs : Registries) (bound : Int) (v : Visit) :
    visits rs bound v = (accepted rs bound v).flatMap (fun e =>
      match opened rs v.scope e with
      | some inner => visits rs bound inner
      | none => []) ++ [v] := by
  rw [visits]
  congr 1
  apply List.flatMap_congr
  intro e member
  have shorter := acceptedPayload member
  cases inside : opened rs v.scope e with
  | none => rfl
  | some inner =>
    have size := openedShrinks inside
    exact if_pos (by omega)

theorem mapOk {α β : Type} {x : Except Shortfall α} {f : α → β} {y : β} (ok : x.map f = .ok y) :
    ∃ a, x = .ok a ∧ f a = y := by
  cases x with
  | error s => cases ok
  | ok a => cases ok; exact ⟨a, rfl, rfl⟩

section Finding

variable {rs : Registries} {scope : Scope} {one two : Scope → Octets → Decoded} {e : Element}

theorem unpackShort (kind : Kind) {s : Shortfall} (short : unpack one e kind = .error s) :
    unpack two e kind = .error s := by
  cases kind with
  | labelIndex => exact short
  | originatorSrgb => exact short
  | l3Service => cases short
  | l2Service => cases short
  | sidInformation =>
    simp only [unpack] at short ⊢
    cases read : sidFields e.payload with
    | error s => rwa [read] at short
    | ok pair => rw [read] at short; cases short
  | sidStructure => exact short

theorem malformedSame {s : Shortfall} (h : find rs scope one e = .malformed s) :
    find rs scope two e = .malformed s := by
  unfold find at h ⊢
  cases known : rs.kind? scope e.code.toNat with
  | none => rw [known] at h; cases h
  | some kind =>
    rw [known] at h
    cases read : unpack one e kind with
    | error s => simpa [read, unpackShort kind read] using h
    | ok d => simp [read] at h

theorem isMalformedSame (rs : Registries) (scope : Scope) (one two : Scope → Octets → Decoded)
    (e : Element) :
    (find rs scope one e).isMalformed = (find rs scope two e).isMalformed := by
  cases first : find rs scope one e with
  | malformed s => rw [malformedSame first]
  | unregistered =>
    cases second : find rs scope two e with
    | malformed s => rw [malformedSame second] at first; cases first
    | unregistered => rfl
    | node key d => rfl
  | node key d =>
    cases second : find rs scope two e with
    | malformed s => rw [malformedSame second] at first; cases first
    | unregistered => rfl
    | node key d => rfl

theorem passedSame (rs : Registries) (scope : Scope) (one two : Scope → Octets → Decoded)
    (es : List Element) :
    passed (find rs scope one) es = passed (find rs scope two) es := by
  have same : (fun e => !(find rs scope one e).isMalformed) =
      fun e => !(find rs scope two e).isMalformed := by
    funext e
    rw [isMalformedSame rs scope one two]
  rw [passed, passed, same]

theorem endingSame (rs : Registries) (scope : Scope) (one two : Scope → Octets → Decoded)
    (level : String) (bound : Int) (stop : Stop) (es : List Element) :
    ending level bound stop (find rs scope one) es =
      ending level bound stop (find rs scope two) es := by
  have same : refused (find rs scope one) es = refused (find rs scope two) es := by
    unfold refused
    congr 1
    funext e
    rw [isMalformedSame rs scope one two]
  cases bad : refused (find rs scope two) es with
  | none => rw [endingThrough level bound stop (same.trans bad), endingThrough level bound stop bad]
  | some e =>
    obtain ⟨s, found⟩ := refusedMalformed bad
    rw [endingRefused level bound stop (same.trans bad) (malformedSame found),
      endingRefused level bound stop bad found]

theorem unpackInfos {kind : Kind} {d : Decoded} (read : unpack one e kind = .ok d) :
    infos d.notices =
      match opens e kind with
      | some inner => infos (one inner.scope inner.data).notices
      | none => [] := by
  cases kind with
  | labelIndex =>
    obtain ⟨t, _, rfl⟩ := mapOk read
    rfl
  | originatorSrgb =>
    obtain ⟨t, _, rfl⟩ := mapOk read
    rfl
  | l3Service => cases read; rfl
  | l2Service => cases read; rfl
  | sidInformation =>
    obtain ⟨⟨fields, rest⟩, fixed, rfl⟩ := mapOk read
    have size := sidFieldsShrinks fixed
    have enough : 20 ≤ e.payload.length := by omega
    rw [sidFieldsRead enough] at fixed
    cases fixed
    rw [opens, if_pos enough]
    rfl
  | sidStructure =>
    obtain ⟨t, _, rfl⟩ := mapOk read
    rfl

theorem toldInfos (level : String) (good : (find rs scope one e).isMalformed = false) :
    infos ((find rs scope one e).told level e) =
      match opened rs scope e with
      | some inner => infos (one inner.scope inner.data).notices
      | none => [] := by
  unfold opened
  cases known : rs.kind? scope e.code.toNat with
  | none =>
    rw [findNone known]
    rfl
  | some kind =>
    cases read : unpack one e kind with
    | error s =>
      rw [findMalformed known read] at good
      cases good
    | ok d =>
      rw [findNode known read]
      exact unpackInfos read

end Finding

theorem passedGood {finding : Element → Finding} {es : List Element} {e : Element}
    (member : e ∈ passed finding es) : (finding e).isMalformed = false := by
  have good := List.mem_takeWhile_imp member
  simpa using good

theorem passedThrough {finding : Element → Finding} {before : List Element}
    (good : ∀ e ∈ before, (finding e).isMalformed = false) (more : List Element) :
    passed finding (before ++ more) = before ++ passed finding more :=
  List.takeWhile_append_of_pos fun e member => by simp [good e member]

theorem passedStopped {finding : Element → Finding} {before : List Element}
    (bad : ¬ ∀ e ∈ before, (finding e).isMalformed = false) (more : List Element) :
    passed finding (before ++ more) = passed finding before := by
  unfold passed
  rw [List.takeWhile_append, if_neg]
  intro all
  apply bad
  intro e member
  have whole := (List.takeWhile_prefix _).eq_of_length all
  have good := List.mem_takeWhile_imp (whole.symm ▸ member)
  simpa using good

theorem levelTree (rs : Registries) (bound : Int) (v : Visit) :
    (level rs bound v.scope v.data).tree = (accepted rs bound v).foldl
      (fun t e => (find rs v.scope (level rs bound) e).attachTo t) [] := by
  rw [levelEq, collectTree, passedSame rs v.scope _ silent]
  rfl

theorem levelNotices (rs : Registries) (bound : Int) (v : Visit) :
    (level rs bound v.scope v.data).notices =
      (accepted rs bound v).flatMap
        (fun e => (find rs v.scope (level rs bound) e).told v.scope.levelName e) ++
      ending v.scope.levelName bound (walk bound v.data).stop (find rs v.scope silent)
        (walk bound v.data).elements := by
  rw [levelEq, collectNotices, passedSame rs v.scope _ silent, endingSame rs v.scope _ silent]
  rfl

theorem ownInfos (rs : Registries) (bound : Int) (v : Visit) :
    infos (ownNotices rs bound v) =
      infos (ending v.scope.levelName bound (walk bound v.data).stop (find rs v.scope silent)
        (walk bound v.data).elements) := by
  have quiet : infos ((accepted rs bound v).flatMap fun e =>
      (find rs v.scope silent e).told v.scope.levelName e) = [] := by
    rw [infos, List.filter_flatMap, List.flatMap_eq_nil_iff]
    intro e member
    refine (toldInfos v.scope.levelName (passedGood member)).trans ?_
    cases opened rs v.scope e <;> rfl
  rw [ownNotices, collectNotices, infosAppend]
  exact (congrArg (· ++ _) quiet).trans (List.nil_append _)

theorem levelInfos (rs : Registries) (bound : Int) (v : Visit) :
    infos (level rs bound v.scope v.data).notices =
      (accepted rs bound v).flatMap (fun e =>
        match opened rs v.scope e with
        | some inner => infos (level rs bound inner.scope inner.data).notices
        | none => []) ++ infos (ownNotices rs bound v) := by
  have each : ∀ e ∈ accepted rs bound v,
      infos ((find rs v.scope (level rs bound) e).told v.scope.levelName e) =
        match opened rs v.scope e with
        | some inner => infos (level rs bound inner.scope inner.data).notices
        | none => [] := by
    intro e member
    apply toldInfos
    rw [isMalformedSame rs v.scope _ silent]
    exact passedGood member
  rw [levelNotices, infosAppend, ownInfos]
  congr 1
  rw [infos, List.filter_flatMap]
  exact List.flatMap_congr each

theorem infoPartition (rs : Registries) (bound : Int) (v : Visit) :
    infos (level rs bound v.scope v.data).notices =
      (visits rs bound v).flatMap fun w => infos (ownNotices rs bound w) := by
  induction size : v.data.length using Nat.strongRecOn generalizing v with
  | ind size ih =>
    rw [levelInfos, visitsEq, List.flatMap_append, List.flatMap_singleton, List.flatMap_assoc]
    congr 1
    apply List.flatMap_congr
    intro e member
    have shorter := acceptedPayload member
    cases inside : opened rs v.scope e with
    | none => rfl
    | some inner =>
      have less := openedShrinks inside
      exact ih inner.data.length (by omega) inner rfl

theorem endingCases (level : String) (bound : Int) (stop : Stop) (finding : Element → Finding)
    (es : List Element) :
    (infos (ending level bound stop finding es)).length =
      if refused finding es = none ∧ stop = .exhausted then 0 else 1 := by
  cases bad : refused finding es with
  | none =>
    rw [endingThrough level bound stop bad]
    cases stop with
    | exhausted => rfl
    | truncatedHeader left => rfl
    | zeroLength code => rfl
    | overrun code length left => rfl
    | tooMany => rfl
  | some e =>
    obtain ⟨s, found⟩ := refusedMalformed bad
    rw [endingRefused level bound stop bad found]
    rfl

end SidAttribute.Decode
