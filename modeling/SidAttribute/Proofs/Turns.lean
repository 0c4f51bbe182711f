import SidAttribute.Proofs.Containment

/-! Decoding with an allowance of turns. Each turn of a loop, and each level inside another, takes one
from what is left of it, and nothing is compared with the size of anything to see that the run goes
down; with the allowance used up there is no answer. An allowance of one more than the octets is
enough for every level, whatever is registered where. -/
namespace SidAttribute.Turns
open Wire Decode

def labelRanges : Nat → Input → Option (Except Shortfall (List (Nat × Nat)))
  | 0, _ => none
  | allowance + 1, i =>
    if i.rest.isEmpty then some (.ok [])
    else match i.number 3 with
      | .error s => some (.error s)
      | .ok (base, j) =>
        match j.number 3 with
        | .error s => some (.error s)
        | .ok (range, k) => (labelRanges allowance k).map (·.map ((base, range) :: ·))

def originatorSrgb (allowance : Nat) (e : Element) : Option (Except Shortfall Tree) :=
  match (Input.ofOctets e.payload).number 1 with
  | .error s => some (.error s)
  | .ok (low, i) =>
    let flags : Tree := [("flags", .int (e.reserved.toNat * 256 + low))]
    (labelRanges allowance i).map
      (·.map fun ranges => ranges.foldl (fun t r => t.addChild "srgb" (labelRange r)) flags)

def unpack (allowance : Nat) (nested : Scope → Octets → Option Decoded) (e : Element) :
    Kind → Option (Except Shortfall Decoded)
  | .labelIndex => some ((labelIndex e).map (⟨·, []⟩))
  | .originatorSrgb => (originatorSrgb allowance e).map (·.map (⟨·, []⟩))
  | .l3Service => (nested .l3Service e.payload).map .ok
  | .l2Service => (nested .l2Service e.payload).map .ok
  | .sidInformation =>
    match sidFields e.payload with
    | .error s => some (.error s)
    | .ok (fields, rest) =>
      (nested .sidInformation rest).map fun inner => .ok (fields.withStructure inner)
  | .sidStructure => some ((sidStructure e).map (⟨·, []⟩))

def find (rs : Registries) (scope : Scope) (allowance : Nat)
    (nested : Scope → Octets → Option Decoded) (e : Element) : Option Finding :=
  match rs.kind? scope e.code.toNat with
  | none => some .unregistered
  | some kind =>
    (unpack allowance nested e kind).map fun
      | .error short => .malformed short
      | .ok decoded => .node kind.key decoded

/-- The number `left` is what the elements before leave of the bound. -/
def level (rs : Registries) (bound : Int) : Nat → Scope → Int → Octets → Tree → Option Decoded
  | 0, _, _, _, _ => none
  | allowance + 1, scope, left, data, t =>
    match scanHead data with
    | .stop reason => some ⟨t, reason.notice scope.levelName bound⟩
    | .element e rest =>
      match find rs scope allowance (fun s d => level rs bound allowance s bound d []) e with
      | none => none
      | some finding =>
        let told := finding.told scope.levelName e
        let t := finding.attachTo t
        if finding.isMalformed then some ⟨t, told⟩
        else if left ≤ 0 then some ⟨t, told ++ Stop.tooMany.notice scope.levelName bound⟩
        else (level rs bound allowance scope (left - 1) rest t).map (Decoded.after told)

theorem labelRangesEnd {i : Input} {allowance : Nat} (enough : i.rest.length < allowance) :
    labelRanges allowance i = some (Decode.labelRanges i) := by
  obtain ⟨fewer, rfl⟩ := Nat.exists_eq_succ_of_ne_zero (Nat.ne_zero_of_lt enough)
  fun_induction Decode.labelRanges i generalizing fewer with
  | case1 i none => rw [labelRanges, if_pos none]
  | case2 i some s first => rw [labelRanges, if_neg some, first]
  | case3 i some base j first s second =>
    rw [labelRanges, if_neg some, first]
    dsimp only
    rw [second]
  | case4 i some base j first range k second ih =>
    have one := Input.numberShrinks first
    have two := Input.numberShrinks second
    obtain ⟨less, rfl⟩ : ∃ less, fewer = less + 1 := Nat.exists_eq_succ_of_ne_zero (by omega)
    rw [labelRanges, if_neg some, first]
    dsimp only
    rw [second]
    dsimp only
    rw [ih less (by omega)]
    rfl

section Finding

variable {rs : Registries} {allowance : Nat} {one : Scope → Octets → Option Decoded}
  {two : Scope → Octets → Decoded} {e : Element}

theorem originatorSrgbEnd (enough : e.payload.length < allowance) :
    originatorSrgb allowance e = some (Decode.originatorSrgb e) := by
  unfold originatorSrgb Decode.originatorSrgb
  cases first : (Input.ofOctets e.payload).number 1 with
  | error s => rfl
  | ok pair =>
    obtain ⟨low, i⟩ := pair
    have size : i.rest.length + 1 = e.payload.length := Input.numberShrinks first
    simp only [bind, Except.bind]
    rw [labelRangesEnd (by omega)]
    cases Decode.labelRanges i with
    | error s => rfl
    | ok ranges => rfl

theorem unpackEnd (enough : e.payload.length < allowance)
    (same : ∀ s d, d.length ≤ e.payload.length → one s d = some (two s d)) (kind : Kind) :
    unpack allowance one e kind = some (Decode.unpack two e kind) := by
  cases kind with
  | labelIndex => rfl
  | originatorSrgb =>
    rw [unpack, originatorSrgbEnd enough]
    rfl
  | l3Service =>
    rw [unpack, same _ _ (Nat.le_refl _)]
    rfl
  | l2Service =>
    rw [unpack, same _ _ (Nat.le_refl _)]
    rfl
  | sidInformation =>
    rw [unpack, Decode.unpack]
    cases fixed : sidFields e.payload with
    | error s => rfl
    | ok pair =>
      obtain ⟨fields, rest⟩ := pair
      have size := sidFieldsShrinks fixed
      dsimp only
      rw [same _ _ (by omega)]
      rfl
  | sidStructure => rfl

theorem findEnd (scope : Scope) (enough : e.payload.length < allowance)
    (same : ∀ s d, d.length ≤ e.payload.length → one s d = some (two s d)) :
    find rs scope allowance one e = some (Decode.find rs scope two e) := by
  unfold find Decode.find
  cases rs.kind? scope e.code.toNat with
  | none => rfl
  | some kind =>
    dsimp only
    rw [unpackEnd enough same]
    cases Decode.unpack two e kind with
    | error s => rfl
    | ok d => rfl

end Finding

/-- The induction is on the allowance: an element leaves less octets than it found, to the rest of its
level as well as to the levels inside it. -/
theorem levelEnd (rs : Registries) (bound : Int) {allowance : Nat} {data : Octets}
    (enough : data.length < allowance) (scope : Scope) (left : Int) (t : Tree) :
    level rs bound allowance scope left data t =
      some (collect scope.levelName bound (walk left data).stop
        (Decode.find rs scope (Decode.level rs bound)) (walk left data).elements t) := by
  induction allowance generalizing data scope left t with
  | zero => exact absurd enough (Nat.not_lt_zero _)
  | succ allowance ih =>
    cases head : scanHead data with
    | stop reason =>
      rw [level, head, walkStop head]
      rfl
    | element e rest =>
      have size := scanShrinks head
      have nested : ∀ s d, d.length ≤ e.payload.length →
          level rs bound allowance s bound d [] = some (Decode.level rs bound s d) := by
        intro s d shorter
        rw [ih (by omega), levelEq]
      have found : find rs scope allowance (fun s d => level rs bound allowance s bound d []) e =
          some (Decode.find rs scope (Decode.level rs bound) e) :=
        findEnd scope (by omega) nested
      rw [level, head, walkElement head]
      dsimp only
      rw [found]
      dsimp only
      by_cases last : left ≤ 0
      · rw [if_pos last, if_pos last, Strict.collectStep]
        cases (Decode.find rs scope (Decode.level rs bound) e).isMalformed with
        | true => rfl
        | false => rfl
      · rw [if_neg last, if_neg last, ih (by omega), Walk.cons, Strict.collectStep]
        cases (Decode.find rs scope (Decode.level rs bound) e).isMalformed with
        | true => rfl
        | false => rfl

end SidAttribute.Turns
