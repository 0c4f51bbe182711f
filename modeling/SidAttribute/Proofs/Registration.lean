import SidAttribute.Proofs.Bound

/-! Registries over whole runs. A step is refused exactly when its code is taken where it is asked for,
and then nothing changes; any other step adds its entry behind those of one registry. So what is
registered stays, and a decode is changed by a registration only if a level that looks into the same
registry was handed an element of the new code. -/
namespace SidAttribute
open Wire

namespace Registry

theorem kindNone {r : Registry} {code : Int} : r.kind? code = none ↔ code ∉ r.codes := by
  induction r with
  | nil => simp [kind?, codes]
  | cons row rest ih =>
    obtain ⟨c, k⟩ := row
    by_cases here : c = code
    · simp [kind?, codes, here]
    · have other : code ≠ c := Ne.symm here
      simpa [kind?, codes, here, other] using ih

theorem kindAdded {r : Registry} {code : Int} (free : r.kind? code = none) (kind : Kind) (c : Int) :
    Registry.kind? (r ++ [(code, kind)]) c = if c = code then some kind else r.kind? c := by
  induction r with
  | nil => simp [kind?, eq_comm]
  | cons row rest ih =>
    obtain ⟨known, k⟩ := row
    have apart : known ≠ code := by
      intro same
      rw [kind?, if_pos same] at free
      cases free
    rw [kind?, if_neg apart] at free
    by_cases here : known = c
    · have other : c ≠ code := here ▸ apart
      simp [kind?, here, other]
    · simp [kind?, here, ih free]

end Registry

namespace Registries

theorem getSet (rs : Registries) (r : Registry) (scope s : Scope) :
    (rs.set r scope).get s = if s = scope then r else rs.get s := by
  cases scope <;> cases s <;> rfl

variable {rs next : Registries} {g : Registration}

theorem registerRefused : (∃ e, rs.register g = .error e) ↔ g.target ∈ (rs.get g.scope).codes := by
  have free : rs.kind? g.scope g.target = Option.none ↔ g.target ∉ (rs.get g.scope).codes :=
    Registry.kindNone
  unfold register
  cases known : rs.kind? g.scope g.target with
  | none => simpa using free.mp known
  | some kind =>
    rw [known] at free
    simpa using free

theorem registerRefusal {e : TakenCode} (taken : rs.register g = .error e) :
    e = ⟨g.scope, g.target⟩ := by
  unfold register at taken
  split at taken
  · cases taken
    rfl
  · cases taken

theorem registerAdded (added : rs.register g = .ok next) :
    rs.kind? g.scope g.target = Option.none ∧
      next.get g.scope = rs.get g.scope ++ [(g.target, g.kind)] ∧
      ∀ s ≠ g.scope, next.get s = rs.get s := by
  unfold register at added
  cases free : rs.kind? g.scope g.target with
  | some kind =>
    rw [free] at added
    cases added
  | none =>
    rw [free] at added
    cases added
    refine ⟨rfl, ?_, fun s other => ?_⟩
    · rw [getSet, if_pos rfl]
    · rw [getSet, if_neg other]

theorem registerKind (added : rs.register g = .ok next) (s : Scope) (code : Int) :
    next.kind? s code =
      if s = g.scope ∧ code = g.target then some g.kind else rs.kind? s code := by
  obtain ⟨free, own, others⟩ := registerAdded added
  by_cases here : s = g.scope
  · subst here
    rw [kind?, own, Registry.kindAdded free]
    simp only [true_and, kind?]
  · rw [kind?, others s here, if_neg (fun both => here both.1), kind?]

theorem registerKeeps (added : rs.register g = .ok next) {s : Scope} {code : Int} {kind : Kind}
    (known : rs.kind? s code = some kind) : next.kind? s code = some kind := by
  have free := (registerAdded added).1
  rw [registerKind added, if_neg, known]
  rintro ⟨rfl, rfl⟩
  rw [free] at known
  cases known

section Runs

theorem registerAllAppend (rs : Registries) (before after : List Registration) :
    rs.registerAll (before ++ after) = (rs.registerAll before).registerAll after := by
  induction before generalizing rs with
  | nil => rfl
  | cons first rest ih =>
    rw [List.cons_append, registerAll, registerAll]
    split
    · exact ih _
    · exact ih _

theorem registerAllKeeps {steps : List Registration} {s : Scope} {code : Int} {kind : Kind}
    (known : rs.kind? s code = some kind) : (rs.registerAll steps).kind? s code = some kind := by
  induction steps generalizing rs with
  | nil => exact known
  | cons first rest ih =>
    rw [registerAll]
    split
    · next added => exact ih (registerKeeps added known)
    · exact ih known

theorem registerAllElsewhere {steps : List Registration} {s : Scope}
    (elsewhere : ∀ g ∈ steps, g.scope ≠ s) : (rs.registerAll steps).get s = rs.get s := by
  induction steps generalizing rs with
  | nil => rfl
  | cons first rest ih =>
    have later : ∀ g ∈ rest, g.scope ≠ s := fun g member =>
      elsewhere g (List.mem_cons_of_mem first member)
    rw [registerAll]
    split
    · next added =>
      rw [ih later]
      exact (registerAdded added).2.2 s (elsewhere first List.mem_cons_self).symm
    · exact ih later

end Runs
end Registries

namespace Decode

def handed (rs : Registries) (bound : Int) (v : Visit) : List Element :=
  accepted rs bound v ++ (refused (find rs v.scope silent) (walk bound v.data).elements).toList

def Unmet (rs : Registries) (bound : Int) (v : Visit) (scope : Scope) (code : Int) : Prop :=
  ∀ w ∈ visits rs bound v, w.scope = scope → ∀ e ∈ handed rs bound w, (e.code.toNat : Int) ≠ code

instance (rs bound v scope code) : Decidable (Unmet rs bound v scope code) := by
  unfold Unmet; infer_instance

section Agreement

variable {one two : Element → Finding} {es : List Element}

/-- Findings that agree as far as a level gets lead it equally far. -/
theorem passedAgree
    (same : ∀ e ∈ passed one es ++ (refused one es).toList, two e = one e) :
    passed two es = passed one es ∧ refused two es = refused one es := by
  induction es with
  | nil => exact ⟨rfl, rfl⟩
  | cons e rest ih =>
    cases bad : (one e).isMalformed with
    | true =>
      have first : passed one (e :: rest) = [] := List.takeWhile_cons_of_neg (by simp [bad])
      have stop : refused one (e :: rest) = some e := List.find?_cons_of_pos bad
      rw [first, stop] at same ⊢
      have alike : two e = one e := same e (by simp)
      rw [← alike] at bad
      exact ⟨List.takeWhile_cons_of_neg (by simp [bad]), List.find?_cons_of_pos bad⟩
    | false =>
      have first : passed one (e :: rest) = e :: passed one rest :=
        List.takeWhile_cons_of_pos (by simp [bad])
      have on : refused one (e :: rest) = refused one rest :=
        List.find?_cons_of_neg (by simp [bad])
      rw [first, on] at same ⊢
      have alike : two e = one e := same e (by simp)
      obtain ⟨through, stop⟩ := ih fun f member => same f (List.mem_cons_of_mem e member)
      rw [← alike] at bad
      refine ⟨?_, ?_⟩
      · rw [← through]
        exact List.takeWhile_cons_of_pos (by simp [bad])
      · rw [← stop]
        exact List.find?_cons_of_neg (by simp [bad])

theorem collectAgree (level : String) (bound : Int) (stop : Stop) (t : Tree)
    (same : ∀ e ∈ passed one es ++ (refused one es).toList, two e = one e) :
    collect level bound stop two es t = collect level bound stop one es t := by
  obtain ⟨through, bad⟩ := passedAgree same
  have front : ∀ e ∈ passed one es, two e = one e := fun e member =>
    same e (List.mem_append_left _ member)
  have tree : (collect level bound stop two es t).tree = (collect level bound stop one es t).tree := by
    rw [collectTree, collectTree, through]
    exact List.foldl_ext _ _ _ fun t e member => by rw [front e member]
  have notices : (collect level bound stop two es t).notices =
      (collect level bound stop one es t).notices := by
    rw [collectNotices, collectNotices, through, ending, ending, bad]
    congr 1
    · exact List.flatMap_congr fun e member => by rw [front e member]
    · cases first : refused one es with
      | none => rfl
      | some e =>
        have last : two e = one e := same e (by simp [first])
        dsimp only
        rw [last]
  calc collect level bound stop two es t
      = ⟨(collect level bound stop two es t).tree, (collect level bound stop two es t).notices⟩ := rfl
    _ = collect level bound stop one es t := by rw [tree, notices]

end Agreement

variable {rs other : Registries} {bound : Int}

theorem handedSame (rs : Registries) (bound : Int) (v : Visit) (nested : Scope → Octets → Decoded) :
    passed (find rs v.scope nested) (walk bound v.data).elements ++
      (refused (find rs v.scope nested) (walk bound v.data).elements).toList = handed rs bound v := by
  have same : refused (find rs v.scope nested) (walk bound v.data).elements =
      refused (find rs v.scope silent) (walk bound v.data).elements := by
    unfold refused
    congr 1
    funext e
    rw [isMalformedSame rs v.scope nested silent]
  rw [handed, accepted, passedSame rs v.scope nested silent, same]

theorem handedRefused {v : Visit} {e : Element} (member : e ∈ handed rs bound v)
    (last : e ∉ accepted rs bound v) : ∃ s, find rs v.scope silent e = .malformed s := by
  rcases List.mem_append.mp member with front | back
  · exact absurd front last
  · exact refusedMalformed (Option.mem_toList.mp back)

/-- What is registered for all codes that come up in a decode decides about it. The induction is on the
octets of the level; a level inside it is one that the decode goes through too. -/
theorem levelUnmet {scope : Scope} {code : Int}
    (agree : ∀ s c, ¬ (s = scope ∧ c = code) → other.kind? s c = rs.kind? s c) (v : Visit)
    (unmet : Unmet rs bound v scope code) :
    level other bound v.scope v.data = level rs bound v.scope v.data := by
  induction size : v.data.length using Nat.strongRecOn generalizing v with
  | ind size ih =>
    have inner : ∀ e ∈ accepted rs bound v, ∀ w, opened rs v.scope e = some w →
        level other bound w.scope w.data = level rs bound w.scope w.data := by
      intro e member w opens
      have shorter := acceptedPayload member
      have less := openedShrinks opens
      apply ih w.data.length (by omega) w _ rfl
      intro u visited
      apply unmet u
      rw [visitsEq, List.mem_append, List.mem_flatMap]
      exact .inl ⟨e, member, by rw [opens]; exact visited⟩
    have own : ∀ e ∈ handed rs bound v,
        find other v.scope (level other bound) e = find rs v.scope (level rs bound) e := by
      intro e member
      have known : other.kind? v.scope e.code.toNat = rs.kind? v.scope e.code.toNat := by
        apply agree
        rintro ⟨here, met⟩
        have last : v ∈ visits rs bound v := by
          rw [visitsEq]
          exact List.mem_append_right _ List.mem_cons_self
        exact unmet v last here e member met
      have registered : find other v.scope (level other bound) e =
          find rs v.scope (level other bound) e := by
        rw [find, find, known]
      rw [registered]
      by_cases through : e ∈ accepted rs bound v
      · exact findOpened (inner e through)
      · obtain ⟨s, bad⟩ := handedRefused member through
        rw [malformedSame bad, malformedSame bad]
    rw [levelEq, levelEq]
    apply collectAgree
    rw [handedSame rs bound v]
    exact own

theorem decodeUnmet {scope : Scope} {code : Int}
    (agree : ∀ s c, ¬ (s = scope ∧ c = code) → other.kind? s c = rs.kind? s c)
    {entry : Scope} {data : Octets} {declared : Int}
    (unmet : Unmet rs bound ⟨entry, data.take declared.toNat⟩ scope code) :
    decode other entry data declared bound = decode rs entry data declared bound := by
  have same := levelUnmet agree ⟨entry, data.take declared.toNat⟩ unmet
  rw [decodeOutcome, decodeOutcome, same]

def srgbInside : Registration := ⟨.sidInformation, .originatorSrgb, none⟩

def srgbAround : List Element :=
  [⟨3, 0, [1, 0, 0, 16, 0, 0, 8]⟩,
    ⟨5, 0, encodeAll [⟨1, 0, List.replicate 20 1 ++ encodeAll [⟨9, 0, []⟩, ⟨1, 0, [7]⟩, ⟨3, 0, [2]⟩]⟩]⟩]

end Decode
end SidAttribute
