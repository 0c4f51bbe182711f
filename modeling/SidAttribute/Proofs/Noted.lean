import SidAttribute.Proofs.Containment
import SidAttribute.Proofs.Logged

/-! A run that only keeps its notices, against decoding without one. Where the bound is a number it
gives the same tree with the same notices; where it is none it ends at the first element that would
have to be counted, on whatever level that is. -/
namespace SidAttribute.Logged
open Wire

section Noting

variable {α β σ : Type} {rs : Registries} {bound : Value} {scope : Scope} {f : Notice → Notice}
  {one : Scope → Octets → Run (List Notice) Tree} {two : Scope → Octets → Decoded} {e : Element}

theorem bindOk {x : Run σ α} {s next : σ} {a : α} (ok : x s = (.ok a, next)) (f : α → Run σ β) :
    (x >>= f) s = f a next := by
  change Run.andThen x f s = _
  rw [Run.andThen, ok]

theorem bindError {x : Run σ α} {s next : σ} {e : Fault} (bad : x s = (.error e, next))
    (f : α → Run σ β) : (x >>= f) s = (.error e, next) := by
  change Run.andThen x f s = _
  rw [Run.andThen, bad]

theorem caughtOk {x : Run σ α} {s next : σ} {a : α} (ok : x s = (.ok a, next)) :
    x.caught s = (.ok (.ok a), next) := by rw [Run.caught, ok]

theorem caughtShort {x : Run σ α} {s next : σ} {short : Shortfall}
    (bad : x s = (.error (.short short), next)) : x.caught s = (.ok (.error short), next) := by
  rw [Run.caught, bad]

theorem caughtRequest {x : Run σ α} {s next : σ} {e : RequestError}
    (bad : x s = (.error (.request e), next)) : x.caught s = (.error (.request e), next) := by
  rw [Run.caught, bad]

/-- The run gives the tree and adds the notices, each as `f` words it. -/
def Notes (f : Notice → Notice) (x : Run (List Notice) Tree) (d : Decoded) : Prop :=
  ∀ told, x told = (.ok d.tree, told ++ d.notices.map f)

structure Words (bound : Value) (n : Int) (f : Notice → Notice) : Prop where
  bound : ∀ level, f (.tooMany level (.int n)) = .tooMany level bound
  others : ∀ m : Notice, m.isTooMany = false → f m = m

theorem wordsNumber (n : Int) : Words (.int n) n id := ⟨fun _ => rfl, fun _ _ => rfl⟩

theorem wordsUnder (bound : Value) (n : Int) : Words bound n (Notice.under bound) := by
  refine ⟨fun _ => rfl, fun m other => ?_⟩
  cases m with
  | tooMany => cases other
  | _ => rfl

theorem readNotes {read : Except Shortfall Tree} {d : Decoded}
    (ok : read.map (⟨·, []⟩) = .ok d) : Notes f (.read read) d := by
  cases read with
  | error s => cases ok
  | ok t =>
    cases ok
    exact fun told => by rw [List.map_nil, List.append_nil]; rfl

theorem readStops {read : Except Shortfall Tree} {s : Shortfall}
    (bad : read.map (fun t => (⟨t, []⟩ : Decoded)) = .error s) (told : List Notice) :
    Run.read read told = (.error (.short s), told) := by
  cases read with
  | error s => cases bad; rfl
  | ok t => cases bad

theorem unpackNotes {n : Int} (words : Words bound n f)
    (same : ∀ s d, d.length ≤ e.payload.length → Notes f (one s d) (two s d))
    {kind : Kind} {d : Decoded} (ok : Decode.unpack two e kind = .ok d) :
    Notes f (unpack note one e kind) d := by
  cases kind with
  | labelIndex => exact readNotes ok
  | originatorSrgb => exact readNotes ok
  | l3Service =>
    cases ok
    exact same _ _ (Nat.le_refl _)
  | l2Service =>
    cases ok
    exact same _ _ (Nat.le_refl _)
  | sidInformation =>
    cases read : Decode.sidFields e.payload with
    | error s => simp [Decode.unpack, read, Except.map] at ok
    | ok pair =>
      obtain ⟨fields, rest⟩ := pair
      have size := Decode.sidFieldsShrinks read
      simp only [Decode.unpack, read, Except.map, Except.ok.injEq] at ok
      intro told
      have inner := same .sidInformation rest (by omega) (told ++ [fields.notice])
      rw [unpack, read, bindOk (x := .read (.ok (fields, rest))) rfl]
      dsimp only
      rw [bindOk (x := note fields.notice) rfl, bindOk inner, ← ok, Decode.SidFields.withStructure,
        List.map_cons, words.others fields.notice rfl, List.append_assoc]
      rfl
  | sidStructure => exact readNotes ok

theorem unpackStops {kind : Kind} {s : Shortfall} (bad : Decode.unpack two e kind = .error s)
    (told : List Notice) : unpack note one e kind told = (.error (.short s), told) := by
  cases kind with
  | labelIndex => exact readStops bad told
  | originatorSrgb => exact readStops bad told
  | l3Service => cases bad
  | l2Service => cases bad
  | sidInformation =>
    cases read : Decode.sidFields e.payload with
    | error short =>
      simp only [Decode.unpack, read, Except.map, Except.error.injEq] at bad
      rw [unpack, read, bindError (x := .read (.error short)) rfl, bad]
    | ok pair => simp [Decode.unpack, read, Except.map] at bad
  | sidStructure => exact readStops bad told

def after (f : Finding) (t : Tree) : Option Tree := if f.isMalformed then none else some (f.attachTo t)

theorem noteThen (n : Notice) (f : Unit → Run (List Notice) α) (told : List Notice) :
    (note n >>= f) told = f () (told ++ [n]) := rfl

theorem malformedShort {f : Finding} (bad : f.isMalformed = true) : ∃ s, f = .malformed s := by
  cases f with
  | malformed s => exact ⟨s, rfl⟩
  | unregistered | node => cases bad

theorem dispatchNotes {n : Int} (words : Words bound n f)
    (same : ∀ s d, d.length ≤ e.payload.length → Notes f (one s d) (two s d)) (t : Tree)
    (told : List Notice) :
    dispatch note rs scope one e t (told ++ [.element scope.levelName e]) =
      (.ok (after (Decode.find rs scope two e) t),
        told ++ ((Decode.find rs scope two e).told scope.levelName e).map f) := by
  unfold dispatch
  cases known : rs.kind? scope e.code.toNat with
  | none =>
    rw [Decode.findNone known]
    dsimp only
    rw [noteThen, List.append_assoc, Finding.told, List.map_cons, List.map_singleton,
      words.others (.element _ e) rfl, words.others (.unregistered _ _) rfl]
    rfl
  | some kind =>
    dsimp only
    cases made : Decode.unpack two e kind with
    | error s =>
      rw [Decode.findMalformed known made, bindOk (caughtShort (unpackStops made _))]
      dsimp only
      rw [noteThen, List.append_assoc, Finding.told, List.map_cons, List.map_singleton,
        words.others (.element _ e) rfl, words.others (.malformed _ _ s) rfl]
      rfl
    | ok d =>
      rw [Decode.findNode known made, bindOk (caughtOk (unpackNotes words same made _)),
        List.append_assoc, Finding.told, List.map_cons, words.others (.element _ e) rfl]
      rfl

theorem endingNotes (stop : Stop) (bound : Int) (running : stop ≠ .tooMany) (told : List Notice) :
    ending note scope stop told = (.ok (), told ++ stop.notice scope.levelName bound) := by
  cases stop with
  | exhausted => rw [Stop.notice, List.append_nil]; rfl
  | tooMany => exact absurd rfl running
  | truncatedHeader | zeroLength | overrun => rfl

theorem endingWords {n : Int} (words : Words bound n f) {stop : Stop} (running : stop ≠ .tooMany)
    (level : String) : (stop.notice level n).map f = stop.notice level n := by
  cases stop with
  | exhausted => rfl
  | tooMany => exact absurd rfl running
  | truncatedHeader | zeroLength | overrun => exact congrArg (fun m => [m]) (words.others _ rfl)

theorem scanRunning {data : Octets} {stop : Stop} (head : scanHead data = .stop stop) :
    stop ≠ .tooMany := by
  rintro rfl
  unfold scanHead at head
  split at head
  · cases head
  · dsimp only at head
    split at head
    · cases head
    · split at head <;> cases head
  · cases head

section Onwards

variable {count : Nat} {rest : Octets} {before t : Tree} {told : List Notice}

theorem onwardsBeyond {n : Int} (whole : bound.number? = some n) (beyond : n < (count + 1 : Nat)) :
    onwards note rs bound scope one count rest before (some t) told =
      (.ok t, told ++ [.tooMany scope.levelName bound]) := by
  have counted : exceeded bound (count + 1) told = (.ok true, told) := by
    rw [exceeded, whole]
    dsimp only
    rw [decide_eq_true beyond]
    rfl
  rw [onwards, bindOk counted]
  rfl

theorem onwardsUnder {n : Int} (whole : bound.number? = some n) (under : (count + 1 : Nat) ≤ n) :
    onwards note rs bound scope one count rest before (some t) told =
      loop note rs bound scope one (count + 1) rest t told := by
  have fine : exceeded bound (count + 1) told = (.ok false, told) := by
    rw [exceeded, whole]
    dsimp only
    rw [decide_eq_false (Int.not_lt.mpr under)]
    rfl
  rw [onwards, bindOk fine]
  rfl

theorem onwardsUncounted (none : bound.number? = none) :
    onwards note rs bound scope one count rest before (some t) told =
      (.error (.request (.uncountable bound.kindName)), told) := by
  have failed : exceeded bound (count + 1) told =
      (.error (.request (.uncountable bound.kindName)), told) := by
    rw [exceeded, none]
    rfl
  rw [onwards, bindError failed]

end Onwards

theorem loopNotes {n : Int} (whole : bound.number? = some n) (words : Words bound n f)
    {data : Octets} (same : ∀ s d, d.length < data.length → Notes f (one s d) (two s d))
    (count : Nat) (t : Tree) :
    Notes f (loop note rs bound scope one count data t)
      (Decode.collect scope.levelName n (walk (n - count) data).stop (Decode.find rs scope two)
        (walk (n - count) data).elements t) := by
  induction size : data.length using Nat.strongRecOn generalizing data count t with
  | ind size ih =>
    intro told
    cases head : scanHead data with
    | stop reason =>
      rw [loopStop head, bindOk (endingNotes reason n (scanRunning head) told), walkStop head,
        Decode.collect, endingWords words (scanRunning head)]
      rfl
    | element e rest =>
      have shorter := scanShrinks head
      have within : ∀ s d, d.length ≤ e.payload.length → Notes f (one s d) (two s d) :=
        fun s d inside => same s d (by omega)
      rw [loopElement head, noteThen, bindOk (dispatchNotes words within t told), walkElement head,
        after]
      cases bad : (Decode.find rs scope two e).isMalformed with
      | true =>
        obtain ⟨short, found⟩ := malformedShort bad
        have kept : (Decode.find rs scope two e).attachTo t = t := by rw [found]; rfl
        rw [if_pos rfl]
        split
        · rw [Strict.collectStep, if_pos bad, kept]
          rfl
        · rw [Walk.cons, Strict.collectStep, if_pos bad, kept]
          rfl
      | false =>
        have good : ¬ (Decode.find rs scope two e).isMalformed = true := by rw [bad]; decide
        rw [if_neg Bool.false_ne_true]
        by_cases last : n - count ≤ 0
        · rw [if_pos last, onwardsBeyond whole (by omega), Strict.collectStep, if_neg good,
            List.append_assoc, ← words.bound, ← List.map_singleton, ← List.map_append]
          rfl
        · have more := ih rest.length (by omega) (fun s d inside => same s d (by omega))
            (count + 1) ((Decode.find rs scope two e).attachTo t) rfl
          have less : n - (count + 1 : Nat) = n - count - 1 := by omega
          rw [less] at more
          rw [if_neg last, onwardsUnder whole (by omega), more, Walk.cons, Strict.collectStep,
            if_neg good, List.append_assoc, ← List.map_append]
          rfl

theorem levelNotes {n : Int} (whole : bound.number? = some n) (words : Words bound n f)
    (scope : Scope) (data : Octets) :
    Notes f (level note rs bound scope data) (Decode.level rs n scope data) := by
  induction size : data.length using Nat.strongRecOn generalizing scope data with
  | ind size ih =>
    rw [level, Decode.levelEq]
    have same : ∀ s d, d.length < data.length → Notes f (if d.length < data.length then
        level note rs bound s d else .fail (.nesting d.length)) (Decode.level rs n s d) := by
      intro s d shorter
      rw [if_pos shorter]
      exact ih d.length (by omega) s d rfl
    have all := @loopNotes rs bound scope f _ _ n whole words data same 0 []
    rwa [Int.natCast_zero, Int.sub_zero] at all

section Uncounted

def Ends (bound : Value) (outcome : Except Fault α) : Prop :=
  outcome = .error (.request (.uncountable bound.kindName)) ∨ ∃ a, outcome = .ok a

theorem unpackEnds
    (same : ∀ s d, d.length ≤ e.payload.length → ∀ told, Ends bound (one s d told).1)
    {kind : Kind} {d : Decoded} (ok : Decode.unpack two e kind = .ok d) (told : List Notice) :
    Ends bound (unpack note one e kind told).1 := by
  cases kind with
  | labelIndex => exact .inr ⟨_, congrArg Prod.fst (@readNotes id _ _ ok told)⟩
  | originatorSrgb => exact .inr ⟨_, congrArg Prod.fst (@readNotes id _ _ ok told)⟩
  | l3Service => exact same _ _ (Nat.le_refl _) told
  | l2Service => exact same _ _ (Nat.le_refl _) told
  | sidInformation =>
    cases read : Decode.sidFields e.payload with
    | error s => simp [Decode.unpack, read, Except.map] at ok
    | ok pair =>
      obtain ⟨fields, rest⟩ := pair
      have size := Decode.sidFieldsShrinks read
      have inner := same .sidInformation rest (by omega) (told ++ [fields.notice])
      rw [unpack, read, bindOk (x := .read (.ok (fields, rest))) rfl]
      dsimp only
      rw [noteThen]
      cases nested : one .sidInformation rest (told ++ [fields.notice]) with
      | mk outcome next =>
        rw [nested] at inner
        rcases inner with failed | ⟨t, through⟩
        · exact .inl (by rw [bindError (nested.trans (congrArg (·, next) failed))])
        · exact .inr ⟨_, by rw [bindOk (nested.trans (congrArg (·, next) through))]; rfl⟩
  | sidStructure => exact .inr ⟨_, congrArg Prod.fst (@readNotes id _ _ ok told)⟩

theorem dispatchEnds
    (same : ∀ s d, d.length ≤ e.payload.length → ∀ told, Ends bound (one s d told).1)
    (good : (Decode.find rs scope two e).isMalformed = false) (t : Tree) (told : List Notice) :
    ∃ next, dispatch note rs scope one e t told =
        (.error (.request (.uncountable bound.kindName)), next) ∨
      ∃ more, dispatch note rs scope one e t told = (.ok (some more), next) := by
  unfold dispatch
  cases known : rs.kind? scope e.code.toNat with
  | none => exact ⟨_, .inr ⟨_, rfl⟩⟩
  | some kind =>
    dsimp only
    cases made : Decode.unpack two e kind with
    | error s =>
      rw [Decode.findMalformed known made] at good
      cases good
    | ok d =>
      have inner := unpackEnds same made told
      cases run : unpack note one e kind told with
      | mk outcome next =>
        rw [run] at inner
        refine ⟨next, ?_⟩
        rcases inner with failed | ⟨node, through⟩
        · dsimp only at failed
          rw [failed] at run
          exact .inl (bindError (caughtRequest run) _)
        · dsimp only at through
          rw [through] at run
          exact .inr ⟨_, bindOk (caughtOk run) _⟩

theorem dispatchStops {short : Shortfall} (found : Decode.find rs scope two e = .malformed short)
    (t : Tree) (told : List Notice) :
    dispatch note rs scope one e t told =
      (.ok none, told ++ [.malformed scope.levelName e.code short]) := by
  unfold dispatch
  cases known : rs.kind? scope e.code.toNat with
  | none =>
    rw [Decode.findNone known] at found
    cases found
  | some kind =>
    dsimp only
    cases made : Decode.unpack two e kind with
    | error s =>
      rw [Decode.findMalformed known made] at found
      cases found
      exact bindOk (caughtShort (unpackStops made told)) _
    | ok d =>
      rw [Decode.findNode known made] at found
      cases found

theorem loopUncounted (none : bound.number? = none) {data : Octets}
    (same : ∀ s d, d.length < data.length → ∀ told, Ends bound (one s d told).1)
    (told : List Notice) :
    let d := Decode.collect scope.levelName (-1) (walk (-1) data).stop (Decode.find rs scope two)
      (walk (-1) data).elements []
    if d.notices.any Notice.isTooMany then
      (loop note rs bound scope one 0 data [] told).1 =
        .error (.request (.uncountable bound.kindName))
    else loop note rs bound scope one 0 data [] told = (.ok d.tree, told ++ d.notices) := by
  cases head : scanHead data with
  | stop reason =>
    have running := scanRunning head
    have quiet : (reason.notice scope.levelName (-1)).any Notice.isTooMany = false := by
      cases reason with
      | tooMany => exact absurd rfl running
      | _ => rfl
    rw [loopStop head, bindOk (endingNotes reason (-1) running told), walkStop head]
    dsimp only
    rw [Decode.collect, if_neg (by rw [quiet]; decide)]
    rfl
  | element e rest =>
    have shorter := scanShrinks head
    have inner : ∀ s d, d.length ≤ e.payload.length → ∀ told, Ends bound (one s d told).1 :=
      fun s d inside => same s d (by omega)
    have last : walk (-1) data = ⟨[e], .tooMany⟩ := by rw [walkElement head, if_pos (by decide)]
    rw [loopElement head, noteThen, last]
    dsimp only
    rw [Strict.collectStep]
    cases finding : (Decode.find rs scope two e).isMalformed with
    | true =>
      obtain ⟨short, found⟩ := malformedShort finding
      rw [if_pos rfl, found, bindOk (dispatchStops found [] _), if_neg (by exact Bool.false_ne_true),
        List.append_assoc]
      rfl
    | false =>
      have many : ((Decode.collect scope.levelName (-1) .tooMany (Decode.find rs scope two) []
          ((Decode.find rs scope two e).attachTo [])).after
          ((Decode.find rs scope two e).told scope.levelName e)).notices.any
            Notice.isTooMany = true := by
        rw [Decoded.after, List.any_append, Bool.or_eq_true]
        exact .inr rfl
      rw [if_neg Bool.false_ne_true, if_pos many]
      obtain ⟨next, failed | ⟨more, through⟩⟩ :=
        dispatchEnds inner finding [] (told ++ [.element scope.levelName e])
      · rw [bindError failed]
      · rw [bindOk through, onwardsUncounted none]

/-- With a bound that is no number a run gets through a level only if its first element, if there is
one, is malformed; a level inside that element ends the run in the same way. -/
theorem levelUncounted (none : bound.number? = none) (scope : Scope) (data : Octets)
    (told : List Notice) :
    if (Decode.level rs (-1) scope data).notices.any Notice.isTooMany then
      (level note rs bound scope data told).1 = .error (.request (.uncountable bound.kindName))
    else level note rs bound scope data told = (.ok (Decode.level rs (-1) scope data).tree,
      told ++ (Decode.level rs (-1) scope data).notices) := by
  induction size : data.length using Nat.strongRecOn generalizing scope data told with
  | ind size ih =>
    rw [level, Decode.levelEq]
    refine loopUncounted none (fun s d shorter told => ?_) told
    have nested := ih d.length (by omega) s d told rfl
    rw [if_pos shorter]
    split at nested
    · exact .inl nested
    · exact .inr ⟨_, congrArg Prod.fst nested⟩

end Uncounted

end Noting

end SidAttribute.Logged
