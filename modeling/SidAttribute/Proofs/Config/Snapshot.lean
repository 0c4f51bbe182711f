import Mathlib.Data.List.Induction
import SidAttribute.Proofs.Config.Loaded
import SidAttribute.Request

/-! The configuration as requests to decode meet it. A request that asks for no bound takes it from the
configuration, which it loads if nothing did since the last fresh start; every other request leaves the
configuration alone. The bound is then the one of that load, whatever is edited behind it. -/
namespace SidAttribute.Config
open Wire

inductive Deed where
  | edit (a : Act)
  | decode (r : Request)

def Consults (r : Request) : Prop :=
  r.bound = none ∧ ∃ octets, Decode.window r.data r.declared = .ok octets

def Deed.Loads : Deed → Prop
  | .edit a => a = .load
  | .decode r => Consults r

section Deeds

variable (rs : Registries)

def Scene.ask (s : Scene) (r : Request) : Scene × Except RequestError Decoded :=
  (⟨s.sources, (r.answer rs s.store s.sources).1⟩, (r.answer rs s.store s.sources).2)

def Scene.deed (s : Scene) : Deed → Scene
  | .edit a => (s.act a).1
  | .decode r => (s.ask rs r).1

def Scene.after (s : Scene) (deeds : List Deed) : Scene := deeds.foldl (Scene.deed rs) s

end Deeds

section Steps

variable {rs : Registries} {s : Scene} {r : Request} {sources : Sources}

theorem askAlone (alone : ¬ Consults r) : (s.ask rs r).1 = s := by
  unfold Scene.ask Request.answer
  cases accepted : Decode.window r.data r.declared with
  | error e => rfl
  | ok octets =>
    cases asked : r.bound with
    | some n => rfl
    | none => exact absurd ⟨asked, octets, accepted⟩ alone

theorem askLoads (consults : Consults r) :
    (s.ask rs r).1 = ⟨s.sources, (s.store.load s.sources).1⟩ := by
  obtain ⟨asked, octets, accepted⟩ := consults
  unfold Scene.ask Request.answer
  rw [accepted, asked]
  dsimp only
  split <;> next load => rw [load]

theorem askFails {e : LoadError} (consults : Consults r) (load : (s.store.load s.sources).2 = some e) :
    (s.ask rs r).2 = .error (.load e) := by
  obtain ⟨asked, octets, accepted⟩ := consults
  unfold Scene.ask Request.answer
  rw [accepted, asked]
  dsimp only
  split
  · next other => rw [other] at load; cases load; rfl
  · next other => rw [other] at load; cases load

theorem askBound {n : Nat} (consults : Consults r) (load : (s.store.load s.sources).2 = none)
    (bound : Request.configuredBound (s.store.load s.sources).1 = .int n) :
    (s.ask rs r).2 = (s.ask rs { r with bound := some n }).2 ∧ ∃ d, (s.ask rs r).2 = .ok d := by
  obtain ⟨asked, octets, accepted⟩ := consults
  have least : ¬ (n : Int) < 0 := by omega
  have given : (s.ask rs { r with bound := some n }).2 = .ok (Decode.level rs n r.scope octets) := by
    simp only [Scene.ask, Request.answer, accepted, Decode.checkBound, if_neg least,
      Except.mapError, Except.map]
  have own : (s.ask rs r).2 = .ok (Decode.level rs n r.scope octets) := by
    unfold Scene.ask Request.answer
    rw [accepted, asked]
    dsimp only
    split
    · next other => rw [other] at load; cases load
    · next other =>
      rw [other] at bound
      simp only [Request.decodeUnder, bound]
  rw [own, given]
  exact ⟨rfl, _, rfl⟩

theorem deedLoaded {d : Deed} (loaded : s.store.loaded = true) (kept : d ≠ .edit .reset) :
    (s.deed rs d).store = s.store := by
  cases d with
  | edit a => exact (actLoaded loaded fun reset => kept (congrArg Deed.edit reset)).1
  | decode r =>
    by_cases consults : Consults r
    · rw [Scene.deed, askLoads consults, s.store.loadOnce s.sources loaded]
    · rw [Scene.deed, askAlone consults]

theorem afterLoaded {deeds : List Deed} (loaded : s.store.loaded = true)
    (kept : .edit .reset ∉ deeds) : (s.after rs deeds).store = s.store := by
  induction deeds generalizing s with
  | nil => rfl
  | cons d rest ih =>
    have same : (s.deed rs d).store = s.store :=
      deedLoaded loaded fun reset => kept (reset ▸ List.mem_cons_self)
    have later := ih (s := s.deed rs d) (by rw [same, loaded])
      fun member => kept (List.mem_cons_of_mem d member)
    exact later.trans same

def Unread (s : Store) : Prop := s.loaded = false → s = Store.fresh

theorem deedUnread (unread : Unread s.store) (d : Deed) : Unread (s.deed rs d).store := by
  intro after
  cases loaded : s.store.loaded with
  | true =>
    by_cases reset : d = .edit .reset
    · rw [reset]; rfl
    · rw [deedLoaded loaded reset, loaded] at after
      cases after
  | false =>
    cases d with
    | edit a =>
      cases a with
      | setVariable name value =>
        rw [← unread loaded]
        simp only [Scene.deed, Scene.act]
        split <;> rfl
      | unsetVariable name | writeFile ini => exact unread loaded
      | load => rw [Scene.deed, Scene.act, loadLoaded] at after; cases after
      | reset => rfl
    | decode r =>
      by_cases consults : Consults r
      · rw [Scene.deed, askLoads consults, loadLoaded] at after; cases after
      · rw [Scene.deed, askAlone consults]; exact unread loaded

theorem afterUnread (unread : Unread s.store) (deeds : List Deed) :
    Unread (s.after rs deeds).store := by
  induction deeds generalizing s with
  | nil => exact unread
  | cons d rest ih => exact ih (deedUnread unread d)

def LoadedBy (deeds : List Deed) : Prop :=
  ∃ before d after, deeds = before ++ d :: after ∧ d.Loads ∧ .edit .reset ∉ after

theorem loadedBySnoc {deeds : List Deed} {d : Deed} :
    LoadedBy (deeds ++ [d]) ↔ d.Loads ∨ LoadedBy deeds ∧ d ≠ .edit .reset := by
  constructor
  · rintro ⟨before, first, after, split, loads, kept⟩
    rcases List.eq_nil_or_concat after with rfl | ⟨front, last, rfl⟩
    · obtain ⟨_, same⟩ := List.append_inj' split rfl
      exact .inl ((List.singleton_inj.mp same) ▸ loads)
    · have whole : before ++ first :: front.concat last = (before ++ first :: front) ++ [last] := by
        simp
      obtain ⟨same, end_⟩ := List.append_inj' (split.trans whole) rfl
      rw [List.concat_eq_append, List.mem_append, not_or] at kept
      refine .inr ⟨⟨before, first, front, same, loads, kept.1⟩, fun reset => kept.2 ?_⟩
      rw [← reset, List.singleton_inj.mp end_]
      exact List.mem_cons_self
  · rintro (loads | ⟨⟨before, first, after, rfl, loads, kept⟩, other⟩)
    · exact ⟨deeds, d, [], rfl, loads, List.not_mem_nil⟩
    · refine ⟨before, first, after ++ [d], by simp, loads, ?_⟩
      rw [List.mem_append, List.mem_singleton, not_or]
      exact ⟨kept, other.symm⟩

theorem deedLoadedIff (d : Deed) :
    (s.deed rs d).store.loaded = true ↔ d.Loads ∨ s.store.loaded = true ∧ d ≠ .edit .reset := by
  cases d with
  | edit a =>
    cases a with
    | setVariable name value =>
      have same : (s.act (.setVariable name value)).1.store = s.store := by
        unfold Scene.act
        dsimp only
        split <;> rfl
      simp [Scene.deed, Deed.Loads, same]
    | unsetVariable name | writeFile ini => simp [Scene.deed, Deed.Loads, Scene.act]
    | load => simp [Scene.deed, Deed.Loads, Scene.act, loadLoaded]
    | reset => simp [Scene.deed, Deed.Loads, Scene.act, Store.fresh]
  | decode r =>
    by_cases consults : Consults r
    · simp [Scene.deed, Deed.Loads, askLoads consults, loadLoaded, consults]
    · simp [Scene.deed, Deed.Loads, askAlone consults, consults]

/-- The induction is on the deeds from the last one back. -/
theorem afterLoadedIff (deeds : List Deed) :
    (Scene.after rs ⟨sources, Store.fresh⟩ deeds).store.loaded = true ↔ LoadedBy deeds := by
  induction deeds using List.reverseRecOn with
  | nil => simp [Scene.after, Store.fresh, LoadedBy]
  | append_singleton deeds d ih =>
    rw [loadedBySnoc, ← ih, Scene.after, List.foldl_append]
    exact deedLoadedIff d

end Steps

section Bounds

theorem debugQuiet (text : String → Option String) : (debugSection.load text).2 = none := by
  rw [Section.load, debugChoices, Section.loadChoices]
  cases text (booleanChoice "pdb" false "enable python debugger on errors").name with
  | none => rfl
  | some t =>
    dsimp only
    rw [booleanTaken]
    rfl

theorem decodeFailed {text : String → Option String} (failed : (decodeSection.load text).2 ≠ none) :
    (decodeSection.load text).1 = decodeSection := by
  obtain ⟨o, choices⟩ : ∃ o, decodeSection.choices = [o] := ⟨_, decodeChoices⟩
  have settable : Settable decodeSection [o] := choices ▸ decodeSettable
  rw [Section.load, choices] at failed ⊢
  cases given : text o.name with
  | none =>
    rw [loadNone given] at failed
    exact absurd rfl failed
  | some t =>
    cases read : o.parse t with
    | error e => rw [loadRefused given read]
    | ok v =>
      rw [loadTaken settable given read] at failed
      exact absurd rfl failed

theorem loadFailed {sources : Sources} : (Store.fresh.load sources).2 ≠ none →
    (Store.fresh.load sources).1.decode = decodeSection := by
  cases parsed : sources.file with
  | error e => rw [unreadable parsed]; exact fun _ => rfl
  | ok file =>
    rw [readable parsed, Store.read]
    dsimp only [Store.fresh]
    cases logSection.load (textOf sources.environment file logSection.name) with
    | mk log e =>
      cases e with
      | some e => exact fun _ => rfl
      | none =>
        dsimp only
        cases loaded : decodeSection.load (textOf sources.environment file decodeSection.name) with
        | mk decode e =>
          cases e with
          | some e =>
            have stopped := @decodeFailed (textOf sources.environment file decodeSection.name)
              (by rw [loaded]; exact Option.some_ne_none e)
            rw [loaded] at stopped
            exact fun _ => stopped
          | none => exact fun failed => absurd (debugQuiet _) failed

theorem loadBound (sources : Sources) :
    ∃ n : Nat, (Store.fresh.load sources).1.decode.items = [("siblings", .int n)] ∧
      ((Store.fresh.load sources).2 ≠ none → n = 3) := by
  obtain ⟨c, of⟩ := loadedReading sources
  refine ⟨c.siblings, of.decode, fun failed => ?_⟩
  have default : decodeSection.items = [("siblings", .int 3)] := by decide
  have items := of.decode
  rw [loadFailed failed, default] at items
  have same : (3 : Int) = c.siblings := by simpa using items
  omega

theorem configuredItem {store : Store} {v : Value}
    (items : store.decode.items = [("siblings", v)]) : Request.configuredBound store = v := by
  obtain ⟨o, choices, same⟩ := List.map_eq_singleton_iff.mp items
  have name : o.name = "siblings" := congrArg Prod.fst same
  have value : store.decode.valueOf o = v := congrArg Prod.snd same
  have plain : undashed "siblings" = "siblings" := by decide
  simp only [Request.configuredBound, Section.get, plain, Section.choice?, choices,
    List.find?_singleton, name, beq_self_eq_true, if_true, value]

end Bounds

section Results

variable {rs : Registries} {sources : Sources} {s : Scene}

theorem stepLoads {d : Deed} (loads : d.Loads) :
    s.deed rs d = ⟨s.sources, (s.store.load s.sources).1⟩ := by
  cases d with
  | edit a => rw [show a = .load from loads]; rfl
  | decode r => exact askLoads loads

theorem loadedBound {n : Nat} {r : Request} (consults : Consults r) (loaded : s.store.loaded = true)
    (bound : Request.configuredBound s.store = .int n) :
    s.ask rs r = (s, (s.ask rs { r with bound := some n }).2) ∧ ∃ d, (s.ask rs r).2 = .ok d := by
  have once := s.store.loadOnce s.sources loaded
  obtain ⟨same, fine⟩ := @askBound rs s r n consults (by rw [once]) (by rw [once]; exact bound)
  refine ⟨Prod.ext ?_ same, fine⟩
  rw [askLoads consults, once]

/-- A request that asks for its bound, or is refused for its length, leaves the configuration as it is;
the configuration is loaded exactly when something loaded it since the last fresh start. The first to
load it does so from what is then set, and fails exactly when that load does; from there to the next
fresh start, whatever is edited, each request that consults it is answered as under the number of
siblings that this load left in the configuration, which is the default if the load failed. -/
theorem decodingSnapshot {past : List Deed} {scene : Scene}
    (reached : scene = Scene.after rs ⟨sources, Store.fresh⟩ past) :
    (∀ r, ¬ Consults r → (scene.ask rs r).1 = scene) ∧
      (scene.store.loaded = true ↔ ∃ before d after,
        past = before ++ d :: after ∧ d.Loads ∧ .edit .reset ∉ after) ∧
      (scene.store.loaded = false → ∃ n : Nat,
        (Store.fresh.load scene.sources).1.decode.items = [("siblings", .int n)] ∧
        ((Store.fresh.load scene.sources).2 ≠ none → n = 3) ∧
        (∀ r, Consults r →
          (∀ e, (scene.ask rs r).2 = .error e ↔
            ∃ failure, (Store.fresh.load scene.sources).2 = some failure ∧ e = .load failure) ∧
          ((Store.fresh.load scene.sources).2 = none →
            (scene.ask rs r).2 = (scene.ask rs { r with bound := some n }).2)) ∧
        ∀ first, first.Loads →
          scene.deed rs first = ⟨scene.sources, (Store.fresh.load scene.sources).1⟩ ∧
          ∀ later there, .edit .reset ∉ later → there = (scene.deed rs first).after rs later →
            ∀ r, Consults r →
              there.ask rs r = (there, (there.ask rs { r with bound := some n }).2) ∧
              ∃ d, (there.ask rs r).2 = .ok d) := by
  have unread : Unread scene.store := reached ▸ afterUnread (fun _ => rfl) past
  refine ⟨fun r => askAlone, reached ▸ afterLoadedIff past, fun unloaded => ?_⟩
  have fresh : scene.store = Store.fresh := unread unloaded
  obtain ⟨n, items, default⟩ := loadBound scene.sources
  have bound := configuredItem items
  refine ⟨n, items, default, fun r consults => ?_, fun first loads => ?_⟩
  · rw [← fresh] at bound ⊢
    cases load : (scene.store.load scene.sources).2 with
    | some failure =>
      rw [askFails consults load]
      simp [eq_comm]
    | none =>
      obtain ⟨same, answer, fine⟩ := @askBound rs scene r n consults load bound
      rw [← same, fine]
      simp
  · rw [stepLoads loads, fresh]
    refine ⟨rfl, fun later there kept reached r consults => ?_⟩
    have loaded : (Store.fresh.load scene.sources).1.loaded = true := loadLoaded _ _
    have store : there.store = (Store.fresh.load scene.sources).1 := by
      rw [reached]
      exact afterLoaded loaded kept
    exact loadedBound consults (by rw [store, loaded]) (by rw [store, bound])

theorem decodingSnapshotBehindBadNumber :
    let r : Request := ⟨.top, [9, 0, 1, 0], 4, none⟩
    let name := "prefixsid.decode.siblings"
    let start : Scene := ⟨⟨[(name, "many")], none⟩, Store.fresh⟩
    let past : List Deed := [.decode { r with bound := some 0 }, .decode { r with declared := 5 }]
    let rewrite : List Deed := [.edit (.unsetVariable name),
      .edit (.writeFile (some "[prefixsid.decode]\nsiblings = 1\n"))]
    let bad := start.after Registries.standard past
    let behindBad := (bad.deed Registries.standard (.decode r)).after Registries.standard rewrite
    let good := start.after Registries.standard (past ++ .decode r :: rewrite ++ [.edit .reset])
    let behindGood := (good.deed Registries.standard (.decode r)).after Registries.standard
      [.edit (.setVariable name "7")]
    bad.store.loaded = false ∧
      (bad.ask Registries.standard r).2 = .error (.load (.value "decode" "siblings" "many")) ∧
      behindBad.ask Registries.standard r =
        (behindBad, (behindBad.ask Registries.standard { r with bound := some 3 }).2) ∧
      good.store.loaded = false ∧
      behindGood.ask Registries.standard r =
        (behindGood, (behindGood.ask Registries.standard { r with bound := some 1 }).2) := by
  intro r name start past rewrite bad behindBad good behindGood
  have consults : Consults r := ⟨rfl, r.data, rfl⟩
  have unloaded : bad.store.loaded = false := by decide +kernel
  have refused : (Store.fresh.load bad.sources).2 = some (.value "decode" "siblings" "many") := by
    decide +kernel
  obtain ⟨_, _, snapshot⟩ := @decodingSnapshot Registries.standard start.sources past bad rfl
  obtain ⟨n, _, default, answers, later⟩ := snapshot unloaded
  have three : n = 3 := default (by rw [refused]; exact Option.some_ne_none _)
  obtain ⟨old, _⟩ := (later (.decode r) consults).2 rewrite behindBad (by simp [rewrite]) rfl r
    consults
  rw [three] at old
  have renewed : good.store.loaded = false := by decide +kernel
  obtain ⟨_, _, snapshot⟩ := @decodingSnapshot Registries.standard start.sources _ good rfl
  obtain ⟨m, items, _, _, later⟩ := snapshot renewed
  have written : (Store.fresh.load good.sources).1.decode.items = [("siblings", .int 1)] := by
    decide +kernel
  have one : (m : Int) = 1 := by simpa [items] using written
  obtain ⟨new, _⟩ := (later (.decode r) consults).2 _ behindGood (by simp) rfl r consults
  rw [one] at new
  exact ⟨unloaded, ((answers r consults).1 _).mpr ⟨_, refused, rfl⟩, old, renewed, new⟩

end Results

end SidAttribute.Config
