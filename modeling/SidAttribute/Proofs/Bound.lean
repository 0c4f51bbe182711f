import SidAttribute.Log.Report
import SidAttribute.Proofs.OneLine
import SidAttribute.Proofs.Visits
import SidAttribute.Request

/-! The bound on the elements of a level against a larger one. A level at which the bound was not
exceeded is walked the same under any larger bound; one at which a malformed element came first does
not get to where the walks differ. So unless the log says of some level that it had too many
elements, a larger bound changes neither the tree nor the log. -/
namespace SidAttribute
open Wire Text Log

namespace Wire

variable {n m : Nat} {data : Octets}

theorem walkWider (le : n ≤ m) (data : Octets) :
    (walk n data).elements <+: (walk m data).elements := by
  obtain ⟨rest, octets, fits, few, _⟩ := walkAdmissible n data
  have front := frontIsWalked m _ rest fits (by omega)
  rwa [← octets] at front

theorem walkSettled (le : n ≤ m) (short : (walk n data).stop ≠ .tooMany) :
    walk m data = walk n data := by
  induction n generalizing m data with
  | zero =>
    cases head : scanHead data with
    | stop reason => rw [walkStop head, walkStop head]
    | element e rest =>
      rw [walkLast head] at short
      exact absurd rfl short
  | succ n ih =>
    cases head : scanHead data with
    | stop reason => rw [walkStop head, walkStop head]
    | element e rest =>
      obtain ⟨k, rfl⟩ : ∃ k, m = k + 1 := ⟨m - 1, by omega⟩
      rw [walkNext head] at short
      rw [walkNext head, walkNext head, ih (by omega) short]

theorem stopNotice {stop : Stop} (other : stop ≠ .tooMany) (level : String) (a b : Int) :
    stop.notice level a = stop.notice level b := by
  cases stop with
  | tooMany => exact absurd rfl other
  | exhausted => rfl
  | truncatedHeader left => rfl
  | zeroLength code => rfl
  | overrun code length left => rfl

end Wire

namespace Decode

def Quiet (ns : List Notice) : Prop := ∀ m ∈ ns, m.isTooMany = false

theorem quietInfos {ns : List Notice} : Quiet ns ↔ Quiet (infos ns) := by
  constructor
  · intro quiet m member
    exact quiet m (List.mem_filter.mp member).1
  · intro quiet m member
    cases m with
    | tooMany level bound => exact quiet _ (List.mem_filter.mpr ⟨member, rfl⟩)
    | _ => rfl

theorem quietAppend {ms ns : List Notice} : Quiet (ms ++ ns) ↔ Quiet ms ∧ Quiet ns := by
  simp only [Quiet, List.mem_append, or_imp, forall_and]

variable {rs : Registries} {n m : Nat} {scope : Scope} {e : Element}

section Finding

variable {one two : Scope → Octets → Decoded}

theorem unpackOpened {kind : Kind}
    (same : ∀ inner, opens e kind = some inner →
      one inner.scope inner.data = two inner.scope inner.data) :
    unpack one e kind = unpack two e kind := by
  cases kind with
  | labelIndex => rfl
  | originatorSrgb => rfl
  | l3Service => exact congrArg Except.ok (same ⟨.l3Service, e.payload⟩ rfl)
  | l2Service => exact congrArg Except.ok (same ⟨.l2Service, e.payload⟩ rfl)
  | sidInformation =>
    by_cases enough : 20 ≤ e.payload.length
    · have inner := same ⟨.sidInformation, e.payload.drop 20⟩ (if_pos enough)
      rw [unpack, unpack, sidFieldsRead enough]
      simp only [Except.map, inner]
    · obtain ⟨s, short⟩ := sidFieldsShort (Nat.lt_of_not_le enough)
      rw [unpack, unpack, short]
      rfl
  | sidStructure => rfl

theorem findOpened
    (same : ∀ inner, opened rs scope e = some inner →
      one inner.scope inner.data = two inner.scope inner.data) :
    find rs scope one e = find rs scope two e := by
  unfold find
  cases known : rs.kind? scope e.code.toNat with
  | none => rfl
  | some kind =>
    have opensSame : unpack one e kind = unpack two e kind := unpackOpened fun inner inside =>
      same inner (by rw [opened, known]; exact inside)
    simp only [opensSame]

end Finding

theorem ownSettled {v : Visit} (le : n ≤ m) (quiet : Quiet (infos (ownNotices rs n v))) :
    accepted rs m v = accepted rs n v ∧
    ending v.scope.levelName m (walk m v.data).stop (find rs v.scope silent) (walk m v.data).elements =
      ending v.scope.levelName n (walk n v.data).stop (find rs v.scope silent)
        (walk n v.data).elements := by
  rw [ownInfos, ← quietInfos] at quiet
  cases bad : refused (find rs v.scope silent) (walk n v.data).elements with
  | some e =>
    obtain ⟨s, found⟩ := refusedMalformed bad
    obtain ⟨added, wider⟩ := walkWider le v.data
    have stopped : ¬ ∀ f ∈ (walk n v.data).elements,
        (find rs v.scope silent f).isMalformed = false := by
      intro good
      have fine := good e (List.mem_of_find?_eq_some bad)
      rw [found] at fine
      cases fine
    have badWider : refused (find rs v.scope silent) (walk m v.data).elements = some e := by
      rw [← wider, refused, List.find?_append, ← refused, bad]
      rfl
    rw [endingRefused _ _ _ bad found, endingRefused _ _ _ badWider found, accepted, accepted,
      ← wider, passedStopped stopped]
    exact ⟨rfl, rfl⟩
  | none =>
    rw [endingThrough _ _ _ bad] at quiet
    have other : (walk n v.data).stop ≠ .tooMany := by
      intro many
      rw [many] at quiet
      exact absurd (quiet _ List.mem_cons_self) (by simp [Notice.isTooMany])
    have same := walkSettled le other
    rw [accepted, accepted, same, endingThrough _ _ _ bad, endingThrough _ _ _ bad]
    exact ⟨rfl, stopNotice other _ _ _⟩

theorem levelSettled (le : n ≤ m) (v : Visit) (quiet : Quiet (level rs n v.scope v.data).notices) :
    level rs m v.scope v.data = level rs n v.scope v.data := by
  induction size : v.data.length using Nat.strongRecOn generalizing v with
  | ind size ih =>
    rw [quietInfos, levelInfos, quietAppend] at quiet
    obtain ⟨inside, own⟩ := quiet
    obtain ⟨accepts, ends⟩ := ownSettled le own
    have each : ∀ e ∈ accepted rs n v,
        find rs v.scope (level rs m) e = find rs v.scope (level rs n) e := by
      intro e member
      apply findOpened
      intro inner opens
      have shorter := acceptedPayload member
      have less := openedShrinks opens
      apply ih inner.data.length (by omega) inner _ rfl
      rw [quietInfos]
      intro notice told
      exact inside notice (List.mem_flatMap.mpr ⟨e, member, by rw [opens]; exact told⟩)
    have tree : (level rs m v.scope v.data).tree = (level rs n v.scope v.data).tree := by
      rw [levelTree, levelTree, accepts]
      exact List.foldl_ext _ _ _ fun t e member => by rw [each e member]
    have notices : (level rs m v.scope v.data).notices = (level rs n v.scope v.data).notices := by
      rw [levelNotices, levelNotices, accepts, ends]
      congr 1
      exact List.flatMap_congr fun e member => by rw [each e member]
    calc level rs m v.scope v.data
        = ⟨(level rs m v.scope v.data).tree, (level rs m v.scope v.data).notices⟩ := rfl
      _ = level rs n v.scope v.data := by rw [tree, notices]

end Decode

namespace Log

def debugLines (stamp : Stamp) (ns : List Notice) : List Report :=
  (Gate.ofLevel "DEBUG").1.reports stamp ns

def tooManyMark : String := padRight 15 parserSource ++ " " ++ "too many "

def TellsTooMany (r : Report) : Prop := tooManyMark.toList <+: r.line.toList

instance (r : Report) : Decidable (TellsTooMany r) := inferInstanceAs (Decidable (_ <+: _))

theorem tooManyLine (stamp : Stamp) (level : String) (bound : Value) :
    ∃ r ∈ (Gate.ofLevel "DEBUG").1.report stamp (.tooMany level bound), TellsTooMany r := by
  let rest := level ++ ("s (more than " ++ (bound.shown ++ "), stopping"))
  have text : (Notice.tooMany level bound).text.toList = "too many ".toList ++ rest.toList := by
    simp only [Notice.text, rest, String.toList_append, List.append_assoc]
  obtain ⟨p, ps, behind⟩ : ∃ p ps, pieces '\n' rest.toList = p :: ps :=
    List.exists_cons_of_ne_nil (piecesNotEmpty _ _)
  have first : String.ofList ("too many ".toList ++ p) ∈
      messageLines (Notice.tooMany level bound).text := by
    rw [messageLines, text, piecesFront (by decide) behind]
    exact List.mem_cons_self
  have method : (Notice.tooMany level bound).method = .info := rfl
  let told : Report :=
    ⟨.info, Form.short.line stamp parserSource "INFO" (String.ofList ("too many ".toList ++ p))⟩
  have reported : told ∈ (Gate.ofLevel "DEBUG").1.report stamp (.tooMany level bound) := by
    rw [Gate.report, method, if_pos (by decide)]
    exact List.mem_map.mpr ⟨_, first, rfl⟩
  have marked : told.line.toList = tooManyMark.toList ++ p := by
    simp only [told, Form.line, tooManyMark, String.toList_append, String.toList_ofList,
      List.append_assoc]
  exact ⟨told, reported, p, marked.symm⟩

theorem tooManyTold (stamp : Stamp) {ns : List Notice} {notice : Notice} (member : notice ∈ ns)
    (many : notice.isTooMany = true) : ∃ r ∈ debugLines stamp ns, TellsTooMany r := by
  cases notice with
  | tooMany level bound =>
    obtain ⟨r, line, tells⟩ := tooManyLine stamp level bound
    exact ⟨r, List.mem_flatMap.mpr ⟨_, member, line⟩, tells⟩
  | _ => cases many

end Log

namespace Decode

theorem boundNeverSilent (rs : Registries) (scope : Scope) (data : Octets) (n : Nat)
    (stamp : Stamp) :
    ∃ d, decode rs scope data data.length n = .ok d ∧
      ((∀ r ∈ debugLines stamp d.notices, ¬ TellsTooMany r) →
        ∀ m : Nat, n ≤ m → decode rs scope data data.length m = .ok d) := by
  refine ⟨level rs n scope data, decodeWhole _ _ _ _, ?_⟩
  intro silence m le
  have quiet : Quiet (level rs n scope data).notices := by
    intro notice member
    by_contra many
    obtain ⟨r, line, tells⟩ := tooManyTold stamp member (by simpa using many)
    exact silence r line tells
  rw [decodeWhole, levelSettled le ⟨scope, data⟩ quiet]

def lastMalformed : Octets := encodeAll [⟨1, 0, [0, 1, 0, 0, 0, 2]⟩, ⟨1, 0, [0, 1]⟩, ⟨99, 0, []⟩]

theorem boundSilentMalformed :
    ∃ d, decode Registries.standard .top lastMalformed lastMalformed.length (1 : Nat) = .ok d ∧
      (∀ r ∈ debugLines ⟨"03:04:05", "4242", []⟩ d.notices, ¬ TellsTooMany r) ∧
      ∀ m : Nat, 1 ≤ m →
        decode Registries.standard .top lastMalformed lastMalformed.length m = .ok d := by
  obtain ⟨d, decoded, settled⟩ :=
    boundNeverSilent Registries.standard .top lastMalformed 1 ⟨"03:04:05", "4242", []⟩
  have silence : ∀ r ∈ debugLines ⟨"03:04:05", "4242", []⟩ d.notices, ¬ TellsTooMany r := by
    have same := Except.ok.inj (decoded.symm.trans (decodeWhole _ _ _ _))
    subst same
    decide +kernel
  exact ⟨d, decoded, silence, settled silence⟩

end Decode
end SidAttribute
