import SidAttribute.Proofs.Payload
import SidAttribute.Proofs.Tree.Grouped

/-! One level as two folds over its elements: what the elements before the first malformed one leave
in the tree, and what they tell before the level says how it ends. -/
namespace SidAttribute
open Wire

namespace Finding

def isMalformed : Finding → Bool
  | .malformed _ => true
  | _ => false

def attachTo (t : Tree) : Finding → Tree
  | .node key d => Decode.attach t key d.tree
  | _ => t

def told (level : String) (e : Element) : Finding → List Notice
  | .unregistered => [.element level e, .unregistered level e.code]
  | .malformed short => [.element level e, .malformed level e.code short]
  | .node _ d => .element level e :: d.notices

def node? : Finding → Option (String × Value)
  | .node (some key) d => some (key, .tree d.tree)
  | _ => none

def Keyed : Finding → Prop
  | .malformed _ => False
  | .node none _ => False
  | _ => True

end Finding

namespace Decode

def passed (finding : Element → Finding) (es : List Element) : List Element :=
  es.takeWhile fun e => !(finding e).isMalformed

def refused (finding : Element → Finding) (es : List Element) : Option Element :=
  es.find? fun e => (finding e).isMalformed

def ending (level : String) (bound : Int) (stop : Stop) (finding : Element → Finding)
    (es : List Element) : List Notice :=
  match refused finding es with
  | some e => (finding e).told level e
  | none => stop.notice level bound

theorem refusedMalformed {finding : Element → Finding} {es : List Element} {e : Element}
    (bad : refused finding es = some e) : ∃ s, finding e = .malformed s := by
  have malformed : (finding e).isMalformed = true :=
    List.find?_some (p := fun e => (finding e).isMalformed) bad
  cases found : finding e with
  | malformed s => exact ⟨s, rfl⟩
  | unregistered => rw [found] at malformed; cases malformed
  | node key d => rw [found] at malformed; cases malformed

theorem endingRefused {finding : Element → Finding} {es : List Element} {e : Element} {s : Shortfall}
    (level : String) (bound : Int) (stop : Stop) (bad : refused finding es = some e)
    (found : finding e = .malformed s) :
    ending level bound stop finding es = [.element level e, .malformed level e.code s] := by
  rw [ending, bad]
  dsimp only
  rw [found]
  rfl

theorem endingThrough {finding : Element → Finding} {es : List Element} (level : String)
    (bound : Int) (stop : Stop) (good : refused finding es = none) :
    ending level bound stop finding es = stop.notice level bound := by
  rw [ending, good]

theorem collectTree (level : String) (bound : Int) (stop : Stop) (finding : Element → Finding)
    (es : List Element) (t : Tree) :
    (collect level bound stop finding es t).tree =
      (passed finding es).foldl (fun t e => (finding e).attachTo t) t := by
  induction es generalizing t with
  | nil => rfl
  | cons e rest ih =>
    cases found : finding e with
    | unregistered =>
      simp only [collect, found, Decoded.after, ih, passed, List.takeWhile, Finding.isMalformed,
        Bool.not_false, List.foldl_cons, Finding.attachTo]
    | malformed short => simp [collect, found, passed, Finding.isMalformed]
    | node key d =>
      simp only [collect, found, Decoded.after, ih, passed, List.takeWhile, Finding.isMalformed,
        Bool.not_false, List.foldl_cons, Finding.attachTo]

theorem collectNotices (level : String) (bound : Int) (stop : Stop) (finding : Element → Finding)
    (es : List Element) (t : Tree) :
    (collect level bound stop finding es t).notices =
      (passed finding es).flatMap (fun e => (finding e).told level e) ++
        ending level bound stop finding es := by
  induction es generalizing t with
  | nil => rfl
  | cons e rest ih =>
    cases found : finding e with
    | unregistered =>
      simp [collect, found, Decoded.after, ih, passed, ending, refused, Finding.isMalformed,
        Finding.told]
    | malformed short =>
      simp [collect, found, passed, ending, refused, Finding.isMalformed, Finding.told]
    | node key d =>
      simp [collect, found, Decoded.after, ih, passed, ending, refused, Finding.isMalformed,
        Finding.told]

theorem passedAll {finding : Element → Finding} {es : List Element}
    (good : ∀ e ∈ es, (finding e).isMalformed = false) : passed finding es = es := by
  induction es with
  | nil => rfl
  | cons e rest ih =>
    have later := ih fun f member => good f (List.mem_cons_of_mem e member)
    simp only [passed, List.takeWhile, good e List.mem_cons_self, Bool.not_false]
    exact congrArg (e :: ·) later

theorem attachedNodes {finding : Element → Finding} {es : List Element}
    (keyed : ∀ e ∈ es, (finding e).Keyed) (t : Tree) :
    es.foldl (fun t e => (finding e).attachTo t) t =
      t.addAll (es.filterMap fun e => (finding e).node?) := by
  induction es generalizing t with
  | nil => rfl
  | cons e rest ih =>
    have own := keyed e List.mem_cons_self
    have later := ih fun f member => keyed f (List.mem_cons_of_mem e member)
    cases found : finding e with
    | unregistered =>
      rw [List.foldl_cons, List.filterMap_cons_none (by rw [found]; rfl), found]
      exact later t
    | malformed s =>
      rw [found] at own
      exact own.elim
    | node key d =>
      cases key with
      | none =>
        rw [found] at own
        exact own.elim
      | some key =>
        rw [List.foldl_cons, List.filterMap_cons_some (by rw [found]; rfl), found]
        exact later (t.addChild key (.tree d.tree))

theorem nodesPlain (finding : Element → Finding) (es : List Element) :
    ∀ node ∈ es.filterMap fun e => (finding e).node?, ¬ node.2.IsList := by
  intro node member
  obtain ⟨e, _, same⟩ := List.mem_filterMap.mp member
  unfold Finding.node? at same
  split at same
  · cases same
    rintro ⟨items, list⟩
    cases list
  · cases same

theorem codeIs (wanted code : UInt8) : (wanted.toNat : Int) = code.toNat ↔ code = wanted := by
  rw [Int.natCast_inj, UInt8.toNat_inj, eq_comm]

theorem standardTop (code : UInt8) :
    Registries.standard.kind? .top code.toNat =
      if code = 1 then some .labelIndex else if code = 3 then some .originatorSrgb
      else if code = 5 then some .l3Service else if code = 6 then some .l2Service else none := by
  have one : (1 : Int) = code.toNat ↔ code = 1 := codeIs 1 code
  have three : (3 : Int) = code.toNat ↔ code = 3 := codeIs 3 code
  have five : (5 : Int) = code.toNat ↔ code = 5 := codeIs 5 code
  have six : (6 : Int) = code.toNat ↔ code = 6 := codeIs 6 code
  simp only [Registries.kind?, Registries.get, Registries.standard, Registry.kind?, one, three,
    five, six]

theorem standardL3Service (code : UInt8) :
    Registries.standard.kind? .l3Service code.toNat =
      if code = 1 then some .sidInformation else none := by
  have one : (1 : Int) = code.toNat ↔ code = 1 := codeIs 1 code
  simp only [Registries.kind?, Registries.get, Registries.standard, Registry.kind?, one]

theorem standardL2Service (code : UInt8) :
    Registries.standard.kind? .l2Service code.toNat =
      if code = 1 then some .sidInformation else none := standardL3Service code

theorem standardSidInformation (code : UInt8) :
    Registries.standard.kind? .sidInformation code.toNat =
      if code = 1 then some .sidStructure else none := by
  have one : (1 : Int) = code.toNat ↔ code = 1 := codeIs 1 code
  simp only [Registries.kind?, Registries.get, Registries.standard, Registry.kind?, one]

section Finding

variable {rs : Registries} {scope : Scope} {nested : Scope → Octets → Decoded} {e : Element}

theorem findNone (unknown : rs.kind? scope e.code.toNat = none) :
    find rs scope nested e = .unregistered := by
  simp [find, unknown]

theorem findNode {kind : Kind} {d : Decoded} (known : rs.kind? scope e.code.toNat = some kind)
    (read : unpack nested e kind = .ok d) : find rs scope nested e = .node kind.key d := by
  simp [find, known, read]

theorem findMalformed {kind : Kind} {s : Shortfall}
    (known : rs.kind? scope e.code.toNat = some kind) (short : unpack nested e kind = .error s) :
    find rs scope nested e = .malformed s := by
  simp [find, known, short]

end Finding

theorem decodeOutcome (rs : Registries) (scope : Scope) (data : Octets) (declared bound : Int) :
    decode rs scope data declared bound =
      if declared < 0 ∨ (data.length : Int) < declared then
        .error (.declaredLength declared data.length)
      else if bound < 0 then .error (.negativeBound bound)
      else .ok (level rs bound scope (data.take declared.toNat)) := by
  unfold decode window checkBound
  by_cases length : declared < 0 ∨ (data.length : Int) < declared
  · rw [if_pos length, if_pos length]
    rfl
  · rw [if_neg length, if_neg length]
    by_cases negative : bound < 0
    · simp only [if_pos negative, bind, Except.bind]
    · simp only [if_neg negative, bind, Except.bind]

theorem decodeRefused (rs : Registries) (scope : Scope) (data : Octets) (declared bound : Int) :
    (∃ e, decode rs scope data declared bound = .error e) ↔
      declared < 0 ∨ (data.length : Int) < declared ∨ bound < 0 := by
  rw [decodeOutcome]
  by_cases length : declared < 0 ∨ (data.length : Int) < declared
  · rw [if_pos length]
    constructor
    · intro _
      rw [← or_assoc]
      exact .inl length
    · intro _
      exact ⟨_, rfl⟩
  · rw [if_neg length]
    by_cases negative : bound < 0
    · rw [if_pos negative]
      exact ⟨fun _ => .inr (.inr negative), fun _ => ⟨_, rfl⟩⟩
    · rw [if_neg negative]
      constructor
      · rintro ⟨e, failed⟩
        cases failed
      · intro bad
        omega

theorem refusedReason {rs : Registries} {scope : Scope} {data : Octets} {declared bound : Int}
    {e : DecodeError} (failed : decode rs scope data declared bound = .error e) :
    e = if declared < 0 ∨ (data.length : Int) < declared
      then .declaredLength declared data.length else .negativeBound bound := by
  rw [decodeOutcome] at failed
  split at failed
  · next length =>
    cases failed
    rw [if_pos length]
  · next length =>
    rw [if_neg length]
    split at failed
    · cases failed
      rfl
    · cases failed

theorem decodeDeclared (rs : Registries) (scope : Scope) {data : Octets} {declared : Nat}
    (inside : declared ≤ data.length) (n : Nat) :
    decode rs scope data declared n = .ok (level rs n scope (data.take declared)) := by
  rw [decodeOutcome, if_neg (by omega), if_neg (by omega), Int.toNat_natCast]

theorem decodeWhole (rs : Registries) (scope : Scope) (data : Octets) (n : Nat) :
    decode rs scope data data.length n = .ok (level rs n scope data) := by
  rw [decodeDeclared rs scope (Nat.le_refl _), List.take_length]

end Decode
end SidAttribute
