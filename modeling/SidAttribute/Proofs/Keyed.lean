import Mathlib.Data.List.Forall2
import SidAttribute.Proofs.Visits

/-! Levels whose nodes all stand under keys. Such a level has one child for each element that was
decoded before the first malformed one, under the key of what is registered for its code. Nothing is
said of levels whose nodes are merged into the level itself. -/
namespace SidAttribute
open Wire SidAttribute.Tree

theorem Registry.kindMember {r : Registry} {code : Int} {kind : Kind}
    (known : r.kind? code = some kind) : (code, kind) ∈ r := by
  induction r with
  | nil => cases known
  | cons row rest ih =>
    obtain ⟨c, k⟩ := row
    unfold Registry.kind? at known
    split at known
    · next same =>
      cases known
      rw [same]
      exact List.mem_cons_self
    · exact List.mem_cons_of_mem _ (ih known)

def Registries.Keyed (rs : Registries) (scope : Scope) : Prop :=
  ∀ row ∈ rs.get scope, row.2.key.isSome

instance (rs scope) : Decidable (Registries.Keyed rs scope) := by
  unfold Registries.Keyed; infer_instance

theorem Registries.standardKeyed {scope : Scope} (outer : scope ≠ .sidInformation) :
    Registries.standard.Keyed scope := by
  cases scope with
  | sidInformation => exact absurd rfl outer
  | top => decide
  | l3Service => decide
  | l2Service => decide

theorem Registries.keyedKey {rs : Registries} {scope : Scope} {code : Int} {kind : Kind}
    (keyed : rs.Keyed scope) (known : rs.kind? scope code = some kind) :
    ∃ key, kind.key = some key :=
  Option.isSome_iff_exists.mp (keyed _ (Registry.kindMember known))

namespace Decode

def keyOf (rs : Registries) (scope : Scope) (e : Element) : Option String :=
  (rs.kind? scope e.code.toNat).bind Kind.key

def Refuses (rs : Registries) (bound : Int) (scope : Scope) (e : Element) : Prop :=
  ∃ kind s, rs.kind? scope e.code.toNat = some kind ∧ unpack (level rs bound) e kind = .error s

def Gives (rs : Registries) (bound : Int) (scope : Scope) (e : Element) (child : Value) : Prop :=
  ∃ kind d, rs.kind? scope e.code.toNat = some kind ∧ unpack (level rs bound) e kind = .ok d ∧
    child = .tree d.tree

def nodesOf (rs : Registries) (bound : Int) (scope : Scope) (es : List Element) : Nodes :=
  es.filterMap fun e => (find rs scope (level rs bound) e).node?

variable {rs : Registries} {bound : Int} {scope : Scope} {e : Element} {es : List Element}

theorem refusesMalformed (nested : Scope → Octets → Decoded) :
    Refuses rs bound scope e ↔ (find rs scope nested e).isMalformed = true := by
  rw [isMalformedSame rs scope nested (level rs bound)]
  constructor
  · rintro ⟨kind, s, known, short⟩
    rw [findMalformed known short]
    rfl
  · intro bad
    cases known : rs.kind? scope e.code.toNat with
    | none =>
      rw [findNone known] at bad
      cases bad
    | some kind =>
      cases read : unpack (level rs bound) e kind with
      | error s => exact ⟨kind, s, known, read⟩
      | ok d =>
        rw [findNode known read] at bad
        cases bad

instance : Decidable (Refuses rs bound scope e) :=
  decidable_of_iff _ (refusesMalformed silent).symm

theorem notRefused (nested : Scope → Octets → Decoded) :
    ¬ Refuses rs bound scope e ↔ (find rs scope nested e).isMalformed = false := by
  rw [refusesMalformed nested, Bool.not_eq_true]

theorem keyedFound (keyed : rs.Keyed scope) (good : ¬ Refuses rs bound scope e) :
    (keyOf rs scope e = none ∧ find rs scope (level rs bound) e = .unregistered) ∨
    ∃ key d, keyOf rs scope e = some key ∧ Gives rs bound scope e (.tree d.tree) ∧
      find rs scope (level rs bound) e = .node (some key) d := by
  cases known : rs.kind? scope e.code.toNat with
  | none =>
    left
    exact ⟨by rw [keyOf, known]; rfl, findNone known⟩
  | some kind =>
    right
    obtain ⟨key, named⟩ := Registries.keyedKey keyed known
    cases read : unpack (level rs bound) e kind with
    | error s => exact absurd ⟨kind, s, known, read⟩ good
    | ok d =>
      refine ⟨key, d, ?_, ⟨kind, d, known, read, rfl⟩, ?_⟩
      · rw [keyOf, known]
        exact named
      · rw [findNode known read, named]

theorem nodesNone (unknown : find rs scope (level rs bound) e = .unregistered) :
    nodesOf rs bound scope (e :: es) = nodesOf rs bound scope es := by
  simp [nodesOf, unknown, Finding.node?]

theorem nodesSome {key : String} {d : Decoded}
    (found : find rs scope (level rs bound) e = .node (some key) d) :
    nodesOf rs bound scope (e :: es) = (key, .tree d.tree) :: nodesOf rs bound scope es := by
  simp [nodesOf, found, Finding.node?]

section Elements

variable (keyed : rs.Keyed scope) (good : ∀ e ∈ es, ¬ Refuses rs bound scope e)
include keyed good

theorem attachedAll (t : Tree) :
    es.foldl (fun t e => (find rs scope (level rs bound) e).attachTo t) t =
      t.addAll (nodesOf rs bound scope es) := by
  apply attachedNodes
  intro e member
  rcases keyedFound keyed (good e member) with ⟨_, found⟩ | ⟨key, d, _, _, found⟩
  · rw [found]
    trivial
  · rw [found]
    trivial

theorem givenUnder (key : String) :
    List.Forall₂ (Gives rs bound scope) (es.filter fun e => keyOf rs scope e = some key)
      (under (nodesOf rs bound scope es) key) := by
  induction es with
  | nil => exact .nil
  | cons e rest ih =>
    have later := ih fun f member => good f (List.mem_cons_of_mem e member)
    rcases keyedFound keyed (good e List.mem_cons_self) with
      ⟨unnamed, found⟩ | ⟨own, d, named, gives, found⟩
    · rw [nodesNone found, List.filter_cons_of_neg (by simp [unnamed])]
      exact later
    · rw [nodesSome found, underCons]
      by_cases same : own = key
      · rw [List.filter_cons_of_pos (by simp [named, same]), if_pos same]
        exact .cons gives later
      · rw [List.filter_cons_of_neg (by simp [named, same]), if_neg same]
        exact later

theorem keysGiven : (nodesOf rs bound scope es).map Prod.fst = es.filterMap (keyOf rs scope) := by
  induction es with
  | nil => rfl
  | cons e rest ih =>
    have later := ih fun f member => good f (List.mem_cons_of_mem e member)
    rcases keyedFound keyed (good e List.mem_cons_self) with
      ⟨unnamed, found⟩ | ⟨own, d, named, _, found⟩
    · rw [nodesNone found, List.filterMap_cons_none unnamed, later]
    · rw [nodesSome found, List.filterMap_cons_some named, List.map_cons, later]

end Elements

theorem acceptedGood (rs : Registries) (bound : Int) (v : Visit) :
    ∀ e ∈ accepted rs bound v, ¬ Refuses rs bound v.scope e := by
  intro e member
  rw [notRefused silent]
  exact passedGood member

theorem acceptedSplit (rs : Registries) (bound : Int) (v : Visit) :
    ∃ after, (walk bound v.data).elements = accepted rs bound v ++ after ∧
      ∀ e ∈ after.head?, Refuses rs bound v.scope e := by
  refine ⟨(walk bound v.data).elements.dropWhile _, List.takeWhile_append_dropWhile.symm, ?_⟩
  intro e first
  have bad := List.head?_dropWhile_not
    (fun e => !(find rs v.scope silent e).isMalformed) (walk bound v.data).elements
  rw [Option.mem_def.mp first] at bad
  rw [refusesMalformed silent]
  simpa using bad

theorem levelNodes (keyed : rs.Keyed scope) (bound : Int) (data : Octets) :
    (level rs bound scope data).tree =
      grouped (nodesOf rs bound scope (accepted rs bound ⟨scope, data⟩)) := by
  have whole := attachedAll keyed (acceptedGood rs bound ⟨scope, data⟩) []
  rw [levelTree rs bound ⟨scope, data⟩]
  exact whole.trans (addAllGrouped _ (nodesPlain _ _))

theorem levelKeys (keyed : rs.Keyed scope) (bound : Int) (data : Octets) :
    (level rs bound scope data).tree.keys =
      ((accepted rs bound ⟨scope, data⟩).filterMap (keyOf rs scope)).eraseDups := by
  rw [levelNodes keyed, keysGrouped, keysGiven keyed (acceptedGood rs bound ⟨scope, data⟩)]

theorem levelChildren (keyed : rs.Keyed scope) (bound : Int) (data : Octets) (key : String) :
    (level rs bound scope data).tree.children key =
      under (nodesOf rs bound scope (accepted rs bound ⟨scope, data⟩)) key := by
  rw [levelNodes keyed]
  exact childrenGrouped (nodesPlain _ _) key

theorem levelKeepsAll (keyed : rs.Keyed scope) (n : Nat) (data : Octets) :
    ∃ d before after, decode rs scope data data.length n = .ok d ∧
      (walk n data).elements = before ++ after ∧
      (∀ e ∈ before, ¬ Refuses rs n scope e) ∧ (∀ e ∈ after.head?, Refuses rs n scope e) ∧
      (∀ key, List.Forall₂ (Gives rs n scope)
        (before.filter fun e => keyOf rs scope e = some key) (d.tree.children key)) ∧
      d.tree.keys = (before.filterMap (keyOf rs scope)).eraseDups ∧
      ∀ key ∈ d.tree.keys, d.tree.get? key = some (stored (d.tree.children key)) := by
  obtain ⟨after, elements, refused⟩ := acceptedSplit rs n ⟨scope, data⟩
  have good := acceptedGood rs n ⟨scope, data⟩
  refine ⟨level rs n scope data, accepted rs n ⟨scope, data⟩, after, decodeWhole _ _ _ _, elements,
    good, refused, ?_, levelKeys keyed n data, ?_⟩
  · intro key
    rw [levelChildren keyed]
    exact givenUnder keyed good key
  · intro key member
    rw [levelNodes keyed, keysGrouped, List.mem_eraseDups] at member
    rw [levelChildren keyed, levelNodes keyed, getGrouped, if_pos member]

def sharedKey : Registries :=
  Registries.standard.registerAll [⟨.top, .labelIndex, some 7⟩, ⟨.l3Service, .l2Service, none⟩]

def sharedElements : List Element :=
  [⟨1, 0, [0, 1, 0, 0, 0, 2]⟩, ⟨99, 0, [5]⟩, ⟨6, 0, []⟩, ⟨7, 9, [0, 3, 0, 0, 0, 4, 8]⟩,
    ⟨1, 0, [0, 1, 0]⟩, ⟨1, 0, [0, 5, 0, 0, 0, 6]⟩]

theorem levelKeepsShared :
    sharedKey.Keyed .top ∧
    ∃ d before after,
      decode sharedKey .top (encodeAll sharedElements) (encodeAll sharedElements).length 9 = .ok d ∧
      (walk (9 : Nat) (encodeAll sharedElements)).elements = before ++ after ∧
      (∀ e ∈ before, ¬ Refuses sharedKey (9 : Nat) .top e) ∧
      (∀ e ∈ after.head?, Refuses sharedKey (9 : Nat) .top e) ∧
      (∀ key, List.Forall₂ (Gives sharedKey (9 : Nat) .top)
        (before.filter fun e => keyOf sharedKey .top e = some key) (d.tree.children key)) ∧
      d.tree.keys = (before.filterMap (keyOf sharedKey .top)).eraseDups ∧
      ∀ key ∈ d.tree.keys, d.tree.get? key = some (stored (d.tree.children key)) := by
  have keyed : sharedKey.Keyed .top := by decide
  exact ⟨keyed, levelKeepsAll keyed 9 (encodeAll sharedElements)⟩

end Decode
end SidAttribute
