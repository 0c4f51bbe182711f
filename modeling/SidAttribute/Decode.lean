import SidAttribute.Notice
import SidAttribute.Registry
import SidAttribute.Sid.Address
import SidAttribute.Sid.Behavior
import SidAttribute.Tree.Basic
import SidAttribute.Wire.Input
import SidAttribute.Wire.Walk

/-! Decoding of the attribute, level by level. A kind's decoder sees one element and may hand parts
of its payload to a nested level; a shortfall inside a decoder ends the level that met the element
and nothing more, so what was decoded before it stays. No content makes decoding fail. -/
namespace SidAttribute
open Wire

structure Decoded where
  tree : Tree
  notices : List Notice
  deriving Repr

def Decoded.empty : Decoded := ⟨[], []⟩

def Decoded.after (before : List Notice) (d : Decoded) : Decoded := ⟨d.tree, before ++ d.notices⟩

inductive Finding where
  | unregistered
  | malformed (short : Shortfall)
  | node (key : Option String) (decoded : Decoded)
  deriving Repr

namespace Decode

def labelIndex (e : Element) : Except Shortfall Tree := do
  let (flags, i) ← (Input.ofOctets e.payload).number 2
  let (index, _) ← i.number 4
  .ok [("flags", .int flags), ("label_index", .int index)]

def labelRanges (i : Input) : Except Shortfall (List (Nat × Nat)) :=
  if i.rest.isEmpty then .ok []
  else match _base : i.number 3 with
    | .error s => .error s
    | .ok (base, j) =>
      match _range : j.number 3 with
      | .error s => .error s
      | .ok (range, k) => (labelRanges k).map ((base, range) :: ·)
termination_by i.rest.length
decreasing_by
  have := Input.numberShrinks _base
  have := Input.numberShrinks _range
  omega

def labelRange (r : Nat × Nat) : Value := .tree [("base", .int r.1), ("range", .int r.2)]

/-- This kind has no reserved octet: its flags start where others have theirs. -/
def originatorSrgb (e : Element) : Except Shortfall Tree := do
  let (low, i) ← (Input.ofOctets e.payload).number 1
  let ranges ← labelRanges i
  let flags : Tree := [("flags", .int (e.reserved.toNat * 256 + low))]
  .ok (ranges.foldl (fun t r => t.addChild "srgb" (labelRange r)) flags)

structure SidFields where
  sid : Octets
  flags : Nat
  behavior : Nat
  deriving DecidableEq, Repr

def sidFields (payload : Octets) : Except Shortfall (SidFields × Octets) := do
  let (sid, i) ← (Input.ofOctets payload).take 16
  let (flags, i) ← i.number 1
  let (behavior, i) ← i.number 2
  let (_, i) ← i.take 1
  .ok (⟨sid, flags, behavior⟩, i.rest)

def SidFields.tree (f : SidFields) : Tree :=
  [("sid_value", .text (Sid.addressText f.sid)), ("service_sid_flags", .int f.flags),
    ("endpoint_behavior_codepoint", .int f.behavior),
    ("endpoint_behavior", .text (Sid.behaviorName f.behavior))]

def SidFields.notice (f : SidFields) : Notice :=
  .sid (Sid.addressText f.sid) f.flags f.behavior (Sid.behaviorName f.behavior)

def SidFields.withStructure (f : SidFields) (nested : Decoded) : Decoded :=
  ⟨if nested.tree.isEmpty then f.tree else f.tree.addChild "sid_structure" (.tree nested.tree),
    f.notice :: nested.notices⟩

def structureKeys : List String :=
  ["locator_block_length", "locator_node_length", "function_length", "argument_length",
    "transposition_length", "transposition_offset"]

/-- With Length 6 the reserved octet is the first field; otherwise the payload starts with it. -/
def structureOctets (e : Element) : Except Shortfall Octets :=
  if e.length = 6 then .ok (e.reserved :: e.payload)
  else ((Input.ofOctets e.payload).take 6).map Prod.fst

def sidStructure (e : Element) : Except Shortfall Tree :=
  (structureOctets e).map fun octets =>
    (structureKeys.zip octets).map fun (key, b) => (key, .int b.toNat)

def unpack (nested : Scope → Octets → Decoded) (e : Element) : Kind → Except Shortfall Decoded
  | .labelIndex => (labelIndex e).map (⟨·, []⟩)
  | .originatorSrgb => (originatorSrgb e).map (⟨·, []⟩)
  | .l3Service => .ok (nested .l3Service e.payload)
  | .l2Service => .ok (nested .l2Service e.payload)
  | .sidInformation =>
    (sidFields e.payload).map fun (fields, rest) =>
      fields.withStructure (nested .sidInformation rest)
  | .sidStructure => (sidStructure e).map (⟨·, []⟩)

def find (rs : Registries) (scope : Scope) (nested : Scope → Octets → Decoded) (e : Element) :
    Finding :=
  match rs.kind? scope e.code.toNat with
  | none => .unregistered
  | some kind =>
    match unpack nested e kind with
    | .error short => .malformed short
    | .ok decoded => .node kind.key decoded

def attach (t : Tree) (key : Option String) (node : Tree) : Tree :=
  match key with
  | none => t.merge node
  | some k => t.addChild k (.tree node)

/-- Takes the elements of a level in order until one is malformed; only a level that got through all
of them tells how its walk ended. -/
def collect (level : String) (bound : Int) (stop : Stop) (finding : Element → Finding) :
    List Element → Tree → Decoded
  | [], t => ⟨t, stop.notice level bound⟩
  | e :: rest, t =>
    match finding e with
    | .unregistered =>
      (collect level bound stop finding rest t).after
        [.element level e, .unregistered level e.code]
    | .malformed short => ⟨t, [.element level e, .malformed level e.code short]⟩
    | .node key decoded =>
      (collect level bound stop finding rest (attach t key decoded.tree)).after
        (.element level e :: decoded.notices)

/-- One level and all levels inside it. A nested level is shorter than the one around it; the test
says so to the termination check and always holds. -/
def level (rs : Registries) (bound : Int) (scope : Scope) (data : Octets) : Decoded :=
  let nested := fun s d =>
    if d.length < data.length then level rs bound s d else Decoded.empty
  let w := walk bound data
  collect scope.levelName bound w.stop (find rs scope nested) w.elements []
termination_by data.length

theorem sidFieldsShrinks {payload fields rest} (ok : sidFields payload = .ok (fields, rest)) :
    rest.length + 20 = payload.length := by
  unfold sidFields at ok
  cases h₁ : (Input.ofOctets payload).take 16 with
  | error s => simp [h₁, bind, Except.bind] at ok
  | ok a =>
    obtain ⟨sid, i⟩ := a
    cases h₂ : i.number 1 with
    | error s => simp [h₁, h₂, bind, Except.bind] at ok
    | ok b =>
      obtain ⟨flags, j⟩ := b
      cases h₃ : j.number 2 with
      | error s => simp [h₁, h₂, h₃, bind, Except.bind] at ok
      | ok c =>
        obtain ⟨behavior, k⟩ := c
        cases h₄ : k.take 1 with
        | error s => simp [h₁, h₂, h₃, h₄, bind, Except.bind] at ok
        | ok d =>
          obtain ⟨skipped, l⟩ := d
          simp only [h₁, h₂, h₃, h₄, bind, Except.bind, Except.ok.injEq, Prod.mk.injEq] at ok
          have s₁ := Input.takeShrinks h₁
          have s₂ := Input.numberShrinks h₂
          have s₃ := Input.numberShrinks h₃
          have s₄ := Input.takeShrinks h₄
          simp only [Input.ofOctets] at s₁
          rw [← ok.2]
          omega

theorem unpackCongr {one two : Scope → Octets → Decoded} {e : Element} (kind : Kind)
    (same : ∀ s d, d.length ≤ e.payload.length → one s d = two s d) :
    unpack one e kind = unpack two e kind := by
  cases kind <;> simp only [unpack]
  · rw [same _ _ (Nat.le_refl _)]
  · rw [same _ _ (Nat.le_refl _)]
  · cases h : sidFields e.payload with
    | error s => rfl
    | ok pair =>
      obtain ⟨fields, rest⟩ := pair
      have := sidFieldsShrinks h
      simp only [Except.map]
      rw [same _ _ (by omega)]

theorem collectCongr {levelName bound stop} {one two : Element → Finding} {es : List Element}
    (same : ∀ e ∈ es, one e = two e) (t : Tree) :
    collect levelName bound stop one es t = collect levelName bound stop two es t := by
  induction es generalizing t with
  | nil => rfl
  | cons e rest ih =>
    have later := fun t => ih (fun e member => same e (List.mem_cons_of_mem _ member)) t
    simp only [collect, same e List.mem_cons_self, later]

theorem levelEq (rs : Registries) (bound : Int) (scope : Scope) (data : Octets) :
    level rs bound scope data =
      collect scope.levelName bound (walk bound data).stop (find rs scope (level rs bound))
        (walk bound data).elements [] := by
  rw [level]
  apply collectCongr
  intro e member
  have shorter := walkPayload member
  unfold find
  cases rs.kind? scope e.code.toNat with
  | none => rfl
  | some kind =>
    have whole : unpack (fun s d => if d.length < data.length then level rs bound s d
        else Decoded.empty) e kind = unpack (level rs bound) e kind :=
      unpackCongr kind fun s d inside => if_pos (by omega)
    simp only [whole]

end Decode

inductive DecodeError where
  | declaredLength (declared : Int) (available : Nat)
  | negativeBound (bound : Int)
  deriving DecidableEq, Repr

def DecodeError.message : DecodeError → String
  | .declaredLength declared available =>
    "declared length " ++ toString declared ++ " does not fit the " ++ toString available ++
    " byte(s) buffer"
  | .negativeBound bound => "sibling bound must be positive, got " ++ toString bound

namespace Decode

def window (data : Octets) (declared : Int) : Except DecodeError Octets :=
  if declared < 0 ∨ (data.length : Int) < declared then .error (.declaredLength declared data.length)
  else .ok (data.take declared.toNat)

def checkBound (bound : Int) : Except DecodeError Int :=
  if bound < 0 then .error (.negativeBound bound) else .ok bound

def decode (rs : Registries) (scope : Scope) (data : Octets) (declared bound : Int) :
    Except DecodeError Decoded := do
  let octets ← window data declared
  let n ← checkBound bound
  .ok (level rs n scope octets)

end Decode
end SidAttribute
