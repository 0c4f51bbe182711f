import SidAttribute.Proofs.Level
import SidAttribute.Wire.Cursor

/-! Decoding with every way to fail left open. Reads go through a cursor and may be refused for any
reason; an address, a structure and a level inside another may have the wrong size. A level catches
a shortfall of the element it handed out and nothing else, and reads its elements as it goes. -/
namespace SidAttribute.Strict
open Wire

inductive Fault where
  | read (e : ReadError)
  | addressSize (octets : Nat)
  | structureSize (octets : Nat)
  | nesting (octets : Nat)
  deriving DecidableEq, Repr

def Fault.short (s : Shortfall) : Fault := .read (.short s)

def take (c : Cursor) (size : Int) : Except Fault (Octets × Cursor) :=
  match readOctets c.data c.offset size with
  | .ok octets => .ok (octets, ⟨c.data, c.offset + size⟩)
  | .error e => .error (.read e)

def number (c : Cursor) (size : Int) : Except Fault (Nat × Cursor) :=
  (take c size).map fun (octets, next) => (bigEndian octets, next)

theorem takeAdvances {c : Cursor} {size : Int} {octets next} (ok : take c size = .ok (octets, next)) :
    next.data = c.data ∧ next.offset = c.offset + size ∧ 0 ≤ size ∧ 0 ≤ c.offset ∧
      c.offset.toNat + size.toNat ≤ max c.data.length c.offset.toNat := by
  unfold take at ok
  cases read : readOctets c.data c.offset size with
  | error e =>
    rw [read] at ok
    cases ok
  | ok taken =>
    rw [read] at ok
    cases ok
    obtain ⟨here, some, enough, _⟩ := readSome read
    refine ⟨rfl, rfl, some, here, ?_⟩
    omega

theorem numberAdvances {c : Cursor} {size : Int} {value next}
    (ok : number c size = .ok (value, next)) (some : 0 < size) :
    next.remaining < c.remaining := by
  unfold number at ok
  cases read : take c size with
  | error f => simp [read, Except.map] at ok
  | ok pair =>
    obtain ⟨octets, after⟩ := pair
    simp only [read, Except.map, Except.ok.injEq, Prod.mk.injEq] at ok
    obtain ⟨_, rfl⟩ := ok
    obtain ⟨data, offset, _, _, inside⟩ := takeAdvances read
    unfold Cursor.remaining
    rw [data, offset]
    omega

def labelIndex (e : Element) : Except Fault Tree := do
  let (flags, c) ← number ⟨e.payload, 0⟩ 2
  let (index, _) ← number c 4
  .ok [("flags", .int flags), ("label_index", .int index)]

def labelRanges (c : Cursor) : Except Fault (List (Nat × Nat)) :=
  if c.remaining = 0 then .ok []
  else match _base : number c 3 with
    | .error f => .error f
    | .ok (base, next) =>
      match _range : number next 3 with
      | .error f => .error f
      | .ok (range, after) => (labelRanges after).map ((base, range) :: ·)
termination_by c.remaining
decreasing_by
  have one := numberAdvances _base (by decide)
  have two := numberAdvances _range (by decide)
  omega

def originatorSrgb (e : Element) : Except Fault Tree := do
  let (low, c) ← number ⟨e.payload, 0⟩ 1
  let ranges ← labelRanges c
  let flags : Tree := [("flags", .int (e.reserved.toNat * 256 + low))]
  .ok (ranges.foldl (fun t r => t.addChild "srgb" (Decode.labelRange r)) flags)

def addressText (sid : Octets) : Except Fault String :=
  if sid.length = 16 then .ok (Sid.addressText sid) else .error (.addressSize sid.length)

def sidInformation (nested : Scope → Octets → Except Fault Decoded) (e : Element) :
    Except Fault Decoded := do
  let (sid, c) ← take ⟨e.payload, 0⟩ 16
  let (flags, c) ← number c 1
  let (behavior, c) ← number c 2
  let (_, c) ← take c 1
  let address ← addressText sid
  let name := Sid.behaviorName behavior
  let fields : Tree := [("sid_value", .text address), ("service_sid_flags", .int flags),
    ("endpoint_behavior_codepoint", .int behavior), ("endpoint_behavior", .text name)]
  let (rest, _) ← take c c.remaining
  let inner ← nested .sidInformation rest
  .ok ⟨if inner.tree.isEmpty then fields else fields.addChild "sid_structure" (.tree inner.tree),
    .sid address flags behavior name :: inner.notices⟩

def structureFields (octets : Octets) : Except Fault Tree :=
  if octets.length = 6 then
    .ok ((Decode.structureKeys.zip octets).map fun (key, b) => (key, .int b.toNat))
  else .error (.structureSize octets.length)

def sidStructure (e : Element) : Except Fault Tree :=
  if e.length = 6 then structureFields (e.reserved :: e.payload)
  else do
    let (octets, _) ← take ⟨e.payload, 0⟩ 6
    structureFields octets

def unpack (nested : Scope → Octets → Except Fault Decoded) (e : Element) :
    Kind → Except Fault Decoded
  | .labelIndex => (labelIndex e).map (⟨·, []⟩)
  | .originatorSrgb => (originatorSrgb e).map (⟨·, []⟩)
  | .l3Service => nested .l3Service e.payload
  | .l2Service => nested .l2Service e.payload
  | .sidInformation => sidInformation nested e
  | .sidStructure => (sidStructure e).map (⟨·, []⟩)

def find (rs : Registries) (scope : Scope) (nested : Scope → Octets → Except Fault Decoded)
    (e : Element) : Except Fault Finding :=
  match rs.kind? scope e.code.toNat with
  | none => .ok .unregistered
  | some kind =>
    match unpack nested e kind with
    | .ok decoded => .ok (.node kind.key decoded)
    | .error (.read (.short s)) => .ok (.malformed s)
    | .error other => .error other

inductive Head where
  | stop (reason : Stop)
  | element (e : Element) (next : Cursor)
  deriving DecidableEq, Repr

def body (code reserved : UInt8) (length : Nat) (c : Cursor) : Except Fault Head :=
  if length < 1 then .ok (.stop (.zeroLength code))
  else if (c.remaining : Int) < (length : Int) - 1 then
    .ok (.stop (.overrun code length (c.remaining + 4)))
  else do
    let (payload, c) ← take c ((length : Int) - 1)
    .ok (.element ⟨code, reserved, payload⟩ c)

def head (c : Cursor) : Except Fault Head := do
  if c.remaining = 0 then .ok (.stop .exhausted)
  else if c.remaining < 4 then .ok (.stop (.truncatedHeader c.remaining))
  else
    let (code, c) ← number c 1
    let (length, c) ← number c 2
    let (reserved, c) ← number c 1
    body (UInt8.ofNat code) (UInt8.ofNat reserved) length c

theorem bindOk {α β : Type} {first : Except Fault α} {rest : α → Except Fault β} {result : β}
    (ok : (first >>= rest) = .ok result) : ∃ value, first = .ok value ∧ rest value = .ok result := by
  cases first with
  | error f => simp [bind, Except.bind] at ok
  | ok value => exact ⟨value, rfl, ok⟩

theorem bodyAdvances {code reserved : UInt8} {length : Nat} {c next : Cursor} {e : Element}
    (ok : body code reserved length c = .ok (.element e next)) : next.remaining ≤ c.remaining := by
  unfold body at ok
  split at ok
  · simp at ok
  · split at ok
    · simp at ok
    · obtain ⟨⟨payload, after⟩, read, ok⟩ := bindOk ok
      obtain ⟨data, offset, positive, _, _⟩ := takeAdvances read
      simp only [Except.ok.injEq, Head.element.injEq] at ok
      obtain ⟨_, rfl⟩ := ok
      unfold Cursor.remaining
      rw [data, offset]
      omega

theorem headAdvances {c next : Cursor} {e : Element} (ok : head c = .ok (.element e next)) :
    next.remaining < c.remaining := by
  unfold head at ok
  split at ok
  · simp at ok
  · split at ok
    · simp at ok
    · obtain ⟨⟨code, c₁⟩, first, ok⟩ := bindOk ok
      obtain ⟨⟨length, c₂⟩, second, ok⟩ := bindOk ok
      obtain ⟨⟨reserved, c₃⟩, third, ok⟩ := bindOk ok
      have one := numberAdvances first (by decide)
      have two := numberAdvances second (by decide)
      have three := numberAdvances third (by decide)
      have last := bodyAdvances ok
      omega

/-- Reading and dispatching take turns: an element is decoded before the next one is looked at, and
the count is compared with the bound only after that. -/
def loop (rs : Registries) (bound : Int) (scope : Scope)
    (nested : Scope → Octets → Except Fault Decoded) (count : Nat) (c : Cursor) (t : Tree) :
    Except Fault Decoded :=
  match _first : head c with
  | .error f => .error f
  | .ok (.stop reason) => .ok ⟨t, reason.notice scope.levelName bound⟩
  | .ok (.element e next) =>
    match find rs scope nested e with
    | .error f => .error f
    | .ok finding =>
      let told := finding.told scope.levelName e
      let t := finding.attachTo t
      if finding.isMalformed then .ok ⟨t, told⟩
      else if bound < count + 1 then .ok ⟨t, told ++ Stop.tooMany.notice scope.levelName bound⟩
      else (loop rs bound scope nested (count + 1) next t).map (Decoded.after told)
termination_by c.remaining
decreasing_by exact headAdvances _first

def level (rs : Registries) (bound : Int) (scope : Scope) (data : Octets) : Except Fault Decoded :=
  let nested := fun s d =>
    if d.length < data.length then level rs bound s d else .error (.nesting d.length)
  loop rs bound scope nested 0 ⟨data, 0⟩ []
termination_by data.length

inductive Failure where
  | refused (e : DecodeError)
  | fault (f : Fault)
  deriving DecidableEq, Repr

def decode (rs : Registries) (scope : Scope) (data : Octets) (declared bound : Int) :
    Except Failure Decoded := do
  let octets ← (Decode.window data declared).mapError .refused
  let n ← (Decode.checkBound bound).mapError .refused
  (level rs n scope octets).mapError .fault

end SidAttribute.Strict
