import SidAttribute.Proofs.Kind

/-! Octets that mean nothing. They stand in the reserved places of headers and fixed parts, behind the
fields of a kind, and all through elements that nothing is registered for, at every level. Whatever
values they are given, an attribute is decoded to the same tree. The octet in the reserved place of an
originator SRGB is none of them: it is the upper half of the flags. -/
namespace SidAttribute
open Wire

namespace Wire

structure SameBut (idle : Nat → Prop) (data other : Octets) : Prop where
  size : other.length = data.length
  octets : ∀ i, ¬ idle i → other[i]? = data[i]?

namespace SameBut

variable {idle : Nat → Prop} {data other : Octets}

theorem whole (same : SameBut idle data other) (none : ∀ i, ¬ idle i) : other = data :=
  List.ext_getElem? fun i => same.octets i (none i)

theorem stretch (same : SameBut idle data other) {start size : Nat}
    (none : ∀ i, start ≤ i → i < start + size → ¬ idle i) :
    (other.drop start).take size = (data.drop start).take size := by
  refine List.ext_getElem? fun i => ?_
  rw [List.getElem?_take, List.getElem?_take, List.getElem?_drop, List.getElem?_drop]
  by_cases inside : i < size
  · rw [if_pos inside, if_pos inside]
    exact same.octets _ (none _ (by omega) (by omega))
  · rw [if_neg inside, if_neg inside]

theorem front (same : SameBut idle data other) {size : Nat} (none : ∀ i < size, ¬ idle i) :
    other.take size = data.take size :=
  @stretch _ _ _ same 0 size fun i _ inside => none i (by omega)

theorem behind (same : SameBut idle data other) (start : Nat) :
    SameBut (fun i => idle (start + i)) (data.drop start) (other.drop start) := by
  constructor
  case size => rw [List.length_drop, List.length_drop, same.size]
  case octets =>
    intro i meant
    rw [List.getElem?_drop, List.getElem?_drop]
    exact same.octets _ meant

theorem upTo (same : SameBut idle data other) (size : Nat) :
    SameBut (fun i => i < size ∧ idle i) (data.take size) (other.take size) := by
  constructor
  case size => rw [List.length_take, List.length_take, same.size]
  case octets =>
    intro i meant
    rw [List.getElem?_take, List.getElem?_take]
    by_cases inside : i < size
    · rw [if_pos inside, if_pos inside]
      exact same.octets _ fun idle => meant ⟨inside, idle⟩
    · rw [if_neg inside, if_neg inside]

theorem weaken (same : SameBut idle data other) {more : Nat → Prop} (fewer : ∀ i, idle i → more i) :
    SameBut more data other :=
  ⟨same.size, fun i meant => same.octets i fun one => meant (fewer i one)⟩

end SameBut
end Wire

namespace Decode

/-- Places of a level at which an octet means nothing, told by its first element or by what is behind
that one. A header takes three octets and the reserved one. -/
inductive Idle (rs : Registries) : Scope → Octets → Nat → Prop where
  | unregistered {scope data e rest i} (head : scanHead data = .element e rest)
      (unknown : rs.kind? scope e.code.toNat = none) (inside : i ≤ e.payload.length) :
      Idle rs scope data (3 + i)
  | reserved {scope data e rest kind} (head : scanHead data = .element e rest)
      (known : rs.kind? scope e.code.toNat = some kind)
      (spare : kind ∈ [.labelIndex, .l3Service, .l2Service, .sidInformation]) :
      Idle rs scope data 3
  | labelTrailing {scope data e rest i} (head : scanHead data = .element e rest)
      (known : rs.kind? scope e.code.toNat = some .labelIndex)
      (behind : 6 ≤ i) (inside : i < e.payload.length) : Idle rs scope data (4 + i)
  | l3Service {scope data e rest i} (head : scanHead data = .element e rest)
      (known : rs.kind? scope e.code.toNat = some .l3Service)
      (nested : Idle rs .l3Service e.payload i) : Idle rs scope data (4 + i)
  | l2Service {scope data e rest i} (head : scanHead data = .element e rest)
      (known : rs.kind? scope e.code.toNat = some .l2Service)
      (nested : Idle rs .l2Service e.payload i) : Idle rs scope data (4 + i)
  | reservedAfter {scope data e rest} (head : scanHead data = .element e rest)
      (known : rs.kind? scope e.code.toNat = some .sidInformation)
      (inside : 20 ≤ e.payload.length) : Idle rs scope data (4 + 19)
  | sidInformation {scope data e rest i} (head : scanHead data = .element e rest)
      (known : rs.kind? scope e.code.toNat = some .sidInformation)
      (nested : Idle rs .sidInformation (e.payload.drop 20) i) : Idle rs scope data (4 + (20 + i))
  | structureReserved {scope data e rest} (head : scanHead data = .element e rest)
      (known : rs.kind? scope e.code.toNat = some .sidStructure) (long : 7 ≤ e.length) :
      Idle rs scope data 3
  | structureTrailing {scope data e rest i} (head : scanHead data = .element e rest)
      (known : rs.kind? scope e.code.toNat = some .sidStructure) (long : 7 ≤ e.length)
      (behind : 6 ≤ i) (inside : i < e.payload.length) : Idle rs scope data (4 + i)
  | later {scope data e rest i} (head : scanHead data = .element e rest)
      (nested : Idle rs scope rest i) : Idle rs scope data (4 + e.payload.length + i)

variable {rs : Registries} {scope : Scope} {data other : Octets} {e f : Element} {rest : Octets}
  {p : Nat}

theorem idleInside (idle : Idle rs scope data p) : p < data.length := by
  induction idle with
  | unregistered head _ inside => have := scanShrinks head; omega
  | reserved head _ _ => have := scanShrinks head; omega
  | labelTrailing head _ _ inside => have := scanShrinks head; omega
  | l3Service head _ _ ih => have := scanShrinks head; omega
  | l2Service head _ _ ih => have := scanShrinks head; omega
  | reservedAfter head _ inside => have := scanShrinks head; omega
  | sidInformation head _ _ ih =>
    have := scanShrinks head
    rw [List.length_drop] at ih
    omega
  | structureReserved head _ _ => have := scanShrinks head; omega
  | structureTrailing head _ _ _ inside => have := scanShrinks head; omega
  | later head _ ih => have := scanShrinks head; omega

def KeepsReserved (e : Element) : Option Kind → Prop
  | some .originatorSrgb => True
  | some .sidStructure => e.length ≤ 6
  | _ => False

def IdlePayload (rs : Registries) (e : Element) : Option Kind → Nat → Prop
  | none, _ => True
  | some .labelIndex, i => 6 ≤ i
  | some .originatorSrgb, _ => False
  | some .l3Service, i => Idle rs .l3Service e.payload i
  | some .l2Service, i => Idle rs .l2Service e.payload i
  | some .sidInformation, i =>
    i = 19 ∨ ∃ j, i = 20 + j ∧ Idle rs .sidInformation (e.payload.drop 20) j
  | some .sidStructure, i => 7 ≤ e.length ∧ 6 ≤ i

theorem idleCases (idle : Idle rs scope data p) (head : scanHead data = .element e rest) :
    (p = 3 ∧ ¬ KeepsReserved e (rs.kind? scope e.code.toNat)) ∨
    (∃ i < e.payload.length, p = 4 + i ∧ IdlePayload rs e (rs.kind? scope e.code.toNat) i) ∨
    ∃ i, p = 4 + e.payload.length + i ∧ Idle rs scope rest i := by
  cases idle with
  | @unregistered _ _ _ _ i first unknown inside =>
    cases head.symm.trans first
    rw [unknown]
    cases i with
    | zero => exact .inl ⟨rfl, id⟩
    | succ i => exact .inr (.inl ⟨i, by omega, by omega, trivial⟩)
  | reserved first known spare =>
    cases head.symm.trans first
    rw [known]
    refine .inl ⟨rfl, ?_⟩
    simp only [List.mem_cons, List.not_mem_nil, or_false] at spare
    rcases spare with rfl | rfl | rfl | rfl <;> exact id
  | labelTrailing first known behind inside =>
    cases head.symm.trans first
    rw [known]
    exact .inr (.inl ⟨_, inside, rfl, behind⟩)
  | l3Service first known nested =>
    cases head.symm.trans first
    rw [known]
    exact .inr (.inl ⟨_, idleInside nested, rfl, nested⟩)
  | l2Service first known nested =>
    cases head.symm.trans first
    rw [known]
    exact .inr (.inl ⟨_, idleInside nested, rfl, nested⟩)
  | reservedAfter first known inside =>
    cases head.symm.trans first
    rw [known]
    exact .inr (.inl ⟨19, by omega, rfl, .inl rfl⟩)
  | sidInformation first known nested =>
    cases head.symm.trans first
    have inside := idleInside nested
    rw [List.length_drop] at inside
    rw [known]
    exact .inr (.inl ⟨_, by omega, rfl, .inr ⟨_, rfl, nested⟩⟩)
  | structureReserved first known long =>
    cases head.symm.trans first
    rw [known]
    exact .inl ⟨rfl, Nat.not_le_of_lt long⟩
  | structureTrailing first known long behind inside =>
    cases head.symm.trans first
    rw [known]
    exact .inr (.inl ⟨_, inside, rfl, long, behind⟩)
  | later first nested =>
    cases head.symm.trans first
    exact .inr (.inr ⟨_, rfl, nested⟩)

structure Matches (rs : Registries) (scope : Scope) (e f : Element) : Prop where
  code : f.code = e.code
  reserved : KeepsReserved e (rs.kind? scope e.code.toNat) → f.reserved = e.reserved
  payload : SameBut (IdlePayload rs e (rs.kind? scope e.code.toNat)) e.payload f.payload

theorem idleElement (idle : Idle rs scope data p) : ∃ e rest, scanHead data = .element e rest := by
  cases idle <;> exact ⟨_, _, ‹_›⟩

theorem headStops {reason : Stop} (same : SameBut (Idle rs scope data) data other)
    (head : scanHead data = .stop reason) : other = data := by
  refine same.whole fun i idle => ?_
  obtain ⟨e, rest, first⟩ := idleElement idle
  cases head.symm.trans first

theorem scanHeader {code : UInt8} {n : Nat} (header : other.take 3 = code :: octets16 (n + 1))
    (inside : n + 4 ≤ other.length) (short : n + 1 < 65536) :
    ∃ reserved, other[3]? = some reserved ∧
      scanHead other = .element ⟨code, reserved, (other.drop 4).take n⟩ (other.drop (4 + n)) := by
  have room : 3 < other.length := by omega
  let f : Element := ⟨code, other[3], (other.drop 4).take n⟩
  have length : f.length = n + 1 := by
    have payload : f.payload.length = n := by
      rw [List.length_take, List.length_drop]
      omega
    rw [Element.length, payload]
  have tail : other.drop 4 = f.payload ++ other.drop (4 + n) := by
    rw [← List.drop_drop]
    exact (List.take_append_drop _ _).symm
  have whole : f.encode ++ other.drop (4 + n) = other := by
    calc f.encode ++ other.drop (4 + n)
        = (code :: octets16 (n + 1)) ++ other[3] :: other.drop 4 := by
          rw [tail, Element.encode, length, List.append_assoc]
          rfl
      _ = other.take 3 ++ other.drop 3 := by rw [header, ← List.drop_eq_getElem_cons room]
      _ = other := List.take_append_drop 3 other
  have fits : f.Fits := by
    rw [Element.Fits, length]
    exact short
  refine ⟨other[3], List.getElem?_eq_getElem room, ?_⟩
  conv_lhs => rw [← whole]
  exact scanEncoded f fits _

theorem headMatches (same : SameBut (Idle rs scope data) data other)
    (head : scanHead data = .element e rest) :
    ∃ f after, scanHead other = .element f after ∧ Matches rs scope e f ∧
      SameBut (Idle rs scope rest) rest after := by
  obtain ⟨octets, fits⟩ := scanElement head
  have size := scanShrinks head
  have payload : (data.drop 4).take e.payload.length = e.payload := by
    rw [octets, Element.encode]
    simp [octets16]
  have behind : data.drop (4 + e.payload.length) = rest := by
    rw [octets, Nat.add_comm, ← encodeLength, List.drop_left]
  have header : other.take 3 = e.code :: octets16 e.length := by
    rw [same.front fun i inside idle => ?_, octets, Element.encode]
    · simp [octets16]
    · rcases idleCases idle head with ⟨rfl, _⟩ | ⟨j, _, rfl, _⟩ | ⟨j, rfl, _⟩ <;> omega
  have inside : e.payload.length + 4 ≤ other.length := by
    rw [same.size]
    omega
  obtain ⟨reserved, fourth, scanned⟩ := scanHeader header inside fits
  refine ⟨_, _, scanned, ⟨rfl, fun keeps => ?_, ?_⟩, ?_⟩
  · have octet : other[3]? = data[3]? := same.octets 3 fun idle => by
      rcases idleCases idle head with ⟨_, spare⟩ | ⟨j, _, _, _⟩ | ⟨j, _, _⟩
      · exact spare keeps
      · omega
      · omega
    rw [fourth, octets] at octet
    simpa [Element.encode, octets16] using octet
  · have inner := (same.behind 4).upTo e.payload.length
    rw [payload] at inner
    refine inner.weaken fun i spare => ?_
    obtain ⟨inside, idle⟩ := spare
    rcases idleCases idle head with ⟨_, _⟩ | ⟨j, _, place, spare⟩ | ⟨j, _, _⟩
    · omega
    · rwa [show i = j by omega]
    · omega
  · have outer := same.behind (4 + e.payload.length)
    rw [behind] at outer
    refine outer.weaken fun i idle => ?_
    rcases idleCases idle head with ⟨_, _⟩ | ⟨j, _, _, _⟩ | ⟨j, place, spare⟩
    · omega
    · omega
    · rwa [show i = j by omega]

theorem walkMatches (n : Nat) (same : SameBut (Idle rs scope data) data other) :
    List.Forall₂ (Matches rs scope) (walk n data).elements (walk n other).elements := by
  induction n generalizing data other with
  | zero =>
    cases head : scanHead data with
    | stop reason =>
      rw [headStops same head, walkStop head]
      exact .nil
    | element e rest =>
      obtain ⟨f, after, scanned, alike, _⟩ := headMatches same head
      rw [walkLast head, walkLast scanned]
      exact .cons alike .nil
  | succ n ih =>
    cases head : scanHead data with
    | stop reason =>
      rw [headStops same head, walkStop head]
      exact .nil
    | element e rest =>
      obtain ⟨f, after, scanned, alike, behind⟩ := headMatches same head
      rw [walkNext head, walkNext scanned]
      exact .cons alike (ih behind)

section Kinds

variable {nested : Scope → Octets → Decoded} {kind : Kind}

theorem Matches.length (alike : Matches rs scope e f) : f.length = e.length :=
  congrArg (· + 1) alike.payload.size

theorem Matches.fits (alike : Matches rs scope e f) (kind : Kind) :
    KindFits f kind ↔ KindFits e kind := by
  cases kind <;> simp only [KindFits, alike.payload.size, alike.length]

theorem Matches.node (alike : Matches rs scope e f)
    (known : rs.kind? scope e.code.toNat = some kind)
    (inside : ∀ s d c, d.length ≤ e.payload.length → SameBut (Idle rs s d) d c →
      (nested s c).tree = (nested s d).tree) : nodeOf nested f kind = nodeOf nested e kind := by
  obtain ⟨_, reserved, payload⟩ := alike
  rw [known] at reserved payload
  cases kind with
  | labelIndex =>
    have meant : ∀ i < 6, ¬ IdlePayload rs e (some .labelIndex) i := fun i small => Nat.not_le.mpr small
    have flags : f.payload.take 2 = e.payload.take 2 :=
      payload.front fun i small => meant i (by omega)
    have index : (f.payload.drop 2).take 4 = (e.payload.drop 2).take 4 :=
      payload.stretch fun i _ small => meant i (by omega)
    rw [nodeOf, nodeOf, flags, index]
  | originatorSrgb =>
    have octets : f.payload = e.payload := payload.whole fun _ => id
    rw [nodeOf, nodeOf, octets, reserved trivial]
  | l3Service => exact inside _ _ _ (Nat.le_refl _) payload
  | l2Service => exact inside _ _ _ (Nat.le_refl _) payload
  | sidInformation =>
    have meant : ∀ i < 19, ¬ IdlePayload rs e (some .sidInformation) i := by
      rintro i small (last | ⟨j, further, _⟩) <;> omega
    have sid : f.payload.take 16 = e.payload.take 16 :=
      payload.front fun i small => meant i (by omega)
    have flags : (f.payload.drop 16).take 1 = (e.payload.drop 16).take 1 :=
      payload.stretch fun i _ small => meant i (by omega)
    have behavior : (f.payload.drop 17).take 2 = (e.payload.drop 17).take 2 :=
      payload.stretch fun i _ small => meant i (by omega)
    have behind : SameBut (Idle rs .sidInformation (e.payload.drop 20)) (e.payload.drop 20)
        (f.payload.drop 20) := by
      refine (payload.behind 20).weaken fun i idle => ?_
      rcases idle with last | ⟨j, place, spare⟩
      · omega
      · rwa [show i = j by omega]
    have shorter : (e.payload.drop 20).length ≤ e.payload.length := by
      rw [List.length_drop]
      omega
    rw [nodeOf, nodeOf, sidTree, sidTree, fieldsOf, fieldsOf, sid, flags, behavior,
      inside _ _ _ shorter behind]
  | sidStructure =>
    have octets : structureOf f = structureOf e := by
      have size := congrArg (· + 1) payload.size
      unfold structureOf
      rw [show f.length = e.length from size]
      split
      · next six =>
        have all : f.payload = e.payload :=
          payload.whole fun i idle => Nat.not_le_of_lt idle.1 (Nat.le_of_eq six)
        rw [reserved (Nat.le_of_eq six), all]
      · exact payload.front fun i small idle => Nat.not_le_of_lt small idle.2
    rw [nodeOf, nodeOf, octets]

theorem findFits (known : rs.kind? scope e.code.toNat = some kind) (fits : KindFits e kind) :
    (find rs scope nested e).isMalformed = false ∧
      ∀ t, (find rs scope nested e).attachTo t = attach t kind.key (nodeOf nested e kind) := by
  obtain ⟨d, read⟩ : ∃ d, unpack nested e kind = .ok d := unpackFits fits
  rw [findNode known read, ← (unpackMade read).2]
  exact ⟨rfl, fun _ => rfl⟩

theorem Matches.found (alike : Matches rs scope e f)
    (inside : ∀ s d c, d.length ≤ e.payload.length → SameBut (Idle rs s d) d c →
      (nested s c).tree = (nested s d).tree) :
    (find rs scope nested f).isMalformed = (find rs scope nested e).isMalformed ∧
      ∀ t, (find rs scope nested f).attachTo t = (find rs scope nested e).attachTo t := by
  cases known : rs.kind? scope e.code.toNat with
  | none =>
    have unknown : rs.kind? scope f.code.toNat = none := alike.code ▸ known
    rw [findNone known, findNone unknown]
    exact ⟨rfl, fun _ => rfl⟩
  | some kind =>
    have too : rs.kind? scope f.code.toNat = some kind := alike.code ▸ known
    by_cases fits : KindFits e kind
    · obtain ⟨good, attached⟩ := @findFits _ _ _ nested _ known fits
      obtain ⟨well, stuck⟩ := @findFits _ _ _ nested _ too ((alike.fits kind).mpr fits)
      refine ⟨well.trans good.symm, fun t => ?_⟩
      rw [attached, stuck, alike.node known inside]
    · obtain ⟨s, short⟩ : ∃ s, unpack nested e kind = .error s := unpackUnfit fits
      obtain ⟨r, small⟩ : ∃ s, unpack nested f kind = .error s :=
        unpackUnfit (mt (alike.fits kind).mp fits)
      rw [findMalformed known short, findMalformed too small]
      exact ⟨rfl, fun _ => rfl⟩

end Kinds

theorem attachedMatches {one two : Element → Finding} {es fs : List Element}
    (alike : List.Forall₂ (fun e f => (two f).isMalformed = (one e).isMalformed ∧
      ∀ t, (two f).attachTo t = (one e).attachTo t) es fs) (t : Tree) :
    (passed two fs).foldl (fun t f => (two f).attachTo t) t =
      (passed one es).foldl (fun t e => (one e).attachTo t) t := by
  induction alike generalizing t with
  | nil => rfl
  | @cons e f es fs first rest ih =>
    unfold passed
    rw [List.takeWhile_cons, List.takeWhile_cons, first.1]
    cases (one e).isMalformed with
    | true => rfl
    | false =>
      simp only [Bool.not_false, if_true, List.foldl_cons, first.2]
      exact ih _

theorem levelMatches (rs : Registries) (n : Nat) (scope : Scope) {data other : Octets}
    (same : SameBut (Idle rs scope data) data other) :
    (level rs n scope other).tree = (level rs n scope data).tree := by
  have walked := (List.forall₂_and_left _ _).mpr
    ⟨fun e member => walkPayload member, walkMatches n same⟩
  rw [levelEq, levelEq, collectTree, collectTree]
  refine attachedMatches (walked.imp fun e f pair => ?_) []
  obtain ⟨shorter, alike⟩ := pair
  exact alike.found fun s d c inside same => levelMatches rs n s same
termination_by data.length
decreasing_by omega

section Standard

theorem srgbKey (e : Element) :
    keyOf Registries.standard .top e = some "originator_srgb" ↔ e.code = 3 := by
  rw [keyOf, standardTop]
  constructor
  · intro named
    grind [Kind.key]
  · intro same
    rw [same]
    rfl

def srgbTree (reserved : UInt8) (payload : Octets) : Tree :=
  ("flags", .int (reserved.toNat * 256 + bigEndian (payload.take 1))) ::
    Tree.grouped ((rangePairs (payload.drop 1)).map rangeNode)

theorem srgbGives (n : Nat) (reserved : UInt8) {payload : Octets} (size : payload.length % 6 = 1) :
    Gives Registries.standard n .top ⟨3, reserved, payload⟩ (.tree (srgbTree reserved payload)) := by
  have read := @originatorSrgbRead ⟨3, reserved, payload⟩ size
  exact ⟨.originatorSrgb, ⟨srgbTree reserved payload, []⟩, rfl, by rw [unpack, read]; rfl, rfl⟩

theorem srgbAltered (reserved altered : UInt8) (payload : Octets) :
    ∃ (flags : Int) (ranges : Tree), srgbTree reserved payload = ("flags", .int flags) :: ranges ∧
      srgbTree altered payload =
        ("flags", .int (flags + 256 * ((altered.toNat : Int) - reserved.toNat))) :: ranges := by
  refine ⟨_, _, rfl, ?_⟩
  have moved : ((altered.toNat : Int) * 256 + bigEndian (payload.take 1)) =
      reserved.toNat * 256 + bigEndian (payload.take 1) +
        256 * ((altered.toNat : Int) - reserved.toNat) := by
    omega
  rw [srgbTree, moved]

/-- Idle octets never show, and the octet in the reserved place of an originator SRGB that a level comes
to shows in the flags of its node and nowhere else. -/
theorem idleUnseen (n : Nat) :
    (∀ (rs : Registries) (scope : Scope) (data other : Octets),
      SameBut (Idle rs scope data) data other →
      ∃ d c, decode rs scope data data.length n = .ok d ∧
        decode rs scope other other.length n = .ok c ∧ c.tree = d.tree) ∧
    ∀ before : List Element, (∀ e ∈ before, e.Fits) → Reached Registries.standard n .top before →
      ∀ (after : Octets) (reserved altered : UInt8) (payload : Octets),
        payload.length ≤ 65534 → payload.length % 6 = 1 →
        let given := around before ⟨3, reserved, payload⟩ after
        let changed := around before ⟨3, altered, payload⟩ after
        ∃ d c flags ranges, decode Registries.standard .top given given.length n = .ok d ∧
          decode Registries.standard .top changed changed.length n = .ok c ∧
          Tree.Swapped "originator_srgb" (before.countP fun e => e.code = 3)
            (.tree (("flags", .int flags) :: ranges))
            (.tree (("flags", .int (flags + 256 * ((altered.toNat : Int) - reserved.toNat))) ::
              ranges)) d.tree c.tree := by
  constructor
  · intro rs scope data other same
    exact ⟨_, _, decodeWhole _ _ _ _, decodeWhole _ _ _ _, levelMatches rs n scope same⟩
  · intro before fits reached after reserved altered payload short size given changed
    have own : ∀ octet : UInt8, (Element.mk 3 octet payload).Fits := fun _ => by
      unfold Element.Fits Element.length
      dsimp only
      omega
    obtain ⟨d, c, decoded, redecoded, swapped, _⟩ :=
      changesOnly (Registries.standardKeyed (by decide)) fits after (own reserved) (own altered)
        srgbKey rfl (srgbGives n reserved size) (srgbGives n altered size)
    obtain ⟨flags, ranges, old, new⟩ := srgbAltered reserved altered payload
    have only := swapped reached
    rw [old, new] at only
    exact ⟨d, c, flags, ranges, decoded, redecoded, only⟩

theorem scanAlone {e : Element} (fits : e.Fits) : scanHead e.encode = .element e [] := by
  have head := scanEncoded e fits []
  rwa [List.append_nil] at head

def paddedStructure (d : UInt8) : Element := ⟨1, d, [40, 24, 16, 0, 0, 0]⟩

def paddedSid (b c d : UInt8) : Element :=
  ⟨1, b, List.replicate 16 7 ++ [0, 0, 17, c] ++ (paddedStructure d).encode⟩

def paddedService (a b c d : UInt8) : Element := ⟨5, a, (paddedSid b c d).encode⟩

theorem idlePadded : SameBut (Idle Registries.standard .top (paddedService 0 0 0 0).encode)
    (paddedService 0 0 0 0).encode (paddedService 1 2 3 4).encode := by
  have service := @scanAlone (paddedService 0 0 0 0) (by decide)
  have sid := @scanAlone (paddedSid 0 0 0) (by decide)
  have inner := @scanAlone (paddedStructure 0) (by decide)
  have spare : ∀ i ∈ [3, 7, 27, 31],
      Idle Registries.standard .top (paddedService 0 0 0 0).encode i := by
    simp only [List.forall_mem_cons]
    refine ⟨?_, ?_, ?_, ?_, by simp⟩
    · exact .reserved service rfl (by decide)
    · exact .l3Service service rfl (.reserved sid rfl (by decide))
    · exact .l3Service service rfl (.reservedAfter sid rfl (by decide))
    · exact .l3Service service rfl
        (.sidInformation sid rfl (.structureReserved inner rfl (by decide)))
  have each : ∀ i < 38, i ∈ [3, 7, 27, 31] ∨
      (paddedService 1 2 3 4).encode[i]? = (paddedService 0 0 0 0).encode[i]? := by
    decide
  have beyond : ∀ a b c d, (paddedService a b c d).encode.length = 38 := fun _ _ _ _ => rfl
  constructor
  case size => rw [beyond, beyond]
  case octets =>
    intro i meant
    by_cases inside : i < 38
    · exact (each i inside).resolve_left fun member => meant (spare i member)
    · rw [List.getElem?_eq_none (by rw [beyond]; omega),
        List.getElem?_eq_none (by rw [beyond]; omega)]

theorem idleUnseenPadded :
    let service := paddedService 0 0 0 0
    let changed := paddedService 1 2 3 4
    let payload : Octets := [5, 0, 0, 16, 0, 0, 8, 0, 1, 0, 0, 0, 8]
    (SameBut (Idle Registries.standard .top service.encode) service.encode changed.encode ∧
      ∃ d c, decode Registries.standard .top service.encode service.encode.length 9 = .ok d ∧
        decode Registries.standard .top changed.encode changed.encode.length 9 = .ok c ∧
        c.tree = d.tree) ∧
    (∀ e ∈ [service], e.Fits) ∧ Reached Registries.standard 9 .top [service] ∧
    payload.length ≤ 65534 ∧ payload.length % 6 = 1 ∧
    ∃ d c flags ranges,
      decode Registries.standard .top (around [service] ⟨3, 1, payload⟩ [1])
        (around [service] ⟨3, 1, payload⟩ [1]).length 9 = .ok d ∧
      decode Registries.standard .top (around [service] ⟨3, 200, payload⟩ [1])
        (around [service] ⟨3, 200, payload⟩ [1]).length 9 = .ok c ∧
      Tree.Swapped "originator_srgb" 0 (.tree (("flags", .int flags) :: ranges))
        (.tree (("flags", .int (flags + 256 * (200 - 1))) :: ranges)) d.tree c.tree := by
  intro service changed payload
  have fits : ∀ e ∈ [service], e.Fits := by decide
  have reached : Reached Registries.standard 9 .top [service] := by decide
  obtain ⟨idle, flags⟩ := idleUnseen 9
  refine ⟨⟨idlePadded, idle _ _ _ _ idlePadded⟩, fits, reached, by decide, by decide, ?_⟩
  exact flags [service] fits reached [1] 1 200 payload (by decide) (by decide)

end Standard

end Decode
end SidAttribute
