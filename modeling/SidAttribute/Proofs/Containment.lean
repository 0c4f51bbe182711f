import SidAttribute.Proofs.Strict
import SidAttribute.Proofs.Wire.Numbers
import SidAttribute.Request

/-! No content makes decoding fail, whatever is registered. With every way to fail left open decoding
still gives what it gives without them: inside a level only shortfalls happen, and each is caught
where the element was handed out. -/
namespace SidAttribute.Strict
open Wire

theorem mapErrorOk {ε φ α : Type} (f : ε → φ) (a : α) :
    (Except.ok a : Except ε α).mapError f = .ok a := rfl

section Reading

variable {data : Octets} {i : Input}

def Follows (data : Octets) (i : Input) : Prop := i.rest = data.drop i.taken ∧ i.taken ≤ data.length

def cursorOf (data : Octets) (i : Input) : Cursor := ⟨data, i.taken⟩

theorem startCursor (data : Octets) : (⟨data, 0⟩ : Cursor) = cursorOf data (Input.ofOctets data) :=
  rfl

theorem startFollows (data : Octets) : Follows data (Input.ofOctets data) :=
  ⟨rfl, Nat.zero_le _⟩

theorem followsRemaining (here : Follows data i) : (cursorOf data i).remaining = i.rest.length := by
  obtain ⟨rest, inside⟩ := here
  rw [rest, List.length_drop]
  simp only [Cursor.remaining, cursorOf]
  omega

theorem takeStays {n : Nat} {octets : Octets} {next : Input} (here : Follows data i)
    (ok : i.take n = .ok (octets, next)) : Follows data next := by
  obtain ⟨rest, inside⟩ := here
  have size := Input.takeShrinks ok
  have left := congrArg List.length rest
  rw [List.length_drop] at left
  unfold Input.take at ok
  split at ok
  · cases ok
    refine ⟨?_, ?_⟩
    · rw [rest, List.drop_drop]
    · dsimp only
      omega
  · simp at ok

theorem takeFollows (here : Follows data i) (size : Int) (n : Nat) (same : size = n) :
    take (cursorOf data i) size =
      ((i.take n).map fun (octets, next) => (octets, cursorOf data next)).mapError .short := by
  obtain ⟨rest, inside⟩ := here
  have left := congrArg List.length rest
  rw [List.length_drop] at left
  unfold take cursorOf
  dsimp only
  subst same
  by_cases enough : n ≤ i.rest.length
  · rw [readHeld (rangeHeld (by omega)), Input.takeEnough enough, Int.toNat_natCast,
      Int.toNat_natCast, rest]
    rfl
  · rw [readRefused (rangeShort (by omega)), Input.takeMissing (by omega), left]
    rfl

theorem takeSize {n : Nat} {octets : Octets} {next : Input} (ok : i.take n = .ok (octets, next)) :
    octets.length = n := by
  unfold Input.take at ok
  split at ok
  · next enough =>
    cases ok
    rw [List.length_take]
    omega
  · simp at ok

theorem numberStays {n value : Nat} {next : Input} (here : Follows data i)
    (ok : i.number n = .ok (value, next)) : Follows data next := by
  unfold Input.number at ok
  cases read : i.take n with
  | error s => simp [read, Except.map] at ok
  | ok pair =>
    obtain ⟨octets, after⟩ := pair
    simp only [read, Except.map, Except.ok.injEq, Prod.mk.injEq] at ok
    rw [← ok.2]
    exact takeStays here read

theorem numberFollows (here : Follows data i) (size : Int) (n : Nat) (same : size = n) :
    number (cursorOf data i) size =
      ((i.number n).map fun (value, next) => (value, cursorOf data next)).mapError .short := by
  unfold number Input.number
  rw [takeFollows here size n same]
  cases i.take n with
  | error s => rfl
  | ok pair => rfl

end Reading

theorem labelIndexContained (e : Element) :
    labelIndex e = (Decode.labelIndex e).mapError .short := by
  have start := startFollows e.payload
  unfold labelIndex Decode.labelIndex
  rw [startCursor,
    numberFollows start 2 2 rfl]
  cases first : (Input.ofOctets e.payload).number 2 with
  | error s => rfl
  | ok pair =>
    obtain ⟨flags, i⟩ := pair
    simp only [bind, Except.bind, Except.map, mapErrorOk]
    rw [numberFollows (numberStays start first) 4 4 rfl]
    cases i.number 4 with
    | error s => rfl
    | ok pair => rfl

theorem labelRangesStep {c : Cursor} (there : c.remaining ≠ 0) :
    labelRanges c = (do
      let (base, next) ← number c 3
      let (range, after) ← number next 3
      (labelRanges after).map ((base, range) :: ·)) := by
  rw [labelRanges, if_neg there]
  split
  · next f short =>
    rw [short]
    rfl
  · next base next first =>
    rw [first]
    simp only [bind, Except.bind]
    split
    · next f short => rw [short]
    · next range after second => rw [second]

theorem labelRangesContained {data : Octets} {i : Input} (here : Follows data i) :
    labelRanges (cursorOf data i) = (Decode.labelRanges i).mapError .short := by
  have size := followsRemaining here
  have read := numberFollows here 3 3 rfl
  fun_induction Decode.labelRanges i with
  | case1 i none =>
    have empty : i.rest.length = 0 := by simpa using none
    rw [labelRanges, if_pos (size.trans empty)]
    rfl
  | case2 i some s first =>
    have there : i.rest.length ≠ 0 := by simpa using some
    rw [labelRangesStep (size ▸ there), read, first]
    rfl
  | case3 i some base j first s second =>
    have there : i.rest.length ≠ 0 := by simpa using some
    have next := numberFollows (numberStays here first) 3 3 rfl
    rw [labelRangesStep (size ▸ there), read, first]
    simp only [bind, Except.bind, Except.map, mapErrorOk]
    rw [next, second]
    rfl
  | case4 i some base j first range k second ih =>
    have there : i.rest.length ≠ 0 := by simpa using some
    have after := numberStays here first
    have last := numberStays after second
    have next := numberFollows after 3 3 rfl
    rw [labelRangesStep (size ▸ there), read, first]
    simp only [bind, Except.bind, Except.map, mapErrorOk]
    rw [next, second]
    simp only [Except.map, mapErrorOk]
    rw [ih last (followsRemaining last) (numberFollows last 3 3 rfl)]
    cases Decode.labelRanges k with
    | error s => rfl
    | ok ranges => rfl

theorem originatorSrgbContained (e : Element) :
    originatorSrgb e = (Decode.originatorSrgb e).mapError .short := by
  have start := startFollows e.payload
  unfold originatorSrgb Decode.originatorSrgb
  rw [startCursor,
    numberFollows start 1 1 rfl]
  cases first : (Input.ofOctets e.payload).number 1 with
  | error s => rfl
  | ok pair =>
    obtain ⟨low, i⟩ := pair
    simp only [bind, Except.bind, Except.map, mapErrorOk]
    rw [labelRangesContained (numberStays start first)]
    cases Decode.labelRanges i with
    | error s => rfl
    | ok ranges => rfl

theorem sidInformationContained {one : Scope → Octets → Except Fault Decoded}
    {two : Scope → Octets → Decoded} (e : Element)
    (same : ∀ s d, d.length ≤ e.payload.length → one s d = .ok (two s d)) :
    sidInformation one e = (Decode.unpack two e .sidInformation).mapError .short := by
  have start := startFollows e.payload
  unfold sidInformation Decode.unpack Decode.sidFields
  rw [startCursor,
    takeFollows start 16 16 rfl]
  cases first : (Input.ofOctets e.payload).take 16 with
  | error s => rfl
  | ok pair =>
    obtain ⟨sid, i⟩ := pair
    have afterSid := takeStays start first
    simp only [bind, Except.bind, Except.map, mapErrorOk]
    rw [numberFollows afterSid 1 1 rfl]
    cases second : i.number 1 with
    | error s => rfl
    | ok pair =>
      obtain ⟨flags, j⟩ := pair
      have afterFlags := numberStays afterSid second
      simp only [Except.map, mapErrorOk]
      rw [numberFollows afterFlags 2 2 rfl]
      cases third : j.number 2 with
      | error s => rfl
      | ok pair =>
        obtain ⟨behavior, k⟩ := pair
        have afterBehavior := numberStays afterFlags third
        simp only [Except.map, mapErrorOk]
        rw [takeFollows afterBehavior 1 1 rfl]
        cases fourth : k.take 1 with
        | error s => rfl
        | ok pair =>
          obtain ⟨skipped, l⟩ := pair
          have afterAll := takeStays afterBehavior fourth
          have sixteen := takeSize first
          have shorter : l.rest.length ≤ e.payload.length := by
            rw [afterAll.1, List.length_drop]
            omega
          have rest := takeFollows afterAll (cursorOf e.payload l).remaining l.rest.length
            (by rw [followsRemaining afterAll])
          rw [Input.takeEnough (Nat.le_refl _), List.take_length] at rest
          simp only [Except.map, mapErrorOk, addressText, if_pos sixteen, rest,
            same _ _ shorter]
          rfl

theorem structureFieldsSix {octets : Octets} (six : octets.length = 6) :
    structureFields octets =
      .ok ((Decode.structureKeys.zip octets).map fun (key, b) => (key, .int b.toNat)) := if_pos six

theorem sidStructureContained (e : Element) :
    sidStructure e = (Decode.sidStructure e).mapError .short := by
  have start := startFollows e.payload
  have size : e.length = e.payload.length + 1 := rfl
  unfold sidStructure Decode.sidStructure Decode.structureOctets
  by_cases six : e.length = 6
  · rw [if_pos six, if_pos six, structureFieldsSix (by rw [List.length_cons]; omega)]
    rfl
  · rw [if_neg six, if_neg six,
      startCursor,
      takeFollows start 6 6 rfl]
    cases read : (Input.ofOctets e.payload).take 6 with
    | error s => rfl
    | ok pair =>
      obtain ⟨octets, i⟩ := pair
      simp only [bind, Except.bind, Except.map, mapErrorOk]
      rw [structureFieldsSix (takeSize read)]

section Nested

variable {one : Scope → Octets → Except Fault Decoded} {two : Scope → Octets → Decoded}
  {e : Element}

theorem unpackContained (same : ∀ s d, d.length ≤ e.payload.length → one s d = .ok (two s d))
    (kind : Kind) : unpack one e kind = (Decode.unpack two e kind).mapError .short := by
  cases kind with
  | labelIndex =>
    simp only [unpack, Decode.unpack, labelIndexContained]
    cases Decode.labelIndex e <;> rfl
  | originatorSrgb =>
    simp only [unpack, Decode.unpack, originatorSrgbContained]
    cases Decode.originatorSrgb e <;> rfl
  | l3Service => exact same _ _ (Nat.le_refl _)
  | l2Service => exact same _ _ (Nat.le_refl _)
  | sidInformation => exact sidInformationContained e same
  | sidStructure =>
    simp only [unpack, Decode.unpack, sidStructureContained]
    cases Decode.sidStructure e <;> rfl

theorem findContained (rs : Registries) (scope : Scope)
    (same : ∀ s d, d.length ≤ e.payload.length → one s d = .ok (two s d)) :
    find rs scope one e = .ok (Decode.find rs scope two e) := by
  unfold find Decode.find
  cases rs.kind? scope e.code.toNat with
  | none => rfl
  | some kind =>
    simp only [unpackContained same kind]
    cases Decode.unpack two e kind with
    | error s => rfl
    | ok d => rfl

end Nested

section Walking

variable {data : Octets} {off : Nat}

def inputAt (data : Octets) (off : Nat) : Input := ⟨data.drop off, off⟩

theorem numberAt (inside : off ≤ data.length) (n : Nat) (enough : n ≤ (data.drop off).length) :
    number ⟨data, off⟩ n =
      .ok (bigEndian ((data.drop off).take n), ⟨data, (off + n : Nat)⟩) := by
  have here : Follows data (inputAt data off) := ⟨rfl, inside⟩
  refine (numberFollows here n n rfl).trans ?_
  rw [Input.numberEnough enough]
  rfl

theorem takeAt (inside : off ≤ data.length) (n : Nat) (enough : n ≤ (data.drop off).length) :
    take ⟨data, off⟩ n = .ok ((data.drop off).take n, ⟨data, (off + n : Nat)⟩) := by
  have here : Follows data (inputAt data off) := ⟨rfl, inside⟩
  refine (takeFollows here n n rfl).trans ?_
  rw [Input.takeEnough enough]
  rfl

def headAt (data : Octets) (off : Nat) : Head :=
  match scanHead (data.drop off) with
  | .stop reason => .stop reason
  | .element e _ => .element e ⟨data, (off + (e.payload.length + 4) : Nat)⟩

theorem remainingAt (inside : off ≤ data.length) :
    (⟨data, off⟩ : Cursor).remaining = (data.drop off).length := by
  rw [List.length_drop]
  simp only [Cursor.remaining]
  omega

theorem bodyContained (inside : off + 4 ≤ data.length) (code reserved : UInt8) (length : Nat) :
    body code reserved length ⟨data, (off + 4 : Nat)⟩ = .ok
      (if length < 1 then .stop (.zeroLength code)
      else if (data.drop (off + 4)).length < length - 1 then
        .stop (.overrun code length ((data.drop (off + 4)).length + 4))
      else .element ⟨code, reserved, (data.drop (off + 4)).take (length - 1)⟩
        ⟨data, (off + (((data.drop (off + 4)).take (length - 1)).length + 4) : Nat)⟩) := by
  unfold body
  rw [remainingAt inside]
  by_cases zero : length < 1
  · rw [if_pos zero, if_pos zero]
  · rw [if_neg zero, if_neg zero]
    by_cases beyond : (data.drop (off + 4)).length < length - 1
    · rw [if_pos beyond, if_pos (by omega)]
    · have asked : (length : Int) - 1 = (length - 1 : Nat) := by omega
      have taken : ((data.drop (off + 4)).take (length - 1)).length = length - 1 := by
        rw [List.length_take]
        omega
      rw [if_neg beyond, if_neg (by omega), asked, takeAt inside _ (by omega), taken,
        show off + (length - 1 + 4) = off + 4 + (length - 1) by omega]
      rfl

theorem headerContained {code high low reserved : UInt8} {tail : Octets}
    (rest : data.drop off = code :: high :: low :: reserved :: tail) :
    number ⟨data, off⟩ 1 = .ok (code.toNat, ⟨data, (off + 1 : Nat)⟩) ∧
    number ⟨data, (off + 1 : Nat)⟩ 2 =
      .ok (high.toNat * 256 + low.toNat, ⟨data, (off + 3 : Nat)⟩) ∧
    number ⟨data, (off + 3 : Nat)⟩ 1 = .ok (reserved.toNat, ⟨data, (off + 4 : Nat)⟩) := by
  have size := congrArg List.length rest
  simp only [List.length_drop, List.length_cons] at size
  have afterCode : data.drop (off + 1) = high :: low :: reserved :: tail := by
    rw [← List.drop_drop, rest]
    rfl
  have afterLength : data.drop (off + 3) = reserved :: tail := by
    rw [← List.drop_drop, rest]
    rfl
  refine ⟨?_, ?_, ?_⟩
  · refine (numberAt (by omega) 1 (by rw [rest]; simp)).trans ?_
    rw [rest, ← bigEndianOctet code]
    rfl
  · refine (numberAt (by omega) 2 (by rw [afterCode]; simp)).trans ?_
    have value : bigEndian (List.take 2 (high :: low :: reserved :: tail)) =
        high.toNat * 256 + low.toNat := by
      simp [bigEndian]
    rw [afterCode, value]
  · refine (numberAt (by omega) 1 (by rw [afterLength]; simp)).trans ?_
    rw [afterLength, ← bigEndianOctet reserved]
    rfl

theorem headContained (inside : off ≤ data.length) :
    head ⟨data, off⟩ = .ok (headAt data off) := by
  unfold head headAt
  rw [remainingAt inside]
  match rest : data.drop off with
  | [] => rfl
  | [_] => rfl
  | [_, _] => rfl
  | [_, _, _] => rfl
  | code :: high :: low :: reserved :: tail =>
    obtain ⟨readCode, readLength, readReserved⟩ := headerContained rest
    have behind : data.drop (off + 4) = tail := by
      rw [← List.drop_drop, rest]
      rfl
    have size := congrArg List.length rest
    simp only [List.length_drop, List.length_cons] at size
    rw [if_neg (by simp), if_neg (by simp), readCode]
    simp only [bind, Except.bind]
    rw [readLength]
    dsimp only
    rw [readReserved]
    simp only
    rw [UInt8.ofNat_toNat, UInt8.ofNat_toNat, bodyContained (by omega), behind, scanHead]
    split
    · rfl
    · split <;> rfl

theorem stepLoop {rs : Registries} {bound : Int} {scope : Scope}
    {nested : Scope → Octets → Except Fault Decoded} {count : Nat} {c next : Cursor} {t : Tree}
    {e : Element} {finding : Finding} (first : head c = .ok (.element e next))
    (found : find rs scope nested e = .ok finding) :
    loop rs bound scope nested count c t =
      if finding.isMalformed then .ok ⟨finding.attachTo t, finding.told scope.levelName e⟩
      else if bound < count + 1 then
        .ok ⟨finding.attachTo t,
          finding.told scope.levelName e ++ Stop.tooMany.notice scope.levelName bound⟩
      else (loop rs bound scope nested (count + 1) next (finding.attachTo t)).map
        (Decoded.after (finding.told scope.levelName e)) := by
  rw [loop]
  split
  · next f other => rw [first] at other; cases other
  · next reason other => rw [first] at other; cases other
  · next other more same =>
    rw [first] at same
    cases same
    rw [found]

theorem stopLoop {rs : Registries} {bound : Int} {scope : Scope}
    {nested : Scope → Octets → Except Fault Decoded} {count : Nat} {c : Cursor} {t : Tree}
    {reason : Stop} (first : head c = .ok (.stop reason)) :
    loop rs bound scope nested count c t = .ok ⟨t, reason.notice scope.levelName bound⟩ := by
  rw [loop]
  split
  · next f other => rw [first] at other; cases other
  · next other same => rw [first] at same; cases same; rfl
  · next other more same => rw [first] at same; cases same

theorem collectStep (level : String) (bound : Int) (stop : Stop) (finding : Element → Finding)
    (e : Element) (rest : List Element) (t : Tree) :
    Decode.collect level bound stop finding (e :: rest) t =
      if (finding e).isMalformed then ⟨(finding e).attachTo t, (finding e).told level e⟩
      else (Decode.collect level bound stop finding rest ((finding e).attachTo t)).after
        ((finding e).told level e) := by
  rw [Decode.collect]
  cases finding e with
  | unregistered => rfl
  | malformed s => rfl
  | node key d => rfl

/-- Walking first and decoding after comes to the same as taking turns. The induction is on the octets
that are left; the bound of the walk is what the count leaves of it. -/
theorem loopContained (rs : Registries) (bound : Int) (scope : Scope)
    {one : Scope → Octets → Except Fault Decoded} {two : Scope → Octets → Decoded}
    (same : ∀ s d, d.length < data.length → one s d = .ok (two s d)) (inside : off ≤ data.length)
    (count : Nat) (t : Tree) :
    loop rs bound scope one count ⟨data, off⟩ t =
      .ok (Decode.collect scope.levelName bound (walk (bound - count) (data.drop off)).stop
        (Decode.find rs scope two) (walk (bound - count) (data.drop off)).elements t) := by
  induction left : data.length - off using Nat.strongRecOn generalizing off count t with
  | ind left ih =>
    have here := headContained inside
    cases seen : scanHead (data.drop off) with
    | stop reason =>
      simp only [headAt, seen] at here
      rw [stopLoop here, walkStop seen]
      rfl
    | element e rest =>
      simp only [headAt, seen] at here
      have size := scanShrinks seen
      rw [List.length_drop] at size
      have found : find rs scope one e = .ok (Decode.find rs scope two e) :=
        findContained rs scope fun s d shorter => same s d (by omega)
      have behind : data.drop (off + (e.payload.length + 4)) = rest := by
        rw [← List.drop_drop, (scanElement seen).1, ← encodeLength, List.drop_left]
      rw [stepLoop here found, walkElement seen]
      by_cases last : bound - count ≤ 0
      · rw [if_pos last, collectStep]
        cases (Decode.find rs scope two e).isMalformed with
        | true => rfl
        | false =>
          have beyond : bound < count + 1 := by omega
          simp only [Bool.false_eq_true, if_false, if_pos beyond]
          rfl
      · rw [if_neg last, Walk.cons, collectStep]
        cases (Decode.find rs scope two e).isMalformed with
        | true => rfl
        | false =>
          have under : ¬ bound < count + 1 := by omega
          have next := ih (data.length - (off + (e.payload.length + 4))) (by omega) (by omega)
            (count + 1) ((Decode.find rs scope two e).attachTo t) rfl
          have less : bound - (count + 1 : Nat) = bound - count - 1 := by omega
          rw [behind, less] at next
          simp only [Bool.false_eq_true, if_false, if_neg under, next]
          rfl

end Walking

theorem levelContained (rs : Registries) (bound : Int) (scope : Scope) (data : Octets) :
    level rs bound scope data = .ok (Decode.level rs bound scope data) := by
  induction size : data.length using Nat.strongRecOn generalizing scope data with
  | ind size ih =>
    have same : ∀ s d, d.length < data.length →
        (if d.length < data.length then level rs bound s d else .error (.nesting d.length)) =
          .ok (Decode.level rs bound s d) := by
      intro s d shorter
      rw [if_pos shorter]
      exact ih d.length (by omega) s d rfl
    have whole := loopContained rs bound scope same (Nat.zero_le _) 0 []
    rw [level, Decode.levelEq]
    simpa using whole

theorem decodeContained (rs : Registries) (scope : Scope) (data : Octets) (declared bound : Int) :
    decode rs scope data declared bound =
      (Decode.decode rs scope data declared bound).mapError .refused := by
  unfold decode Decode.decode
  cases Decode.window data declared with
  | error e => rfl
  | ok octets =>
    simp only [bind, Except.bind, mapErrorOk]
    cases Decode.checkBound bound with
    | error e => rfl
    | ok n =>
      simp only [mapErrorOk, levelContained]

theorem answerDecodes (rs : Registries) (scope : Scope) (data : Octets) (declared bound : Int)
    (store : Config.Store) (sources : Config.Sources) :
    Request.answer ⟨scope, data, declared, some bound⟩ rs store sources =
      (store, (Decode.decode rs scope data declared bound).mapError .decode) := by
  unfold Request.answer Decode.decode
  dsimp only
  cases Decode.window data declared with
  | error e => rfl
  | ok octets =>
    simp only [bind, Except.bind]
    cases Decode.checkBound bound with
    | error e => rfl
    | ok n => rfl

theorem contentNeverFails (rs : Registries) (scope : Scope) (data : Octets) (declared bound : Int) :
    decode rs scope data declared bound =
      (Decode.decode rs scope data declared bound).mapError .refused ∧
    ((∃ e, Decode.decode rs scope data declared bound = .error e) ↔
      declared < 0 ∨ (data.length : Int) < declared ∨ bound < 0) ∧
    (∀ e, Decode.decode rs scope data declared bound = .error e →
      e = if declared < 0 ∨ (data.length : Int) < declared
        then .declaredLength declared data.length else .negativeBound bound) ∧
    (∀ inner octets, level rs bound inner octets = .ok (Decode.level rs bound inner octets)) ∧
    (∀ store sources, Request.answer ⟨scope, data, declared, some bound⟩ rs store sources =
      (store, (Decode.decode rs scope data declared bound).mapError .decode)) := by
  refine ⟨decodeContained rs scope data declared bound, ?_, ?_, ?_, ?_⟩
  · exact Decode.decodeRefused rs scope data declared bound
  · intro e failed
    exact Decode.refusedReason failed
  · exact levelContained rs bound
  · exact answerDecodes rs scope data declared bound

end SidAttribute.Strict
