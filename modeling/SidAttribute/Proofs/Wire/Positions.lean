import SidAttribute.Wire.Cursor

/-! Runs of steps through a buffer. A refused step says why it is refused and is as if it had not been
tried; every other step moves on by its size. From a position inside the buffer a run only moves
forward and never past the end, and the octets of its steps, one behind the other, are those that it
moved across. -/
namespace SidAttribute.Wire.Cursor

def Step.size (c : Cursor) : Step → Int
  | .read n => n
  | .number n _ => n
  | .skip n => n
  | .rest => c.remaining

def Step.reply (octets : Octets) : Step → Reply
  | .read _ => .octets octets
  | .number _ order => .number (order.value octets)
  | .skip _ => .skipped
  | .rest => .octets octets

def final (c : Cursor) (steps : List Step) : Cursor := ((c.run steps).map Prod.snd).getLastD c

def covers (c : Cursor) (s : Step) : Octets := (c.data.drop c.offset.toNat).take (s.size c).toNat

def covered (c : Cursor) : List Step → Octets
  | [] => []
  | s :: later => (if (c.step s).1.isOk then c.covers s else []) ++ covered (c.step s).2 later

/-- What a step comes to, by the position, the size it asks for and what is left. -/
structure Lawful (c : Cursor) (s : Step) (outcome : Except ReadError Reply) (next : Cursor) :
    Prop where
  negative : ∀ offset size, outcome = .error (.negative offset size) ↔
    (c.offset < 0 ∨ s.size c < 0) ∧ offset = c.offset ∧ size = s.size c
  short : ∀ needed available offset, outcome = .error (.short ⟨needed, available, offset⟩) ↔
    (0 ≤ c.offset ∧ 0 ≤ s.size c) ∧ c.remaining < s.size c ∧
      (needed : Int) = s.size c ∧ (available : Int) = max (c.data.length - c.offset) 0 ∧
      (offset : Int) = c.offset
  refused : ∀ e, outcome = .error e → next = c
  moved : ∀ reply, outcome = .ok reply →
    next = ⟨c.data, c.offset + s.size c⟩ ∧ reply = s.reply (c.covers s)

section Steps

variable {c : Cursor} {s : Step}

/-- Whatever is refused is refused before the cursor is moved, by each operation in its own way. -/
theorem stepRefused {e : ReadError} (refused : checkRange c.data c.offset (s.size c) = .error e) :
    c.step s = (.error e, c) := by
  have unread : readOctets c.data c.offset (s.size c) = .error e := readRefused refused
  cases s with
  | read size =>
    change readOctets c.data c.offset size = _ at unread
    simp only [step, Step.operation, ExceptT.run_map, StateT.run_map, readTurn, unread]
    rfl
  | number size order =>
    change readOctets c.data c.offset size = _ at unread
    have nothing : readNumber c.data c.offset size order = .error e := by
      rw [readNumber, unread]
      rfl
    simp only [step, Step.operation, ExceptT.run_map, StateT.run_map, numberTurn, nothing]
    rfl
  | skip size =>
    change checkRange c.data c.offset size = _ at refused
    simp only [step, Step.operation, ExceptT.run_bind, StateT.run_bind, skipTurn, refused]
    rfl
  | rest =>
    change readOctets c.data c.offset c.remaining = _ at unread
    simp only [step, Step.operation, ExceptT.run_map, StateT.run_map, restTurn, readTurn, unread]
    rfl

theorem stepHeld (held : checkRange c.data c.offset (s.size c) = .ok ()) :
    c.step s = (.ok (s.reply (c.covers s)), ⟨c.data, c.offset + s.size c⟩) := by
  have taken : readOctets c.data c.offset (s.size c) = .ok (c.covers s) := readHeld held
  cases s with
  | read size =>
    change readOctets c.data c.offset size = _ at taken
    simp only [step, Step.operation, ExceptT.run_map, StateT.run_map, readTurn, taken]
    rfl
  | number size order =>
    change readOctets c.data c.offset size = _ at taken
    have value : readNumber c.data c.offset size order =
        .ok (order.value (c.covers (.number size order))) := by
      rw [readNumber, taken]
      rfl
    simp only [step, Step.operation, ExceptT.run_map, StateT.run_map, numberTurn, value]
    rfl
  | skip size =>
    change checkRange c.data c.offset size = _ at held
    simp only [step, Step.operation, ExceptT.run_bind, StateT.run_bind, skipTurn, held]
    rfl
  | rest =>
    change readOctets c.data c.offset c.remaining = _ at taken
    simp only [step, Step.operation, ExceptT.run_map, StateT.run_map, restTurn, readTurn, taken]
    rfl

theorem stepNegative (below : c.offset < 0 ∨ s.size c < 0) :
    c.step s = (.error (.negative c.offset (s.size c)), c) :=
  stepRefused (rangeNegative below)

theorem stepShort (inside : 0 ≤ c.offset ∧ 0 ≤ s.size c) (beyond : c.remaining < s.size c) :
    c.step s = (.error (.short ⟨(s.size c).toNat, c.remaining, c.offset.toNat⟩), c) := by
  have left : c.data.length - c.offset.toNat = c.remaining := by
    unfold remaining
    omega
  have short : checkRange c.data c.offset.toNat (s.size c).toNat = .error (.short _) :=
    rangeShort (by omega)
  rw [Int.toNat_of_nonneg inside.1, Int.toNat_of_nonneg inside.2, left] at short
  exact stepRefused short

theorem stepMoved (inside : 0 ≤ c.offset ∧ 0 ≤ s.size c) (enough : s.size c ≤ c.remaining) :
    c.step s = (.ok (s.reply (c.covers s)), ⟨c.data, c.offset + s.size c⟩) := by
  have left : c.data.length - c.offset.toNat = c.remaining := by
    unfold remaining
    omega
  have held : checkRange c.data c.offset.toNat (s.size c).toNat = .ok () := rangeHeld (by omega)
  rw [Int.toNat_of_nonneg inside.1, Int.toNat_of_nonneg inside.2] at held
  exact stepHeld held

theorem stepLawful (c : Cursor) (s : Step) : Lawful c s (c.step s).1 (c.step s).2 := by
  have available : (c.remaining : Int) = max (c.data.length - c.offset) 0 := by
    unfold remaining
    omega
  by_cases below : c.offset < 0 ∨ s.size c < 0
  · rw [stepNegative below]
    constructor
    case negative => simp [below, eq_comm]
    case short => intro _ _ _; simp; omega
    case refused => intro _ _; rfl
    case moved => intro _ done; cases done
  · have inside : 0 ≤ c.offset ∧ 0 ≤ s.size c := by omega
    by_cases beyond : c.remaining < s.size c
    · rw [stepShort inside beyond]
      constructor
      case negative => simp [below]
      case short =>
        intro _ _ _
        simp only [Except.error.injEq, ReadError.short.injEq, Shortfall.mk.injEq]
        omega
      case refused => intro _ _; rfl
      case moved => intro _ done; cases done
    · rw [stepMoved inside (by omega)]
      constructor
      case negative => simp [below]
      case short => simp [beyond]
      case refused => intro _ done; cases done
      case moved =>
        intro _ done
        cases done
        exact ⟨rfl, rfl⟩

theorem finalCons (c : Cursor) (s : Step) (rest : List Step) :
    c.final (s :: rest) = (c.step s).2.final rest := by
  rw [final, run, final]
  cases (c.step s).2.run rest <;> rfl

theorem runAppend (c : Cursor) (before later : List Step) :
    c.run (before ++ later) = c.run before ++ (c.final before).run later := by
  induction before generalizing c with
  | nil => rfl
  | cons s rest ih => rw [List.cons_append, run, run, finalCons, ih, List.cons_append]

end Steps

section Inside

variable {c : Cursor}

def Inside (c : Cursor) : Prop := 0 ≤ c.offset ∧ c.offset ≤ c.data.length

def between (data : Octets) (start stop : Int) : Octets :=
  (data.drop start.toNat).take (stop - start).toNat

theorem betweenSelf (data : Octets) (place : Int) : between data place place = [] := by
  simp [between]

theorem betweenJoined (data : Octets) {start middle stop : Int} (here : 0 ≤ start)
    (first : start ≤ middle) (second : middle ≤ stop) :
    between data start middle ++ between data middle stop = between data start stop := by
  have whole : (stop - start).toNat = (middle - start).toNat + (stop - middle).toNat := by omega
  have further : start.toNat + (middle - start).toNat = middle.toNat := by omega
  rw [between, between, between, whole, List.take_add, List.drop_drop, further]

theorem stepInside (inside : c.Inside) (s : Step) :
    (c.step s).2.Inside ∧ (c.step s).2.data = c.data ∧ c.offset ≤ (c.step s).2.offset ∧
      (if (c.step s).1.isOk then c.covers s else []) =
        between c.data c.offset (c.step s).2.offset := by
  have room : (c.remaining : Int) = c.data.length - c.offset := by
    have := inside.2
    unfold remaining
    omega
  by_cases enough : 0 ≤ s.size c ∧ s.size c ≤ c.remaining
  · have moved : c.offset + s.size c - c.offset = s.size c := by omega
    rw [stepMoved ⟨inside.1, enough.1⟩ enough.2]
    refine ⟨⟨?_, ?_⟩, rfl, ?_, ?_⟩
    · exact Int.add_nonneg inside.1 enough.1
    · dsimp only
      omega
    · exact Int.le_add_of_nonneg_right enough.1
    · rw [between, moved]
      rfl
  · obtain ⟨e, refused⟩ : ∃ e, c.step s = (.error e, c) := by
      by_cases negative : s.size c < 0
      · exact ⟨_, stepNegative (.inr negative)⟩
      · exact ⟨_, stepShort ⟨inside.1, by omega⟩ (by omega)⟩
    rw [refused]
    exact ⟨inside, rfl, Int.le_refl _, (betweenSelf _ _).symm⟩

structure Forward (c : Cursor) (steps : List Step) : Prop where
  buffer : ∀ r ∈ c.run steps, r.2.data = c.data ∧ r.2.offset ≤ c.data.length
  rising : (c.offset :: (c.run steps).map fun r => r.2.offset).Pairwise (· ≤ ·)
  octets : c.covered steps = between c.data c.offset (c.final steps).offset

theorem Forward.finalLater {steps : List Step} (forward : c.Forward steps) :
    c.offset ≤ (c.final steps).offset := by
  rw [final]
  cases last : ((c.run steps).map Prod.snd).getLast? with
  | none => simp [List.getLastD_eq_getLast?, last]
  | some d =>
    obtain ⟨r, member, rfl⟩ := List.mem_map.mp (List.mem_of_getLast? last)
    have later := (List.pairwise_cons.mp forward.rising).1 r.2.offset (List.mem_map_of_mem member)
    rw [List.getLastD_eq_getLast?, last]
    exact later

theorem runForward (inside : c.Inside) (steps : List Step) : c.Forward steps := by
  induction steps generalizing c with
  | nil => exact ⟨by simp [run], List.pairwise_singleton _ _, (betweenSelf _ _).symm⟩
  | cons s rest ih =>
    obtain ⟨still, data, later, moved⟩ := stepInside inside s
    have onward := ih still
    constructor
    case buffer =>
      rw [run, List.forall_mem_cons]
      refine ⟨⟨data, data ▸ still.2⟩, fun r member => ?_⟩
      rw [← data]
      exact onward.buffer r member
    case rising =>
      rw [run, List.map_cons, List.pairwise_cons, List.forall_mem_cons]
      have all := List.pairwise_cons.mp onward.rising
      exact ⟨⟨later, fun offset member => Int.le_trans later (all.1 offset member)⟩, onward.rising⟩
    case octets =>
      rw [covered, moved, onward.octets, data, finalCons]
      exact betweenJoined c.data inside.1 later onward.finalLater

/-- Each step of a run is lawful where the steps before it left the cursor, and a refused one can be
left out. A run from inside the buffer goes forward, whatever is refused on the way. -/
theorem runLawful (c : Cursor) (steps : List Step) :
    (∀ before s later, steps = before ++ s :: later →
      ∃ outcome next, Lawful (c.final before) s outcome next ∧
        c.run steps = c.run before ++ (outcome, next) :: next.run later ∧
        ∀ e, outcome = .error e → c.run (before ++ later) = c.run before ++ next.run later) ∧
    (0 ≤ c.offset → c.offset ≤ c.data.length → c.Forward steps) := by
  constructor
  · rintro before s later rfl
    have law := stepLawful (c.final before) s
    refine ⟨_, _, law, ?_, fun e failed => ?_⟩
    · rw [runAppend, run]
    · rw [law.refused e failed, runAppend]
  · intro start stop
    exact runForward ⟨start, stop⟩ steps

def mixedSteps : List Step :=
  [.read 2, .number 9 .network, .skip (-1), .number 1 .reversed, .rest, .read 0]

theorem runLawfulMixed :
    let c : Cursor := ⟨[1, 2, 3, 4, 5], 1⟩
    mixedSteps = [.read 2] ++ .number 9 .network :: mixedSteps.drop 2 ∧
      c.run mixedSteps = c.run [.read 2] ++
        (.error (.short ⟨9, 2, 3⟩), ⟨c.data, 3⟩) :: run ⟨c.data, 3⟩ (mixedSteps.drop 2) ∧
      0 ≤ c.offset ∧ c.offset ≤ c.data.length ∧ c.Forward mixedSteps ∧
      c.covered mixedSteps = [2, 3, 4, 5] := by
  intro c
  have split : mixedSteps = [.read 2] ++ .number 9 .network :: mixedSteps.drop 2 := rfl
  obtain ⟨each, forward⟩ := runLawful c mixedSteps
  obtain ⟨outcome, next, law, run, _⟩ := each _ _ _ split
  have outcomeShort : outcome = .error (.short ⟨9, 2, 3⟩) := (law.short 9 2 3).mpr (by decide)
  have nextHere : next = ⟨c.data, 3⟩ := law.refused _ outcomeShort
  subst outcomeShort nextHere
  have goes := forward (by decide) (by decide)
  have octets := goes.octets
  have stop : (c.final mixedSteps).offset = 5 := by decide
  rw [stop] at octets
  exact ⟨split, run, by decide, by decide, goes, octets⟩

end Inside

end SidAttribute.Wire.Cursor
