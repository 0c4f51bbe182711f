import SidAttribute.Wire.Walk

/-! The walk of a level against the lists of elements that its octets can be split into. The walk
takes the longest list that the bound admits, and the octets leave no choice of it. -/
namespace SidAttribute.Wire

def declaredLength (data : Octets) : Nat := bigEndian ((data.drop 1).take 2)

def NoElement (data : Octets) : Prop :=
  data = [] ∨ data.length < 4 ∨ declaredLength data = 0 ∨ data.length < declaredLength data + 3

structure Admissible (n : Nat) (data : Octets) (es : List Element) (rest : Octets) : Prop where
  octets : data = encodeAll es ++ rest
  fits : ∀ e ∈ es, e.Fits
  few : es.length ≤ n + 1
  maximal : es.length ≤ n → NoElement rest

theorem declaredLengthFront (code high low reserved : UInt8) (rest : Octets) :
    declaredLength (code :: high :: low :: reserved :: rest) = high.toNat * 256 + low.toNat := by
  simp [declaredLength, bigEndian]

theorem scanStopped {data reason} (h : scanHead data = .stop reason) : NoElement data := by
  unfold scanHead at h
  split at h
  · exact .inl rfl
  · next code high low reserved rest =>
    have front := declaredLengthFront code high low reserved rest
    dsimp only at h
    split at h
    · next zero => exact .inr (.inr (.inl (by omega)))
    · split at h
      · next positive beyond =>
        refine .inr (.inr (.inr ?_))
        rw [front]
        simp only [List.length_cons]
        omega
      · simp at h
  · next empty long =>
    refine .inr (.inl ?_)
    match data, long with
    | [], _ => simp
    | [_], _ => simp
    | [_, _], _ => simp
    | [_, _, _], _ => simp
    | a :: b :: c :: d :: rest, long => exact absurd rfl (long a b c d rest)

theorem scanElementFound {data e rest} (h : scanHead data = .element e rest) : ¬ NoElement data := by
  obtain ⟨same, fits⟩ := scanElement h
  have top : declaredLength data = e.length := by
    unfold Element.Fits at fits
    rw [same]
    simp only [Element.encode, octets16, List.cons_append, List.nil_append, declaredLengthFront,
      UInt8.toNat_ofNat']
    omega
  have size := congrArg List.length same
  rw [List.length_append, encodeLength] at size
  have length : e.length = e.payload.length + 1 := rfl
  rintro (empty | short | zero | beyond)
  · subst empty
    simp at size
    omega
  · omega
  · omega
  · omega

theorem noElementIsStop {data} (h : NoElement data) : ∃ reason, scanHead data = .stop reason := by
  cases head : scanHead data with
  | stop reason => exact ⟨reason, rfl⟩
  | element e rest => exact absurd h (scanElementFound head)

theorem encodeAllCons (e : Element) (es : List Element) :
    encodeAll (e :: es) = e.encode ++ encodeAll es := by
  simp [encodeAll]

theorem encodeAllAppend (es fs : List Element) :
    encodeAll (es ++ fs) = encodeAll es ++ encodeAll fs := by
  simp [encodeAll]

theorem walkNext {n : Nat} {data e rest} (head : scanHead data = .element e rest) :
    walk (n + 1 : Nat) data = (walk n rest).cons e := by
  rw [walkElement head, if_neg (by omega)]
  have less : ((n + 1 : Nat) : Int) - 1 = n := by omega
  rw [less]

theorem walkLast {data e rest} (head : scanHead data = .element e rest) :
    walk (0 : Nat) data = ⟨[e], .tooMany⟩ := by
  rw [walkElement head, if_pos (by omega)]

theorem walkAdmissible (n : Nat) (data : Octets) :
    ∃ rest, Admissible n data (walk n data).elements rest := by
  induction n generalizing data with
  | zero =>
    cases head : scanHead data with
    | stop reason =>
      rw [walkStop head]
      exact ⟨data, rfl, by simp, by simp, fun _ => scanStopped head⟩
    | element e rest =>
      obtain ⟨same, fits⟩ := scanElement head
      rw [walkLast head]
      exact ⟨rest, by simpa [encodeAll] using same, by simpa using fits, by simp, by simp⟩
  | succ n ih =>
    cases head : scanHead data with
    | stop reason =>
      rw [walkStop head]
      exact ⟨data, rfl, by simp, by simp, fun _ => scanStopped head⟩
    | element e after =>
      obtain ⟨same, fits⟩ := scanElement head
      obtain ⟨rest, octets, allFit, few, maximal⟩ := ih after
      rw [walkNext head, Walk.cons]
      refine ⟨rest, ?_, ?_, ?_, ?_⟩
      · rw [encodeAllCons, List.append_assoc, ← octets]
        exact same
      · intro f member
        rcases List.mem_cons.mp member with rfl | later
        · exact fits
        · exact allFit f later
      · simp only [List.length_cons]
        omega
      · intro less
        exact maximal (by simpa using less)

theorem frontIsWalked (n : Nat) (es : List Element) (rest : Octets) (fits : ∀ e ∈ es, e.Fits)
    (few : es.length ≤ n + 1) : es <+: (walk n (encodeAll es ++ rest)).elements := by
  induction es generalizing n with
  | nil => exact List.nil_prefix
  | cons e es ih =>
    have head : scanHead (encodeAll (e :: es) ++ rest) = .element e (encodeAll es ++ rest) := by
      rw [encodeAllCons, List.append_assoc]
      exact scanEncoded e (fits e List.mem_cons_self) _
    have later := fun f member => fits f (List.mem_cons_of_mem e member)
    cases n with
    | zero =>
      have none : es = [] := List.length_eq_zero_iff.mp (by simpa using few)
      subst none
      exact ⟨[], (congrArg Walk.elements (walkLast head)).symm⟩
    | succ n =>
      rw [walkNext head]
      exact List.cons_prefix_cons.mpr ⟨rfl, ih n later (by simpa using few)⟩

theorem walkedExactly {n : Nat} {data es rest} (h : Admissible n data es rest) :
    (walk n data).elements = es := by
  obtain ⟨octets, fits, few, maximal⟩ := h
  subst octets
  induction es generalizing n with
  | nil =>
    obtain ⟨reason, head⟩ := noElementIsStop (maximal (by simp))
    rw [show encodeAll [] ++ rest = rest from rfl, walkStop head]
  | cons e es ih =>
    have head : scanHead (encodeAll (e :: es) ++ rest) = .element e (encodeAll es ++ rest) := by
      rw [encodeAllCons, List.append_assoc]
      exact scanEncoded e (fits e List.mem_cons_self) _
    have later := fun f member => fits f (List.mem_cons_of_mem e member)
    cases n with
    | zero =>
      have none : es = [] := List.length_eq_zero_iff.mp (by simpa using few)
      rw [walkLast head, none]
    | succ n =>
      have same := ih later (by simpa using few) (fun less => maximal (by simpa using less))
      rw [walkNext head, Walk.cons, same]

theorem stopExhausted {data reason} (h : scanHead data = .stop reason) :
    reason = .exhausted ↔ data = [] := by
  constructor
  · intro same
    subst same
    unfold scanHead at h
    split at h
    · rfl
    · dsimp only at h
      split at h
      · cases h
      · split at h <;> cases h
    · cases h
  · intro empty
    subst empty
    cases h
    rfl

theorem walkExhausted (n : Nat) (data : Octets) :
    (walk n data).stop = .exhausted ↔
      encodeAll (walk n data).elements = data ∧ (walk n data).elements.length ≤ n := by
  induction n generalizing data with
  | zero =>
    cases head : scanHead data with
    | stop reason =>
      rw [walkStop head]
      simpa [encodeAll, eq_comm] using stopExhausted head
    | element e rest =>
      rw [walkLast head]
      simp
  | succ n ih =>
    cases head : scanHead data with
    | stop reason =>
      rw [walkStop head]
      simpa [encodeAll, eq_comm] using stopExhausted head
    | element e rest =>
      rw [walkNext head, Walk.cons]
      dsimp only
      rw [ih, encodeAllCons, (scanElement head).1, List.append_cancel_left_eq, List.length_cons,
        Nat.add_le_add_iff_right]

theorem walkLongest (n : Nat) (data : Octets) :
    (∃ rest, Admissible n data (walk n data).elements rest) ∧
    (∀ es rest, Admissible n data es rest → es = (walk n data).elements) ∧
    (∀ es rest, data = encodeAll es ++ rest → (∀ e ∈ es, e.Fits) → es.length ≤ n + 1 →
      es <+: (walk n data).elements) ∧
    (∀ es : List Element, (∀ e ∈ es, e.Fits) → es.length ≤ n + 1 →
      (walk n (encodeAll es)).elements = es) := by
  refine ⟨walkAdmissible n data, ?_, ?_, ?_⟩
  · intro es rest admissible
    exact (walkedExactly admissible).symm
  · intro es rest octets fits few
    rw [octets]
    exact frontIsWalked n es rest fits few
  · intro es fits few
    have whole : Admissible n (encodeAll es) es [] :=
      ⟨(List.append_nil _).symm, fits, few, fun _ => .inl rfl⟩
    exact walkedExactly whole

theorem walkLongestOfTwo :
    ∃ es : List Element, (∀ e ∈ es, e.Fits) ∧ es.length ≤ 1 + 1 ∧
      (walk (1 : Nat) (encodeAll es)).elements = es ∧
      es <+: (walk (1 : Nat) (encodeAll es ++ [5, 0, 9, 0])).elements := by
  have fits : ∀ e ∈ [⟨1, 0, [0, 7]⟩, (⟨99, 255, []⟩ : Element)], e.Fits := by decide
  have all := walkLongest 1 (encodeAll [⟨1, 0, [0, 7]⟩, ⟨99, 255, []⟩] ++ [5, 0, 9, 0])
  exact ⟨_, fits, by decide, all.2.2.2 _ fits (by decide), all.2.2.1 _ _ rfl fits (by decide)⟩

end SidAttribute.Wire
