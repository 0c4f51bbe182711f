import SidAttribute.Text.Blank
import SidAttribute.Text.Digit
import SidAttribute.Text.Quoted

/-! Reading whole numbers from text: blanks around, one sign, decimal digits of any script, single
underscores between digits. Inside plain text only the plain blanks count as blanks. -/
namespace SidAttribute.Text

inductive NumeralError where
  | malformed (text : String)
  | tooLong (digits : Nat)
  | unwritten
  deriving DecidableEq, Repr

/-- At most this many digits are converted, in either direction. -/
def maxDigits : Nat := 4300

def isNumeralBlank (c : Char) : Bool := isPlainBlank c || (127 < c.toNat && isBlank c)

def digitRun : List Char → Option (List Nat × List Char)
  | [] => some ([], [])
  | '_' :: _ => none
  | c :: rest =>
    match digit? c with
    | none => some ([], c :: rest)
    | some d =>
      match rest with
      | '_' :: after =>
        match digitRun after with
        | some (e :: ds, tail) => some (d :: e :: ds, tail)
        | _ => none
      | after => (digitRun after).map fun (ds, tail) => (d :: ds, tail)

def digitsValue (ds : List Nat) : Nat := ds.foldl (fun value d => value * 10 + d) 0

def NumeralError.message : NumeralError → String
  | .malformed text =>
    "invalid literal for int() with base 10: " ++ String.ofList ((quotedChars text.toList).take 200)
  | .tooLong digits =>
    "Exceeds the limit (4300 digits) for integer string conversion: value has " ++
    toString digits ++ " digits; use sys.set_int_max_str_digits() to increase the limit"
  | .unwritten =>
    "Exceeds the limit (4300 digits) for integer string conversion; " ++
    "use sys.set_int_max_str_digits() to increase the limit"

def readInt (text : String) : Except NumeralError Int :=
  let body := strip isNumeralBlank text.toList
  let (negative, unsigned) := match body with
    | '-' :: rest => (true, rest)
    | '+' :: rest => (false, rest)
    | cs => (false, cs)
  match digitRun unsigned with
  | none => .error (.malformed text)
  | some (ds, tail) =>
    if maxDigits < ds.length then .error (.tooLong ds.length)
    else if ds.isEmpty || !tail.isEmpty then .error (.malformed text)
    else .ok (if negative then -(digitsValue ds : Int) else digitsValue ds)

section Natural

theorem digitNoBlank {c : Char} (digit : c.isDigit = true) : isBlank c = false := by
  have bounds := digitBounds digit
  unfold isBlank isPlainBlank
  simp only [Bool.or_eq_false_iff, Bool.and_eq_false_iff, decide_eq_false_iff_not,
    beq_eq_false_iff_ne]
  omega

theorem digitRunAll {cs : List Char} (digits : ∀ c ∈ cs, c.isDigit = true) :
    digitRun cs = some (cs.map fun c => c.toNat - 48, []) := by
  induction cs with
  | nil => rfl
  | cons c rest ih =>
    have later : ∀ d ∈ rest, d.isDigit = true := fun d member =>
      digits d (List.mem_cons_of_mem c member)
    have digit := digits c List.mem_cons_self
    have step : digitRun (c :: rest) =
        (digitRun rest).map fun (ds, tail) => ((c.toNat - 48) :: ds, tail) := by
      rw [digitRun]
      · rw [digitOf digit]
        cases rest with
        | nil => rfl
        | cons d others =>
          have noScore := @digitNot d '_' (later d List.mem_cons_self) (by decide)
          dsimp only
          split
          · next same => exact absurd (List.cons.inj same).1 noScore
          · rfl
      · exact digitNot digit (by decide)
    rw [step, ih later]
    rfl

theorem digitsValueChars (cs : List Char) :
    digitsValue (cs.map fun c => c.toNat - 48) = Nat.ofDigitChars 10 cs 0 := by
  rw [digitsValue, List.foldl_map, Nat.ofDigitChars_eq_foldl]
  congr
  funext value c
  rw [Nat.mul_comm]
  rfl

theorem readIntNatural {n : Nat} (short : (Nat.toDigits 10 n).length ≤ maxDigits) :
    readInt (toString n) = .ok n := by
  have digits : ∀ c ∈ Nat.toDigits 10 n, c.isDigit = true := fun c member =>
    Nat.isDigit_of_mem_toDigits (by decide) (by decide) member
  have noBlank : ∀ c ∈ Nat.toDigits 10 n, isNumeralBlank c = false := by
    intro c member
    have bare := digitNoBlank (digits c member)
    have plain : isPlainBlank c = false :=
      Bool.eq_false_iff.mpr fun blank => Bool.eq_false_iff.mp bare (plainBlankIsBlank c blank)
    rw [isNumeralBlank, plain, bare, Bool.and_false, Bool.or_false]
  have bare : strip isNumeralBlank (Nat.toDigits 10 n) = Nat.toDigits 10 n :=
    stripSelf.mpr ⟨fun c first => noBlank c (List.mem_of_mem_head? first),
      fun c last => noBlank c (List.mem_of_getLast? last)⟩
  have text : (toString n).toList = Nat.toDigits 10 n := by
    rw [Nat.toString_eq_ofList_toDigits, String.toList_ofList]
  obtain ⟨c, cs, made⟩ := List.exists_cons_of_ne_nil (Nat.toDigits_ne_nil (n := n) (b := 10))
  have digit := digits c (made ▸ List.mem_cons_self)
  have unsigned : c ≠ '-' ∧ c ≠ '+' := ⟨digitNot digit (by decide), digitNot digit (by decide)⟩
  have some : ((Nat.toDigits 10 n).map fun c => c.toNat - 48).isEmpty = false := by rw [made]; rfl
  unfold readInt
  rw [text, bare, made]
  simp only [List.cons.injEq, unsigned.1, unsigned.2, false_and, imp_self, implies_true]
  rw [← made, digitRunAll digits]
  dsimp only
  rw [List.length_map, if_neg (Nat.not_lt.mpr short), some, digitsValueChars,
    Nat.ofDigitChars_ten_toDigits]
  rfl

end Natural

section Short

theorem digitRunSmall {cs tail : List Char} {ds : List Nat} (run : digitRun cs = some (ds, tail)) :
    ∀ d ∈ ds, d < 10 := by
  fun_induction digitRun cs generalizing ds tail with
  | case1 => simp at run; simp [run]
  | case2 => cases run
  | case3 => simp at run; simp [run.1]
  | case4 c _ d digit after e es rest more ih =>
    simp only [Option.some.injEq, Prod.mk.injEq] at run
    rw [← run.1]
    exact List.forall_mem_cons.mpr ⟨digitSmall digit, ih more⟩
  | case5 => cases run
  | case6 c _ d digit after _ ih =>
    obtain ⟨⟨es, rest⟩, more, same⟩ := Option.map_eq_some_iff.mp run
    cases same
    exact List.forall_mem_cons.mpr ⟨digitSmall digit, ih more⟩

theorem digitsFoldSmall {ds : List Nat} (small : ∀ d ∈ ds, d < 10) (v : Nat) :
    ds.foldl (fun value d => value * 10 + d) v < (v + 1) * Nat.pow 10 ds.length := by
  induction ds generalizing v with
  | nil => simp
  | cons d rest ih =>
    have first := small d List.mem_cons_self
    have step : v * 10 + d + 1 ≤ (v + 1) * 10 := by omega
    calc (d :: rest).foldl (fun value d => value * 10 + d) v
        < (v * 10 + d + 1) * Nat.pow 10 rest.length :=
          ih (fun e member => small e (List.mem_cons_of_mem d member)) _
      _ ≤ (v + 1) * 10 * Nat.pow 10 rest.length := Nat.mul_le_mul_right _ step
      _ = (v + 1) * Nat.pow 10 (d :: rest).length := by
        rw [List.length_cons, Nat.pow, Nat.mul_assoc, Nat.mul_comm 10]
        rfl

theorem readIntShort {text : String} {n : Int} (read : readInt text = .ok n) :
    (Nat.toDigits 10 n.natAbs).length ≤ maxDigits := by
  unfold readInt at read
  dsimp only at read
  split at read
  · cases read
  · next ds tail run =>
    split at read
    · cases read
    · next short =>
      split at read
      · cases read
      · have value : n.natAbs = digitsValue ds := by
          simp only [Except.ok.injEq] at read
          split at read <;> omega
        have below : ∀ m, ds.length ≤ m → digitsValue ds < 10 ^ m := by
          intro m within
          have value := digitsFoldSmall (digitRunSmall run) 0
          rw [Nat.zero_add, Nat.one_mul] at value
          exact Nat.lt_of_lt_of_le value (Nat.pow_le_pow_right (by decide) within)
        rw [value]
        exact (Nat.length_toDigits_le_iff (by decide) (by decide)).mpr
          (below maxDigits (Nat.not_lt.mp short))

end Short

end SidAttribute.Text
