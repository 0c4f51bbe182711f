import SidAttribute.Log.Listener
import SidAttribute.Proofs.Kind

/-! Reading an address back from its text. A reader takes any text of eight groups, with one double
colon for one or more groups of zeros and with four decimal octets for the last two groups; of the text
that is written for an address it gives the octets of that address, so no two share their text. -/
namespace SidAttribute.Sid
open Text Wire Log.Listener

def group? (cs : List Char) : Option Nat := if cs.length ≤ 4 then digits? 16 cs else none

def octet? (cs : List Char) : Option Nat :=
  if cs.head? = some '0' ∧ cs ≠ ['0'] then none else (digits? 10 cs).filter fun n => n < 256

def quad? (cs : List Char) : Option Groups :=
  match (pieces '.' cs).mapM octet? with
  | some [a, b, c, d] => some [a * 256 + b, c * 256 + d]
  | _ => none

def groupsOf? : List (List Char) → Option Groups
  | [] => some []
  | [last] => ((group? last).map fun g => [g]).or (quad? last)
  | word :: rest => do
    let g ← group? word
    let gs ← groupsOf? rest
    some (g :: gs)

def filled? (front back : Groups) : Option Groups :=
  if front.length + back.length < 8 then
    some (front ++ List.replicate (8 - (front.length + back.length)) 0 ++ back)
  else none

def readGroups (cs : List Char) : Option Groups :=
  match splitGap cs with
  | none => (groupsOf? (pieces ':' cs)).filter fun gs => gs.length = 8
  | some (before, after) => do
    let front ← (side before).mapM group?
    let back ← groupsOf? (side after)
    filled? front back

def readAddress (s : String) : Option Octets :=
  (readGroups s.toList).map fun gs => gs.flatMap octets16

section Digits

variable {base n : Nat}

theorem digitRead : ∀ d < 16, hexValue? (Nat.digitChar d) = some d := by decide

def addDigit (base n : Nat) (c : Char) : Option Nat :=
  (hexValue? c).bind fun d => if d < base then some (n * base + d) else none

theorem addDigitOf {d : Nat} (below : d < base) (high : base ≤ 16) (n : Nat) :
    addDigit base n (Nat.digitChar d) = some (n * base + d) := by
  simp [addDigit, digitRead d (by omega), below]

theorem digitsFolded (low : 1 < base) (high : base ≤ 16) (n : Nat) :
    (Nat.toDigits base n).foldlM (addDigit base) 0 = some n := by
  induction n using Nat.strongRecOn with
  | ind n ih =>
    rcases Nat.lt_or_ge n base with small | large
    · rw [Nat.toDigits_of_lt_base small, List.foldlM_cons, addDigitOf small high]
      simp
    · have less : n / base < n := Nat.div_lt_self (by omega) low
      have last : n % base < base := Nat.mod_lt n (by omega)
      rw [Nat.toDigits_of_base_le low large, List.foldlM_append, ih _ less]
      simp [addDigitOf last high, Nat.div_add_mod']

theorem digitsBack (low : 1 < base) (high : base ≤ 16) (n : Nat) :
    digits? base (Nat.toDigits base n) = some n := by
  have some : (Nat.toDigits base n).isEmpty = false := by simp [Nat.toDigits_ne_nil]
  rw [digits?, some, if_neg Bool.false_ne_true]
  exact digitsFolded low high n

theorem digitsChars (low : 1 < base) (n : Nat) :
    ∀ c ∈ Nat.toDigits base n, ∃ d, c = Nat.digitChar d := by
  induction n using Nat.strongRecOn with
  | ind n ih =>
    intro c member
    rcases Nat.lt_or_ge n base with small | large
    · rw [Nat.toDigits_of_lt_base small, List.mem_singleton] at member
      exact ⟨n, member⟩
    · rw [Nat.toDigits_of_base_le low large, List.mem_append, List.mem_singleton] at member
      rcases member with front | same
      · exact ih (n / base) (Nat.div_lt_self (by omega) low) c front
      · exact ⟨n % base, same⟩

theorem digitsApart (low : 1 < base) (n : Nat) :
    ':' ∉ Nat.toDigits base n ∧ '.' ∉ Nat.toDigits base n := by
  constructor
  all_goals
    intro member
    obtain ⟨d, same⟩ := digitsChars low n _ member
    exact Nat.digitChar_ne _ (by decide) same.symm

theorem digitsBare (low : 1 < base) (n : Nat) (zero : (Nat.toDigits base n).head? = some '0') :
    n = 0 := by
  induction n using Nat.strongRecOn with
  | ind n ih =>
    rcases Nat.lt_or_ge n base with small | large
    · rw [Nat.toDigits_of_lt_base small, List.head?_singleton, Option.some_inj] at zero
      exact Nat.digitChar_eq_zero.mp zero
    · rw [Nat.toDigits_of_base_le low large, List.head?_append_of_ne_nil _ Nat.toDigits_ne_nil] at zero
      have none := ih (n / base) (Nat.div_lt_self (by omega) low) zero
      have less := Nat.lt_of_div_eq_zero (by omega) none
      omega

end Digits

section Words

def Word (cs : List Char) : Prop := cs ≠ [] ∧ ':' ∉ cs

theorem groupWord (g : Nat) : Word (groupText g) :=
  ⟨Nat.toDigits_ne_nil, (digitsApart (by decide) g).1⟩

theorem groupBack {g : Nat} (below : g < 65536) : group? (groupText g) = some g := by
  have short : (groupText g).length ≤ 4 :=
    (Nat.length_toDigits_le_iff (by decide) (by decide)).mpr below
  rw [group?, if_pos short]
  exact digitsBack (by decide) (by decide) g

theorem joinMore (separator : Char) (w v : List Char) (more : List (List Char)) :
    joinWith separator (w :: v :: more) = w ++ separator :: joinWith separator (v :: more) := rfl

theorem joinWithIs (separator : Char) (ws : List (List Char)) :
    joinWith separator ws = List.intercalate [separator] ws := by
  induction ws with
  | nil => rfl
  | cons w rest ih =>
    cases rest with
    | nil => simp [joinWith]
    | cons v more => simp [joinMore, ih, List.intercalate_cons_cons]

theorem joinedWords {separator : Char} {ws : List (List Char)} (filled : ws ≠ [])
    (apart : ∀ w ∈ ws, separator ∉ w) : pieces separator (joinWith separator ws) = ws := by
  rw [joinWithIs]
  exact piecesJoined filled apart

theorem joinedSome {ws : List (List Char)} (words : ∀ w ∈ ws, Word w) (filled : ws ≠ []) :
    ∃ c rest, joinWith ':' ws = c :: rest ∧ c ≠ ':' := by
  obtain ⟨w, more, rfl⟩ := List.exists_cons_of_ne_nil filled
  obtain ⟨inhabited, apart⟩ := words w List.mem_cons_self
  obtain ⟨c, rest, rfl⟩ := List.exists_cons_of_ne_nil inhabited
  have other : c ≠ ':' := fun same => apart (same ▸ List.mem_cons_self)
  cases more with
  | nil => exact ⟨c, rest, rfl, other⟩
  | cons v more => exact ⟨c, _, rfl, other⟩

theorem sideWords {ws : List (List Char)} (words : ∀ w ∈ ws, Word w) :
    side (joinWith ':' ws) = ws := by
  cases ws with
  | nil => rfl
  | cons w rest =>
    obtain ⟨c, cs, made, _⟩ := joinedSome words (by simp)
    have filled : (joinWith ':' (w :: rest)).isEmpty = false := by rw [made]; rfl
    rw [side, filled, if_neg Bool.false_ne_true]
    exact joinedWords (by simp) fun v member => (words v member).2

variable {c : Char} {w : List Char}

theorem gapSingle (other : c ≠ ':') (cs : List Char) :
    splitGap (c :: cs) = (splitGap cs).map fun gap => (c :: gap.1, gap.2) := by
  rw [splitGap]
  exact fun _ same _ => other same

theorem gapColon (other : c ≠ ':') (cs : List Char) :
    splitGap (':' :: c :: cs) = (splitGap (c :: cs)).map fun gap => (':' :: gap.1, gap.2) := by
  rw [splitGap]
  exact fun _ _ same => other (List.cons.inj same).1

theorem gapWord (apart : ':' ∉ w) (cs : List Char) :
    splitGap (w ++ cs) = (splitGap cs).map fun gap => (w ++ gap.1, gap.2) := by
  induction w with
  | nil => simp
  | cons c rest ih =>
    rw [List.mem_cons, not_or] at apart
    rw [List.cons_append, gapSingle (Ne.symm apart.1), ih apart.2]
    simp [Function.comp_def]

theorem gapBehind {ws : List (List Char)} (words : ∀ w ∈ ws, Word w) (tail : List Char) :
    splitGap (joinWith ':' ws ++ tail) =
      (splitGap tail).map fun gap => (joinWith ':' ws ++ gap.1, gap.2) := by
  induction ws with
  | nil => simp [joinWith]
  | cons w rest ih =>
    rw [List.forall_mem_cons] at words
    cases rest with
    | nil => exact gapWord words.1.2 tail
    | cons v more =>
      obtain ⟨c, cs, made, other⟩ := joinedSome words.2 (by simp)
      have later := ih words.2
      rw [made, List.cons_append] at later
      rw [joinMore, made, List.append_assoc, gapWord words.1.2, List.cons_append, List.cons_append,
        gapColon other, later]
      simp [Function.comp_def]

end Words

section Texts

structure Stands (ws : List (List Char)) (gs : Groups) : Prop where
  words : ∀ w ∈ ws, Word w
  read : groupsOf? ws = some gs

def plainText (gs : Groups) : List Char := joinWith ':' (gs.map groupText)

variable {ws : List (List Char)} {g : Nat} {gs front back : Groups}

theorem standsBehind (below : g < 65536) (filled : ws ≠ []) (stands : Stands ws gs) :
    Stands (groupText g :: ws) (g :: gs) := by
  refine ⟨List.forall_mem_cons.mpr ⟨groupWord g, stands.words⟩, ?_⟩
  rw [groupsOf?.eq_3 _ _ filled, groupBack below, stands.read]
  rfl

theorem standsPlain (below : ∀ g ∈ gs, g < 65536) : Stands (gs.map groupText) gs := by
  induction gs with
  | nil => exact ⟨by simp, rfl⟩
  | cons g rest ih =>
    rw [List.forall_mem_cons] at below
    cases rest with
    | nil => exact ⟨by simpa using groupWord g, by simp [groupsOf?, groupBack below.1]⟩
    | cons next more => exact standsBehind below.1 (by simp) (ih below.2)

theorem wordsBack (below : ∀ g ∈ gs, g < 65536) : (gs.map groupText).mapM group? = some gs := by
  induction gs with
  | nil => rfl
  | cons g rest ih =>
    rw [List.forall_mem_cons] at below
    simp [groupBack below.1, ih below.2]

theorem plainBack (below : ∀ g ∈ gs, g < 65536) (eight : gs.length = 8) :
    readGroups (plainText gs) = some gs := by
  have stands := standsPlain below
  have filled : gs.map groupText ≠ [] := by
    rintro none
    simp [List.map_eq_nil_iff.mp none] at eight
  have gap : splitGap (plainText gs) = none := by
    have whole := gapBehind stands.words []
    rwa [List.append_nil] at whole
  have words : pieces ':' (plainText gs) = gs.map groupText :=
    joinedWords filled fun w member => (stands.words w member).2
  simp [readGroups, gap, words, stands.read, eight]

theorem gapBack {zeros : Nat} (below : ∀ g ∈ front, g < 65536) (stands : Stands ws back)
    (eight : front.length + zeros + back.length = 8) (one : 0 < zeros) :
    readGroups (plainText front ++ ':' :: ':' :: joinWith ':' ws) =
      some (front ++ List.replicate zeros 0 ++ back) := by
  have words := (standsPlain below).words
  have gap : splitGap (plainText front ++ ':' :: ':' :: joinWith ':' ws) =
      some (plainText front, joinWith ':' ws) := by
    refine (gapBehind words _).trans ?_
    simp [splitGap, plainText]
  have left : side (plainText front) = front.map groupText := sideWords words
  have few : front.length + back.length < 8 := by omega
  have size : 8 - (front.length + back.length) = zeros := by omega
  simp [readGroups, gap, left, sideWords stands.words, wordsBack below, stands.read, filled?, few, size]

end Texts

section Quads

theorem octetBack {n : Nat} (below : n < 256) : octet? (Nat.toDigits 10 n) = some n := by
  have bare : ¬ ((Nat.toDigits 10 n).head? = some '0' ∧ Nat.toDigits 10 n ≠ ['0']) := by
    rintro ⟨zero, more⟩
    rw [digitsBare (by decide) n zero] at more
    exact more (Nat.toDigits_zero 10)
  rw [octet?, if_neg bare, digitsBack (by decide) (by decide)]
  simp [below]

theorem joinedApart {separator c : Char} {ws : List (List Char)} (other : c ≠ separator)
    (apart : ∀ w ∈ ws, c ∉ w) : c ∉ joinWith separator ws := by
  induction ws with
  | nil => simp [joinWith]
  | cons w rest ih =>
    rw [List.forall_mem_cons] at apart
    cases rest with
    | nil => exact apart.1
    | cons v more => simp [joinMore, other, apart.1, ih apart.2]

def octetTexts (a b : Nat) : List (List Char) :=
  [a / 256, a % 256, b / 256, b % 256].map (Nat.toDigits 10)

variable {a b : Nat}

theorem standsDotted (first : a < 65536) (second : b < 65536) : Stands [dotted [a, b]] [a, b] := by
  have joined : dotted [a, b] = joinWith '.' (octetTexts a b) := rfl
  have apart : ∀ c, ':' = c ∨ '.' = c → ∀ w ∈ octetTexts a b, c ∉ w := by
    intro c mark w member
    obtain ⟨n, _, rfl⟩ := List.mem_map.mp member
    rcases mark with rfl | rfl
    · exact (digitsApart (by decide) n).1
    · exact (digitsApart (by decide) n).2
  have long : 4 < (dotted [a, b]).length := by
    have some : ∀ n, 0 < (Nat.toDigits 10 n).length := fun _ => Nat.length_toDigits_pos
    have parts := And.intro (some (a / 256)) (And.intro (some (a % 256)) (some (b / 256)))
    simp only [joined, octetTexts, List.map_cons, joinMore, List.length_append, List.length_cons]
    omega
  have octets : (octetTexts a b).mapM octet? = some [a / 256, a % 256, b / 256, b % 256] := by
    simp [octetTexts, octetBack (show a / 256 < 256 by omega), octetBack (Nat.mod_lt a (by decide)),
      octetBack (show b / 256 < 256 by omega), octetBack (Nat.mod_lt b (by decide))]
  have quad : quad? (dotted [a, b]) = some [a, b] := by
    rw [quad?, joined, joinedWords (by simp [octetTexts]) (apart '.' (.inr rfl)), octets]
    simp only [Nat.div_add_mod']
  have word : Word (dotted [a, b]) :=
    ⟨List.ne_nil_of_length_pos (by omega), joinedApart (by decide) (apart ':' (.inl rfl))⟩
  exact ⟨by simpa using word, by simp [groupsOf?, group?, Nat.not_le.mpr long, quad]⟩

end Quads

section Runs

theorem leadingRun (gs : Groups) :
    ∃ rest, gs = List.replicate (leadingZeros gs) 0 ++ rest := by
  induction gs with
  | nil => exact ⟨[], rfl⟩
  | cons g rest ih =>
    cases g with
    | zero =>
      obtain ⟨after, same⟩ := ih
      refine ⟨after, ?_⟩
      rw [leadingZeros, List.replicate_succ, List.cons_append, ← same]
    | succ g => exact ⟨(g + 1) :: rest, rfl⟩

def RunIn (gs : Groups) (position : Nat) (run : ZeroRun) : Prop :=
  ∃ before after, gs = before ++ List.replicate run.length 0 ++ after ∧
    run.start = position + before.length ∧ 2 ≤ run.length

theorem longestRunIn {gs : Groups} {position : Nat} {run : ZeroRun}
    (found : longestRun position gs = some run) : RunIn gs position run := by
  induction gs generalizing position run with
  | nil => cases found
  | cons g rest ih =>
    have here : 2 ≤ leadingZeros (g :: rest) →
        RunIn (g :: rest) position ⟨position, leadingZeros (g :: rest)⟩ := by
      intro two
      obtain ⟨after, same⟩ := leadingRun (g :: rest)
      exact ⟨[], after, same, rfl, two⟩
    rw [longestRun] at found
    split at found
    · next later there =>
      obtain ⟨before, after, same, start, two⟩ := ih there
      split at found
      · next long =>
        cases found
        exact here (by omega)
      · cases found
        refine ⟨g :: before, after, by simp [← same], ?_, two⟩
        rw [List.length_cons]
        omega
    · split at found
      · next two =>
        cases found
        exact here two
      · cases found

end Runs

section Addresses

theorem runWritten {before after : Groups} {run : ZeroRun} {gs : Groups}
    (found : longestRun 0 gs = some run) (parts : gs = before ++ List.replicate run.length 0 ++ after)
    (start : run.start = before.length) (below : ∀ g ∈ gs, g < 65536)
    (eight : before.length + run.length + after.length = 8) :
    ∃ ws, Stands ws after ∧
      textChars gs = plainText before ++ ':' :: ':' :: joinWith ':' ws := by
  have right : ∀ g ∈ after, g < 65536 := fun g member => below g (by simp [parts, member])
  rw [textChars, found]
  dsimp only
  split
  · next six =>
    have empty : before = [] := List.length_eq_zero_iff.mp (by omega)
    match after, (show after.length = 2 by omega) with
    | [a, b], _ =>
      simp only [List.forall_mem_cons] at right
      have last : gs.drop 6 = [a, b] := by simp [parts, empty, six.2]
      refine ⟨[dotted [a, b]], standsDotted right.1 right.2.1, ?_⟩
      rw [last, empty]
      rfl
  · split
    · next five =>
      have empty : before = [] := List.length_eq_zero_iff.mp (by omega)
      match after, (show after.length = 3 by omega) with
      | [g, a, b], _ =>
        simp only [List.forall_mem_cons] at right
        have ones : g = 0xffff := by simpa [parts, empty, five.2.1] using five.2.2
        have last : gs.drop 6 = [a, b] := by simp [parts, empty, five.2.1]
        subst ones
        refine ⟨[groupText 0xffff, dotted [a, b]], ?_, ?_⟩
        · exact standsBehind right.1 (by simp) (standsDotted right.2.1 right.2.2.1)
        · rw [last, empty]
          rfl
    · have front : gs.take run.start = before := by simp [parts, start]
      have back : gs.drop (run.start + run.length) = after := by simp [parts, start]
      refine ⟨after.map groupText, standsPlain right, ?_⟩
      rw [front, back]
      rfl

theorem textBack {gs : Groups} (below : ∀ g ∈ gs, g < 65536) (eight : gs.length = 8) :
    readGroups (textChars gs) = some gs := by
  cases found : longestRun 0 gs with
  | none =>
    rw [textChars, found]
    exact plainBack below eight
  | some run =>
    obtain ⟨before, after, parts, start, two⟩ := longestRunIn found
    rw [Nat.zero_add] at start
    have sizes : before.length + run.length + after.length = 8 := by
      rw [← eight, parts, List.length_append, List.length_append, List.length_replicate]
    obtain ⟨ws, stands, written⟩ := runWritten found parts start below sizes
    have left : ∀ g ∈ before, g < 65536 := fun g member => below g (by simp [parts, member])
    rw [written, gapBack left stands sizes (by omega), parts]

theorem octetsBack {octets : Octets} (even : octets.length % 2 = 0) :
    (groups octets).flatMap octets16 = octets := by
  fun_induction groups octets with
  | case1 high low rest ih =>
    have later := ih (by simp at even; omega)
    rw [List.flatMap_cons, later, octets16Of]
    rfl
  | case2 octets short =>
    cases octets with
    | nil => rfl
    | cons a more =>
      cases more with
      | nil => cases even
      | cons b rest => exact absurd rfl (short a b rest)

theorem addressBack {octets : Octets} (sixteen : octets.length = 16) :
    readAddress (addressText octets) = some octets := by
  have eight : (groups octets).length = 8 := by rw [groupsLength, sixteen]
  rw [readAddress, addressText, String.toList_ofList, textBack (groupsBound octets) eight,
    Option.map_some, octetsBack (by rw [sixteen])]

end Addresses

section Records
open Decode

def shownSid (d : Decoded) : Option Value := Tree.get? d.tree "sid_value"

variable {nested : Scope → Octets → Decoded} {e : Element} {d : Decoded}

theorem sidShown (read : unpack nested e .sidInformation = .ok d) :
    shownSid d = some (.text (addressText (e.payload.take 16))) := by
  rw [shownSid, (unpackMade read).2]
  rfl

theorem sidReadBack (read : unpack nested e .sidInformation = .ok d) :
    readAddress (addressText (e.payload.take 16)) = some (e.payload.take 16) := by
  have enough : 20 ≤ e.payload.length := (unpackMade read).1
  apply addressBack
  rw [List.length_take]
  omega

theorem sidTextReadsBack {nested other : Scope → Octets → Decoded} {e f : Element}
    (enough : 20 ≤ e.payload.length) (more : 20 ≤ f.payload.length) :
    ∃ d c text, unpack nested e .sidInformation = .ok d ∧ unpack other f .sidInformation = .ok c ∧
      shownSid d = some (.text text) ∧ readAddress text = some (e.payload.take 16) ∧
      (e.payload.take 16 ≠ f.payload.take 16 → shownSid c ≠ shownSid d) := by
  obtain ⟨d, first⟩ : ∃ d, unpack nested e .sidInformation = .ok d := unpackFits enough
  obtain ⟨c, second⟩ : ∃ c, unpack other f .sidInformation = .ok c := unpackFits more
  refine ⟨d, c, _, first, second, sidShown first, sidReadBack first, fun apart same => apart ?_⟩
  rw [sidShown first, sidShown second, Option.some_inj, Value.text.injEq] at same
  have back := sidReadBack second
  rw [same, sidReadBack first] at back
  exact Option.some.inj back

def mappedRecord : Element :=
  ⟨1, 0, List.replicate 10 0 ++ [255, 255, 192, 0, 2, 1, 64, 0, 19, 0]⟩

def nextRecord : Element :=
  ⟨1, 7, List.replicate 10 0 ++ [255, 255, 192, 0, 2, 2, 64, 0, 19, 0, 9]⟩

theorem sidTextMapped :
    20 ≤ mappedRecord.payload.length ∧ 20 ≤ nextRecord.payload.length ∧
    ∃ d c, unpack silent mappedRecord .sidInformation = .ok d ∧
      unpack silent nextRecord .sidInformation = .ok c ∧
      shownSid d = some (.text "::ffff:192.0.2.1") ∧
      readAddress "::ffff:192.0.2.1" = some (mappedRecord.payload.take 16) ∧
      shownSid c ≠ shownSid d := by
  have enough : 20 ≤ mappedRecord.payload.length := by decide
  have more : 20 ≤ nextRecord.payload.length := by decide
  obtain ⟨d, c, text, first, second, shown, back, apart⟩ :=
    @sidTextReadsBack silent silent _ _ enough more
  have written : text = "::ffff:192.0.2.1" := by
    rw [sidShown first, Option.some_inj, Value.text.injEq] at shown
    rw [← shown]
    decide +kernel
  subst written
  exact ⟨enough, more, d, c, first, second, shown, back, apart (by decide)⟩

end Records

end SidAttribute.Sid
