import Mathlib.Data.List.Forall2
import SidAttribute.Text.Hex

/-! The grammar of hexadecimal text. It is said by tables of characters: two digits to an octet, in
either case, behind one mark or none, with separators anywhere. The reader takes what follows the
grammar, for the octets that are written, and refuses everything else; what the dump writes follows it
however its digits are cased and wherever separators are put in. -/
namespace SidAttribute.Text

def hexSeparators : List Char := [':', ' ', '\t', '\n', '\r', '\x0b', '\x0c']

def hexMarks : List (List Char) := [[], ['0', 'x'], ['0', 'X']]

def lowerHexDigits : List Char := "0123456789abcdef".toList

def upperHexDigits : List Char := "0123456789ABCDEF".toList

def IsHexDigit (c : Char) (n : Nat) : Prop :=
  lowerHexDigits[n]? = some c ∨ upperHexDigits[n]? = some c

instance (c : Char) (n : Nat) : Decidable (IsHexDigit c n) := by
  unfold IsHexDigit; infer_instance

inductive Spelled : List Char → List UInt8 → Prop where
  | nil : Spelled [] []
  | octet {high low : Char} {b : UInt8} {digits : List Char} {octets : List UInt8}
      (first : IsHexDigit high (b.toNat / 16)) (second : IsHexDigit low (b.toNat % 16))
      (rest : Spelled digits octets) : Spelled (high :: low :: digits) (b :: octets)

def sifted (text : List Char) : List Char := text.filter (· ∉ hexSeparators)

def Spells (text : String) (octets : List UInt8) : Prop :=
  ∃ mark ∈ hexMarks, ∃ digits, sifted text.toList = mark ++ digits ∧ Spelled digits octets

inductive Respelled : List Char → List Char → Prop where
  | nil : Respelled [] []
  | separator {s : Char} {text other : List Char} (between : s ∈ hexSeparators)
      (rest : Respelled text other) : Respelled text (s :: other)
  | same (c : Char) {text other : List Char} (rest : Respelled text other) :
      Respelled (c :: text) (c :: other)
  | digit {n : Nat} {c d : Char} {text other : List Char} (one : IsHexDigit c n)
      (two : IsHexDigit d n) (rest : Respelled text other) : Respelled (c :: text) (d :: other)

section Characters

theorem separatorKnown (c : Char) : isHexSeparator c = true ↔ c ∈ hexSeparators := by
  constructor
  · intro apart
    have numbers : c.toNat = 58 ∨ (9 ≤ c.toNat ∧ c.toNat ≤ 13) ∨ c.toNat = 32 := by
      simp only [isHexSeparator, isPlainBlank, Bool.or_eq_true, beq_iff_eq, Bool.and_eq_true,
        decide_eq_true_iff] at apart
      rcases apart with rfl | blank
      · exact .inl rfl
      · exact .inr blank
    have each : ∀ n ∈ [58, 9, 10, 11, 12, 13, 32], Char.ofNat n ∈ hexSeparators := by decide
    have member : c.toNat ∈ [58, 9, 10, 11, 12, 13, 32] := by
      simp only [List.mem_cons, List.not_mem_nil, or_false]
      omega
    have known := each _ member
    rwa [Char.ofNat_toNat] at known
  · intro member
    have each : hexSeparators.all isHexSeparator = true := by decide
    exact List.all_eq_true.mp each c member

theorem siftedText (text : List Char) : text.filter (fun c => !isHexSeparator c) = sifted text := by
  refine List.filter_congr fun c _ => ?_
  by_cases member : c ∈ hexSeparators
  · simp [member, (separatorKnown c).mpr member]
  · simp [member, mt (separatorKnown c).mp member]

theorem placeRead {table : List Char} (values : table.map hexValue? = (List.range 16).map some)
    {c : Char} {n : Nat} (place : table[n]? = some c) : hexValue? c = some n := by
  have read : (table.map hexValue?)[n]? = some (hexValue? c) := by
    rw [List.getElem?_map, place, Option.map_some]
  rw [values, List.getElem?_map] at read
  obtain ⟨m, there, same⟩ := Option.map_eq_some_iff.mp read
  obtain ⟨small, rfl⟩ := List.getElem?_eq_some_iff.mp there
  rw [← same, List.getElem_range]

theorem digitKnown {c : Char} {n : Nat} : hexValue? c = some n ↔ IsHexDigit c n := by
  constructor
  · intro value
    have each : ∀ m < 103, ∀ n ∈ hexValue? (Char.ofNat m), IsHexDigit (Char.ofNat m) n := by decide
    have small : c.toNat < 103 := by
      by_contra large
      simp only [hexValue?] at value
      rw [if_neg (by omega), if_neg (by omega), if_neg (by omega)] at value
      cases value
    have known := each c.toNat small n
    rw [Char.ofNat_toNat] at known
    exact known value
  · rintro (lower | upper)
    · exact placeRead (by decide) lower
    · exact placeRead (by decide) upper

theorem digitWritten : ∀ n < 16, IsHexDigit (hexDigit true n) n := by decide

theorem digitSifted {c : Char} {n : Nat} (digit : IsHexDigit c n) : c ∉ hexSeparators := by
  have each : hexSeparators.all (fun s => (hexValue? s).isNone) = true := by decide
  intro member
  have none := List.all_eq_true.mp each c member
  rw [digitKnown.mpr digit] at none
  cases none

end Characters

section Reading

theorem pairsSpelled {digits : List Char} {octets : List UInt8} :
    octetPairs digits = some octets ↔ Spelled digits octets := by
  constructor
  · intro read
    fun_induction octetPairs digits generalizing octets with
    | case1 =>
      cases read
      exact .nil
    | case2 high low rest ih =>
      simp only [bind, Option.bind_eq_some_iff, Option.some.injEq] at read
      obtain ⟨h, first, l, second, later, behind, rfl⟩ := read
      have bounds := And.intro (hexValueBound first) (hexValueBound second)
      have value : (UInt8.ofNat (h * 16 + l)).toNat = h * 16 + l := by
        rw [UInt8.toNat_ofNat']
        omega
      refine .octet ?_ ?_ (ih behind)
      · rw [value, show (h * 16 + l) / 16 = h by omega]
        exact digitKnown.mp first
      · rw [value, show (h * 16 + l) % 16 = l by omega]
        exact digitKnown.mp second
    | case3 => cases read
  · intro spelled
    induction spelled with
    | nil => rfl
    | @octet high low b digits octets first second rest ih =>
      have whole : b.toNat / 16 * 16 + b.toNat % 16 = b.toNat := by omega
      simp only [octetPairs, digitKnown.mpr first, digitKnown.mpr second, ih, bind, Option.bind,
        whole, UInt8.ofNat_toNat]

theorem spelledDigits {digits : List Char} {octets : List UInt8} (spelled : Spelled digits octets) :
    ∀ c ∈ digits, ∃ n, IsHexDigit c n := by
  induction spelled with
  | nil => intro c member; cases member
  | octet first second rest ih =>
    rw [List.forall_mem_cons, List.forall_mem_cons]
    exact ⟨⟨_, first⟩, ⟨_, second⟩, ih⟩

theorem markDropped (cs : List Char) : ∃ mark ∈ hexMarks, cs = mark ++ dropHexMark cs := by
  unfold dropHexMark
  split
  · exact ⟨['0', 'x'], by decide, rfl⟩
  · exact ⟨['0', 'X'], by decide, rfl⟩
  · exact ⟨[], by decide, rfl⟩

theorem markOnce {mark digits : List Char} {octets : List UInt8} (known : mark ∈ hexMarks)
    (spelled : Spelled digits octets) : dropHexMark (mark ++ digits) = digits := by
  simp only [hexMarks, List.mem_cons, List.not_mem_nil, or_false] at known
  rcases known with rfl | rfl | rfl
  · cases spelled with
    | nil => rfl
    | octet first second rest =>
      unfold dropHexMark
      split
      · next same =>
        cases same
        cases digitKnown.mpr second
      · next same =>
        cases same
        cases digitKnown.mpr second
      · rfl
  · rfl
  · rfl

theorem readWhole {text : String} {octets : List UInt8} (spells : Spells text octets) :
    readHex text = .ok octets := by
  obtain ⟨mark, known, digits, whole, spelled⟩ := spells
  have body : hexBody text.toList = digits := by
    rw [hexBody, siftedText, whole, markOnce known spelled]
  have good : ¬ (digits.any fun c => (hexValue? c).isNone) = true := by
    rw [List.any_eq_true]
    rintro ⟨c, member, bad⟩
    obtain ⟨n, digit⟩ := spelledDigits spelled c member
    rw [digitKnown.mpr digit] at bad
    cases bad
  rw [readHex]
  simp only [body, if_neg good, pairsSpelled.mpr spelled]

theorem readSpells {text : String} {octets : List UInt8} (read : readHex text = .ok octets) :
    Spells text octets := by
  obtain ⟨mark, known, whole⟩ := markDropped (sifted text.toList)
  refine ⟨mark, known, _, whole, ?_⟩
  rw [← siftedText, ← hexBody]
  unfold readHex at read
  dsimp only at read
  split at read
  · cases read
  · split at read
    · next paired =>
      cases read
      exact pairsSpelled.mp paired
    · cases read

theorem readFailure {text : String} (failed : ∀ octets, readHex text ≠ .ok octets) :
    readHex text = .error (.notHex text) ∨ readHex text = .error (.oddCount text) := by
  cases read : readHex text with
  | ok octets => exact absurd read (failed octets)
  | error e =>
    unfold readHex at read
    dsimp only at read
    split at read
    · cases read
      exact .inl rfl
    · split at read
      · cases read
      · cases read
        exact .inr rfl

end Reading

section Dumps

theorem spelledFront (b : UInt8) {text : List Char} {octets : List UInt8}
    (rest : Spelled (sifted text) octets) :
    Spelled (sifted (octetHex true b ++ text)) (b :: octets) := by
  have size := b.toNat_lt
  have high := digitWritten (b.toNat / 16) (by omega)
  have low := digitWritten (b.toNat % 16) (by omega)
  have front : sifted (octetHex true b ++ text) =
      hexDigit true (b.toNat / 16) :: hexDigit true (b.toNat % 16) :: sifted text := by
    simp [sifted, octetHex, digitSifted high, digitSifted low]
  rw [front]
  exact .octet high low rest

theorem dumpSpelled (octets : List UInt8) : Spelled (sifted (dumpChars octets)) octets := by
  have last : Spelled (sifted []) [] := .nil
  fun_induction dumpChars octets with
  | case1 => exact last
  | case2 a => exact spelledFront a last
  | case3 a b =>
    have pair := spelledFront a (spelledFront b last)
    rwa [List.append_nil] at pair
  | case4 a b rest _ ih =>
    have space : sifted (' ' :: dumpChars rest) = sifted (dumpChars rest) :=
      List.filter_cons_of_neg (by decide)
    have behind := spelledFront b (space ▸ ih)
    rw [List.append_assoc]
    exact spelledFront a behind

def Alike (c d : Char) : Prop := c = d ∨ ∃ n, IsHexDigit c n ∧ IsHexDigit d n

theorem alikeDigit {c d : Char} {n : Nat} (alike : Alike c d) (digit : IsHexDigit c n) :
    IsHexDigit d n := by
  rcases alike with rfl | ⟨m, one, two⟩
  · exact digit
  · have values := (digitKnown.mpr one).symm.trans (digitKnown.mpr digit)
    cases values
    exact two

theorem respelledSifted {text other : List Char} (respelled : Respelled text other) :
    List.Forall₂ Alike (sifted text) (sifted other) := by
  induction respelled with
  | nil => exact .nil
  | separator between rest ih =>
    rw [sifted, sifted, List.filter_cons_of_neg (by simpa using between)]
    exact ih
  | same c rest ih =>
    by_cases member : c ∈ hexSeparators
    · rw [sifted, sifted, List.filter_cons_of_neg (by simpa using member),
        List.filter_cons_of_neg (by simpa using member)]
      exact ih
    · rw [sifted, sifted, List.filter_cons_of_pos (by simpa using member),
        List.filter_cons_of_pos (by simpa using member)]
      exact .cons (.inl rfl) ih
  | digit one two rest ih =>
    rw [sifted, sifted, List.filter_cons_of_pos (by simpa using digitSifted one),
      List.filter_cons_of_pos (by simpa using digitSifted two)]
    exact .cons (.inr ⟨_, one, two⟩) ih

theorem spelledAlike {digits others : List Char} {octets : List UInt8}
    (spelled : Spelled digits octets) (alike : List.Forall₂ Alike digits others) :
    Spelled others octets := by
  induction spelled generalizing others with
  | nil =>
    cases alike
    exact .nil
  | octet first second rest ih =>
    cases alike with
    | cons one alike =>
      cases alike with
      | cons two alike => exact .octet (alikeDigit one first) (alikeDigit two second) (ih alike)

theorem loneAlike {c d : Char} (lone : c ∈ ['0', 'x', 'X']) (alike : Alike c d) : d = c := by
  rcases alike with rfl | ⟨n, one, two⟩
  · rfl
  · have value := digitKnown.mpr one
    simp only [List.mem_cons, List.not_mem_nil, or_false] at lone
    rcases lone with rfl | rfl | rfl
    · cases value
      rcases two with zero | zero <;> exact (Option.some.inj zero).symm
    · cases value
    · cases value

theorem lonesAlike {cs others : List Char} (lone : ∀ c ∈ cs, c ∈ ['0', 'x', 'X'])
    (alike : List.Forall₂ Alike cs others) : others = cs := by
  induction alike with
  | nil => rfl
  | cons one rest ih =>
    rw [List.forall_mem_cons] at lone
    rw [loneAlike lone.1 one, ih lone.2]

theorem markAlike {mark cs : List Char} (known : mark ∈ hexMarks)
    (alike : List.Forall₂ Alike mark cs) : cs = mark := by
  have inside : ∀ mark ∈ hexMarks, mark ⊆ ['0', 'x', 'X'] := by decide
  exact lonesAlike (fun _ member => inside mark known member) alike

theorem dumpRespelled {octets : List UInt8} {mark : List Char} {text : String}
    (known : mark ∈ hexMarks) (respelled : Respelled (mark ++ (dump octets).toList) text.toList) :
    Spells text octets := by
  have unsifted : ∀ mark ∈ hexMarks, sifted mark = mark := by decide
  have alike := respelledSifted respelled
  rw [dump, String.toList_ofList, sifted, List.filter_append, ← sifted, ← sifted,
    unsifted mark known] at alike
  have front := List.forall₂_take mark.length alike
  have behind := List.forall₂_drop mark.length alike
  rw [List.take_left] at front
  rw [List.drop_left] at behind
  refine ⟨mark, known, _, ?_, spelledAlike (dumpSpelled octets) behind⟩
  conv_lhs => rw [← List.take_append_drop mark.length (sifted text.toList)]
  rw [markAlike known front]

end Dumps

/-- What the grammar spells is read as that, what it does not spell is refused, and a dump spells its
octets behind any mark, in any case and with separators anywhere. -/
theorem readsWhatIsSpelled (text : String) :
    (∀ octets, readHex text = .ok octets ↔ Spells text octets) ∧
    ((∀ octets, ¬ Spells text octets) ↔
      readHex text = .error (.notHex text) ∨ readHex text = .error (.oddCount text)) ∧
    ∀ octets, ∀ mark ∈ hexMarks, Respelled (mark ++ (dump octets).toList) text.toList →
      ∀ other, readHex text = .ok other ↔ other = octets := by
  have exact : ∀ octets, readHex text = .ok octets ↔ Spells text octets :=
    fun octets => ⟨readSpells, readWhole⟩
  refine ⟨exact, ⟨fun none => ?_, fun failed octets spells => ?_⟩,
    fun octets mark known respelled other => ?_⟩
  · exact readFailure fun octets read => none octets (readSpells read)
  · rw [readWhole spells] at failed
    simp at failed
  · rw [readWhole (dumpRespelled known respelled)]
    simp [eq_comm]

theorem readsWhatIsSpelledMixed :
    ['0', 'X'] ∈ hexMarks ∧
      Respelled (['0', 'X'] ++ (dump [0xc0, 0xff, 0xee]).toList) "0:Xc0fF E\te".toList ∧
      ∀ other, readHex "0:Xc0fF E\te" = .ok other ↔ other = [0xc0, 0xff, 0xee] := by
  have known : ['0', 'X'] ∈ hexMarks := by decide
  have colon : ':' ∈ hexSeparators := by decide
  have tab : '\t' ∈ hexSeparators := by decide
  have twelve : IsHexDigit 'C' 12 ∧ IsHexDigit 'c' 12 := by decide
  have fourteen : IsHexDigit 'E' 14 ∧ IsHexDigit 'e' 14 := by decide
  have fifteen : IsHexDigit 'F' 15 ∧ IsHexDigit 'f' 15 := by decide
  have respelled : Respelled (['0', 'X'] ++ (dump [0xc0, 0xff, 0xee]).toList)
      "0:Xc0fF E\te".toList := by
    rw [dump, String.toList_ofList]
    refine .same '0' (.separator colon (.same 'X' (.digit twelve.1 twelve.2 (.same '0' ?_))))
    refine .digit fifteen.1 fifteen.2 (.same 'F' (.same ' ' (.same 'E' (.separator tab ?_))))
    exact .digit fourteen.1 fourteen.2 .nil
  exact ⟨known, respelled, (readsWhatIsSpelled _).2.2 _ _ known respelled⟩

end SidAttribute.Text
