import Mathlib.Data.List.Forall2
import SidAttribute.Log.Template
import SidAttribute.Notice

/-! Messages made from their templates. The text of a notice is only made when it is written, from a
template and the values in it, and a template can fail; none of those in use does, for any value that
decoding puts in, and what comes out is the text of the notice. -/
namespace SidAttribute
open Wire Text Log Config

namespace Log

inductive Chunk where
  | words (s : String)
  | value (name : String)
  | octet (name : String)
  deriving DecidableEq, Repr

def octetMark : List Char := "02X".toList

namespace Chunk

def source : Chunk → List Char
  | .words s => s.toList
  | .value name => '\x7b' :: (name.toList ++ ['\x7d'])
  | .octet name => '\x7b' :: (name.toList ++ ':' :: (octetMark ++ ['\x7d']))

def pieces : Chunk → List Piece
  | .words s => s.toList.map .literal
  | .value name => [.field ⟨name.toList, none, [], false⟩]
  | .octet name => [.field ⟨name.toList, none, octetMark, false⟩]

def isLetter (c : Char) : Bool := 97 ≤ c.toNat && c.toNat ≤ 122

def isBrace (c : Char) : Bool := c.toNat == 123 || c.toNat == 125

def isName (cs : List Char) : Bool := !cs.isEmpty && cs.all isLetter

def isSound : Chunk → Bool
  | .words s => s.toList.all fun c => !isBrace c
  | .value name => isName name.toList
  | .octet name => isName name.toList

end Chunk

theorem letterNot {c other : Char} (letter : Chunk.isLetter c = true)
    (outside : Chunk.isLetter other = false) : c ≠ other := by
  rintro rfl
  rw [letter] at outside
  cases outside

theorem letterNoDigit {c : Char} (letter : Chunk.isLetter c = true) : digit? c = none := by
  have apart : ∀ z ∈ zeros, z + 10 ≤ 97 ∨ 122 < z := by decide
  rw [Chunk.isLetter, Bool.and_eq_true, decide_eq_true_eq, decide_eq_true_eq] at letter
  rw [digit?, Option.map_eq_none_iff, List.find?_eq_none]
  intro z member
  have := apart z member
  rw [Bool.and_eq_true, decide_eq_true_eq, decide_eq_true_eq]
  omega

theorem nameLetters {cs : List Char} (name : Chunk.isName cs = true) :
    cs ≠ [] ∧ ∀ c ∈ cs, Chunk.isLetter c = true := by
  rw [Chunk.isName, Bool.and_eq_true, List.all_eq_true] at name
  refine ⟨?_, name.2⟩
  rintro rfl
  cases name.1

theorem scanWords {cs : List Char} (plain : cs.all (fun c => !Chunk.isBrace c) = true)
    (rest : List Char) :
    Template.scan .text (cs ++ rest) =
      ⟨cs.map .literal ++ (Template.scan .text rest).pieces,
        (Template.scan .text rest).failure⟩ := by
  induction cs with
  | nil => rfl
  | cons c cs ih =>
    obtain ⟨noBrace, others⟩ := (Bool.and_eq_true ..).mp plain
    have opening : c ≠ '\x7b' := by rintro rfl; cases noBrace
    have closing : c ≠ '\x7d' := by rintro rfl; cases noBrace
    have step : Template.scan .text (c :: (cs ++ rest)) =
        Template.before (.literal c) (Template.scan .text (cs ++ rest)) := by
      rw [Template.scan]
      all_goals intros; contradiction
    rw [List.cons_append, step, ih others]
    rfl

theorem scanLetters {cs : List Char} (letters : ∀ c ∈ cs, Chunk.isLetter c = true)
    (read rest : List Char) :
    Template.scan (.name read false) (cs ++ rest) =
      Template.scan (.name (cs.reverse ++ read) false) rest := by
  induction cs generalizing read with
  | nil => rfl
  | cons c cs ih =>
    have letter := letters c List.mem_cons_self
    have step : Template.scan (.name read false) (c :: (cs ++ rest)) =
        Template.scan (.name (c :: read) false) (cs ++ rest) := by
      rw [Template.scan]
      all_goals exact letterNot letter (by decide)
    rw [List.cons_append, step, ih fun c member => letters c (List.mem_cons_of_mem _ member),
      List.reverse_cons, List.append_assoc]
    rfl

theorem scanName {cs : List Char} (name : Chunk.isName cs = true) (rest : List Char) :
    Template.scan .text ('\x7b' :: (cs ++ rest)) =
      Template.scan (.name cs.reverse false) rest := by
  obtain ⟨some, letters⟩ := nameLetters name
  cases cs with
  | nil => exact absurd rfl some
  | cons c cs =>
    have first : c ≠ '\x7b' := letterNot (letters c List.mem_cons_self) (by decide)
    have step : Template.scan .text ('\x7b' :: c :: (cs ++ rest)) =
        Template.scan (.name [] false) (c :: (cs ++ rest)) := by
      rw [Template.scan]
      all_goals intros; contradiction
    rw [List.cons_append, step, ← List.cons_append, scanLetters letters, List.append_nil]

theorem scanChunk {c : Chunk} (sound : c.isSound = true) (rest : List Char) :
    Template.scan .text (c.source ++ rest) =
      ⟨c.pieces ++ (Template.scan .text rest).pieces, (Template.scan .text rest).failure⟩ := by
  cases c with
  | words s => exact scanWords sound rest
  | value name =>
    have last : ∀ read, Template.scan (.name read false) (['\x7d'] ++ rest) =
        Template.before (.field ⟨read.reverse, none, [], false⟩) (Template.scan .text rest) :=
      fun _ => rfl
    rw [Chunk.source, List.cons_append, List.append_assoc, scanName sound, last,
      List.reverse_reverse]
    rfl
  | octet name =>
    have last : ∀ read, Template.scan (.name read false) (':' :: (octetMark ++ ['\x7d']) ++ rest) =
        Template.before (.field ⟨read.reverse, none, octetMark, false⟩)
          (Template.scan .text rest) := fun _ => rfl
    rw [Chunk.source, List.cons_append, List.append_assoc, scanName sound, last,
      List.reverse_reverse]
    rfl

theorem scanChunks {chunks : List Chunk} (sound : chunks.all Chunk.isSound = true) :
    Template.ofChars (chunks.flatMap Chunk.source) = ⟨chunks.flatMap Chunk.pieces, none⟩ := by
  induction chunks with
  | nil => rfl
  | cons c rest ih =>
    obtain ⟨first, others⟩ := (Bool.and_eq_true ..).mp sound
    rw [List.flatMap_cons, List.flatMap_cons, Template.ofChars, scanChunk first,
      ← Template.ofChars, ih others]

section Filling

variable {values : Values}

def fieldText (values : Values) (f : Field) : Except TemplateError (List Char) := do
  let v ← lookUp values f.name
  let v ← convert v f.conversion
  laidOut v (← outerStyle values f)

inductive Filled (values : Values) : Chunk → String → Prop where
  | words (s : String) : Filled values (.words s) s
  | value {name : String} {v : Value} (given : values.get? name = some v) :
      Filled values (.value name) v.shown
  | octet {name : String} {n : Nat} (given : values.get? name = some (.int n)) (octet : n < 256) :
      Filled values (.octet name) (String.ofList (octetHex true (UInt8.ofNat n)))

theorem fillWords (style : Field → Except TemplateError (List Char)) (cs : List Char)
    (rest : List Piece) :
    fillPieces values style (cs.map .literal ++ rest) =
      (fillPieces values style rest).map (cs ++ ·) := by
  induction cs with
  | nil =>
    rw [List.map_nil, List.nil_append]
    cases fillPieces values style rest <;> rfl
  | cons c cs ih =>
    rw [List.map_cons, List.cons_append, fillPieces, ih]
    cases fillPieces values style rest <;> rfl

theorem fillField {f : Field} {text : List Char} (filled : fieldText values f = .ok text)
    (rest : List Piece) :
    fillPieces values (outerStyle values) (.field f :: rest) =
      (fillPieces values (outerStyle values) rest).map (text ++ ·) := by
  unfold fieldText at filled
  rw [fillPieces]
  cases found : lookUp values f.name with
  | error e => simp [found, bind, Except.bind] at filled
  | ok v =>
    cases converted : convert v f.conversion with
    | error e => simp [found, converted, bind, Except.bind] at filled
    | ok w =>
      cases style : outerStyle values f with
      | error e => simp [found, converted, style, bind, Except.bind] at filled
      | ok s =>
        simp only [found, converted, style, bind, Except.bind] at filled ⊢
        rw [filled]

theorem lettersNumber {cs : List Char} (letters : ∀ c ∈ cs, Chunk.isLetter c = true) :
    fieldNumber cs = .ok none := by
  have noDigits : cs.takeWhile (fun c => (digit? c).isSome) = [] := by
    cases cs with
    | nil => rfl
    | cons c rest =>
      rw [List.takeWhile_cons, letterNoDigit (letters c List.mem_cons_self)]
      rfl
  have number : leadingNumber cs = (none, cs) := by
    rw [leadingNumber, noDigits]
    rfl
  rw [fieldNumber, number]

theorem lookUpName {name : String} {v : Value} (sound : Chunk.isName name.toList = true)
    (given : values.get? name = .some v) : lookUp values name.toList = .ok (.value v) := by
  obtain ⟨some, letters⟩ := nameLetters sound
  have plain : ∀ c ∈ name.toList, (!isAccess c) = true := by
    intro c member
    have dot : c ≠ '.' := letterNot (letters c member) (by decide)
    have bracket : c ≠ '[' := letterNot (letters c member) (by decide)
    simp [isAccess, dot, bracket]
  have whole : name.toList.takeWhile (fun c => !isAccess c) = name.toList := by
    have front := @List.takeWhile_append_of_pos _ (fun c => !isAccess c) name.toList [] plain
    simpa only [List.takeWhile_nil, List.append_nil] using front
  have nothing : name.toList.dropWhile (fun c => !isAccess c) = [] := by
    have front := @List.dropWhile_append_of_pos _ (fun c => !isAccess c) name.toList [] plain
    simpa only [List.dropWhile_nil, List.append_nil] using front
  rw [lookUp, whole, lettersNumber letters, nothing]
  simp only [bind, Except.bind, List.isEmpty_iff, if_neg some, String.ofList_toList, given]
  rw [follow]

theorem fieldValue {name : String} {v : Value} (sound : Chunk.isName name.toList = true)
    (given : values.get? name = some v) :
    fieldText values ⟨name.toList, none, [], false⟩ = .ok v.shown.toList := by
  rw [fieldText, lookUpName sound given]
  rfl

def octetStyle : Style := ⟨none, none, none, false, false, true, 2, none, none, some 'X'⟩

theorem octetNumeral : ∀ n : Fin 256,
    octetStyle.layNumeral ⟨[], Style.digitsOf 'X' n, [], 4⟩ = octetHex true (UInt8.ofNat n) := by
  decide +kernel

theorem fieldOctet {name : String} {n : Nat} (sound : Chunk.isName name.toList = true)
    (given : values.get? name = some (.int n)) (octet : n < 256) :
    fieldText values ⟨name.toList, none, octetMark, false⟩ =
      .ok (octetHex true (UInt8.ofNat n)) := by
  have style : Style.read 'd' octetMark = .ok octetStyle := rfl
  have laid : laidOut (.value (.int n)) octetMark = .ok (octetHex true (UInt8.ofNat n)) := by
    rw [← octetNumeral ⟨n, octet⟩]
    rfl
  rw [fieldText, lookUpName sound given]
  exact laid

theorem fillChunk {c : Chunk} {text : String} (sound : c.isSound = true) (filled : Filled values c text)
    (rest : List Piece) :
    fillPieces values (outerStyle values) (c.pieces ++ rest) =
      (fillPieces values (outerStyle values) rest).map (text.toList ++ ·) := by
  cases filled with
  | words => exact fillWords _ _ rest
  | value given => exact fillField (fieldValue sound given) rest
  | octet given octet =>
    rw [String.toList_ofList]
    exact fillField (fieldOctet sound given octet) rest

theorem fillChunks {chunks : List Chunk} {texts : List String} (sound : chunks.all Chunk.isSound = true)
    (filled : List.Forall₂ (Filled values) chunks texts) :
    fillPieces values (outerStyle values) (chunks.flatMap Chunk.pieces) =
      .ok (texts.flatMap String.toList) := by
  induction filled with
  | nil => rfl
  | cons first _ ih =>
    obtain ⟨one, others⟩ := (Bool.and_eq_true ..).mp sound
    rw [List.flatMap_cons, fillChunk one first, ih others]
    rfl

theorem fillFrom {template : String} (chunks : List Chunk) {texts : List String}
    (made : template.toList = chunks.flatMap Chunk.source) (sound : chunks.all Chunk.isSound = true)
    (filled : List.Forall₂ (Filled values) chunks texts)
    (free : values.get? templateName = none) :
    fill template values = .ok (String.join texts) := by
  have joined : String.ofList (texts.flatMap String.toList) = String.join texts := by
    rw [← String.toList_inj, String.toList_ofList, String.toList_join]
  rw [fill, free, if_neg (by decide), fillTemplate, made, scanChunks sound]
  dsimp only
  rw [fillChunks sound filled, ← joined]
  rfl

end Filling

end Log

namespace Notice

/-- The text as it is made when it is written; only the line of an element is made without a template. -/
def rendered : Notice → Except TemplateError String
  | .element level e => .ok (elementLine level e.code.toNat e.length e.payload)
  | .unregistered level code =>
    fill "\x7blevel\x7d type \x7bcode\x7d is not implemented or intentionally ignored, skipping"
      [("level", .text level), ("code", .int code.toNat)]
  | .malformed level code short =>
    fill "\x7blevel\x7d type \x7bcode\x7d is malformed (\x7berror\x7d), stopping"
      [("level", .text level), ("code", .int code.toNat), ("error", .text short.message)]
  | .sid address flags behavior name =>
    fill "SID \x7bsid\x7d flags 0x\x7bflags:02X\x7d endpoint behavior \x7bcode\x7d (\x7bname\x7d)"
      [("sid", .text address), ("flags", .int flags), ("code", .int behavior),
        ("name", .text name)]
  | .truncatedHeader level left =>
    fill "\x7blevel\x7d header truncated, \x7bleft\x7d byte(s) left, stopping"
      [("level", .text level), ("left", .int left)]
  | .zeroLength level code =>
    fill "\x7blevel\x7d type \x7bcode\x7d has a zero length, stopping"
      [("level", .text level), ("code", .int code.toNat)]
  | .overrun level code length left =>
    fill ("\x7blevel\x7d type \x7bcode\x7d length \x7blength\x7d needs \x7bsize\x7d byte(s), " ++
        "only \x7bleft\x7d left, stopping")
      [("level", .text level), ("code", .int code.toNat), ("length", .int length),
        ("size", .int (length + 3 : Nat)), ("left", .int left)]
  | .tooMany level bound =>
    fill "too many \x7blevel\x7ds (more than \x7bbound\x7d), stopping"
      [("level", .text level), ("bound", bound)]

theorem shownText (s : String) : (Value.text s).shown = s := rfl

theorem shownNat (n : Nat) : (Value.int n).shown = toString n := rfl

def Plain : Notice → Prop
  | .sid _ flags _ _ => flags < 256
  | _ => True

theorem renderedText {n : Notice} (plain : n.Plain) : n.rendered = .ok n.text := by
  cases n with
  | element level e => rfl
  | unregistered level code =>
    rw [rendered, fillFrom [.value "level", .words " type ", .value "code",
        .words " is not implemented or intentionally ignored, skipping"] (by decide +kernel) (by decide +kernel)
      (.cons (.value rfl) <| .cons (.words _) <| .cons (.value rfl) <| .cons (.words _) .nil) rfl]
    simp only [text, shownText, shownNat, String.join_cons, String.join_nil, String.append_assoc,
      String.append_empty]
  | malformed level code short =>
    rw [rendered, fillFrom [.value "level", .words " type ", .value "code",
        .words " is malformed (", .value "error", .words "), stopping"] (by decide +kernel) (by decide +kernel)
      (.cons (.value rfl) <| .cons (.words _) <| .cons (.value rfl) <| .cons (.words _) <|
        .cons (.value rfl) <| .cons (.words _) .nil) rfl]
    simp only [text, shownText, shownNat, String.join_cons, String.join_nil, String.append_assoc,
      String.append_empty]
  | sid address flags behavior name =>
    rw [rendered, fillFrom [.words "SID ", .value "sid", .words " flags 0x", .octet "flags",
        .words " endpoint behavior ", .value "code", .words " (", .value "name", .words ")"]
      (by decide +kernel) (by decide +kernel)
      (.cons (.words _) <| .cons (.value rfl) <| .cons (.words _) <| .cons (.octet rfl plain) <|
        .cons (.words _) <| .cons (.value rfl) <| .cons (.words _) <| .cons (.value rfl) <|
        .cons (.words _) .nil) rfl]
    simp only [text, shownText, shownNat, String.join_cons, String.join_nil, String.append_assoc,
      String.append_empty]
  | truncatedHeader level left =>
    rw [rendered, fillFrom [.value "level", .words " header truncated, ", .value "left",
        .words " byte(s) left, stopping"] (by decide +kernel) (by decide +kernel)
      (.cons (.value rfl) <| .cons (.words _) <| .cons (.value rfl) <| .cons (.words _) .nil) rfl]
    simp only [text, shownText, shownNat, String.join_cons, String.join_nil, String.append_assoc,
      String.append_empty]
  | zeroLength level code =>
    rw [rendered, fillFrom [.value "level", .words " type ", .value "code",
        .words " has a zero length, stopping"] (by decide +kernel) (by decide +kernel)
      (.cons (.value rfl) <| .cons (.words _) <| .cons (.value rfl) <| .cons (.words _) .nil) rfl]
    simp only [text, shownText, shownNat, String.join_cons, String.join_nil, String.append_assoc,
      String.append_empty]
  | overrun level code length left =>
    rw [rendered, fillFrom [.value "level", .words " type ", .value "code", .words " length ",
        .value "length", .words " needs ", .value "size", .words " byte(s), only ", .value "left",
        .words " left, stopping"] (by decide +kernel) (by decide +kernel)
      (.cons (.value rfl) <| .cons (.words _) <| .cons (.value rfl) <| .cons (.words _) <|
        .cons (.value rfl) <| .cons (.words _) <| .cons (.value rfl) <| .cons (.words _) <|
        .cons (.value rfl) <| .cons (.words _) .nil) rfl]
    simp only [text, shownText, shownNat, String.join_cons, String.join_nil, String.append_assoc,
      String.append_empty]
  | tooMany level bound =>
    rw [rendered, fillFrom [.words "too many ", .value "level", .words "s (more than ",
        .value "bound", .words "), stopping"] (by decide +kernel) (by decide +kernel)
      (.cons (.words _) <| .cons (.value rfl) <| .cons (.words _) <| .cons (.value rfl) <|
        .cons (.words _) .nil) rfl]
    simp only [text, shownText, String.join_cons, String.join_nil, String.append_assoc,
      String.append_empty]

end Notice
end SidAttribute
