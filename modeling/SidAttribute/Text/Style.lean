import SidAttribute.Text.Digit
import SidAttribute.Text.Quoted
import SidAttribute.Text.Rounded

/-! How a value is laid out in a field: fill and alignment, sign, alternate form, zeros in front,
width, separators of groups, precision, and the kind of text or numeral. Text and whole numbers
share one grammar of styles; each refuses the parts that mean nothing for it. -/
namespace SidAttribute.Text

inductive Align where
  | left
  | right
  | center
  | inner
  deriving DecidableEq, Repr

structure Style where
  fill : Option Char
  align : Option Align
  sign : Option Char
  signedZero : Bool
  alternate : Bool
  zeros : Bool
  width : Nat
  separator : Option Char
  precision : Option Nat
  kind : Option Char
  deriving DecidableEq, Repr

inductive StyleError where
  | tooManyDigits
  | missingPrecision
  | bothSeparators
  | separatorKind (separator kind : Char)
  | trailing (style : String)
  | unknownKind (kind : Char)
  | textSign
  | textSpace
  | textSignedZero
  | textAlternate
  | textInner
  | numberPrecision
  | numberSignedZero
  | characterSign
  | characterAlternate
  | characterRange
  | characterWord
  | realRange
  | realPrecision
  | noRoom
  deriving DecidableEq, Repr

def letterText (c : Char) : String :=
  if 32 < c.toNat ∧ c.toNat < 128 then String.ofList [c]
  else "\\x" ++ String.ofList (Nat.toDigits 16 c.toNat)

def StyleError.message (type : String) : StyleError → String
  | .tooManyDigits => "Too many decimal digits in format string"
  | .missingPrecision => "Format specifier missing precision"
  | .bothSeparators => "Cannot specify both ',' and '_'."
  | .separatorKind separator kind =>
    "Cannot specify '" ++ String.ofList [separator] ++ "' with '" ++ letterText kind ++ "'."
  | .trailing style => "Invalid format specifier '" ++ style ++ "' for object of type '" ++ type ++ "'"
  | .unknownKind kind =>
    "Unknown format code '" ++ letterText kind ++ "' for object of type '" ++ type ++ "'"
  | .textSign => "Sign not allowed in string format specifier"
  | .textSpace => "Space not allowed in string format specifier"
  | .textSignedZero => "Negative zero coercion (z) not allowed in string format specifier"
  | .textAlternate => "Alternate form (#) not allowed in string format specifier"
  | .textInner => "'=' alignment not allowed in string format specifier"
  | .numberPrecision => "Precision not allowed in integer format specifier"
  | .numberSignedZero => "Negative zero coercion (z) not allowed in integer format specifier"
  | .characterSign => "Sign not allowed with integer format specifier 'c'"
  | .characterAlternate => "Alternate form (#) not allowed with integer format specifier 'c'"
  | .characterRange => "%c arg not in range(0x110000)"
  | .characterWord => "Python int too large to convert to C long"
  | .realRange => "int too large to convert to float"
  | .realPrecision => "precision too big"
  | .noRoom => ""

def maxFieldNumber : Nat := 9223372036854775807

def leadingNumber : List Char → Option Nat × List Char
  | cs =>
    let ds := cs.takeWhile fun c => (digit? c).isSome
    let value := ds.foldl (fun n c => n * 10 + (digit? c).getD 0) 0
    (if ds.isEmpty then none else some value, cs.drop ds.length)

namespace Style

def align? (c : Char) : Option Align :=
  match c with
  | '<' => some .left
  | '>' => some .right
  | '^' => some .center
  | '=' => some .inner
  | _ => none

def readAlign : List Char → (Option Char × Option Align) × List Char
  | c :: d :: rest =>
    match align? d, align? c with
    | some a, _ => ((some c, some a), rest)
    | none, some a => ((none, some a), d :: rest)
    | none, none => ((none, none), c :: d :: rest)
  | [c] =>
    match align? c with
    | some a => ((none, some a), [])
    | none => ((none, none), [c])
  | [] => ((none, none), [])

def readSign : List Char → Option Char × List Char
  | '+' :: rest => (some '+', rest)
  | '-' :: rest => (some '-', rest)
  | ' ' :: rest => (some ' ', rest)
  | cs => (none, cs)

def readFlag (flag : Char) : List Char → Bool × List Char
  | c :: rest => if c = flag then (true, rest) else (false, c :: rest)
  | [] => (false, [])

def readNumber (cs : List Char) : Except StyleError (Option Nat × List Char) :=
  let (n, rest) := leadingNumber cs
  if maxFieldNumber < n.getD 0 then .error .tooManyDigits else .ok (n, rest)

def readSeparator : List Char → Except StyleError (Option Char × List Char)
  | ',' :: '_' :: _ => .error .bothSeparators
  | '_' :: ',' :: _ => .error .bothSeparators
  | ',' :: rest => .ok (some ',', rest)
  | '_' :: rest => .ok (some '_', rest)
  | cs => .ok (none, cs)

def readPrecision : List Char → Except StyleError (Option Nat × List Char)
  | '.' :: cs => do
    let (n, rest) ← readNumber cs
    if n.isNone then .error .missingPrecision else .ok (n, rest)
  | cs => .ok (none, cs)

def checkSeparator (separator : Option Char) (kind : Char) : Except StyleError Unit :=
  match separator with
  | none => .ok ()
  | some s =>
    if "deEfFgG%\x00".toList.contains kind || (s == '_' && "boxX".toList.contains kind) then .ok ()
    else .error (.separatorKind s kind)

/-- Reads a style; `usual` is the kind that values of the type have if none is written. -/
def read (usual : Char) (cs : List Char) : Except StyleError Style := do
  let ((fill, align), rest) := readAlign cs
  let (sign, rest) := readSign rest
  let (signedZero, rest) := readFlag 'z' rest
  let (alternate, rest) := readFlag '#' rest
  let (zeros, rest) := if fill.isSome then (false, rest) else readFlag '0' rest
  let (width, rest) ← readNumber rest
  let (separator, rest) ← readSeparator rest
  let (precision, rest) ← readPrecision rest
  let kind ← match rest with
    | [] => .ok none
    | [c] => .ok (some c)
    | _ => .error (.trailing (String.ofList cs))
  checkSeparator separator (kind.getD usual)
  .ok ⟨fill, align, sign, signedZero, alternate, zeros, width.getD 0, separator, precision, kind⟩

def fillChar (s : Style) : Char := s.fill.getD (if s.zeros then '0' else ' ')

def pad (s : Style) (usual : Align) (head body : List Char) : List Char :=
  let missing := s.width - (head.length + body.length)
  let fill := fun n => List.replicate n s.fillChar
  match s.align.getD usual with
  | .left => head ++ body ++ fill missing
  | .right => fill missing ++ head ++ body
  | .center => fill (missing / 2) ++ head ++ body ++ fill (missing - missing / 2)
  | .inner => head ++ fill missing ++ body

def checkText (s : Style) : Except StyleError Unit :=
  if s.kind.getD 's' != 's' then .error (.unknownKind (s.kind.getD 's'))
  else if s.sign = some ' ' then .error .textSpace
  else if s.sign.isSome then .error .textSign
  else if s.signedZero then .error .textSignedZero
  else if s.alternate then .error .textAlternate
  else if s.align = some .inner then .error .textInner
  else .ok ()

def widest : Nat := Nat.pow 2 36

def checkRoom (s : Style) : Except StyleError Unit :=
  if s.width < widest then .ok () else .error .noRoom

def ofText (s : Style) (text : List Char) : Except StyleError (List Char) := do
  s.checkText
  s.checkRoom
  .ok (s.pad .left [] (match s.precision with
    | some n => text.take n
    | none => text))

/-- The digits in groups from the right; zeros in front until digits and separators are at least as
many as asked for, and never a separator without a digit before it. The digits are given and come
back with the last one first. -/
def group (size : Nat) (separator : Char) (digits : List Char) (least : Nat) : List Char :=
  let length := max 1 (min size (max digits.length least))
  let block := digits.take length ++ List.replicate (length - digits.length) '0'
  if digits.length ≤ length ∧ least ≤ length then block
  else block ++ separator :: group size separator (digits.drop length) (least - length - 1)
termination_by digits.length + least
decreasing_by simp only [List.length_drop]; omega

def digitsOf (kind : Char) (n : Nat) : List Char :=
  match kind with
  | 'b' => Nat.toDigits 2 n
  | 'o' => Nat.toDigits 8 n
  | 'x' => Nat.toDigits 16 n
  | 'X' => (Nat.toDigits 16 n).map Char.toUpper
  | _ => Nat.toDigits 10 n

def baseMark (kind : Char) : List Char :=
  if "boxX".toList.contains kind then ['0', kind] else []

def signMark (s : Style) (n : Int) : List Char :=
  if n < 0 then ['-']
  else match s.sign with
    | some '+' => ['+']
    | some ' ' => [' ']
    | _ => []

structure Numeral where
  head : List Char
  digits : List Char
  tail : List Char
  groupSize : Nat
  deriving DecidableEq, Repr

/-- Zeros between the sign and the digits belong to the numeral, so they are grouped with it; what
follows the digits is not. -/
def layNumeral (s : Style) (n : Numeral) : List Char :=
  let usual := if s.zeros then Align.inner else Align.right
  let inner := s.align.getD usual == .inner && s.fillChar == '0'
  let least := if inner then s.width - n.head.length - n.tail.length else 0
  let body := match s.separator with
    | some mark =>
      if n.digits.isEmpty then [] else (group n.groupSize mark n.digits.reverse least).reverse
    | none => n.digits
  s.pad usual n.head (body ++ n.tail)

def numberKinds : List Char := "bcdnoxX".toList

def largestWord : Int := 9223372036854775807

def characterOf (s : Style) (n : Int) : Except StyleError Char :=
  if s.sign.isSome then .error .characterSign
  else if s.alternate then .error .characterAlternate
  else if n < -largestWord - 1 ∨ largestWord < n then .error .characterWord
  else if n < 0 ∨ 0x110000 ≤ n then .error .characterRange
  else .ok (Char.ofNat n.toNat)

def mostPlaces : Nat := 2147483647

/-- A number with places after its point, or as so many hundredths; hundredths that are too many are
shown as infinitely many. -/
def writtenReal (s : Style) (kind : Char) (n : Nat) : Except StyleError Written :=
  match toBinary n with
  | none => .error .realRange
  | some m =>
    if mostPlaces < s.precision.getD 0 then .error .realPrecision
    else if kind ≠ '%' then .ok (.ofKind kind s.alternate s.precision m)
    else match toBinary (m * 100) with
      | none => .ok ⟨[], "inf%".toList⟩
      | some hundredths =>
        let w := Written.ofKind 'f' s.alternate s.precision hundredths
        .ok ⟨w.whole, w.tail ++ ['%']⟩

def numeralOf (s : Style) (n : Int) : Except StyleError Numeral :=
  let kind := s.kind.getD 'd'
  if realKinds.contains kind || kind = '%' then
    (s.writtenReal kind n.natAbs).map fun w => ⟨s.signMark n, w.whole, w.tail, 3⟩
  else if !numberKinds.contains kind then .error (.unknownKind kind)
  else if s.precision.isSome then .error .numberPrecision
  else if s.signedZero then .error .numberSignedZero
  else if kind = 'c' then (s.characterOf n).map fun c => ⟨[], [], [c], 3⟩
  else
    let head := s.signMark n ++ if s.alternate then baseMark kind else []
    .ok ⟨head, digitsOf kind n.natAbs, [], if "boxX".toList.contains kind then 4 else 3⟩

def ofNumber (s : Style) (n : Int) : Except StyleError (List Char) := do
  let parts ← s.numeralOf n
  s.checkRoom
  .ok (s.layNumeral parts)

end Style
end SidAttribute.Text
