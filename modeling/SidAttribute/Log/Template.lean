import SidAttribute.Config.Section
import SidAttribute.Log.Part
import SidAttribute.Text.Style

/-! Message templates. Fields in braces name the values to put in; a field may ask for a conversion
of its value and for a style, and a style may hold fields of its own, one level deep. Doubled braces
stand for themselves. Fields are filled in from left to right, and the first fault met on the way is
the one reported. -/
namespace SidAttribute.Log
open Text Config

inductive TemplateError where
  | loneOpening
  | loneClosing
  | openField
  | openingInName
  | openStyle
  | endedInConversion
  | afterConversion
  | unknownConversion (letter : Char)
  | missing (name : String)
  | position (n : Nat)
  | tooManyDigits
  | emptyAccess
  | afterBracket
  | part (e : PartError)
  | tooDeep
  | noStyles (type : String)
  | style (type : String) (e : StyleError)
  | reserved (name : String)
  deriving DecidableEq, Repr

def TemplateError.message : TemplateError → String
  | .loneOpening => "Single '\x7b' encountered in format string"
  | .loneClosing => "Single '\x7d' encountered in format string"
  | .openField => "expected '\x7d' before end of string"
  | .openingInName => "unexpected '\x7b' in field name"
  | .openStyle => "unmatched '\x7b' in format spec"
  | .endedInConversion => "end of string while looking for conversion specifier"
  | .afterConversion => "expected ':' after conversion specifier"
  | .unknownConversion letter =>
    "Unknown conversion specifier " ++
    if 32 < letter.toNat ∧ letter.toNat < 127 then String.ofList [letter]
    else "\\x" ++ String.ofList (Nat.toDigits 16 letter.toNat)
  | .missing name => quoted name
  | .position n =>
    "Replacement index " ++ toString n ++ " out of range for positional args tuple"
  | .tooManyDigits => "Too many decimal digits in format string"
  | .emptyAccess => "Empty attribute in format string"
  | .afterBracket => "Only '.' or '[' may follow ']' in format field specifier"
  | .part e => e.message
  | .tooDeep => "Max string recursion exceeded"
  | .noStyles type => "unsupported format string passed to " ++ type ++ ".__format__"
  | .style type e => e.message type
  | .reserved name => "lazymsg() got multiple values for argument '" ++ name ++ "'"

structure Field where
  name : List Char
  conversion : Option Char
  style : List Char
  nested : Bool
  deriving DecidableEq, Repr

inductive Piece where
  | literal (c : Char)
  | field (f : Field)
  deriving DecidableEq, Repr

structure Template where
  pieces : List Piece
  failure : Option TemplateError
  deriving DecidableEq, Repr

namespace Template

def failed (e : TemplateError) : Template := ⟨[], some e⟩

def before (p : Piece) (t : Template) : Template := { t with pieces := p :: t.pieces }

inductive Mode where
  | text
  | name (read : List Char) (inBrackets : Bool)
  | conversion (name : List Char)
  | converted (name : List Char) (letter : Char)
  | style (name : List Char) (conversion : Option Char) (read : List Char) (depth : Nat)
      (nested : Bool)
  deriving DecidableEq, Repr

def scan : Mode → List Char → Template
  | .text, [] => ⟨[], none⟩
  | .text, '\x7b' :: '\x7b' :: rest => before (.literal '\x7b') (scan .text rest)
  | .text, ['\x7b'] => failed .loneOpening
  | .text, '\x7b' :: c :: rest => scan (.name [] false) (c :: rest)
  | .text, '\x7d' :: '\x7d' :: rest => before (.literal '\x7d') (scan .text rest)
  | .text, '\x7d' :: _ => failed .loneClosing
  | .text, c :: rest => before (.literal c) (scan .text rest)
  | .name _ _, [] => failed .openField
  | .name read true, c :: rest => scan (.name (c :: read) (c != ']')) rest
  | .name read false, c :: rest =>
    match c with
    | '\x7b' => failed .openingInName
    | '\x7d' => before (.field ⟨read.reverse, none, [], false⟩) (scan .text rest)
    | '!' => scan (.conversion read.reverse) rest
    | ':' => scan (.style read.reverse none [] 0 false) rest
    | '[' => scan (.name (c :: read) true) rest
    | _ => scan (.name (c :: read) false) rest
  | .conversion _, [] => failed .endedInConversion
  | .conversion name, c :: rest => scan (.converted name c) rest
  | .converted _ _, [] => failed .openStyle
  | .converted name letter, c :: rest =>
    match c with
    | '\x7d' => before (.field ⟨name, some letter, [], false⟩) (scan .text rest)
    | ':' => scan (.style name (some letter) [] 0 false) rest
    | _ => failed .afterConversion
  | .style .., [] => failed .openStyle
  | .style name conversion read depth nested, c :: rest =>
    match c, depth with
    | '\x7d', 0 =>
      before (.field ⟨name, conversion, read.reverse, nested⟩) (scan .text rest)
    | '\x7d', outer + 1 => scan (.style name conversion (c :: read) outer nested) rest
    | '\x7b', _ => scan (.style name conversion (c :: read) (depth + 1) true) rest
    | _, _ => scan (.style name conversion (c :: read) depth nested) rest

def ofChars (cs : List Char) : Template := scan .text cs

end Template

def fieldNumber (cs : List Char) : Except TemplateError (Option Nat) :=
  match leadingNumber cs with
  | (some n, []) => if maxFieldNumber < n then .error .tooManyDigits else .ok (some n)
  | (some n, _) => if maxFieldNumber < n then .error .tooManyDigits else .ok none
  | _ => .ok none

def memberOf (p : Part) (name : List Char) : Except TemplateError Part :=
  if name.isEmpty then .error .emptyAccess
  else (p.member (String.ofList name)).mapError .part

def itemOf (p : Part) (key : List Char) : Except TemplateError Part := do
  let position ← fieldNumber key
  if key.isEmpty then .error .emptyAccess
  else (p.item position (String.ofList key)).mapError .part

def isAccess (c : Char) : Bool := c == '.' || c == '['

def follow (p : Part) : Nat → List Char → Except TemplateError Part
  | _, [] => .ok p
  | 0, _ => .ok p
  | fuel + 1, c :: rest =>
    match c with
    | '.' => do
      let next ← memberOf p (rest.takeWhile fun c => !isAccess c)
      follow next fuel (rest.dropWhile fun c => !isAccess c)
    | '[' => do
      let next ← itemOf p (rest.takeWhile fun c => c != ']')
      follow next fuel ((rest.dropWhile fun c => c != ']').drop 1)
    | _ => .error .afterBracket

def lookUp (values : Values) (name : List Char) : Except TemplateError Part := do
  let first := name.takeWhile fun c => !isAccess c
  match ← fieldNumber first with
  | some n => .error (.position n)
  | none =>
    if first.isEmpty then .error (.position 0)
    else match values.get? (String.ofList first) with
      | none => .error (.missing (String.ofList first))
      | some v => follow (.value v) name.length (name.dropWhile fun c => !isAccess c)

/-- A value as it is, shown or inspected. The null character leaves it as it is. -/
def convert (p : Part) : Option Char → Except TemplateError Part
  | none => .ok p
  | some '\x00' => .ok p
  | some 's' => .ok (.value (.text p.shown))
  | some 'r' => .ok (.value (.text p.inspected))
  | some 'a' => .ok (.value (.text (asciiOnly p.inspected)))
  | some letter => .error (.unknownConversion letter)

/-- A part in a style; without one it is shown as it is. Truth values are numbers to a style, and
only texts and numbers have styles. -/
def laidOut (p : Part) (style : List Char) : Except TemplateError (List Char) :=
  let kind := p.kindOf.fullName
  if style.isEmpty then .ok p.shown.toList
  else match p with
    | .value (.text s) =>
      ((Style.read 's' style).bind fun st => st.ofText s.toList).mapError (.style kind)
    | .value v =>
      match v.number? with
      | some n => ((Style.read 'd' style).bind fun st => st.ofNumber n).mapError (.style kind)
      | none => .error (.noStyles kind)
    | _ => .error (.noStyles kind)

def fillPieces (values : Values) (style : Field → Except TemplateError (List Char)) :
    List Piece → Except TemplateError (List Char)
  | [] => .ok []
  | .literal c :: rest => (fillPieces values style rest).map (c :: ·)
  | .field f :: rest => do
    let v ← lookUp values f.name
    let v ← convert v f.conversion
    let text ← laidOut v (← style f)
    (fillPieces values style rest).map (text ++ ·)

def fillTemplate (values : Values) (style : Field → Except TemplateError (List Char))
    (cs : List Char) : Except TemplateError (List Char) := do
  let t := Template.ofChars cs
  let text ← fillPieces values style t.pieces
  match t.failure with
  | some e => .error e
  | none => .ok text

def innerStyle (f : Field) : Except TemplateError (List Char) :=
  if f.nested then .error .tooDeep else .ok f.style

def outerStyle (values : Values) (f : Field) : Except TemplateError (List Char) :=
  if f.nested then fillTemplate values innerStyle f.style else .ok f.style

def templateName : String := "template"

def fill (template : String) (values : Values) : Except TemplateError String :=
  if (values.get? templateName).isSome then .error (.reserved templateName)
  else (fillTemplate values (outerStyle values) template.toList).map String.ofList

end SidAttribute.Log
