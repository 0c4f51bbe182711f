import SidAttribute.Log.Record
import SidAttribute.Text.Digit
import SidAttribute.Text.Rounded
import SidAttribute.Text.Word

/-! Layouts of written records. A layout is text with fields such as `%(message)s`; a field may have
flags, a width and a precision before the letter that says how its value is written, and two percent
signs stand for one. A layout is accepted as soon as one of its fields is in order; whether all of
them can be filled in is seen when a record is written. -/
namespace SidAttribute.Log
open Text

namespace Layout

def isFlag (c : Char) : Bool := "#0+ -".toList.contains c

def size (isDigit : Char → Bool) (cs : List Char) : List Char × List Char :=
  match cs with
  | '*' :: rest => (['*'], rest)
  | _ => (cs.takeWhile isDigit, cs.dropWhile isDigit)

structure Shape where
  flags : List Char
  width : List Char
  precision : Option (List Char)
  deriving DecidableEq, Repr

def readShape (isDigit : Char → Bool) (cs : List Char) : Shape × List Char :=
  let flags := cs.takeWhile isFlag
  let (width, rest) := size isDigit (cs.dropWhile isFlag)
  match rest with
  | '.' :: more =>
    let (precision, rest) := size isDigit more
    (⟨flags, width, some precision⟩, rest)
  | _ => (⟨flags, width, none⟩, rest)

/-- Letters that can end a field of a layout that is accepted, or a percent sign. Case does not
matter, nor do the dot of an i and the length of an s. -/
def isLetter (c : Char) : Bool := "diouxefgcrsa%ıİſ".toList.contains c.toLower

def name? (cs : List Char) : Option (List Char × List Char) :=
  match cs with
  | '(' :: rest =>
    match rest.dropWhile fun c => c != ')' with
    | _ :: after => some (rest.takeWhile fun c => c != ')', after)
    | [] => none
  | _ => none

def isField (cs : List Char) : Bool :=
  match name? cs with
  | some (name, rest) =>
    let (s, rest) := readShape (fun c => (digit? c).isSome) rest
    !name.isEmpty && name.all isWordChar && s.precision != some [] &&
    match rest with
    | letter :: _ => isLetter letter
    | [] => false
  | none => false

def isValid : List Char → Bool
  | [] => false
  | '%' :: rest => isField rest || isValid rest
  | _ :: rest => isValid rest

def balanced : Nat → List Char → Option (List Char × List Char)
  | _, [] => none
  | 0, ')' :: rest => some ([], rest)
  | depth + 1, ')' :: rest => (balanced depth rest).map fun (name, after) => (')' :: name, after)
  | depth, '(' :: rest => (balanced (depth + 1) rest).map fun (name, after) => ('(' :: name, after)
  | depth, c :: rest => (balanced depth rest).map fun (name, after) => (c :: name, after)

/-- The value that the next field without a name gets: that of the last name that was read or, before
any name, the whole record, each of them once. -/
abbrev Pending := Option FieldValue

def longest : Nat := Nat.pow 2 36

def sizeOf (cs : List Char) (pending : Pending) : Option (Int × Pending) :=
  match cs, pending with
  | ['*'], some (.number n) => if n.natAbs < longest then some (n, none) else none
  | ['*'], _ => none
  | ds, pending =>
    let n := ds.foldl (fun n c => n * 10 + (c.toNat - '0'.toNat)) 0
    if n < longest then some (n, pending) else none

structure Parts where
  sign : List Char
  mark : List Char
  body : List Char
  numeric : Bool
  deriving DecidableEq, Repr

def Parts.ofText (precision : Option Nat) (s : String) : Parts :=
  ⟨[], [], (precision.map s.toList.take).getD s.toList, false⟩

/-- No more of a text than is known of it. -/
def Parts.ofOpening (precision : Option Nat) (known : String) : Option Parts :=
  if known.length < precision.getD (known.length + 1) then none
  else some (.ofText precision known)

def signOf (flags : List Char) (n : Int) : List Char :=
  if n < 0 then ['-']
  else if flags.contains '+' then ['+']
  else if flags.contains ' ' then [' ']
  else []

def Parts.ofWhole (flags : List Char) (precision : Option Nat) (letter : Char) (n : Int) : Parts :=
  let digits := match letter with
    | 'o' => Nat.toDigits 8 n.natAbs
    | 'x' => Nat.toDigits 16 n.natAbs
    | 'X' => (Nat.toDigits 16 n.natAbs).map Char.toUpper
    | _ => Nat.toDigits 10 n.natAbs
  let marked := flags.contains '#' && "oxX".toList.contains letter
  ⟨signOf flags n, if marked then ['0', letter] else [],
    List.replicate (precision.getD 0 - digits.length) '0' ++ digits, true⟩

def showsTwoDigits (precision : Option Nat) (letter : Char) : Bool :=
  match precision with
  | some n => "eE".toList.contains letter && n ≤ 1 || "gG".toList.contains letter && n ≤ 2
  | none => false

def Parts.ofReal (flags : List Char) (precision : Option Nat) (letter : Char) (n : Int) :
    Option Parts :=
  (toBinary n.natAbs).map fun m =>
    let w := Written.ofKind letter (flags.contains '#') precision m
    ⟨signOf flags n, [], w.whole ++ w.tail, true⟩

def parts? (flags : List Char) (precision : Option Nat) (letter : Char) (v : FieldValue) :
    Option Parts :=
  match letter, v with
  | 's', .text s => some (.ofText precision s)
  | 'r', .text s => some (.ofText precision (quoted s))
  | 'a', .text s => some (.ofText precision (asciiOnly (quoted s)))
  | 's', .opening shown _ _ => Parts.ofOpening precision shown
  | 'r', .opening _ inspected _ => Parts.ofOpening precision inspected
  | 'a', .opening _ inspected _ => Parts.ofOpening precision (asciiOnly inspected)
  | 'c', .text s => if s.length = 1 then some (.ofText none s) else none
  | 'c', .number n =>
    if 0 ≤ n ∧ n < 0x110000 then some (.ofText none (String.ofList [Char.ofNat n.toNat]))
    else none
  | letter, .number n =>
    if "sra".toList.contains letter then some (.ofText precision (toString n))
    else if "diuoxX".toList.contains letter then some (.ofWhole flags precision letter n)
    else if realKinds.contains letter then Parts.ofReal flags precision letter n
    else none
  | letter, .mark s => if "sra".toList.contains letter then some (.ofText precision s) else none
  | _, .text _ => none
  | letter, .opening _ _ (some n) =>
    if showsTwoDigits precision letter then Parts.ofReal flags precision letter n else none
  | _, .opening _ _ none => none

def Parts.laidOut (p : Parts) (left zeros : Bool) (width : Nat) : List Char :=
  let head := p.sign ++ p.mark
  let missing := width - (head.length + p.body.length)
  if left then head ++ p.body ++ List.replicate missing ' '
  else if zeros && p.numeric then head ++ List.replicate missing '0' ++ p.body
  else List.replicate missing ' ' ++ head ++ p.body

structure Filled where
  text : List Char
  pending : Pending
  rest : List Char
  deriving DecidableEq, Repr

def dropLength (cs : List Char) : List Char :=
  match cs with
  | 'h' :: rest => rest
  | 'l' :: rest => rest
  | 'L' :: rest => rest
  | _ => cs

def fillNamed (r : Record) (pending : Pending) (cs : List Char) : Option Filled := do
  let (pending, cs) ← match cs with
    | '(' :: rest => do
      let (name, rest) ← balanced 0 rest
      let value ← r.field? (String.ofList name)
      pure (some value, rest)
    | _ => pure (pending, cs)
  let (s, rest) := readShape Char.isDigit cs
  let (width, pending) ← sizeOf s.width pending
  let (precision, pending) ← match s.precision with
    | none => pure (none, pending)
    | some ds => do
      let (n, pending) ← sizeOf ds pending
      pure (some n.toNat, pending)
  match dropLength rest with
  | [] => none
  | letter :: rest => do
    let p ← parts? s.flags precision letter (← pending)
    let left := s.flags.contains '-' || width < 0
    some ⟨p.laidOut left (s.flags.contains '0') width.natAbs, none, rest⟩

def fillField (r : Record) (pending : Pending) (cs : List Char) : Option Filled :=
  match cs with
  | '%' :: rest => some ⟨['%'], pending, rest⟩
  | _ => fillNamed r pending cs

def fillFrom (r : Record) : Nat → Pending → List Char → Option (List Char)
  | _, _, [] => some []
  | 0, _, _ => none
  | fuel + 1, pending, c :: rest =>
    if c != '%' then (fillFrom r fuel pending rest).map (c :: ·)
    else do
      let f ← fillField r pending rest
      (fillFrom r fuel f.pending f.rest).map (f.text ++ ·)

def fill (layout : List Char) (r : Record) : Option String :=
  (fillFrom r layout.length (some r.whole) layout).map String.ofList

end Layout
end SidAttribute.Log
