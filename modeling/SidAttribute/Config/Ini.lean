import SidAttribute.Text.Case
import SidAttribute.Text.Line
import SidAttribute.Text.Quoted
import SidAttribute.Text.Blank

/-! Reading of INI text. Sections in brackets, options with an equals sign or a colon, values that
go on over indented lines, comments on lines of their own; a section named DEFAULT serves every
other one. Sections and options may come only once. -/
namespace SidAttribute.Config.Ini
open Text

structure Entry where
  heading : String
  name : String
  lines : List (List Char)
  deriving DecidableEq, Repr

inductive IniError where
  | noHeading (number : Nat) (line : String)
  | repeatedHeading (number : Nat) (heading : String)
  | repeatedOption (number : Nat) (heading name : String)
  | noOptions (lines : List (Nat × String))
  deriving DecidableEq, Repr

def lineLabel (number : Nat) : String := " [line " ++ padLeft 2 (toString number) ++ "]"

def IniError.message (file : String) : IniError → String
  | .noHeading number line =>
    "File contains no section headers.\nfile: " ++ quoted file ++ ", line: " ++ toString number ++
    "\n" ++ quoted line
  | .repeatedHeading number heading =>
    "While reading from " ++ quoted file ++ lineLabel number ++ ": section " ++ quoted heading ++
    " already exists"
  | .repeatedOption number heading name =>
    "While reading from " ++ quoted file ++ lineLabel number ++ ": option " ++ quoted name ++
    " in section " ++ quoted heading ++ " already exists"
  | .noOptions lines =>
    "Source contains parsing errors: " ++ quoted file ++
    String.join (lines.map fun (number, line) =>
      "\n\t[line " ++ padLeft 2 (toString number) ++ "]: " ++ quoted line)

def sharedHeading : String := "DEFAULT"

structure State where
  heading : Option String
  name : Option String
  indent : Nat
  headings : List String
  entries : List Entry
  refused : List (Nat × String)
  deriving DecidableEq, Repr

def State.start : State := ⟨none, none, 0, [], [], []⟩

def addLine (heading name : String) (line : List Char) : List Entry → List Entry
  | [] => []
  | e :: rest =>
    if e.heading = heading ∧ e.name = name then { e with lines := line :: e.lines } :: rest
    else e :: addLine heading name line rest

def headingOf : List Char → Option (List Char)
  | '[' :: rest =>
    match (dropEndWhile (fun c => c != ']') rest).reverse with
    | _ :: inner@(_ :: _) => some inner.reverse
    | _ => none
  | _ => none

def isDelimiter (c : Char) : Bool := c == '=' || c == ':'

def optionOf (cs : List Char) : Option (List Char × List Char) :=
  match cs.dropWhile fun c => !isDelimiter c with
  | [] => none
  | _ :: value => some (trimEnd (cs.takeWhile fun c => !isDelimiter c), trim value)

def isComment (trimmed : List Char) : Bool :=
  match trimmed with
  | c :: _ => c == '#' || c == ';'
  | [] => false

def openSection (s : State) (number : Nat) (heading : String) : Except IniError State :=
  if heading ∈ s.headings then .error (.repeatedHeading number heading)
  else
    let headings := if heading = sharedHeading then s.headings else s.headings ++ [heading]
    .ok { s with heading := some heading, name := none, headings := headings }

def addOption (s : State) (number : Nat) (heading : String) (line trimmed : List Char) :
    Except IniError State :=
  let refused := (number, String.ofList line) :: s.refused
  match optionOf trimmed with
  | none => .ok { s with refused := refused }
  | some (rawName, value) =>
    let name := String.ofList (lower rawName)
    if s.entries.any fun e => e.heading == heading && e.name == name then
      .error (.repeatedOption number heading name)
    else .ok { s with
      name := some name
      entries := s.entries ++ [⟨heading, name, [value]⟩]
      refused := if rawName.isEmpty then refused else s.refused }

def State.current (s : State) : Option (String × String) :=
  match s.heading, s.name with
  | some heading, some name => if name.isEmpty then none else some (heading, name)
  | _, _ => none

def step (s : State) (number : Nat) (line : List Char) : Except IniError State :=
  let trimmed := trim line
  if isComment trimmed then .ok s
  else if trimmed.isEmpty then
    .ok <| match s.current with
      | some (heading, name) => { s with entries := addLine heading name [] s.entries }
      | none => s
  else
    let indent := (line.takeWhile isBlank).length
    match s.current, decide (s.indent < indent) with
    | some (heading, name), true =>
      .ok { s with entries := addLine heading name trimmed s.entries }
    | _, _ =>
      let s := { s with indent := indent }
      match headingOf trimmed, s.heading with
      | some heading, _ => openSection s number (String.ofList heading)
      | none, some heading => addOption s number heading line trimmed
      | none, none => .error (.noHeading number (String.ofList line))

def run (s : State) (number : Nat) : List (List Char) → Except IniError State
  | [] => .ok s
  | line :: rest => do run (← step s number line) (number + 1) rest

structure File where
  headings : List String
  entries : List Entry
  deriving DecidableEq, Repr

def File.empty : File := ⟨[], []⟩

/-- Lines that are no option are told all together, after the rest of the text was found in order.
-/
def read (text : String) : Except IniError File := do
  let s ← run State.start 1 (lines (unifyEnds text.toList))
  if s.refused.isEmpty then .ok ⟨s.headings, s.entries⟩ else .error (.noOptions s.refused.reverse)

def joinLines : List (List Char) → List Char
  | [] => []
  | [l] => l
  | l :: rest => l ++ '\n' :: joinLines rest

def Entry.value (e : Entry) : String := String.ofList (trimEnd (joinLines e.lines.reverse))

def File.entry? (f : File) (heading name : String) : Option Entry :=
  f.entries.find? fun e => e.heading == heading && e.name == name

def File.get? (f : File) (heading name : String) : Option String :=
  if heading ∈ f.headings then
    ((f.entry? heading name).or (f.entry? sharedHeading name)).map Entry.value
  else none

end SidAttribute.Config.Ini
