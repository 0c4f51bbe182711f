import SidAttribute.Text.Wrap

/-! What a command line may hold, and how that is shown. A grammar has switches, each with a short
and a long name, and one operand at most: a value, or the name of a command with all that follows
it. -/
namespace SidAttribute.Command
open Text

inductive Taking where
  | help
  | flag
  | number
  deriving DecidableEq, Repr

structure Switch where
  short : Char
  long : String
  takes : Taking
  help : String
  deriving DecidableEq, Repr

namespace Switch

def shortName (s : Switch) : String := String.ofList ['-', s.short]

def longName (s : Switch) : String := "--" ++ s.long

def names (s : Switch) : List String := [s.shortName, s.longName]

def title (s : Switch) : String := s.shortName ++ "/" ++ s.longName

def placeholder (s : Switch) : String :=
  match s.takes with
  | .number => " " ++ s.long.map Char.toUpper
  | _ => ""

def usage (s : Switch) : String := "[" ++ s.shortName ++ s.placeholder ++ "]"

def label (s : Switch) : String :=
  s.shortName ++ s.placeholder ++ ", " ++ s.longName ++ s.placeholder

end Switch

inductive Operand where
  | none
  | value (name help : String)
  | command (choices : List (String × String))
  deriving DecidableEq, Repr

def choicesLabel (choices : List (String × String)) : String :=
  "\x7b" ++ ",".intercalate (choices.map Prod.fst) ++ "\x7d"

def Operand.usage : Operand → List String
  | .none => []
  | .value name _ => ["[" ++ name ++ "]"]
  | .command choices => [choicesLabel choices, "..."]

structure Grammar where
  program : String
  description : String
  switches : List Switch
  operand : Operand
  deriving DecidableEq, Repr

structure Row where
  indent : Nat
  label : String
  help : String
  deriving DecidableEq, Repr

def Switch.row (s : Switch) : Row := ⟨2, s.label, s.help⟩

def Operand.rows : Operand → List Row
  | .none => []
  | .value name help => [⟨2, name, help⟩]
  | .command choices =>
    ⟨2, choicesLabel choices, ""⟩ :: choices.map fun (name, help) => ⟨4, name, help⟩

def pageWidth : Nat := 78

def meaningColumn : Nat := 24

def Row.lines (column : Nat) (r : Row) : List String :=
  let label := spaces r.indent ++ r.label
  match wrap (pageWidth - column) r.help with
  | [] => [label]
  | first :: rest =>
    let rest := rest.map fun line => spaces column ++ line
    if label.length + 2 ≤ column then (padRight column label ++ first) :: rest
    else label :: (spaces column ++ first) :: rest

namespace Grammar

def usage (g : Grammar) : String :=
  "usage: " ++ " ".intercalate (g.program :: g.switches.map Switch.usage ++ g.operand.usage) ++ "\n"

def groups (g : Grammar) : List (String × List Row) :=
  [("positional arguments", g.operand.rows), ("options", g.switches.map Switch.row)].filter
    fun group => !group.2.isEmpty

def column (g : Grammar) : Nat :=
  let widths := g.groups.flatMap fun group => group.2.map fun r => r.indent + r.label.length + 2
  min (widths.foldl max 0) meaningColumn

def help (g : Grammar) : String :=
  let group := fun (title, rows) =>
    "\n" ++ title ++ ":\n" ++
    String.join ((rows.flatMap (Row.lines g.column)).map fun line => line ++ "\n")
  g.usage ++ "\n" ++ String.join ((wrap pageWidth g.description).map fun line => line ++ "\n") ++
    String.join (g.groups.map group)

def complaint (g : Grammar) (message : String) : String :=
  g.usage ++ g.program ++ ": error: " ++ message ++ "\n"

end Grammar
end SidAttribute.Command
