import SidAttribute.Text.Line
import SidAttribute.Text.Quoted
import SidAttribute.Tree.Basic

/-! Values as JSON text in plain ASCII. Without an indent all stands on one line; with one, every
item has a line of its own, a negative indent counting as none, and empty lists and trees stay
closed. -/
namespace SidAttribute.Json
open Text

def unicodeEscape (n : Nat) : List Char := '\\' :: 'u' :: hexDigits 4 n

def escapeChar (c : Char) : List Char :=
  if c = '"' then ['\\', '"']
  else if c = '\\' then ['\\', '\\']
  else if c = '\n' then ['\\', 'n']
  else if c = '\r' then ['\\', 'r']
  else if c = '\t' then ['\\', 't']
  else if c.toNat = 8 then ['\\', 'b']
  else if c.toNat = 12 then ['\\', 'f']
  else if 32 ≤ c.toNat ∧ c.toNat ≤ 126 then [c]
  else if c.toNat < 0x10000 then unicodeEscape c.toNat
  else
    let n := c.toNat - 0x10000
    unicodeEscape (0xd800 + n / 0x400) ++ unicodeEscape (0xdc00 + n % 0x400)

def string (s : String) : String :=
  "\"" ++ String.ofList (s.toList.flatMap escapeChar) ++ "\""

def lineBreak (indent : Option Int) (depth : Nat) : String :=
  match indent with
  | none => ""
  | some n => "\n" ++ spaces (n.toNat * depth)

def separator (indent : Option Int) (depth : Nat) : String :=
  match indent with
  | none => ", "
  | some _ => "," ++ lineBreak indent depth

mutual

def value (indent : Option Int) (depth : Nat) : Value → String
  | .null => "null"
  | .bool true => "true"
  | .bool false => "false"
  | .int n => toString n
  | .text s => string s
  | .list [] => "[]"
  | .list (item :: rest) =>
    "[" ++ lineBreak indent (depth + 1) ++ value indent (depth + 1) item ++
    items indent (depth + 1) rest ++ lineBreak indent depth ++ "]"
  | .tree [] => "\x7b\x7d"
  | .tree (field :: rest) =>
    "\x7b" ++ lineBreak indent (depth + 1) ++ string field.1 ++ ": " ++
    value indent (depth + 1) field.2 ++ fields indent (depth + 1) rest ++
    lineBreak indent depth ++ "\x7d"

def items (indent : Option Int) (depth : Nat) : List Value → String
  | [] => ""
  | item :: rest =>
    separator indent depth ++ value indent depth item ++ items indent depth rest

def fields (indent : Option Int) (depth : Nat) : List (String × Value) → String
  | [] => ""
  | field :: rest =>
    separator indent depth ++ string field.1 ++ ": " ++ value indent depth field.2 ++
    fields indent depth rest

end

end SidAttribute.Json

namespace SidAttribute

def Value.json (indent : Option Int) (v : Value) : String := Json.value indent 0 v

def Tree.json (indent : Option Int) (t : Tree) : String := Json.value indent 0 (.tree t)

end SidAttribute
