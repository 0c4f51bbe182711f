import SidAttribute.Config.Store
import SidAttribute.Log.Handler
import SidAttribute.Text.Blank
import SidAttribute.Text.Digit
import SidAttribute.Text.Line
import SidAttribute.Text.Word

/-! References in the settings of a logger. A text with a scheme in front stands for something else:
a constant of the program or of the platform, or an entry of the description that the text is part
of. Any other scheme is plain text. What a reference leads to may be a reference again; one that
leads back to itself, or nowhere, stands for nothing. -/
namespace SidAttribute.Log
open Config Text

inductive Entry where
  | setting (v : Value)
  | table (fields : List (String × Entry))
  | made

inductive Hop where
  | key (name : String)
  | position (n : Nat)
  deriving DecidableEq, Repr

namespace Entry

def hop? : Entry → Hop → Option Entry
  | .table fields, .key name => (fields.find? fun f => f.1 == name).map Prod.snd
  | .setting (.tree fields), .key name =>
    (fields.find? fun f => f.1 == name).map fun f => .setting f.2
  | .setting (.list items), .position n => items[n]?.map .setting
  | .setting (.text s), .position n =>
    s.toList[n]?.map fun c => .setting (.text (String.ofList [c]))
  | _, _ => none

def value? : Entry → Option Value
  | .setting v => some v
  | .table [] => some (.tree [])
  | _ => none

end Entry

inductive Reference where
  | constant (path : String)
  | entry (path : List Char)
  deriving DecidableEq, Repr

namespace Reference

/-- The scheme of a text and what follows it, less one line feed at the end; a scheme is made of
small letters and what follows is one line. -/
def scheme? (cs : List Char) : Option (String × List Char) :=
  let name := cs.takeWhile Char.isLower
  match cs.dropWhile Char.isLower with
  | ':' :: '/' :: '/' :: rest =>
    let rest := if rest.getLast? = some '\n' then rest.dropLast else rest
    if name.isEmpty || rest.contains '\n' then none else some (String.ofList name, rest)
  | _ => none

def ofText? (s : String) : Option Reference :=
  match scheme? s.toList with
  | some ("ext", path) => some (.constant (String.ofList path))
  | some ("cfg", path) => some (.entry path)
  | _ => none

def word? (cs : List Char) : Option (List Char × List Char) :=
  let cs := cs.dropWhile isBlank
  let name := cs.takeWhile isWordChar
  if name.isEmpty then none else some (name, (cs.dropWhile isWordChar).dropWhile isBlank)

def hopOf (name : List Char) : Hop :=
  match name.mapM digit? with
  | some ds => .position (ds.foldl (fun n d => n * 10 + d) 0)
  | none => .key (String.ofList name)

def hops? : Nat → List Char → Option (List Hop)
  | _, [] => some []
  | 0, _ => none
  | fuel + 1, '.' :: rest => do
    let (name, rest) ← word? rest
    return .key (String.ofList name) :: (← hops? fuel rest)
  | fuel + 1, '[' :: rest => do
    let (name, rest) ← word? rest
    match rest with
    | ']' :: rest => return hopOf name :: (← hops? fuel (rest.dropWhile isBlank))
    | _ => none
  | _, _ => none

def path? (cs : List Char) : Option (List Hop) := do
  let (name, rest) ← word? cs
  return .key (String.ofList name) :: (← hops? rest.length rest)

end Reference

/-- What an entry stands for in a description. The fuel bounds how many references lead on to one
another. -/
def Entry.resolve (platform : Platform) (description : Entry) : Nat → Entry → Option Entry
  | 0, _ => none
  | fuel + 1, .setting (.text s) =>
    match Reference.ofText? s with
    | none => some (.setting (.text s))
    | some (.constant path) => (platform.constant? path).map .setting
    | some (.entry path) => do
      (← Reference.path? path).foldlM
        (fun e hop => (e.hop? hop).bind (description.resolve platform fuel)) description
  | _, e => some e

structure Description where
  platform : Platform
  layout : Entry
  handlers : List (String × Entry)
  logger : String
  level : Value

namespace Description

def ofPlans (platform : Platform) (logger : String) (o : LoggerOptions) (plans : List HandlerPlan) :
    Description :=
  ⟨platform, .table [("format", .setting o.format)],
    plans.map fun p => (p.name, .table (p.settings.map fun (key, v) => (key, .setting v))),
    logger, o.level⟩

def entry (d : Description) : Entry :=
  .table [("version", .setting (.int 1)), ("formatters", .table [(layoutName, d.layout)]),
    ("handlers", .table d.handlers),
    ("loggers", .table [(d.logger, .table [("level", .setting d.level),
      ("handlers", .setting (.list (d.handlers.map fun h => .text h.1))),
      ("propagate", .setting (.bool false))])])]

/-- More references than this never lead on to one another. -/
def depth : Nat := 64

def resolve (d : Description) (v : Value) : Option Entry :=
  d.entry.resolve d.platform depth (.setting v)

def value? (d : Description) (v : Value) : Option Value := (d.resolve v).bind Entry.value?

def withLayoutMade (d : Description) : Description := { d with layout := .made }

def withHandlerMade (d : Description) (name : String) : Description :=
  { d with handlers := d.handlers.map fun h => if h.1 = name then (h.1, .made) else h }

def without (d : Description) (name : String) (keys : List String) : Description :=
  { d with handlers := d.handlers.map fun h =>
      match h with
      | (n, .table fields) =>
        if n = name then (n, .table (fields.filter fun f => !keys.contains f.1)) else h
      | _ => h }

theorem resolvePlain {s : String} (plain : Reference.ofText? s = none) (d : Description) :
    d.resolve (.text s) = some (.setting (.text s)) := by
  simp [resolve, depth, Entry.resolve, plain]

theorem valuePlain {s : String} (plain : Reference.ofText? s = none) (d : Description) :
    d.value? (.text s) = some (.text s) := by
  rw [value?, resolvePlain plain]
  rfl

end Description

end SidAttribute.Log
