import SidAttribute.Config.Store
import SidAttribute.Text.Line

/-! The configuration as lines: a summary of the defaults, the text of a file, or assignments of
variables. Hidden sections are never listed; on request only what differs from its default is. -/
namespace SidAttribute.Config
open Text

structure Listing where
  lines : List String
  failure : Option ConversionError
  deriving DecidableEq, Repr

namespace Listing

def empty : Listing := ⟨[], none⟩

def append (a b : Listing) : Listing :=
  match a.failure with
  | some _ => a
  | none => ⟨a.lines ++ b.lines, b.failure⟩

def join : List Listing → Listing
  | [] => empty
  | a :: rest => a.append (join rest)

def ofLine : Except ConversionError String → Listing
  | .ok line => ⟨[line], none⟩
  | .error e => ⟨[], some e⟩

end Listing

def Section.listed (changedOnly : Bool) (s : Section) : List Choice :=
  s.choices.filter fun o => !changedOnly || !(s.valueOf o).same o.fallback

namespace Choice

def fallbackText (o : Choice) : String :=
  match o.fallback with
  | .text s => addQuotes s
  | other => other.shown

def summary (heading : String) (o : Choice) : String :=
  padRight 34 (pathOf "." heading o.name) ++ " " ++ o.help ++ ". default (" ++ o.fallbackText ++ ")"

def formatted (value : Value) (o : Choice) : Except ConversionError String := do
  written (← o.format value)

def iniLine (value : Value) (o : Choice) : Except ConversionError String :=
  (o.formatted value).map fun text => o.name ++ " = " ++ text

def variableText (value : Value) (o : Choice) : Except ConversionError String :=
  match o.fallback with
  | .text _ => (written value).map addQuotes
  | _ => o.formatted value

def variableLine (heading : String) (value : Value) (o : Choice) :
    Except ConversionError String :=
  (o.variableText value).map fun text => pathOf "." heading o.name ++ "=" ++ text

end Choice

namespace Store

def summary (s : Store) : List String :=
  s.shownSections.flatMap fun c => c.choices.map (Choice.summary c.name)

def sectionIni (changedOnly : Bool) (c : Section) : Listing :=
  match c.listed changedOnly with
  | [] => Listing.empty
  | chosen =>
    Listing.join (Listing.ofLine (.ok ("\n[" ++ headingOf c.name ++ "]")) ::
      chosen.map fun o => Listing.ofLine (o.iniLine (c.valueOf o)))

def ini (s : Store) (changedOnly : Bool) : Listing :=
  Listing.join (s.shownSections.map (sectionIni changedOnly))

def sectionVariables (changedOnly : Bool) (c : Section) : Listing :=
  Listing.join ((c.listed changedOnly).map fun o =>
    Listing.ofLine (o.variableLine c.name (c.valueOf o)))

def assignments (s : Store) (changedOnly : Bool) : Listing :=
  Listing.join (s.shownSections.map (sectionVariables changedOnly))

end Store
end SidAttribute.Config
