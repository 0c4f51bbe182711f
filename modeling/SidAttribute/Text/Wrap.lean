import SidAttribute.Text.Line

/-! Breaking text at its spaces so that no line is wider than asked, unless a single word is. -/
namespace SidAttribute.Text

def words (s : String) : List String :=
  ((pieces ' ' s.toList).filter fun w => !w.isEmpty).map String.ofList

def fitWords (width : Nat) : String → List String → List String
  | line, [] => [line]
  | line, w :: rest =>
    if line.length + 1 + w.length ≤ width then fitWords width (line ++ " " ++ w) rest
    else line :: fitWords width w rest

def wrap (width : Nat) (s : String) : List String :=
  match words s with
  | [] => []
  | w :: rest => fitWords width w rest

end SidAttribute.Text
