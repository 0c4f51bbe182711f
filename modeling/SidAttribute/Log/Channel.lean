/-! Where text goes: the two standard streams, the system log and files. Whatever is written to a file
is added at its end. A file that has a limit is put aside before a line would bring it there; of those
put aside before each goes one place up, and the last one is lost. -/
namespace SidAttribute.Log

abbrev Files := List (String × String)

namespace Files

def get? : Files → String → Option String
  | [], _ => none
  | (p, content) :: rest, path => if p = path then some content else get? rest path

def text (fs : Files) (path : String) : String := (fs.get? path).getD ""

def append : Files → String → String → Files
  | [], path, text => [(path, text)]
  | (p, content) :: rest, path, text =>
    if p = path then (p, content ++ text) :: rest else (p, content) :: append rest path text

def remove (fs : Files) (path : String) : Files := fs.filter fun file => file.1 != path

def move (fs : Files) (path target : String) : Files :=
  match fs.get? path with
  | none => fs
  | some content => (fs.remove path).remove target ++ [(target, content)]

theorem getAppend (fs : Files) (path other text : String) :
    (fs.append path text).get? other =
      if other = path then some (fs.text path ++ text) else fs.get? other := by
  induction fs with
  | nil => simp [append, get?, Files.text, eq_comm]
  | cons file rest ih =>
    obtain ⟨p, content⟩ := file
    rw [Files.text] at ih
    by_cases here : p = path
    · subst here
      by_cases same : p = other
      · subst same
        simp [append, get?, Files.text]
      · simp [append, get?, same, Ne.symm same]
    · by_cases same : p = other
      · subst same
        simp [append, get?, here]
      · simp [append, get?, Files.text, here, same, ih]

theorem getRemove (fs : Files) (path other : String) :
    (fs.remove path).get? other = if other = path then none else fs.get? other := by
  unfold remove
  induction fs with
  | nil => simp [get?]
  | cons file rest ih =>
    obtain ⟨p, content⟩ := file
    by_cases here : p = path
    · simp only [here, List.filter_cons, bne_self_eq_false, Bool.false_eq_true, if_false, ih, get?]
      split
      · rfl
      · next other => rw [if_neg (Ne.symm other)]
    · have kept : (p != path) = true := by simpa using here
      simp only [List.filter_cons, kept, if_true, get?, ih]
      split
      · next same => rw [if_neg (same ▸ here)]
      · rfl

end Files

structure OpenFile where
  path : String
  /-- Devices are not, and are never put aside. -/
  regular : Bool
  deriving DecidableEq, Repr

structure LogFile extends OpenFile where
  /-- The size that it never grows to; none if it is not positive. -/
  largest : Int
  /-- How many files are put aside; none: that is no number, and a full file takes no more. -/
  kept : Option Int
  deriving DecidableEq, Repr

def aside (path : String) (n : Nat) : String := path ++ "." ++ toString n

namespace Files

def moveUp (fs : Files) (path : String) : Nat → Files
  | 0 => fs
  | n + 1 => (fs.move (aside path (n + 1)) (aside path (n + 2))).moveUp path n

def putAside (fs : Files) (path : String) : Nat → Files
  | 0 => fs
  | n + 1 => ((fs.moveUp path n).remove (aside path 1)).move path (aside path 1)

end Files

namespace LogFile

/-- What is there counts in octets, the line in characters. -/
def isFull (f : LogFile) (fs : Files) (line : String) : Bool :=
  f.regular && 0 < f.largest && f.largest ≤ (fs.text f.path).utf8ByteSize + line.length

def write (f : LogFile) (fs : Files) (line : String) : Files :=
  if f.isFull fs line then
    match f.kept with
    | none => fs
    | some kept => (fs.putAside f.path kept.toNat).append f.path line
  else fs.append f.path line

end LogFile

structure Channels where
  output : String
  errors : String
  system : List String
  files : Files
  deriving DecidableEq, Repr

namespace Channels

def empty : Channels := ⟨"", "", [], []⟩

def print (c : Channels) (text : String) : Channels := { c with output := c.output ++ text }

def complain (c : Channels) (text : String) : Channels := { c with errors := c.errors ++ text }

end Channels

end SidAttribute.Log
