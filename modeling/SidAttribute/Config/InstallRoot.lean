import SidAttribute.Text.Line

/-! The folder that the program is installed in, and so where its file of settings lies. A path is a
text of components between slashes; exactly two slashes at its start are kept as two. -/
namespace SidAttribute.Config.InstallRoot
open Text

abbrev Path := List Char

def splitPath (p : Path) : List Path := pieces '/' p

def joinPath (components : List Path) : Path := List.intercalate ['/'] components

def rootSlashes : Path → Nat
  | '/' :: '/' :: '/' :: _ => 1
  | '/' :: '/' :: _ => 2
  | '/' :: _ => 1
  | _ => 0

/-- Adds a component to those before it, the last one first: two dots take the component before
them away, unless there is none to take. -/
def addComponent (rooted : Bool) (before : List Path) (c : Path) : List Path :=
  if c = [] ∨ c = ['.'] then before
  else if c = ['.', '.'] then
    match before with
    | [] => if rooted then [] else [c]
    | last :: rest => if last = ['.', '.'] then c :: before else rest
  else c :: before

def normal (p : Path) : Path :=
  let slashes := rootSlashes p
  let components := ((splitPath p).foldl (addComponent (0 < slashes)) []).reverse
  match List.replicate slashes '/' ++ joinPath components with
  | [] => ['.']
  | q => q

def folderPart (p : Path) : Path := (p.reverse.dropWhile fun c => c != '/').reverse

def lastPart (p : Path) : Path := (p.reverse.takeWhile fun c => c != '/').reverse

def dropSlashes (p : Path) : Path :=
  if p.all fun c => c == '/' then p else (p.reverse.dropWhile fun c => c == '/').reverse

def parent (p : Path) : Path := dropSlashes (folderPart p)

def absolute (here p : Path) : Path :=
  match p with
  | '/' :: _ => normal p
  | _ =>
    if here.isEmpty || here.getLast? == some '/' then normal (here ++ p)
    else normal (here ++ '/' :: p)

def before? (needle : List Char) : List Char → Option (List Char)
  | [] => if needle.isEmpty then some [] else none
  | c :: rest =>
    if needle.isPrefixOf (c :: rest) then some [] else (before? needle rest).map (c :: ·)

def checkout : List Char := "src/prefixsid/application".toList

def programFolders : List Path := ["bin".toList, "sbin".toList]

/-- The root by a path asked for, unless it is empty, else by the folder of the program. A folder of
programs lies in the root, and the root of a checkout is above its source folder. -/
def find (here : Path) (asked : Option Path) (program : Path) : Path :=
  let start := match asked with
    | some (c :: rest) => c :: rest
    | _ => parent program
  let whole := absolute here start
  let outer := if lastPart whole ∈ programFolders then parent whole else whole
  normal ((before? checkout outer).getD outer)

def askedVariable : String := "PREFIXSID_ROOT"

def settingsFile (root : Path) : Path :=
  let above := if root.getLast? = some '/' then root else root ++ ['/']
  above ++ "etc/prefixsid/prefixsid.env".toList

end SidAttribute.Config.InstallRoot
