import SidAttribute.Text.Line
import SidAttribute.Tree.Json

/-! Steps on a node of a tree: changes, look-ups and its text. Only trees know them; of all else a
look-up by key alone says what the key should have been. -/
namespace SidAttribute
open Text

inductive TreeStep where
  | put (key : String) (value : Value)
  | addChild (key : String) (child : Value)
  | children (key : String)
  /-- Adds to the list of children, which is the tree's own only if it stands there as a list. -/
  | append (key : String) (child : Value)
  | get (key : String)
  | follow (path : String) (fallback : Value)
  | json (indent : Option Int)
  deriving DecidableEq, Repr

inductive TreeReply where
  | node
  | text (s : String)
  | found (text : String) (there : Bool)
  | nothing
  deriving DecidableEq, Repr

namespace TreeStep

def name : TreeStep → String
  | .put .. => "put"
  | .addChild .. => "add_child"
  | .children _ => "children"
  | .append .. => "children"
  | .get _ => "get"
  | .follow .. => "get_path"
  | .json _ => "json"

def onTree (t : Tree) : TreeStep → Tree × TreeReply
  | .put key value => (t.put key value, .node)
  | .addChild key child => (t.addChild key child, .node)
  | .children key => (t, .text (Value.json none (.list (t.children key))))
  | .append key child =>
    match t.get? key with
    | some (.list items) => (t.put key (.list (items ++ [child])), .nothing)
    | _ => (t, .nothing)
  | .get key =>
    let found := t.get? key
    (t, .found (Value.json none (found.getD (.tree []))) found.isSome)
  | .follow path fallback =>
    let keys := (pieces '.' path.toList).map String.ofList
    (t, .text (Value.json none ((Tree.follow (.tree t) keys).getD fallback)))
  | .json indent => (t, .text (t.json indent))

def run (s : TreeStep) : Value → Except PlaceError (Value × TreeReply)
  | .tree t => let (t, reply) := s.onTree t; .ok (.tree t, reply)
  | other =>
    match s with
    | .get key => (other.at? (.key key)).map fun _ => (other, .nothing)
    | _ => .error (.notATree other.kindName s.name)

end TreeStep
end SidAttribute
