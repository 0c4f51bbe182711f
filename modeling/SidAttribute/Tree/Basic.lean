import SidAttribute.Value

/-! Ordered trees of named values. A key keeps the place of its first use. A key under which more
than one child was added holds the children as a list, in the order they came; one child stands
bare. -/
namespace SidAttribute

abbrev Tree := List (String × Value)

namespace Tree

def get? : Tree → String → Option Value
  | [], _ => none
  | (k, v) :: rest, key => if k = key then some v else get? rest key

def keys (t : Tree) : List String := t.map Prod.fst

def put : Tree → String → Value → Tree
  | [], key, value => [(key, value)]
  | (k, v) :: rest, key, value =>
    if k = key then (k, value) :: rest else (k, v) :: put rest key value

def joined (old : Option Value) (child : Value) : Value :=
  match old with
  | none => child
  | some (.list items) => .list (items ++ [child])
  | some other => .list [other, child]

def addChild (t : Tree) (key : String) (child : Value) : Tree := t.put key (joined (t.get? key) child)

def children (t : Tree) (key : String) : List Value :=
  match t.get? key with
  | none => []
  | some (.list items) => items
  | some other => [other]

def merge (t other : Tree) : Tree := other.foldl (fun t field => t.put field.1 field.2) t

def follow (v : Value) : List String → Option Value
  | [] => some v
  | key :: rest =>
    match v with
    | .tree fields =>
      match get? fields key with
      | some next => follow next rest
      | none => none
    | _ => none

theorem getPut (t : Tree) (key other : String) (value : Value) :
    (t.put key value).get? other = if other = key then some value else t.get? other := by
  induction t with
  | nil => simp [put, get?, eq_comm]
  | cons field rest ih =>
    obtain ⟨k, v⟩ := field
    by_cases here : k = key
    · subst here
      by_cases h : k = other
      · simp [put, get?, h]
      · simp [put, get?, h, Ne.symm h]
    · by_cases h : k = other
      · subst h; simp [put, get?, here]
      · simp [put, get?, here, h, ih]

theorem keysPut (t : Tree) (key : String) (value : Value) :
    (t.put key value).keys = if key ∈ t.keys then t.keys else t.keys ++ [key] := by
  induction t with
  | nil => simp [put, keys]
  | cons field rest ih =>
    obtain ⟨k, v⟩ := field
    by_cases here : k = key
    · simp [put, here, keys]
    · have other : key ≠ k := Ne.symm here
      simp only [keys] at ih
      simp only [put, if_neg here, keys, List.map_cons, ih, List.mem_cons, other, false_or]
      by_cases known : key ∈ List.map Prod.fst rest <;> simp [known]

end Tree

inductive Place where
  | key (name : String)
  | index (position : Int)
  deriving DecidableEq, Repr

inductive PlaceError where
  | listKey
  | listRange
  | textKey
  | textRange
  | notAContainer (kind : String)
  | notATree (kind action : String)
  deriving DecidableEq, Repr

def PlaceError.message : PlaceError → String
  | .listKey => "list indices must be integers or slices, not str"
  | .listRange => "list index out of range"
  | .textKey => "string indices must be integers, not 'str'"
  | .textRange => "string index out of range"
  | .notAContainer kind => "'" ++ kind ++ "' object is not subscriptable"
  | .notATree kind action => "'" ++ kind ++ "' object has no attribute '" ++ action ++ "'"

namespace Value

def position? (length : Nat) (i : Int) : Option Nat :=
  let n := if i < 0 then i + length else i
  if 0 ≤ n ∧ n < length then some n.toNat else none

def at? (v : Value) (p : Place) : Except PlaceError Value :=
  match v, p with
  | .tree fields, .key name => .ok ((Tree.get? fields name).getD (.tree []))
  | .tree _, .index _ => .ok (.tree [])
  | .list items, .index i =>
    match (position? items.length i).bind (items[·]?) with
    | some item => .ok item
    | none => .error .listRange
  | .list _, .key _ => .error .listKey
  | .text s, .index i =>
    match (position? s.length i).bind (s.toList[·]?) with
    | some c => .ok (.text (String.ofList [c]))
    | none => .error .textRange
  | .text _, .key _ => .error .textKey
  | other, _ => .error (.notAContainer other.kindName)

/-- Changes the value at the end of a way of places. Where the way leaves what the tree holds, the
change is made on a value of its own and the tree stays as it was. -/
def changeAt (change : Value → Except PlaceError (Value × α)) (v : Value) :
    List Place → Except PlaceError (Value × α)
  | [] => change v
  | p :: rest => do
    let inner ← v.at? p
    let (next, result) ← changeAt change inner rest
    match v, p with
    | .tree fields, .key name =>
      .ok (if (Tree.get? fields name).isSome then .tree (Tree.put fields name next) else v, result)
    | .list items, .index i =>
      .ok (match position? items.length i with
        | some n => .list (items.set n next)
        | none => v, result)
    | _, _ => .ok (v, result)

end Value
end SidAttribute
