import SidAttribute.Text.Quoted

/-! Values that a text format can carry: nothing, truth values, whole numbers, texts, lists, and
trees of named values. Truth values count as the numbers one and zero wherever numbers are compared
or asked for. -/
namespace SidAttribute
open Text

inductive Value where
  | null
  | bool (value : Bool)
  | int (value : Int)
  | text (value : String)
  | list (items : List Value)
  | tree (fields : List (String × Value))
  deriving Repr, Inhabited

namespace Value

mutual

def decEq : (a b : Value) → Decidable (a = b)
  | .null, b =>
    match b with
    | .null => isTrue rfl
    | .bool _ | .int _ | .text _ | .list _ | .tree _ => isFalse nofun
  | .bool a, b =>
    match b with
    | .bool b => decidable_of_iff (a = b) (by simp)
    | .null | .int _ | .text _ | .list _ | .tree _ => isFalse nofun
  | .int a, b =>
    match b with
    | .int b => decidable_of_iff (a = b) (by simp)
    | .null | .bool _ | .text _ | .list _ | .tree _ => isFalse nofun
  | .text a, b =>
    match b with
    | .text b => decidable_of_iff (a = b) (by simp)
    | .null | .bool _ | .int _ | .list _ | .tree _ => isFalse nofun
  | .list a, b =>
    match b with
    | .list b =>
      match decEqItems a b with
      | isTrue h => isTrue (by rw [h])
      | isFalse h => isFalse (by simpa using h)
    | .null | .bool _ | .int _ | .text _ | .tree _ => isFalse nofun
  | .tree a, b =>
    match b with
    | .tree b =>
      match decEqFields a b with
      | isTrue h => isTrue (by rw [h])
      | isFalse h => isFalse (by simpa using h)
    | .null | .bool _ | .int _ | .text _ | .list _ => isFalse nofun

def decEqItems : (a b : List Value) → Decidable (a = b)
  | [], [] => isTrue rfl
  | [], _ :: _ => isFalse nofun
  | _ :: _, [] => isFalse nofun
  | x :: a, y :: b =>
    match x.decEq y, decEqItems a b with
    | isTrue h₁, isTrue h₂ => isTrue (by rw [h₁, h₂])
    | isFalse h, _ => isFalse (by simp [h])
    | _, isFalse h => isFalse (by simp [h])

def decEqFields : (a b : List (String × Value)) → Decidable (a = b)
  | [], [] => isTrue rfl
  | [], _ :: _ => isFalse nofun
  | _ :: _, [] => isFalse nofun
  | (k, x) :: a, (l, y) :: b =>
    if h : k = l then
      match x.decEq y, decEqFields a b with
      | isTrue h₁, isTrue h₂ => isTrue (by rw [h, h₁, h₂])
      | isFalse h, _ => isFalse (by simp [h])
      | _, isFalse h => isFalse (by simp [h])
    else isFalse (by simp [h])

end

instance : DecidableEq Value := decEq

def kindName : Value → String
  | .null => "NoneType"
  | .bool _ => "bool"
  | .int _ => "int"
  | .text _ => "str"
  | .list _ => "list"
  | .tree _ => "dict"

mutual

def inspected : Value → String
  | .null => "None"
  | .bool true => "True"
  | .bool false => "False"
  | .int n => toString n
  | .text s => quoted s
  | .list [] => "[]"
  | .list (item :: rest) => "[" ++ item.inspected ++ inspectedItems rest ++ "]"
  | .tree [] => "\x7b\x7d"
  | .tree ((key, value) :: rest) =>
    "\x7b" ++ quoted key ++ ": " ++ value.inspected ++ inspectedFields rest ++ "\x7d"

def inspectedItems : List Value → String
  | [] => ""
  | item :: rest => ", " ++ item.inspected ++ inspectedItems rest

def inspectedFields : List (String × Value) → String
  | [] => ""
  | (key, value) :: rest =>
    ", " ++ quoted key ++ ": " ++ value.inspected ++ inspectedFields rest

end

def shown : Value → String
  | .text s => s
  | other => other.inspected

mutual

def mostDigits : Value → Nat
  | .int n => (Nat.toDigits 10 n.natAbs).length
  | .list items => mostDigitsItems items
  | .tree fields => mostDigitsFields fields
  | _ => 0

def mostDigitsItems : List Value → Nat
  | [] => 0
  | item :: rest => max item.mostDigits (mostDigitsItems rest)

def mostDigitsFields : List (String × Value) → Nat
  | [] => 0
  | (_, value) :: rest => max value.mostDigits (mostDigitsFields rest)

end

def number? : Value → Option Int
  | .bool b => some (if b then 1 else 0)
  | .int n => some n
  | _ => none

def same (a b : Value) : Bool :=
  match a.number?, b.number? with
  | some m, some n => m == n
  | _, _ => a == b

def holds : Value → Bool
  | .null => false
  | .bool b => b
  | .int n => n != 0
  | .text s => !s.isEmpty
  | .list items => !items.isEmpty
  | .tree fields => !fields.isEmpty

end Value
end SidAttribute
