import SidAttribute.Log.Kind

/-! What a template can ask of a value: its parts by name, and its items by position or key. A value
tells of its kind, and a kind of its own name and of the kinds it is a special case of; the features
of a kind are parts of its values and of the kind itself, and can be asked in their turn. -/
namespace SidAttribute.Log
open Text

inductive Part where
  | value (v : Value)
  | kind (k : Kind)
  | row (ks : List Kind)
  | single (v : Value)
  /-- A method of the owner, or an operator; `home` is the kind that has it. -/
  | bound (isMethod : Bool) (home : Kind) (owner : Part) (name : String)
  /-- A feature of a kind without an owner; the sort is the kind of the part. -/
  | unbound (sort home : Kind) (name : String)
  | alias (k : Kind) (item : Value)
  deriving DecidableEq, Repr

inductive PartError where
  | noAttribute (kind name : String)
  | noKindAttribute (kind name : String)
  | unset (name : String)
  | notIndexed (kind : String)
  | kindNotIndexed (kind : String)
  | notGeneric (text : String)
  | key (name : String)
  | position (n : Nat)
  | textKey
  | rowKey (kind : String)
  | range (kind : String)
  deriving DecidableEq, Repr

def PartError.message : PartError → String
  | .noAttribute kind name => "'" ++ kind ++ "' object has no attribute '" ++ name ++ "'"
  | .noKindAttribute kind name => "type object '" ++ kind ++ "' has no attribute '" ++ name ++ "'"
  | .unset name => name
  | .notIndexed kind => "'" ++ kind ++ "' object is not subscriptable"
  | .kindNotIndexed kind => "type '" ++ kind ++ "' is not subscriptable"
  | .notGeneric text => text ++ " is not a generic class"
  | .key name => quoted name
  | .position n => toString n
  | .textKey => "string indices must be integers, not 'str'"
  | .rowKey kind => kind ++ " indices must be integers or slices, not str"
  | .range kind => kind ++ " index out of range"

namespace Part

def kindOf : Part → Kind
  | .value v => .ofValue v
  | .kind _ => .kind
  | .row _ => .row
  | .single _ => .row
  | .bound isMethod .. => if isMethod then .function else .wrapper
  | .unbound sort .. => sort
  | .alias .. => .alias

def text (s : String) : Part := .value (.text s)

def about (k : Kind) : Part := (k.about.map text).getD (.value .null)

def numberPart? (n : Int) (name : String) : Option Int :=
  match name with
  | "real" => some n
  | "numerator" => some n
  | "imag" => some 0
  | "denominator" => some 1
  | _ => none

def kindPart? (k : Kind) (name : String) : Option Part :=
  match name with
  | "__name__" => some (text k.name)
  | "__qualname__" => some (text k.name)
  | "__module__" => some (text k.group)
  | "__base__" => some ((k.base?.map Part.kind).getD (.value .null))
  | "__bases__" => some (.row k.base?.toList)
  | "__mro__" => some (.row k.line)
  | "__doc__" => some (about k)
  | _ => none

def callingKind : Part → Kind
  | .kind k => k
  | p => p.kindOf

def ownPart? (p : Part) (name : String) : Option Part :=
  match p, name with
  | .bound _ _ _ n, "__name__" => some (text n)
  | .bound true _ owner n, "__qualname__" => some (text (owner.callingKind.name ++ "." ++ n))
  | .bound false home _ n, "__qualname__" => some (text (home.name ++ "." ++ n))
  | .bound _ _ owner _, "__self__" => some owner
  | .bound true .., "__module__" => some (.value .null)
  | .bound false home _ _, "__objclass__" => some (.kind home)
  | .unbound _ _ n, "__name__" => some (text n)
  | .unbound _ home n, "__qualname__" => some (text (home.name ++ "." ++ n))
  | .unbound _ home _, "__objclass__" => some (.kind home)
  | .value v, "__doc__" => some (about (.ofValue v))
  | .row _, "__doc__" => some (about .row)
  | .single _, "__doc__" => some (about .row)
  | .value v, name => (v.number?.bind fun n => numberPart? n name).map fun n => .value (.int n)
  | _, _ => none

def ofOwner? (owner : Part) (k : Kind) (name : String) : Option Part :=
  match k.feature? name with
  | some (home, .method) => some (.bound true home owner name)
  | some (home, .slot) => some (.bound false home owner name)
  | some (home, .kindMethod) => some (.bound true home (.kind k) name)
  | some (_, .nothing) => some (.value .null)
  | _ => none

def ofKind? (k : Kind) (name : String) : Option Part :=
  match k.feature? name with
  | some (home, .method) => some (.unbound .method home name)
  | some (home, .slot) => some (.unbound .slot home name)
  | some (home, .attribute) => some (.unbound .attribute home name)
  | some (home, .kindMethod) => some (.bound true home (.kind k) name)
  | some (_, .nothing) => some (.value .null)
  | none => none

def kindMember (k : Kind) (name : String) : Except PartError Part :=
  match ((kindPart? k name).or (ofKind? k name)).or (ofOwner? (.kind k) .kind name) with
  | some part => .ok part
  | none =>
    .error (if name = "__abstractmethods__" then .unset name else .noKindAttribute k.fullName name)

def ofAlias (k : Kind) (item : Value) (name : String) : Option (Except PartError Part) :=
  match name with
  | "__origin__" => some (.ok (.kind k))
  | "__args__" => some (.ok (.single item))
  | "__parameters__" => some (.ok (.row []))
  | "__unpacked__" => some (.ok (.value (.bool false)))
  | "__typing_unpacked_tuple_args__" => some (.ok (.value .null))
  | "__mro_entries__" => some (.ok (.bound true .alias (.alias k item) name))
  | "__reduce__" => some (.ok (.bound true .alias (.alias k item) name))
  | "__reduce_ex__" => some (.ok (.bound true .object (.alias k item) name))
  | "__copy__" => some (.error (.noAttribute Kind.alias.fullName name))
  | "__deepcopy__" => some (.error (.noAttribute Kind.alias.fullName name))
  | _ => none

def member (p : Part) (name : String) : Except PartError Part :=
  if name = "__class__" then .ok (.kind p.kindOf)
  else match p with
    | .kind k => kindMember k name
    | .alias k item => (ofAlias k item name).getD (kindMember k name)
    | p =>
      match (p.ownPart? name).or (ofOwner? p p.kindOf name) with
      | some part => .ok part
      | none => .error (.noAttribute p.kindOf.name name)

def shown : Part → String
  | .value v => v.shown
  | .kind k => k.shown
  | .row [k] => "(" ++ k.shown ++ ",)"
  | .row ks => "(" ++ ", ".intercalate (ks.map Kind.shown) ++ ")"
  | .single v => "(" ++ v.inspected ++ ",)"
  | .bound true _ owner name =>
    "<built-in method " ++ name ++ " of " ++ owner.kindOf.fullName ++ " object at 0x0>"
  | .bound false _ owner name =>
    "<method-wrapper '" ++ name ++ "' of " ++ owner.kindOf.fullName ++ " object at 0x0>"
  | .unbound sort home name =>
    let word := match sort with
      | .method => "method"
      | .slot => "slot wrapper"
      | _ => "attribute"
    "<" ++ word ++ " '" ++ name ++ "' of '" ++ home.fullName ++ "' objects>"
  | .alias k item => k.name ++ "[" ++ item.inspected ++ "]"

def inspected : Part → String
  | .value v => v.inspected
  | other => other.shown

def item (p : Part) (position : Option Nat) (key : String) : Except PartError Part :=
  let row (kind : String) (parts : List Part) : Except PartError Part :=
    match position with
    | none => .error (.rowKey kind)
    | some n => (parts[n]?.map Except.ok).getD (.error (.range kind))
  match p with
  | .kind k =>
    if k.isNarrowed then .ok (.alias k ((position.map fun n => .int n).getD (.text key)))
    else .error (.kindNotIndexed k.fullName)
  | .alias .. => .error (.notGeneric p.shown)
  | .row ks => row "tuple" (ks.map Part.kind)
  | .single v => row "tuple" [.value v]
  | .value (.list items) => row "list" (items.map Part.value)
  | .value (.text s) =>
    match position with
    | none => .error .textKey
    | some _ => row "string" (s.toList.map fun c => .value (.text (String.ofList [c])))
  | .value (.tree fields) =>
    match position, fields.find? fun f => f.1 == key with
    | some n, _ => .error (.position n)
    | none, some f => .ok (.value f.2)
    | none, none => .error (.key key)
  | other => .error (.notIndexed other.kindOf.name)

end Part
end SidAttribute.Log
