import SidAttribute.Wire.Octets

/-! Which kinds of element are decoded where. Four registries stand side by side, each from a code
to a kind; a code that is taken keeps its kind, and nothing is ever taken out. -/
namespace SidAttribute

inductive Kind where
  | labelIndex
  | originatorSrgb
  | l3Service
  | l2Service
  | sidInformation
  | sidStructure
  deriving DecidableEq, Repr

namespace Kind

def code : Kind → Int
  | .labelIndex => 1
  | .originatorSrgb => 3
  | .l3Service => 5
  | .l2Service => 6
  | .sidInformation => 1
  | .sidStructure => 1

def key : Kind → Option String
  | .labelIndex => some "label_index"
  | .originatorSrgb => some "originator_srgb"
  | .l3Service => some "srv6_l3_service"
  | .l2Service => some "srv6_l2_service"
  | .sidInformation => some "sid_information"
  | .sidStructure => none

end Kind

inductive Scope where
  | top
  | l3Service
  | l2Service
  | sidInformation
  deriving DecidableEq, Repr

def Scope.levelName : Scope → String
  | .top => "Prefix-SID TLV"
  | .l3Service => "SRv6 Service Sub-TLV"
  | .l2Service => "SRv6 Service Sub-TLV"
  | .sidInformation => "SRv6 Service Data Sub-Sub-TLV"

abbrev Registry := List (Int × Kind)

def Registry.kind? : Registry → Int → Option Kind
  | [], _ => none
  | (c, k) :: rest, code => if c = code then some k else kind? rest code

def Registry.codes (r : Registry) : List Int := r.map Prod.fst

structure Registries where
  top : Registry
  l3Service : Registry
  l2Service : Registry
  sidInformation : Registry
  deriving DecidableEq, Repr

namespace Registries

def none : Registries := ⟨[], [], [], []⟩

def standard : Registries :=
  ⟨[(1, .labelIndex), (3, .originatorSrgb), (5, .l3Service), (6, .l2Service)],
    [(1, .sidInformation)], [(1, .sidInformation)], [(1, .sidStructure)]⟩

def get (rs : Registries) : Scope → Registry
  | .top => rs.top
  | .l3Service => rs.l3Service
  | .l2Service => rs.l2Service
  | .sidInformation => rs.sidInformation

def set (rs : Registries) (r : Registry) : Scope → Registries
  | .top => { rs with top := r }
  | .l3Service => { rs with l3Service := r }
  | .l2Service => { rs with l2Service := r }
  | .sidInformation => { rs with sidInformation := r }

def kind? (rs : Registries) (s : Scope) (code : Int) : Option Kind := (rs.get s).kind? code

end Registries

structure TakenCode where
  scope : Scope
  code : Int
  deriving DecidableEq, Repr

def TakenCode.message (t : TakenCode) : String :=
  "only one class can be registered per " ++
  match t.scope with
  | .top => "Segment Routing TLV type"
  | .l3Service => "SRv6 Service Sub-TLV type"
  | .l2Service => "SRv6 Service Sub-TLV type"
  | .sidInformation => "SRv6 Service Sub-Sub-TLV type"

/-- Only the top level takes another code than the kind's own. -/
structure Registration where
  scope : Scope
  kind : Kind
  code : Option Int
  deriving DecidableEq, Repr

def Registration.target (g : Registration) : Int :=
  match g.scope with
  | .top => g.code.getD g.kind.code
  | _ => g.kind.code

def Registries.register (rs : Registries) (g : Registration) : Except TakenCode Registries :=
  match rs.kind? g.scope g.target with
  | some _ => .error ⟨g.scope, g.target⟩
  | Option.none => .ok (rs.set (rs.get g.scope ++ [(g.target, g.kind)]) g.scope)

def Registries.registerAll (rs : Registries) : List Registration → Registries
  | [] => rs
  | g :: rest =>
    match rs.register g with
    | .ok next => next.registerAll rest
    | .error _ => rs.registerAll rest

example :
    Registries.none.registerAll
      [⟨.top, .labelIndex, Option.none⟩, ⟨.top, .originatorSrgb, Option.none⟩,
        ⟨.top, .l3Service, Option.none⟩, ⟨.top, .l2Service, Option.none⟩,
        ⟨.l3Service, .sidInformation, Option.none⟩, ⟨.l2Service, .sidInformation, Option.none⟩,
        ⟨.sidInformation, .sidStructure, Option.none⟩] = Registries.standard := by
  decide

end SidAttribute
