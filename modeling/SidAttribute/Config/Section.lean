import SidAttribute.Config.Conversion

/-! Named options with defaults, in groups. An option reads its value from text by its own reader or
by the kind of its default, and writes it in the same way; names may be asked for with dashes. -/
namespace SidAttribute.Config

structure Choice where
  name : String
  fallback : Value
  help : String
  reader : Option Conversion
  writer : Option Conversion
  deriving DecidableEq, Repr

namespace Choice

def readerOf : Value → Option Conversion
  | .bool _ => some .boolean
  | .int _ => some .integer
  | .text _ => some .string
  | _ => none

def writerOf : Value → Option Conversion
  | .bool _ => some .lowercase
  | .text _ => some .quoted
  | _ => none

def read (o : Choice) (v : Value) : Except ConversionError Value :=
  match o.reader.or (readerOf o.fallback) with
  | some c => c.apply v
  | none => .error (.noReader o.fallback.kindName)

def parse (o : Choice) (s : String) : Except ConversionError Value := o.read (.text s)

def format (o : Choice) (v : Value) : Except ConversionError Value :=
  match o.writer.or (writerOf o.fallback) with
  | some c => c.apply v
  | none => (written v).map .text

end Choice

abbrev Values := List (String × Value)

def Values.get? : Values → String → Option Value
  | [], _ => none
  | (n, v) :: rest, name => if n = name then some v else get? rest name

def Values.put : Values → String → Value → Values
  | [], name, value => [(name, value)]
  | (n, v) :: rest, name, value =>
    if n = name then (n, value) :: rest else (n, v) :: put rest name value

theorem Values.getPut (vs : Values) (name other : String) (value : Value) :
    (vs.put name value).get? other = if other = name then some value else vs.get? other := by
  induction vs with
  | nil => simp [put, get?, eq_comm]
  | cons pair rest ih =>
    obtain ⟨n, v⟩ := pair
    by_cases here : n = name
    · subst here
      by_cases h : n = other
      · simp [put, get?, h]
      · simp [put, get?, h, Ne.symm h]
    · by_cases h : n = other
      · subst h; simp [put, get?, here]
      · simp [put, get?, here, h, ih]

structure Section where
  title : String
  name : String
  hidden : Bool
  choices : List Choice
  values : Values
  extras : Values
  deriving DecidableEq, Repr

structure UnknownName where
  title : String
  name : String
  deriving DecidableEq, Repr

def UnknownName.message (u : UnknownName) : String :=
  "'" ++ u.title ++ "' object has no attribute '" ++ u.name ++ "'"

def undashed (name : String) : String :=
  String.ofList (name.toList.map fun c => if c = '-' then '_' else c)

namespace Section

def addChoice : List Choice → Choice → List Choice
  | [], o => [o]
  | first :: rest, o => if first.name = o.name then o :: rest else first :: addChoice rest o

def declare (title name : String) (hidden : Bool) (choices : List Choice) : Section :=
  ⟨title, name, hidden, choices.foldl addChoice [], [], []⟩

def choice? (s : Section) (name : String) : Option Choice := s.choices.find? fun o => o.name == name

def valueOf (s : Section) (o : Choice) : Value := (s.values.get? o.name).getD o.fallback

def own? (s : Section) (name : String) : Option Value :=
  if name = "_values" then some (.tree s.values)
  else if name = "_section_name" then some (.text s.name)
  else if name = "_hidden" then some (.bool s.hidden)
  else none

def get (s : Section) (name : String) : Except UnknownName Value :=
  let key := undashed name
  match s.choice? key with
  | some o => .ok (s.valueOf o)
  | none =>
    match (s.extras.get? key).or (s.own? key) with
    | some v => .ok v
    | none => .error ⟨s.title, key⟩

def set (s : Section) (name : String) (v : Value) : Section :=
  let key := undashed name
  match s.choice? key, v with
  | some _, _ => { s with values := s.values.put key v }
  | none, .tree fields =>
    if key = "_values" then { s with values := fields }
    else { s with extras := s.extras.put key v }
  | none, _ => { s with extras := s.extras.put key v }

def has (s : Section) (name : String) : Bool := (s.choice? (undashed name)).isSome

def names (s : Section) : List String := s.choices.map Choice.name

def items (s : Section) : List (String × Value) := s.choices.map fun o => (o.name, s.valueOf o)

end Section
end SidAttribute.Config
