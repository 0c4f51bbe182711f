import SidAttribute.Log.Channel
import SidAttribute.Log.Handler
import SidAttribute.Log.Layout
import SidAttribute.Log.Line
import SidAttribute.Log.Reference
import SidAttribute.Log.Severity
import SidAttribute.Text.Quoted

/-! Named loggers. A logger has a severity and handlers; one without a severity of its own takes
that of the nearest logger whose dotted name is a prefix of its name, last of all that of the root,
and one that propagates hands its records on to it. Setting a logger up anew replaces its handlers
and takes those of all loggers below it away. The settings of a logger may be references; a logger
is set up from what they stand for. -/
namespace SidAttribute.Log
open Config Text

inductive Sink where
  | stream (errors : Bool)
  | syslog
  | file (f : LogFile)
  deriving DecidableEq, Repr

structure Handler where
  name : String
  sink : Sink
  level : Level
  layout : List Char
  deriving DecidableEq, Repr

structure Logger where
  name : String
  /-- Zero: that of the logger above. -/
  level : Level
  handlers : List Handler
  propagate : Bool
  deriving DecidableEq, Repr

def rootName : String := "root"

structure Facility where
  root : Logger
  loggers : List Logger
  created : List String
  deriving DecidableEq, Repr

inductive FacilityError where
  | layout
  | handler (name : String)
  | logger (name : String)
  | taken (name : String)
  deriving DecidableEq, Repr

def FacilityError.message : FacilityError → String
  | .layout => "Unable to configure formatter 'default'"
  | .handler name => "Unable to configure handler " ++ quoted name
  | .logger name => "Unable to configure logger " ++ quoted name
  | .taken name => "a logger with the name \"" ++ name ++ "\" already exists"

def facilitySeverity? (name : String) : Option Int :=
  if name = "WARN" then some 30 else (severity? name).map Int.ofNat

def levelOf : Entry → Except Unit (Option Level)
  | .setting .null => .ok none
  | .setting (.bool b) => .ok (some (.truth b))
  | .setting (.int n) => .ok (some (.number n))
  | .setting (.text name) =>
    match facilitySeverity? name with
    | some n => .ok (some (.number n))
    | none => .error ()
  | _ => .error ()

def layoutOf (d : Description) (v : Value) : Except FacilityError (List Char) :=
  match d.value? v with
  | none => .error .layout
  | some v =>
    if !v.holds then .ok plainFormat.toList
    else match v with
      | .text s => if Layout.isValid s.toList then .ok s.toList else .error .layout
      | _ => .error .layout

/-- Where a target leads to, once it is open. A file is opened after it is known that the size it may
grow to is a number. -/
def Target.open? (t : Target) (d : Description) (c : Channels) : Option (Channels × Sink) :=
  match t with
  | .stream errors => some (c, .stream errors)
  | .syslog address facility => do
    let address ← d.value? address
    let _ ← d.resolve facility
    if Listener.isAddress address then some (c, .syslog) else none
  | .file name largest backups => do
    let name ← d.value? name
    let largest ← d.value? largest
    let backups ← d.resolve backups
    let size ← largest.number?
    match name with
    | .text name =>
      let file ← d.platform.opens name
      some ({ c with files := c.files.append file.path "" },
        .file ⟨file, size, backups.value?.bind Value.number?⟩)
    | _ => none

/-- A plan made real. What its settings stand for is found out first, and what is used of its own
description is gone by then; its target is opened before its level is looked at. -/
def HandlerPlan.realize (p : HandlerPlan) (d : Description) (layout : List Char) (c : Channels) :
    Channels × Except FacilityError Handler :=
  let d := d.without p.name ["formatter", "level"]
  match d.resolve p.level, p.target.open? (d.without p.name ["class"]) c with
  | some level, some (c, sink) =>
    (c, match levelOf level with
      | .ok level => .ok ⟨p.name, sink, level.getD .unset, layout⟩
      | .error _ => .error (.handler p.name))
  | _, _ => (c, .error (.handler p.name))

def realizePlans (layout : List Char) : Description → List HandlerPlan → Channels →
    Description × Channels × Except FacilityError (List Handler)
  | d, [], c => (d, c, .ok [])
  | d, p :: rest, c =>
    match p.realize d layout c with
    | (c, .error e) => (d, c, .error e)
    | (c, .ok h) =>
      match realizePlans layout (d.withHandlerMade p.name) rest c with
      | (d, c, .ok hs) => (d, c, .ok (h :: hs))
      | (d, c, .error e) => (d, c, .error e)

def insertPlan (p : HandlerPlan) : List HandlerPlan → List HandlerPlan
  | [] => [p]
  | q :: rest => if p.name < q.name then p :: q :: rest else q :: insertPlan p rest

def sortPlans (ps : List HandlerPlan) : List HandlerPlan := ps.foldr insertPlan []

namespace Facility

def start : Facility := ⟨⟨rootName, .number 30, [], true⟩, [], []⟩

def isRoot (name : String) : Bool := name == "" || name == rootName

def blank (name : String) : Logger := ⟨name, .unset, [], true⟩

def logger (f : Facility) (name : String) : Logger :=
  if isRoot name then f.root
  else (f.loggers.find? fun l => l.name == name).getD (blank name)

def putIn : List Logger → Logger → List Logger
  | [], l => [l]
  | first :: rest, l => if first.name = l.name then l :: rest else first :: putIn rest l

def put (f : Facility) (name : String) (l : Logger) : Facility :=
  if isRoot name then { f with root := l } else { f with loggers := putIn f.loggers l }

def isBelow (name other : String) : Bool := (name.toList ++ ['.']).isPrefixOf other.toList

def resetBelow (f : Facility) (name : String) : Facility :=
  if name = "" then f
  else { f with loggers := f.loggers.map fun l => if isBelow name l.name then blank l.name else l }

/-- Sets one logger up: its layout, its handlers, then the logger itself. What was opened before an
error stays open; the logger then stays as it was. -/
def configure (f : Facility) (platform : Platform) (name : String) (o : LoggerOptions)
    (c : Channels) : Facility × Channels × Option FacilityError :=
  let plans := o.plans platform name
  let d := Description.ofPlans platform name o plans
  match layoutOf d o.format with
  | .error e => (f, c, some e)
  | .ok layout =>
    match realizePlans layout d.withLayoutMade (sortPlans plans) c with
    | (_, c, .error e) => (f, c, some e)
    | (d, c, .ok handlers) =>
      match (d.resolve o.level).map levelOf with
      | some (.ok level) =>
        let old := f.logger name
        let ordered := plans.filterMap fun p => handlers.find? fun h => h.name == p.name
        let new : Logger := ⟨old.name, level.getD old.level, ordered, false⟩
        ((f.put name new).resetBelow name, c, none)
      | _ => (f.put name (f.logger name), c, some (.logger name))

/-- A logger by name. One set up before is given as it is when nothing is asked for it, and set up
anew when that is asked for; else it is set up from the options. -/
def get (f : Facility) (platform : Platform) (name : String) (replace : Bool)
    (options : Option LoggerOptions) (c : Channels) : Facility × Channels × Except FacilityError Logger :=
  if name ∈ f.created ∧ !replace then
    (f, c, match options with
      | none => .ok (f.logger name)
      | some _ => .error (.taken name))
  else
    match f.configure platform name (options.getD {}) c with
    | (f, c, some e) => (f, c, .error e)
    | (f, c, none) =>
      let f := { f with created := if name ∈ f.created then f.created else f.created ++ [name] }
      (f, c, .ok (f.logger name))

def namesAbove (name : String) : List String :=
  let dots := (List.range name.length).filter fun i => 0 < i && name.toList[i]? == some '.'
  dots.reverse.map fun i => String.ofList (name.toList.take i)

def chain (f : Facility) (name : String) : List Logger :=
  if isRoot name then [f.root]
  else f.logger name ::
    (namesAbove name).filterMap (fun above => f.loggers.find? fun l => l.name == above) ++ [f.root]

def severity (f : Facility) (name : String) : Int :=
  match (f.chain name).find? fun l => l.level.severity != 0 with
  | some l => l.level.severity
  | none => 0

def reached : List Logger → List Handler
  | [] => []
  | l :: above => l.handlers ++ if l.propagate then reached above else []

end Facility

def Sink.write (s : Sink) (line : String) (c : Channels) : Channels :=
  match s with
  | .stream true => c.complain (line ++ "\n")
  | .stream false => c.print (line ++ "\n")
  | .syslog => { c with system := c.system ++ [line] }
  | .file f => { c with files := f.write c.files (line ++ "\n") }

def Handler.write (h : Handler) (r : Record) (c : Channels) : Channels :=
  if r.severity < h.level.severity then c
  else match Layout.fill h.layout r with
    | none => c
    | some line => h.sink.write line c

def lastResort : Int := 30

def Facility.write (f : Facility) (stamp : Stamp) (name : String) (method : Method)
    (message : String) (c : Channels) : Channels :=
  let severity : Int := method.severity
  if severity < f.severity name then c
  else match Facility.reached (f.chain name) with
    | [] => if severity < lastResort then c else c.complain (message ++ "\n")
    | handlers =>
      let r : Record :=
        ⟨(f.logger name).name, severity, method.levelName, message, stamp.fields⟩
      handlers.foldl (fun c h => h.write r c) c

end SidAttribute.Log
