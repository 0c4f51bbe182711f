import SidAttribute.Config.Ini
import SidAttribute.Config.Section

/-! The configuration of the program. Three sections of options; each option takes its text from a
variable under its dotted name, from a variable under the same name with underscores, or from the
file, in this order. Loading happens once: what was read before a bad value stays, and no later load
changes anything until the store is made afresh. -/
namespace SidAttribute.Config

def application : String := "prefixsid"

def version : String := "1.0.0"

def booleanChoice (name : String) (fallback : Bool) (help : String) : Choice :=
  ⟨name, .bool fallback, help, none, none⟩

def logSection : Section :=
  Section.declare "LogSection" "log" false
    [booleanChoice "enable" true "enable logging",
      ⟨"level", .text "INFO", "log message with at least the priority SYSLOG.<level>",
        some .logLevel, some .logLevel⟩,
      ⟨"destination", .text "stderr",
        "where logging should log: syslog, stdout, stderr or file:<filename>", none, none⟩,
      booleanChoice "all" false "report debug information for everything",
      booleanChoice "configuration" false "report configuration loading",
      booleanChoice "parser" false "report Prefix-SID TLV parsing details",
      booleanChoice "short" true "use short log format (not prepended with time,level,pid)"]

def decodeSection : Section :=
  Section.declare "DecodeSection" "decode" false
    [⟨"siblings", .int 3,
      "stop decoding a TLV level once more than this many sibling TLVs were seen",
      some .positive, none⟩]

def debugSection : Section :=
  Section.declare "DebugSection" "debug" true
    [booleanChoice "pdb" false "enable python debugger on errors"]

abbrev Variables := List (String × String)

namespace Variables

def get? : Variables → String → Option String
  | [], _ => none
  | (n, v) :: rest, name => if n = name then some v else get? rest name

def put : Variables → String → String → Variables
  | [], name, value => [(name, value)]
  | (n, v) :: rest, name, value =>
    if n = name then (n, value) :: rest else (n, v) :: put rest name value

def erase (vs : Variables) (name : String) : Variables := vs.filter fun pair => pair.1 != name

theorem getPut (vs : Variables) (name other value : String) :
    (vs.put name value).get? other = if other = name then some value else vs.get? other := by
  induction vs with
  | nil => simp [put, get?, eq_comm]
  | cons pair rest ih =>
    obtain ⟨n, v⟩ := pair
    by_cases here : n = name
    · subst here
      by_cases h : n = other
      · simp [put, get?, h]
      · simp [put, get?, h, Ne.symm h]
    · by_cases h : n = other
      · subst h; simp [put, get?, here]
      · simp [put, get?, here, h, ih]

end Variables

inductive VariableError where
  | nul
  | equals
  | noName
  deriving DecidableEq, Repr

def VariableError.message : VariableError → String
  | .nul => "embedded null byte"
  | .equals => "illegal environment variable name"
  | .noName => "[Errno 22] Invalid argument"

def Variables.assign (vs : Variables) (name value : String) : Except VariableError Variables :=
  if name.contains '\x00' || value.contains '\x00' then .error .nul
  else if name.contains '=' then .error .equals
  else if name.isEmpty then .error .noName
  else .ok (vs.put name value)

structure Sources where
  environment : Variables
  ini : Option String
  deriving DecidableEq, Repr

inductive LoadError where
  | file (e : Ini.IniError)
  | value (heading name text : String)
  deriving DecidableEq, Repr

def LoadError.message (path : String) : LoadError → String
  | .file e => e.message path
  | .value heading name text => "invalid value for " ++ heading ++ "." ++ name ++ " : " ++ text

def pathOf (mark heading name : String) : String := application ++ mark ++ heading ++ mark ++ name

def headingOf (heading : String) : String := application ++ "." ++ heading

/-- The text an option is read from. A variable counts even if it is empty; text from the file loses
the quotes around it before the option's own reader sees it. -/
def textOf (environment : Variables) (file : Ini.File) (heading name : String) : Option String :=
  ((environment.get? (pathOf "." heading name)).or (environment.get? (pathOf "_" heading name))).or
    ((file.get? (headingOf heading) name).map unquote)

namespace Section

def loadChoices (s : Section) (text : String → Option String) :
    List Choice → Section × Option LoadError
  | [] => (s, none)
  | o :: rest =>
    match text o.name with
    | none => s.loadChoices text rest
    | some t =>
      match o.parse t with
      | .ok v => (s.set o.name v).loadChoices text rest
      | .error _ => (s, some (.value s.name o.name t))

def load (s : Section) (text : String → Option String) : Section × Option LoadError :=
  s.loadChoices text s.choices

end Section

structure Store where
  log : Section
  decode : Section
  debug : Section
  loaded : Bool
  deriving DecidableEq, Repr

inductive Holding where
  | options (c : Section)
  | other (kind : String)
  deriving DecidableEq, Repr

inductive Misuse where
  | read
  | assign
  | search
  | list
  | member (name : String)
  deriving DecidableEq, Repr

def Misuse.message (kind : String) : Misuse → String
  | .read => "'" ++ kind ++ "' object is not subscriptable"
  | .assign => "'" ++ kind ++ "' object does not support item assignment"
  | .search => "argument of type '" ++ kind ++ "' is not iterable"
  | .list => "'" ++ kind ++ "' object is not iterable"
  | .member name => "'" ++ kind ++ "' object has no attribute '" ++ name ++ "'"

namespace Store

def fresh : Store := ⟨logSection, decodeSection, debugSection, false⟩

def sections (s : Store) : List Section := [s.log, s.decode, s.debug]

def shownSections (s : Store) : List Section := s.sections.filter fun c => !c.hidden

def read (s : Store) (text : String → String → Option String) : Store × Option LoadError :=
  match s.log.load (text s.log.name) with
  | (log, some e) => ({ s with log := log }, some e)
  | (log, none) =>
    match s.decode.load (text s.decode.name) with
    | (decode, some e) => ({ s with log := log, decode := decode }, some e)
    | (decode, none) =>
      let (debug, e) := s.debug.load (text s.debug.name)
      ({ s with log := log, decode := decode, debug := debug }, e)

/-- Loads unless loading was tried before. A file out of order leaves every option as it is. -/
def load (s : Store) (sources : Sources) : Store × Option LoadError :=
  if s.loaded then (s, none)
  else
    let s := { s with loaded := true }
    match (sources.ini.map Ini.read).getD (.ok Ini.File.empty) with
    | .error e => (s, some (.file e))
    | .ok file => s.read (textOf sources.environment file)

def ownKinds : List (String × String) :=
  ("_setup_done", "bool") ::
    ["setup", "reset", "default", "iter_ini", "iter_env", "keys", "_sections"].map (·, "method")

def holding? (s : Store) (name : String) : Except UnknownName Holding :=
  let key := undashed name
  match s.sections.find? fun c => c.name == key with
  | some c => .ok (.options c)
  | none =>
    match ownKinds.find? fun row => row.1 == key with
    | some (_, kind) => .ok (.other kind)
    | none => .error ⟨"Environment", key⟩

def has (s : Store) (name : String) : Bool := s.sections.any fun c => undashed name == c.name

def put (s : Store) (c : Section) : Store :=
  if c.name = s.log.name then { s with log := c }
  else if c.name = s.decode.name then { s with decode := c }
  else { s with debug := c }

def rows (s : Store) : List (String × String × Value) :=
  s.sections.flatMap fun c => c.items.map fun (name, value) => (c.name, name, value)

theorem loadOnce (s : Store) (sources : Sources) (done : s.loaded = true) :
    s.load sources = (s, none) := by
  simp [load, done]

end Store
end SidAttribute.Config
