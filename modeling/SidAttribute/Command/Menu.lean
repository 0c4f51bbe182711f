import SidAttribute.Command.Arguments
import SidAttribute.Config.Store

/-! The commands of the program and what each may be given. A command can be named on the command
line or be an entry of its own; it then goes by the program's name alone. -/
namespace SidAttribute.Command
open Config

inductive Action where
  | version
  | env
  | decode
  deriving DecidableEq, Repr

namespace Action

def all : List Action := [.version, .env, .decode]

def name : Action → String
  | .version => "version"
  | .env => "env"
  | .decode => "decode"

def ofName? (name : String) : Option Action := all.find? fun a => a.name == name

def summary : Action → String
  | .version => "report prefixsid version"
  | .env => "show prefixsid configuration information"
  | .decode => "decode hex-encoded Prefix-SID attributes"

def description : Action → String
  | .version => "report the prefixsid version and where it runs from"
  | .env => "show the prefixsid configuration, as an INI file or as environment variables"
  | .decode => "decode hex-encoded BGP Prefix-SID attribute values"

end Action

def helpSwitch : Switch := ⟨'h', "help", .help, "show this help message and exit"⟩

def Action.switches : Action → List Switch
  | .version => []
  | .env =>
    [⟨'d', "diff", .flag, "only show the values which are not the defaults"⟩,
      ⟨'e', "env", .flag, "show environment variables rather than an INI file"⟩]
  | .decode =>
    [⟨'d', "debug", .flag, "report the parsing details on stderr"⟩,
      ⟨'p', "pdb", .flag, "fire the debugger on invalid payloads and crashes"⟩,
      ⟨'s', "siblings", .number, "maximum number of TLVs decoded per level (after the first)"⟩,
      ⟨'i', "indent", .number, "indent the JSON output by this many spaces"⟩]

def Action.operand : Action → Operand
  | .decode =>
    .value "payload" "the attribute value in hexadecimal (reads from stdin if not provided)"
  | _ => .none

def Action.grammar (program : String) (a : Action) : Grammar :=
  ⟨program, a.description, helpSwitch :: a.switches, a.operand⟩

def mainGrammar : Grammar :=
  ⟨application, "BGP Prefix-SID attribute decoder", [helpSwitch],
    .command (Action.all.map fun a => (a.name, a.summary))⟩

inductive Order where
  | help (g : Grammar)
  | refused (g : Grammar) (message : String)
  | bare
  | perform (a : Action) (v : Given)
  deriving DecidableEq, Repr

def Order.ofHalt (g : Grammar) : Halt → Order
  | .help => .help g
  | .refused message => .refused g message

def unrecognized (extras : List String) : String :=
  "unrecognized arguments: " ++ " ".intercalate extras

def orderOf (a : Action) (args : List String) : Order :=
  let g := a.grammar application
  match g.read args with
  | .error h => .ofHalt g h
  | .ok v => if v.extras.isEmpty then .perform a v else .refused g (unrecognized v.extras)

/-- The program and a command. The command's own arguments are read before it is known whether
anything is left over, but what is left over is refused in the name of the program. -/
def mainOrder (args : List String) : Order :=
  match mainGrammar.read args with
  | .error h => .ofHalt mainGrammar h
  | .ok v =>
    let finish (order : Order) (extras : List String) :=
      if extras.isEmpty then order else .refused mainGrammar (unrecognized extras)
    match v.command.bind fun (name, rest) => (Action.ofName? name).map fun a => (a, rest) with
    | none => finish .bare v.extras
    | some (a, rest) =>
      let g := a.grammar (application ++ " " ++ a.name)
      match g.read rest with
      | .error h => .ofHalt g h
      | .ok w => finish (.perform a w) (v.extras ++ w.extras)

def Order.readsInput : Order → Bool
  | .perform .decode v => v.operand.isNone
  | _ => false

def entryOrder (entry : Option Action) (args : List String) : Order :=
  match entry with
  | none => mainOrder args
  | some a => orderOf a args

end SidAttribute.Command
