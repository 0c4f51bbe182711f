import SidAttribute.Command.Grammar
import SidAttribute.Text.Numeral

/-! Reading of arguments by a grammar. Each argument is first told apart: switches by their names,
which may be cut short where that leaves no doubt; operands, negative numbers and text with spaces
among them; and a double dash, after which everything is an operand. Short switches may stand
together behind one dash. What nothing in the grammar takes is kept apart and refused by the caller.
-/
namespace SidAttribute.Command
open Text

inductive Token where
  | operand (text : String)
  | marker
  | switch (text : String) (s : Switch) (long : Bool) (attached : Option (List Char))
  | unknown (text : String)
  deriving DecidableEq, Repr

def doubleDash : String := "--"

def Token.text : Token → String
  | .operand text => text
  | .marker => doubleDash
  | .switch text .. => text
  | .unknown text => text

def isNegativeNumber (cs : List Char) : Bool :=
  let isDigit := fun c => (digit? c).isSome
  let whole := fun (cs : List Char) => !cs.isEmpty && cs.all isDigit
  match cs with
  | '-' :: rest =>
    let body := if rest.getLast? = some '\n' then rest.dropLast else rest
    whole body ||
      match body.dropWhile isDigit with
      | '.' :: fraction => whole fraction
      | _ => false
  | _ => false

namespace Grammar

def shortSwitch? (g : Grammar) (c : Char) : Option Switch := g.switches.find? fun s => s.short == c

def switch? (g : Grammar) (name : String) : Option (Switch × Bool) :=
  match g.switches.find? fun s => s.shortName == name with
  | some s => some (s, false)
  | none => (g.switches.find? fun s => s.longName == name).map fun s => (s, true)

def splitValue (cs : List Char) : List Char × Option (List Char) :=
  match cs.dropWhile fun c => c != '=' with
  | _ :: value => (cs.takeWhile fun c => c != '=', some value)
  | [] => (cs, none)

def candidates (g : Grammar) (cs : List Char) : List (Switch × Bool × Option (List Char)) :=
  match cs with
  | '-' :: '-' :: _ =>
    let (name, attached) := splitValue cs
    (g.switches.filter fun s => name.isPrefixOf s.longName.toList).map fun s => (s, true, attached)
  | '-' :: c :: rest =>
    (g.shortSwitch? c).toList.map fun s => (s, false, some rest)
  | _ => []

def ambiguous (arg : String) (found : List (Switch × Bool × Option (List Char))) : String :=
  "ambiguous option: " ++ arg ++ " could match " ++
  ", ".intercalate (found.map fun (s, long, _) => if long then s.longName else s.shortName)

def token (g : Grammar) (arg : String) : Except String Token :=
  match arg.toList with
  | '-' :: c :: rest =>
    match g.switch? arg with
    | some (s, long) => .ok (.switch arg s long none)
    | none =>
      let (name, attached) := splitValue ('-' :: c :: rest)
      match attached, g.switch? (String.ofList name) with
      | some value, some (s, long) => .ok (.switch arg s long (some value))
      | _, _ =>
        match g.candidates ('-' :: c :: rest) with
        | [(s, long, value)] => .ok (.switch arg s long value)
        | [] =>
          if isNegativeNumber arg.toList ∨ ' ' ∈ arg.toList then .ok (.operand arg)
          else .ok (.unknown arg)
        | found => .error (ambiguous arg found)
  | _ => .ok (.operand arg)

def tokens (g : Grammar) : List String → Except String (List Token)
  | [] => .ok []
  | arg :: rest =>
    if arg = doubleDash then .ok (.marker :: rest.map .operand)
    else do
      let t ← g.token arg
      let ts ← tokens g rest
      .ok (t :: ts)

end Grammar

/-- What a switch is given for its number; a double dash written together with the switch gives it
nothing. -/
inductive Amount where
  | number (n : Int)
  | nothing
  deriving DecidableEq, Repr

structure Given where
  flags : List String
  amounts : List (String × Amount)
  operand : Option String
  command : Option (String × List String)
  extras : List String
  deriving DecidableEq, Repr

def Given.nothing : Given := ⟨[], [], none, none, []⟩

def Given.has (v : Given) (long : String) : Bool := v.flags.contains long

def Given.amount? (v : Given) (long : String) : Option Amount :=
  (v.amounts.find? fun pair => pair.1 == long).map Prod.snd

inductive Halt where
  | help
  | refused (message : String)
  deriving DecidableEq, Repr

def refuse (s : Switch) (message : String) : Halt := .refused ("argument " ++ s.title ++ ": " ++ message)

structure Cluster where
  uses : List (Switch × Option String)
  wanting : Option Switch
  deriving DecidableEq, Repr

def Cluster.before (s : Switch) (c : Cluster) : Cluster := { c with uses := (s, none) :: c.uses }

def Cluster.alone (s : Switch) : Cluster :=
  match s.takes with
  | .number => ⟨[], some s⟩
  | _ => ⟨[(s, none)], none⟩

def ignoredValue (s : Switch) (text : List Char) : Halt :=
  refuse s ("ignored explicit argument " ++ quoted (String.ofList text))

/-- A short switch with text behind it: its value if it takes one, else more switches. What does
not go on with the name of a switch is refused as a whole. -/
def shortCluster (g : Grammar) (s : Switch) : List Char → Except Halt Cluster
  | [] =>
    match s.takes with
    | .number => .ok ⟨[(s, some "")], none⟩
    | _ => .error (ignoredValue s [])
  | c :: rest =>
    match s.takes with
    | .number => .ok ⟨[(s, some (String.ofList (c :: rest)))], none⟩
    | _ =>
      match g.shortSwitch? c with
      | none => .error (ignoredValue s (c :: rest))
      | some t =>
        if rest.isEmpty then .ok ((Cluster.alone t).before s)
        else (shortCluster g t rest).map (Cluster.before s)

def longCluster (s : Switch) (text : List Char) : Except Halt Cluster :=
  match s.takes with
  | .number => .ok ⟨[(s, some (String.ofList text))], none⟩
  | _ => .error (ignoredValue s text)

def cluster (g : Grammar) (s : Switch) (long : Bool) : Option (List Char) → Except Halt Cluster
  | none => .ok (Cluster.alone s)
  | some text => if long then longCluster s text else shortCluster g s text

def useSwitch (v : Given) (s : Switch) (text : Option String) : Except Halt Given :=
  match s.takes, text with
  | .help, _ => .error .help
  | .flag, _ => .ok { v with flags := v.flags ++ [s.long] }
  | .number, text =>
    let text := text.getD ""
    if text = doubleDash then .ok { v with amounts := (s.long, .nothing) :: v.amounts }
    else match readInt text with
      | .ok n => .ok { v with amounts := (s.long, .number n) :: v.amounts }
      | .error _ => .error (refuse s ("invalid int value: " ++ quoted text))

def useAll (v : Given) : List (Switch × Option String) → Except Halt Given
  | [] => .ok v
  | (s, text) :: rest => do useAll (← useSwitch v s text) rest

inductive Waiting where
  | awaited
  | taken
  | closed
  deriving DecidableEq, Repr

def Waiting.past : Waiting → Waiting
  | .awaited => .awaited
  | _ => .closed

def chooseCommand (choices : List (String × String)) (name : String) : Except Halt Unit :=
  if choices.any fun c => c.1 == name then .ok ()
  else .error (.refused ("argument " ++ choicesLabel choices ++ ": invalid choice: " ++ quoted name ++
    " (choose from " ++ ", ".intercalate (choices.map fun c => quoted c.1) ++ ")"))

def Given.addExtra (v : Given) (text : String) : Given := { v with extras := v.extras ++ [text] }

def takeCommand (v : Given) (choices : List (String × String)) (name : String) (rest : List Token) :
    Except Halt Given := do
  chooseCommand choices name
  .ok { v with command := some (name, rest.map Token.text) }

def walkTokens (g : Grammar) : Given → Waiting → List Token → Except Halt Given
  | v, _, [] => .ok v
  | v, w, .unknown text :: rest => walkTokens g (v.addExtra text) w.past rest
  | v, w, .switch _ s long attached :: rest => do
    let c ← cluster g s long attached
    let w := w.past
    match c.wanting, rest with
    | none, rest => walkTokens g (← useAll v c.uses) w rest
    | some last, .operand text :: after =>
      walkTokens g (← useAll v (c.uses ++ [(last, some text)])) w after
    | some last, _ => .error (refuse last "expected one argument")
  | v, w, .operand text :: rest =>
    match w, g.operand with
    | .awaited, .value .. => walkTokens g { v with operand := some text } .taken rest
    | .awaited, .command choices => takeCommand v choices text rest
    | _, _ => walkTokens g (v.addExtra text) .closed rest
  | v, w, .marker :: rest =>
    match w, g.operand, rest with
    | .awaited, .value .., rest => walkTokens g v .awaited rest
    | .awaited, .command choices, _ :: _ => takeCommand v choices doubleDash rest
    | .taken, _, rest => walkTokens g v .closed rest
    | _, _, rest => walkTokens g (v.addExtra doubleDash) .closed rest

def Grammar.read (g : Grammar) (args : List String) : Except Halt Given :=
  match g.tokens args with
  | .error message => .error (.refused message)
  | .ok ts => walkTokens g Given.nothing .awaited ts

end SidAttribute.Command
