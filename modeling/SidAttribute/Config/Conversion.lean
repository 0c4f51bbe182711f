import SidAttribute.Log.Severity
import SidAttribute.Text.Case
import SidAttribute.Text.Numeral
import SidAttribute.Value

/-! The conversions that read the values of options from text and write them back. -/
namespace SidAttribute.Config
open Text

inductive Conversion where
  | integer
  | positive
  | boolean
  | string
  | quoted
  | lowercase
  | logLevel
  deriving DecidableEq, Repr

inductive ConversionError where
  | numeral (e : NumeralError)
  | notANumber (kind : String)
  | negative (value : Value)
  | unknownLevel (text : String)
  | notText (kind : String)
  | noReader (kind : String)
  deriving DecidableEq, Repr

def ConversionError.message : ConversionError → String
  | .numeral e => e.message
  | .notANumber kind =>
    "int() argument must be a string, a bytes-like object or a real number, not '" ++ kind ++ "'"
  | .negative value => value.shown ++ " is not a positive integer"
  | .unknownLevel text => "invalid log level " ++ text
  | .notText kind => "'" ++ kind ++ "' object has no attribute 'strip'"
  | .noReader kind => "no reader for " ++ kind ++ " options"

def trueWords : List String := ["1", "yes", "on", "enable", "true"]

def readBool (s : String) : Bool := trueWords.contains (String.ofList (lower (trim s.toList)))

def isQuote (c : Char) : Bool := c == '\'' || c == '"'

def unquote (s : String) : String := String.ofList (strip isQuote (trim s.toList))

def addQuotes (s : String) : String := "'" ++ s ++ "'"

def lowerText (s : String) : String := String.ofList (lower s.toList)

def readLevel (s : String) : Except ConversionError String :=
  let name := String.ofList (upper (trim s.toList))
  match Log.severity? name with
  | some _ => .ok name
  | none => .error (.unknownLevel s)

def toNumber : Value → Except ConversionError Int
  | .bool b => .ok (if b then 1 else 0)
  | .int n => .ok n
  | .text s => (readInt s).mapError .numeral
  | other => .error (.notANumber other.kindName)

def needText : Value → Except ConversionError String
  | .text s => .ok s
  | other => .error (.notText other.kindName)

def written (v : Value) : Except ConversionError String :=
  if v.mostDigits ≤ maxDigits then .ok v.shown else .error (.numeral .unwritten)

def refuseNegative (v : Value) : Except ConversionError Value :=
  match written v with
  | .ok _ => .error (.negative v)
  | .error e => .error e

def Conversion.apply (c : Conversion) (v : Value) : Except ConversionError Value :=
  match c with
  | .integer => (toNumber v).map .int
  | .positive => do
    let n ← toNumber v
    if n < 0 then refuseNegative v else .ok (.int n)
  | .boolean => (needText v).map fun s => .bool (readBool s)
  | .string => (needText v).map fun s => .text (unquote s)
  | .quoted => (written v).map fun s => .text (addQuotes s)
  | .lowercase => (written v).map fun s => .text (lowerText s)
  | .logLevel => do
    let s ← needText v
    (readLevel s).map .text

end SidAttribute.Config
