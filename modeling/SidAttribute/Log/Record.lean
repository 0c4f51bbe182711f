import SidAttribute.Text.Quoted

/-! Records of a log. A record has its message, its severity and the name of its logger; what else it
carries depends on where and when it is written. -/
namespace SidAttribute.Log
open Text

inductive FieldValue where
  | text (s : String)
  | number (n : Int)
  | mark (s : String)
  /-- Anything of which no more is known than how its text begins, as it is and quoted, and, if it is
  a number, what it comes to in two digits. -/
  | opening (shown inspected : String) (near : Option Nat)
  deriving DecidableEq, Repr

structure Stamp where
  clock : String
  process : String
  fields : List (String × FieldValue)
  deriving DecidableEq, Repr

structure Record where
  logger : String
  severity : Int
  levelName : String
  message : String
  fields : List (String × FieldValue)
  deriving DecidableEq, Repr

namespace Record

def whole (r : Record) : FieldValue :=
  let text := "\x7b'name': " ++ quoted r.logger ++ ", 'msg': " ++ quoted r.message ++
    ", 'args': (), 'levelname': " ++ quoted r.levelName ++ ", 'levelno': " ++
    toString r.severity ++ ", 'pathname': "
  .opening text text none

def field? (r : Record) (name : String) : Option FieldValue :=
  match name with
  | "message" => some (.text r.message)
  | "msg" => some (.text r.message)
  | "name" => some (.text r.logger)
  | "levelname" => some (.text r.levelName)
  | "levelno" => some (.number r.severity)
  | _ => (r.fields.find? fun field => field.1 == name).map Prod.snd

end Record
end SidAttribute.Log
