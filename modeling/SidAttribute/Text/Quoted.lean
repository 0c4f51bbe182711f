import SidAttribute.Text.Printable

/-! Quoted text in messages. Single quotes enclose the text unless it holds a single and no double
quote; what cannot be printed is shown by its code point. -/
namespace SidAttribute.Text

def hexDigits (n value : Nat) : List Char :=
  let digits := Nat.toDigits 16 value
  List.replicate (n - digits.length) '0' ++ digits

def quoteMark (cs : List Char) : Char :=
  if cs.contains '\'' && !cs.contains '"' then '"' else '\''

def escapeQuoted (mark c : Char) : List Char :=
  if c = mark || c = '\\' then ['\\', c]
  else if c = '\n' then ['\\', 'n']
  else if c = '\r' then ['\\', 'r']
  else if c = '\t' then ['\\', 't']
  else if isPrintable c then [c]
  else if c.toNat < 0x100 then '\\' :: 'x' :: hexDigits 2 c.toNat
  else if c.toNat < 0x10000 then '\\' :: 'u' :: hexDigits 4 c.toNat
  else '\\' :: 'U' :: hexDigits 8 c.toNat

def quotedChars (cs : List Char) : List Char :=
  let mark := quoteMark cs
  mark :: cs.flatMap (escapeQuoted mark) ++ [mark]

def quoted (s : String) : String := String.ofList (quotedChars s.toList)

def asciiOnly (s : String) : String :=
  String.ofList (s.toList.flatMap fun c =>
    let n := c.toNat
    if n < 128 then [c]
    else if n < 0x100 then '\\' :: 'x' :: hexDigits 2 n
    else if n < 0x10000 then '\\' :: 'u' :: hexDigits 4 n
    else '\\' :: 'U' :: hexDigits 8 n)

end SidAttribute.Text
