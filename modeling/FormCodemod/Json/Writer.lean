import FormCodemod.Json.Text

/-!
# Writing JSON

Objects whose members are strings, without space between the tokens. In a string the quote, the
backslash and the control characters are escaped, and all other characters stand for themselves.
-/

namespace FormCodemod.Json

/-- A digit of a hexadecimal number. -/
def hexDigit (n : Nat) : Char :=
  if n < 10 then Char.ofNat ('0'.toNat + n) else Char.ofNat ('a'.toNat + (n - 10))

/-- A character as a string holds it. -/
def escapedChar (c : Char) : List Char :=
  match c with
  | '"' => ['\\', '"']
  | '\\' => ['\\', '\\']
  | '\x08' => ['\\', 'b']
  | '\x0c' => ['\\', 'f']
  | '\n' => ['\\', 'n']
  | '\r' => ['\\', 'r']
  | '\t' => ['\\', 't']
  | c =>
    if c < ' ' then
      ['\\', 'u', '0', '0', hexDigit (c.toNat / 16), hexDigit (c.toNat % 16)]
    else [c]

/-- A string. -/
def writeText (chars : List Char) : List Char :=
  '"' :: chars.flatMap escapedChar ++ ['"']

/-- A member of an object. -/
def writeMember (member : List Char × List Char) : List Char :=
  writeText member.1 ++ ':' :: writeText member.2

/-- An object whose members are strings. -/
def writeObject (members : List (List Char × List Char)) : List Char :=
  '\x7b' :: [','].intercalate (members.map writeMember) ++ ['\x7d']

end FormCodemod.Json
