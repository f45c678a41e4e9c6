import FormCodemod.Json.Fault

/-!
# Strings in JSON

A string ends at the next double quote. A backslash takes the next character in, or the character of
four hexadecimal digits; characters outside the basic plane take two such escapes, one for each half
of a surrogate pair.
-/

namespace FormCodemod.Json

/-- What is being read of a string. -/
inductive TextState where
  /-- A character as it is. -/
  | plain
  /-- The character behind a backslash. -/
  | escape
  /-- The four digits of an escape, behind the leading half of a pair if there is one. So many are
      read, with this value. -/
  | digits (lead : Option Nat) (count value : Nat)
  /-- The backslash behind the leading half of a pair. -/
  | pairBackslash (lead : Nat)
  /-- The letter behind that backslash. -/
  | pairLetter (lead : Nat)
  deriving DecidableEq, Repr

/-- The character that a backslash and a letter stand for. -/
def escapedBy? : Char → Option Char
  | '"' => some '"'
  | '\\' => some '\\'
  | '/' => some '/'
  | 'b' => some '\x08'
  | 'f' => some '\x0c'
  | 'n' => some '\n'
  | 'r' => some '\r'
  | 't' => some '\t'
  | _ => none

/-- The value of a hexadecimal digit. -/
def hexDigit? (c : Char) : Option Nat :=
  if c.isDigit then some (c.toNat - '0'.toNat)
  else if 'a' ≤ c && c ≤ 'f' then some (c.toNat - 'a'.toNat + 10)
  else if 'A' ≤ c && c ≤ 'F' then some (c.toNat - 'A'.toNat + 10)
  else none

/-- The leading half of a surrogate pair. -/
def isLeading (code : Nat) : Bool :=
  0xD800 ≤ code && code < 0xDC00

/-- The trailing half of a surrogate pair. -/
def isTrailing (code : Nat) : Bool :=
  0xDC00 ≤ code && code < 0xE000

/-- The character of a surrogate pair. -/
def charOfPair (lead trail : Nat) : Char :=
  Char.ofNat ((lead - 0xD800) * 0x400 + (trail - 0xDC00) + 0x10000)

/-- Puts a character ahead of the string that was read. -/
def withChar (c : Char) (outcome : Outcome (List Char)) : Outcome (List Char) :=
  outcome.mapResult (c :: ·)

/-- Reads a string up to its closing quote. -/
def readText : TextState → List Char → Outcome (List Char)
  | _, [] => .error ⟨.endInString, 0⟩
  | .plain, c :: cs =>
    if c = '"' then .ok ([], cs)
    else if c = '\\' then readText .escape cs
    else if c < ' ' then .error (.upon .controlCharacter (c :: cs))
    else withChar c (readText .plain cs)
  | .escape, c :: cs =>
    if c = 'u' then readText (.digits none 0 0) cs
    else
      match escapedBy? c with
      | some d => withChar d (readText .plain cs)
      | none => .error (.upon .invalidEscape (c :: cs))
  | .digits lead count value, c :: cs =>
    match hexDigit? c with
    | none =>
      if count + Text.width (c :: cs) < 4 then .error ⟨.endInString, 0⟩
      else .error (.past .invalidEscape (4 - count) (c :: cs))
    | some d =>
      let code := value * 16 + d
      if count < 3 then readText (.digits lead (count + 1) code) cs
      else
        match lead with
        | some lead =>
          if isTrailing code then withChar (charOfPair lead code) (readText .plain cs)
          else .error (.ahead .loneSurrogate cs)
        | none =>
          if isTrailing code then .error (.ahead .loneSurrogate cs)
          else if isLeading code then readText (.pairBackslash code) cs
          else withChar (Char.ofNat code) (readText .plain cs)
  | .pairBackslash lead, c :: cs =>
    if c = '\\' then readText (.pairLetter lead) cs
    else .error (.upon .secondSurrogateExpected (c :: cs))
  | .pairLetter lead, c :: cs =>
    if c = 'u' then readText (.digits (some lead) 0 0) cs
    else .error (.upon .secondSurrogateExpected (c :: cs))

end FormCodemod.Json
