import FormCodemod.Json.Value
import FormCodemod.Text.Bytes

/-!
# Faults of JSON texts

Where a text is no JSON, the fault is placed by how much of the text comes behind it. That number
does not depend on what comes before, and the line and the column are found from it in the end
(`Fault.place`).
-/

namespace FormCodemod.Json

/-- Why a text cannot be read. -/
inductive Cause where
  | endInValue
  | endInString
  | endInList
  | endInObject
  | valueExpected
  | wordExpected
  | colonExpected
  | listSeparatorExpected
  | objectSeparatorExpected
  | trailingComma
  | trailingCharacters
  | keyExpected
  | invalidNumber
  | numberOutOfRange
  | invalidEscape
  | loneSurrogate
  | secondSurrogateExpected
  | controlCharacter
  | tooDeep
  /-- An atom stands where an object has to be. -/
  | atomNotObject (found : Atom)
  /-- A list stands where an object has to be. -/
  | listNotObject
  deriving DecidableEq, Repr

/-- What a cause is reported as. -/
def Cause.message : Cause → String
  | endInValue => "EOF while parsing a value"
  | endInString => "EOF while parsing a string"
  | endInList => "EOF while parsing a list"
  | endInObject => "EOF while parsing an object"
  | valueExpected => "expected value"
  | wordExpected => "expected ident"
  | colonExpected => "expected `:`"
  | listSeparatorExpected => "expected `,` or `]`"
  | objectSeparatorExpected => "expected `,` or `\x7d`"
  | trailingComma => "trailing comma"
  | trailingCharacters => "trailing characters"
  | keyExpected => "key must be a string"
  | invalidNumber => "invalid number"
  | numberOutOfRange => "number out of range"
  | invalidEscape => "invalid escape"
  | loneSurrogate => "lone leading surrogate in hex escape"
  | secondSurrogateExpected => "unexpected end of hex escape"
  | controlCharacter => "control character (\\u0000-\\u001F) found while parsing a string"
  | tooDeep => "recursion limit exceeded"
  | atomNotObject found => "invalid type: " ++ found.describe ++ ", expected a map"
  | listNotObject => "invalid type: sequence, expected a map"

/-- A cause, and the number of bytes of the text that come behind its place. -/
structure Fault where
  cause : Cause
  behind : Nat
  deriving DecidableEq, Repr

namespace Fault

/-- A fault ahead of the rest of the text. -/
def ahead (cause : Cause) (rest : List Char) : Fault :=
  ⟨cause, Text.width rest⟩

/-- A fault behind so many further bytes of the rest of the text, or at its end. -/
def past (cause : Cause) (bytes : Nat) (rest : List Char) : Fault :=
  ⟨cause, Text.width rest - bytes⟩

/-- A fault at the next byte of the rest of the text, which counts as read. -/
def upon (cause : Cause) (rest : List Char) : Fault :=
  past cause 1 rest

end Fault

/-- The line and the column, in bytes, that are reached so many bytes further on in a text. -/
def lineAndColumn (line column : Nat) : List Char → Nat → Nat × Nat
  | _, 0 => (line, column)
  | [], n + 1 => (line, column + (n + 1))
  | c :: cs, n + 1 =>
    if n + 1 < c.utf8Size then (line, column + (n + 1))
    else if c = '\n' then lineAndColumn (line + 1) 0 cs n
    else lineAndColumn line (column + c.utf8Size) cs (n + 1 - c.utf8Size)

namespace Fault

/-- The line of a fault, from 1, and its column, the number of bytes of that line ahead of it. -/
def place (fault : Fault) (text : List Char) : Nat × Nat :=
  lineAndColumn 1 0 text (Text.width text - fault.behind)

/-- What a fault of a text is reported as. -/
def message (fault : Fault) (text : List Char) : String :=
  let (line, column) := fault.place text
  s!"{fault.cause.message} at line {line} column {column}"

end Fault

/-- What comes of reading a text: a result and the rest of the text, or a fault. -/
abbrev Outcome (α : Type) : Type :=
  Except Fault (α × List Char)

namespace Outcome

/-- Goes on with the rest of the text. -/
def andThen {α β : Type} (outcome : Outcome α) (next : α → List Char → Outcome β) : Outcome β :=
  match outcome with
  | .ok (result, rest) => next result rest
  | .error fault => .error fault

/-- Changes the result and keeps the rest of the text. -/
def mapResult {α β : Type} (f : α → β) (outcome : Outcome α) : Outcome β :=
  outcome.map fun r => (f r.1, r.2)

end Outcome

end FormCodemod.Json
