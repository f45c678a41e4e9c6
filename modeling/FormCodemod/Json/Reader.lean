import FormCodemod.Json.Number
import FormCodemod.Json.Text

/-!
# Reading JSON

Lists and objects nest to a limit (`depthLimit`). How deeply the values inside one may nest is the
argument of the recursion; the members of one list or object are read one after another, with the
length of the text as a bound on their number.

* `readValue`: the value that a text starts with;
* `readObject`: the members of the object that is the whole text.
-/

namespace FormCodemod.Json

/-- A character between the tokens. -/
def isSpace (c : Char) : Bool :=
  c = ' ' || c = '\n' || c = '\t' || c = '\r'

/-- The text without the space that it starts with. -/
def skipSpace (text : List Char) : List Char :=
  text.dropWhile isSpace

/-- Reads the rest of a word that stands for an atom. -/
def readWord (a : Atom) : List Char → List Char → Outcome Atom
  | [], text => .ok (a, text)
  | _ :: _, [] => .error ⟨.endInValue, 0⟩
  | expected :: word, c :: text =>
    if c = expected then readWord a word text else .error (.upon .wordExpected (c :: text))

/-- Reads an atom. -/
def readAtom : List Char → Outcome Atom
  | 'n' :: text => readWord .null ['u', 'l', 'l'] text
  | 't' :: text => readWord (.boolean true) ['r', 'u', 'e'] text
  | 'f' :: text => readWord (.boolean false) ['a', 'l', 's', 'e'] text
  | '"' :: text => (readText .plain text).mapResult .string
  | '-' :: text => (readMagnitude true text).mapResult .number
  | text =>
    if startsWithDigit text then (readMagnitude false text).mapResult .number
    else .error (.upon (if text.isEmpty then .endInValue else .valueExpected) text)

/-- Reads the elements of a list behind the first one, up to the closing bracket, of which there are
    fewer than the bound. -/
def readElements (read : List Char → Outcome Value) : Nat → List Char → Outcome (List Value)
  | 0, text => .error (.upon .tooDeep text)
  | bound + 1, text =>
    match skipSpace text with
    | [] => .error ⟨.endInList, 0⟩
    | ']' :: text => .ok ([], text)
    | ',' :: text =>
      match skipSpace text with
      | ']' :: text => .error (.upon .trailingComma (']' :: text))
      | text =>
        (read text).andThen fun value text => (readElements read bound text).mapResult (value :: ·)
    | text => .error (.upon .listSeparatorExpected text)

/-- Reads a list behind its opening bracket. -/
def readList (read : List Char → Outcome Value) (text : List Char) : Outcome (List Value) :=
  match skipSpace text with
  | [] => .error ⟨.endInList, 0⟩
  | ']' :: text => .ok ([], text)
  | text =>
    (read text).andThen fun value text =>
      (readElements read (text.length + 1) text).mapResult (value :: ·)

/-- Reads a member of an object behind the quote that its key begins with. -/
def readMember (read : List Char → Outcome Value) (text : List Char) :
    Outcome (List Char × Value) :=
  (readText .plain text).andThen fun key text =>
    match skipSpace text with
    | [] => .error ⟨.endInObject, 0⟩
    | ':' :: text => (read (skipSpace text)).mapResult (key, ·)
    | text => .error (.upon .colonExpected text)

/-- Reads the members of an object behind the first one, up to the closing brace, of which there are
    fewer than the bound. -/
def readMembers (read : List Char → Outcome Value) :
    Nat → List Char → Outcome (List (List Char × Value))
  | 0, text => .error (.upon .tooDeep text)
  | bound + 1, text =>
    match skipSpace text with
    | [] => .error ⟨.endInObject, 0⟩
    | '\x7d' :: text => .ok ([], text)
    | ',' :: text =>
      match skipSpace text with
      | [] => .error ⟨.endInValue, 0⟩
      | '"' :: text =>
        (readMember read text).andThen fun member text =>
          (readMembers read bound text).mapResult (member :: ·)
      | '\x7d' :: text => .error (.upon .trailingComma ('\x7d' :: text))
      | text => .error (.upon .keyExpected text)
    | text => .error (.upon .objectSeparatorExpected text)

/-- Reads an object behind its opening brace. -/
def readObjectTail (read : List Char → Outcome Value) (text : List Char) :
    Outcome (List (List Char × Value)) :=
  match skipSpace text with
  | [] => .error ⟨.endInObject, 0⟩
  | '\x7d' :: text => .ok ([], text)
  | '"' :: text =>
    (readMember read text).andThen fun member text =>
      (readMembers read (text.length + 1) text).mapResult (member :: ·)
  | text => .error (.upon .keyExpected text)

/-- Reads a value, in which lists and objects nest at most to the given depth. -/
def readValue : Nat → List Char → Outcome Value
  | 0, text =>
    match text with
    | '[' :: _ | '\x7b' :: _ => .error (.upon .tooDeep text)
    | text => (readAtom text).mapResult .atom
  | depth + 1, text =>
    match text with
    | '[' :: text => (readList (readValue depth) text).mapResult .list
    | '\x7b' :: text => (readObjectTail (readValue depth) text).mapResult .object
    | text => (readAtom text).mapResult .atom

/-- Lists and objects nest at most so deeply. -/
def depthLimit : Nat := 127

/-- Reads a text that holds an object, and gives its members. -/
def readObject (text : List Char) : Except Fault (List (List Char × Value)) :=
  match skipSpace text with
  | '\x7b' :: text => do
    let (members, text) ← readObjectTail (readValue (depthLimit - 1)) text
    match skipSpace text with
    | [] => return members
    | text => .error (.upon .trailingCharacters text)
  | '[' :: text => .error (.ahead .listNotObject ('[' :: text))
  | text => do
    let (atom, text) ← readAtom text
    .error (.ahead (.atomNotObject atom) text)

end FormCodemod.Json
