import FormCodemod.Text.Blank
import FormCodemod.Text.Bytes

/-!
# The next token of a plain text

A look at a text that knows no grammar: blanks and comments are skipped, and what follows is a word
or a single character. A line comment runs up to the next `\n`; a block comment up to the first
`*/`, and one that is never closed is not skipped.

* `skipTrivia`: what is left behind the blanks and comments at the start of a text;
* `tokenAt?`, `tokenAfter?`: the token at a place, and the first one behind it.
-/

namespace FormCodemod.Text

/-- Some `*/` stands in the text. -/
def hasCommentEnd : List Char → Bool
  | '*' :: '/' :: _ => true
  | _ :: cs => hasCommentEnd cs
  | [] => false

/-- Where a scan over blanks and comments stands. -/
inductive TriviaState where
  | between
  | lineComment
  | blockComment
  deriving DecidableEq, Repr

/-- Skips blanks and comments, each as far as it goes. -/
def scanTrivia : TriviaState → List Char → List Char
  | _, [] => []
  | .between, '/' :: '/' :: cs => scanTrivia .lineComment cs
  | .between, '/' :: '*' :: cs =>
    if hasCommentEnd cs then scanTrivia .blockComment cs else '/' :: '*' :: cs
  | .between, c :: cs => if isBlank c then scanTrivia .between cs else c :: cs
  | .lineComment, c :: cs => scanTrivia (if c = '\n' then .between else .lineComment) cs
  | .blockComment, '*' :: '/' :: cs => scanTrivia .between cs
  | .blockComment, _ :: cs => scanTrivia .blockComment cs

/-- The text behind the blanks and comments that it starts with. -/
def skipTrivia (text : List Char) : List Char :=
  scanTrivia .between text

/-- A letter, digit, `_` or `$` of ASCII. -/
def isWordChar (c : Char) : Bool :=
  c.isAlphanum || c = '_' || c = '$'

/-- The token that a text starts with: the longest word, or else one character. -/
def leadingToken : List Char → List Char
  | [] => []
  | c :: cs => if isWordChar c then c :: cs.takeWhile isWordChar else [c]

/-- A token of a plain text and the place where it starts. -/
structure PlainToken where
  start : Nat
  chars : List Char
  deriving DecidableEq, Repr

namespace PlainToken

/-- The place where the token ends. -/
def stop (t : PlainToken) : Nat :=
  t.start + width t.chars

/-- The token consists of this one character. -/
def isChar (t : PlainToken) (c : Char) : Bool :=
  t.chars = [c]

end PlainToken

/-- The token that starts at a place. -/
def tokenAt? (text : List Char) (offset : Nat) : Option PlainToken :=
  match dropBytes? offset text with
  | none | some [] => none
  | some rest => some ⟨offset, leadingToken rest⟩

/-- The first token behind a place. -/
def tokenAfter? (text : List Char) (offset : Nat) : Option PlainToken :=
  match dropBytes? offset text with
  | none => none
  | some rest => tokenAt? text (offset + (width rest - width (skipTrivia rest)))

end FormCodemod.Text
