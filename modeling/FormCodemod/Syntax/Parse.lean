import FormCodemod.Syntax.Grammar.Module

/-!
# Reading modules

`parse` reads the text of a module in a given dialect. It ends with a tree, or with the first fault:
one that stops the reading, or else the first one behind which reading went on.

Phrases nest no deeper than the text is long, which bounds the recursion of `Phrases.deep`.
-/

namespace FormCodemod.Syntax

/-- What the language of a text has beside its core. -/
structure Dialect where
  typed : Bool
  markup : Bool
  deriving DecidableEq, Repr

/-- The dialect that the name of a file tells. -/
def Dialect.ofFilename (name : String) : Dialect :=
  let ends (suffix : String) : Bool := suffix.toList.reverse.isPrefixOf name.toList.reverse
  if ends ".tsx" then ⟨true, true⟩
  else if ends ".ts" || ends ".mts" || ends ".cts" then ⟨true, false⟩
  else ⟨false, true⟩

/-- Reads one of the phrases, given how to read the ones nested in it. -/
def Phrase.reader : Phrase → Reader Node
  | .expression => Grammar.expression
  | .assignment => Grammar.assignment
  | .unary => Grammar.unary
  | .binary => Grammar.binary
  | .operation left least => Grammar.operation left least
  | .leftHandSide => Grammar.leftHandSide
  | .member => Grammar.member
  | .statement declares => Grammar.statement declares
  | .block => Grammar.block
  | .pattern => Grammar.pattern
  | .type => Grammar.type
  | .typeOperand => Grammar.typeOperand
  | .classTail start nameNeeded isAbstract => Grammar.classTail start nameNeeded isAbstract
  | .markupElement nested => Grammar.markupElement nested
  | .namespaceBody => Grammar.namespaceBody

/-- Readers of phrases that nest at most as deeply as given. -/
def Phrases.deep : Nat → Phrases
  | 0 => fun _ s => .failed ⟨s.token.here.offset, .tooDeep⟩ s
  | n + 1 => fun p s => p.reader (deep n) s

/-- What comes behind the line with which a script names its interpreter, if the text has one. -/
def Input.behindInterpreter (text : List Char) : Input :=
  match text with
  | '#' :: '!' :: _ => Input.skip ⟨text, 0⟩ (text.takeWhile (!isLineEnd ·)).length
  | _ => ⟨text, 0⟩

/-- The state at the start of a text. -/
def State.start (dialect : Dialect) (text : List Char) : State where
  token := Token.read (.behindInterpreter text)
  last := .empty 0
  context := { typed := dialect.typed, markup := dialect.markup, hasSuper := dialect.typed }
  fault := none
  arrowStart := none

/-- A bound on how deeply the phrases of a text nest. -/
def depthBound (text : List Char) : Nat :=
  16 * (text.length + 8)

/-- The text without a byte order mark at its start. -/
def withoutMark : List Char → List Char
  | '\ufeff' :: cs => cs
  | cs => cs

/-- The tree of a module's text, or its first fault. -/
def parse (dialect : Dialect) (source : List Char) : Except Fault Node :=
  let text := withoutMark source
  match Grammar.moduleItems (Phrases.deep (depthBound text)) (State.start dialect text) with
  | .failed fault _ => .error fault
  | .done items s =>
    match s.fault <|> s.token.fault with
    | some fault => .error fault
    | none => .ok (.mk .module ⟨0, Text.width text⟩ items)

end FormCodemod.Syntax
