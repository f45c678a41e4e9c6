import FormCodemod.Span
import FormCodemod.Syntax.Fault
import FormCodemod.Text.Bytes

/-!
# Tokens

The smallest pieces of a module's text. An identifier carries the `Word` that it spells, if the
grammar gives it a role; which words are reserved depends on nothing else, since the text of a
module is always strict.
-/

namespace FormCodemod.Syntax

/-- A word with a role in the grammar. -/
inductive Word where
  /- Reserved everywhere. -/
  | «break» | «case» | «catch» | classWord | «const» | «continue» | «debugger» | «default»
  | «delete» | «do» | «else» | «enum» | «export» | «extends» | falseWord | «finally» | «for»
  | «function» | «if» | «import» | «in» | «instanceof» | «new» | «null» | «return» | «super» | «switch» | «this»
  | «throw» | trueWord | «try» | «typeof» | «var» | «void» | «while» | «with»
  /- Reserved in strict text. -/
  | «implements» | «interface» | «let» | «package» | «private» | «protected» | «public» | «static»
  | «yield»
  /- Reserved in modules. -/
  | «await»
  /- Words that only some places give a role. -/
  | «abstract» | «accessor» | «as» | «asserts» | «assert» | «async» | «constructor» | «declare»
  | «from» | «get» | «global» | «infer» | «is» | «keyof» | «meta» | «module» | «namespace» | «of»
  | «out» | «override» | «readonly» | «require» | «satisfies» | «set» | «target» | «type»
  | «unique» | «using» | «arguments» | «eval»
  deriving DecidableEq, Repr

namespace Word

/-- The word that the characters spell. -/
def ofChars? : List Char → Option Word
  | ['b', 'r', 'e', 'a', 'k'] => some .break
  | ['c', 'a', 's', 'e'] => some .case
  | ['c', 'a', 't', 'c', 'h'] => some .catch
  | ['c', 'l', 'a', 's', 's'] => some .classWord
  | ['c', 'o', 'n', 's', 't'] => some .const
  | ['c', 'o', 'n', 't', 'i', 'n', 'u', 'e'] => some .continue
  | ['d', 'e', 'b', 'u', 'g', 'g', 'e', 'r'] => some .debugger
  | ['d', 'e', 'f', 'a', 'u', 'l', 't'] => some .default
  | ['d', 'e', 'l', 'e', 't', 'e'] => some .delete
  | ['d', 'o'] => some .do
  | ['e', 'l', 's', 'e'] => some .else
  | ['e', 'n', 'u', 'm'] => some .enum
  | ['e', 'x', 'p', 'o', 'r', 't'] => some .export
  | ['e', 'x', 't', 'e', 'n', 'd', 's'] => some .extends
  | ['f', 'a', 'l', 's', 'e'] => some .falseWord
  | ['f', 'i', 'n', 'a', 'l', 'l', 'y'] => some .finally
  | ['f', 'o', 'r'] => some .for
  | ['f', 'u', 'n', 'c', 't', 'i', 'o', 'n'] => some .function
  | ['i', 'f'] => some .if
  | ['i', 'm', 'p', 'o', 'r', 't'] => some .import
  | ['i', 'n'] => some .in
  | ['i', 'n', 's', 't', 'a', 'n', 'c', 'e', 'o', 'f'] => some .instanceof
  | ['n', 'e', 'w'] => some .new
  | ['n', 'u', 'l', 'l'] => some .null
  | ['r', 'e', 't', 'u', 'r', 'n'] => some .return
  | ['s', 'u', 'p', 'e', 'r'] => some .super
  | ['s', 'w', 'i', 't', 'c', 'h'] => some .switch
  | ['t', 'h', 'i', 's'] => some .this
  | ['t', 'h', 'r', 'o', 'w'] => some .throw
  | ['t', 'r', 'u', 'e'] => some .trueWord
  | ['t', 'r', 'y'] => some .try
  | ['t', 'y', 'p', 'e', 'o', 'f'] => some .typeof
  | ['v', 'a', 'r'] => some .var
  | ['v', 'o', 'i', 'd'] => some .void
  | ['w', 'h', 'i', 'l', 'e'] => some .while
  | ['w', 'i', 't', 'h'] => some .with
  | ['i', 'm', 'p', 'l', 'e', 'm', 'e', 'n', 't', 's'] => some .implements
  | ['i', 'n', 't', 'e', 'r', 'f', 'a', 'c', 'e'] => some .interface
  | ['l', 'e', 't'] => some .let
  | ['p', 'a', 'c', 'k', 'a', 'g', 'e'] => some .package
  | ['p', 'r', 'i', 'v', 'a', 't', 'e'] => some .private
  | ['p', 'r', 'o', 't', 'e', 'c', 't', 'e', 'd'] => some .protected
  | ['p', 'u', 'b', 'l', 'i', 'c'] => some .public
  | ['s', 't', 'a', 't', 'i', 'c'] => some .static
  | ['y', 'i', 'e', 'l', 'd'] => some .yield
  | ['a', 'w', 'a', 'i', 't'] => some .await
  | ['a', 'b', 's', 't', 'r', 'a', 'c', 't'] => some .abstract
  | ['a', 'c', 'c', 'e', 's', 's', 'o', 'r'] => some .accessor
  | ['a', 's'] => some .as
  | ['a', 's', 's', 'e', 'r', 't', 's'] => some .asserts
  | ['a', 's', 's', 'e', 'r', 't'] => some .assert
  | ['a', 's', 'y', 'n', 'c'] => some .async
  | ['c', 'o', 'n', 's', 't', 'r', 'u', 'c', 't', 'o', 'r'] => some .constructor
  | ['d', 'e', 'c', 'l', 'a', 'r', 'e'] => some .declare
  | ['f', 'r', 'o', 'm'] => some .from
  | ['g', 'e', 't'] => some .get
  | ['g', 'l', 'o', 'b', 'a', 'l'] => some .global
  | ['i', 'n', 'f', 'e', 'r'] => some .infer
  | ['i', 's'] => some .is
  | ['k', 'e', 'y', 'o', 'f'] => some .keyof
  | ['m', 'e', 't', 'a'] => some .meta
  | ['m', 'o', 'd', 'u', 'l', 'e'] => some .module
  | ['n', 'a', 'm', 'e', 's', 'p', 'a', 'c', 'e'] => some .namespace
  | ['o', 'f'] => some .of
  | ['o', 'u', 't'] => some .out
  | ['o', 'v', 'e', 'r', 'r', 'i', 'd', 'e'] => some .override
  | ['r', 'e', 'a', 'd', 'o', 'n', 'l', 'y'] => some .readonly
  | ['r', 'e', 'q', 'u', 'i', 'r', 'e'] => some .require
  | ['s', 'a', 't', 'i', 's', 'f', 'i', 'e', 's'] => some .satisfies
  | ['s', 'e', 't'] => some .set
  | ['t', 'a', 'r', 'g', 'e', 't'] => some .target
  | ['t', 'y', 'p', 'e'] => some .type
  | ['u', 'n', 'i', 'q', 'u', 'e'] => some .unique
  | ['u', 's', 'i', 'n', 'g'] => some .using
  | ['a', 'r', 'g', 'u', 'm', 'e', 'n', 't', 's'] => some .arguments
  | ['e', 'v', 'a', 'l'] => some .eval
  | _ => none

/-- A keyword or literal word of the language: never an identifier. -/
def isKeyword : Word → Bool
  | .break | .case | .catch | .classWord | .const | .continue | .debugger | .default | .delete | .do
  | .else | .export | .extends | .falseWord | .finally | .for | .function | .if | .import | .in
  | .instanceof | .new | .null | .return | .super | .switch | .this | .throw | .trueWord | .try
  | .typeof | .var | .void | .while | .with => true
  | _ => false

/-- No identifier expression in strict text is spelled so. -/
def isReserved (w : Word) : Bool :=
  w.isKeyword ||
    match w with
    | .enum | .implements | .interface | .let | .package | .private | .protected | .public
    | .yield | .await => true
    | _ => false

/-- Reserved by strictness alone. -/
def isStrictReserved : Word → Bool
  | .implements | .interface | .let | .package | .private | .protected | .public | .static
  | .yield | .enum => true
  | _ => false

end Word

/-- A punctuator. -/
inductive Punct where
  | braceOpen | braceClose | parenOpen | parenClose | bracketOpen | bracketClose
  | dot | ellipsis | semicolon | comma | colon | question | questionDot | arrow | atSign | hash
  | backquote | bang | tilde | plusPlus | minusMinus
  | less | greater | lessEqual | greaterEqual | equal | notEqual | strictEqual | strictNotEqual
  | plus | minus | star | slash | percent | starStar
  | shiftLeft | shiftRight | shiftRightUnsigned
  | ampersand | bar | caret | andAnd | orOr | questionQuestion
  | assign | plusAssign | minusAssign | starAssign | slashAssign | percentAssign | starStarAssign
  | shiftLeftAssign | shiftRightAssign | shiftRightUnsignedAssign
  | ampersandAssign | barAssign | caretAssign | andAndAssign | orOrAssign | questionQuestionAssign
  deriving DecidableEq, Repr

namespace Punct

/-- The characters of a punctuator. -/
def text : Punct → String
  | braceOpen => "\x7b"
  | braceClose => "\x7d"
  | parenOpen => "("
  | parenClose => ")"
  | bracketOpen => "["
  | bracketClose => "]"
  | dot => "."
  | ellipsis => "..."
  | semicolon => ";"
  | comma => ","
  | colon => ":"
  | question => "?"
  | questionDot => "?."
  | arrow => "=>"
  | atSign => "@"
  | hash => "#"
  | backquote => "`"
  | bang => "!"
  | tilde => "~"
  | plusPlus => "++"
  | minusMinus => "--"
  | less => "<"
  | greater => ">"
  | lessEqual => "<="
  | greaterEqual => ">="
  | equal => "=="
  | notEqual => "!="
  | strictEqual => "==="
  | strictNotEqual => "!=="
  | plus => "+"
  | minus => "-"
  | star => "*"
  | slash => "/"
  | percent => "%"
  | starStar => "**"
  | shiftLeft => "<<"
  | shiftRight => ">>"
  | shiftRightUnsigned => ">>>"
  | ampersand => "&"
  | bar => "|"
  | caret => "^"
  | andAnd => "&&"
  | orOr => "||"
  | questionQuestion => "??"
  | assign => "="
  | plusAssign => "+="
  | minusAssign => "-="
  | starAssign => "*="
  | slashAssign => "/="
  | percentAssign => "%="
  | starStarAssign => "**="
  | shiftLeftAssign => "<<="
  | shiftRightAssign => ">>="
  | shiftRightUnsignedAssign => ">>>="
  | ampersandAssign => "&="
  | barAssign => "|="
  | caretAssign => "^="
  | andAndAssign => "&&="
  | orOrAssign => "||="
  | questionQuestionAssign => "??="

/-- The punctuator assigns. -/
def isAssignment : Punct → Bool
  | assign | plusAssign | minusAssign | starAssign | slashAssign | percentAssign | starStarAssign
  | shiftLeftAssign | shiftRightAssign | shiftRightUnsignedAssign | ampersandAssign | barAssign
  | caretAssign | andAndAssign | orOrAssign | questionQuestionAssign => true
  | _ => false

/-- How tightly a binary operator binds, and 0 for what is none. -/
def precedence : Punct → Nat
  | questionQuestion => 1
  | orOr => 1
  | andAnd => 2
  | bar => 3
  | caret => 4
  | ampersand => 5
  | equal | notEqual | strictEqual | strictNotEqual => 6
  | less | greater | lessEqual | greaterEqual => 7
  | shiftLeft | shiftRight | shiftRightUnsigned => 8
  | plus | minus => 9
  | star | slash | percent => 10
  | starStar => 11
  | _ => 0

/-- The punctuator is a binary operator. -/
def isBinary (p : Punct) : Bool :=
  p.precedence != 0

/-- The longest punctuator that the characters begin with, and its length. -/
def ofChars? : List Char → Option (Punct × Nat)
  | '>' :: '>' :: '>' :: '=' :: _ => some (shiftRightUnsignedAssign, 4)
  | '>' :: '>' :: '>' :: _ => some (shiftRightUnsigned, 3)
  | '>' :: '>' :: '=' :: _ => some (shiftRightAssign, 3)
  | '>' :: '>' :: _ => some (shiftRight, 2)
  | '>' :: '=' :: _ => some (greaterEqual, 2)
  | '>' :: _ => some (greater, 1)
  | '<' :: '<' :: '=' :: _ => some (shiftLeftAssign, 3)
  | '<' :: '<' :: _ => some (shiftLeft, 2)
  | '<' :: '=' :: _ => some (lessEqual, 2)
  | '<' :: _ => some (less, 1)
  | '=' :: '=' :: '=' :: _ => some (strictEqual, 3)
  | '=' :: '=' :: _ => some (equal, 2)
  | '=' :: '>' :: _ => some (arrow, 2)
  | '=' :: _ => some (assign, 1)
  | '!' :: '=' :: '=' :: _ => some (strictNotEqual, 3)
  | '!' :: '=' :: _ => some (notEqual, 2)
  | '!' :: _ => some (bang, 1)
  | '*' :: '*' :: '=' :: _ => some (starStarAssign, 3)
  | '*' :: '*' :: _ => some (starStar, 2)
  | '*' :: '=' :: _ => some (starAssign, 2)
  | '*' :: _ => some (star, 1)
  | '&' :: '&' :: '=' :: _ => some (andAndAssign, 3)
  | '&' :: '&' :: _ => some (andAnd, 2)
  | '&' :: '=' :: _ => some (ampersandAssign, 2)
  | '&' :: _ => some (ampersand, 1)
  | '|' :: '|' :: '=' :: _ => some (orOrAssign, 3)
  | '|' :: '|' :: _ => some (orOr, 2)
  | '|' :: '=' :: _ => some (barAssign, 2)
  | '|' :: _ => some (bar, 1)
  | '?' :: '?' :: '=' :: _ => some (questionQuestionAssign, 3)
  | '?' :: '?' :: _ => some (questionQuestion, 2)
  | '?' :: '.' :: c :: _ => if c.isDigit then some (question, 1) else some (questionDot, 2)
  | '?' :: '.' :: _ => some (questionDot, 2)
  | '?' :: _ => some (question, 1)
  | '+' :: '+' :: _ => some (plusPlus, 2)
  | '+' :: '=' :: _ => some (plusAssign, 2)
  | '+' :: _ => some (plus, 1)
  | '-' :: '-' :: _ => some (minusMinus, 2)
  | '-' :: '=' :: _ => some (minusAssign, 2)
  | '-' :: _ => some (minus, 1)
  | '/' :: '=' :: _ => some (slashAssign, 2)
  | '/' :: _ => some (slash, 1)
  | '%' :: '=' :: _ => some (percentAssign, 2)
  | '%' :: _ => some (percent, 1)
  | '^' :: '=' :: _ => some (caretAssign, 2)
  | '^' :: _ => some (caret, 1)
  | '.' :: '.' :: '.' :: _ => some (ellipsis, 3)
  | '.' :: _ => some (dot, 1)
  | '{' :: _ => some (braceOpen, 1)
  | '}' :: _ => some (braceClose, 1)
  | '(' :: _ => some (parenOpen, 1)
  | ')' :: _ => some (parenClose, 1)
  | '[' :: _ => some (bracketOpen, 1)
  | ']' :: _ => some (bracketClose, 1)
  | ';' :: _ => some (semicolon, 1)
  | ',' :: _ => some (comma, 1)
  | ':' :: _ => some (colon, 1)
  | '~' :: _ => some (tilde, 1)
  | '@' :: _ => some (atSign, 1)
  | '#' :: _ => some (hash, 1)
  | '`' :: _ => some (backquote, 1)
  | _ => none

end Punct

/-- What a token is. -/
inductive TokenKind where
  | word (text : String) (role : Option Word)
  | privateName (text : String)
  | punct (p : Punct)
  | number (text : String)
  | string (text : String)
  | regex (text : String)
  | jsxName (text : String)
  | jsxText (text : String)
  | endOfText
  /-- Something that is no token. -/
  | broken (fault : Fault)
  deriving DecidableEq, Repr, Inhabited

/-- How messages show a token. -/
def TokenKind.display : TokenKind → String
  | word text _ => text
  | privateName _ => "#"
  | punct p => p.text
  | number text => s!"numeric literal ({text}, {text})"
  | string text =>
    "string literal (" ++ String.ofList (text.toList.drop 1).dropLast ++ ", " ++ text ++ ")"
  | regex text => s!"regexp literal ({text})"
  | jsxName text => s!"jsx name ({text})"
  | jsxText text => s!"jsx text ({text})"
  | endOfText => "<eof>"
  | broken _ => "<lexing error>"

/-- What is left of a text to read, and how many bytes stand ahead of it. -/
structure Input where
  chars : List Char
  offset : Nat
  deriving DecidableEq, Repr, Inhabited

namespace Input

/-- The input behind its first characters. -/
def skip (i : Input) (count : Nat) : Input :=
  ⟨i.chars.drop count, i.offset + Text.width (i.chars.take count)⟩

/-- The place behind everything that is left. -/
def endOffset (i : Input) : Nat :=
  i.offset + Text.width i.chars

end Input

/-- A token together with the input around it. -/
structure Token where
  kind : TokenKind
  /-- The input from the token on. -/
  here : Input
  /-- The input behind the token. -/
  next : Input
  /-- A line ends between the token ahead and this one. -/
  newline : Bool
  /-- A flaw of the token, or of what stands ahead of it, behind which reading goes on. -/
  fault : Option Fault
  /-- Read as part of a tag, as the next token then is, too. -/
  inTag : Bool := false
  deriving DecidableEq, Repr, Inhabited

/-- The text of a token. -/
def Token.span (t : Token) : Span :=
  ⟨t.here.offset, t.next.offset⟩

end FormCodemod.Syntax
