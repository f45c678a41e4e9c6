import FormCodemod.Syntax.Lexer
import FormCodemod.Syntax.Node

/-!
# Readers

A reader takes phrases off the front of the remaining tokens. It looks at one token at a time and
ends with a value or with a fault, in both cases leaving the state at which it ended, because some
phrases go on behind the fault of a part. The first fault behind which reading goes on is kept in
the state.

Phrases contain each other without end. A reader therefore gets the readers of the nested phrases
as an argument (`Phrases`); they are tied together once, in `FormCodemod.Syntax.Parse`, where the
depth of nesting is bounded by the length of the text.

* `Reader.attempt`, `Reader.lookAhead`: reading on trial;
* `Reader.rescue`: reading on behind a fault;
* `Reader.iterate`, `Reader.collect`: reading again and again, each round taking a token.
-/

namespace FormCodemod.Syntax

/-- What the surroundings of a phrase allow. -/
structure Context where
  /-- Types are part of the language. -/
  typed : Bool
  /-- Markup is part of the language. -/
  markup : Bool
  /-- The operator `in` may stand in expressions. -/
  allowsIn : Bool := true
  inFunction : Bool := false
  inAsync : Bool := false
  inGenerator : Bool := false
  inParameters : Bool := false
  inClass : Bool := false
  /-- `new.target` has a meaning. -/
  hasNewTarget : Bool := false
  canBreak : Bool := false
  canContinue : Bool := false
  labels : List String := []
  /-- In a declaration that only declares. -/
  ambient : Bool := false
  /-- `super` has a meaning. -/
  hasSuper : Bool := false
  /-- In a class that extends another. -/
  hasBase : Bool := false
  /-- In one of the branches of a conditional expression. -/
  inConditional : Bool := false
  /-- In the first branch of a conditional expression, which a `:` ends. -/
  awaitsColon : Bool := false
  /-- A conditional type may not stand here without parentheses. -/
  noConditionalType : Bool := false
  /-- In the head of a `for` loop. -/
  inLoopHead : Bool := false
  /-- Faults behind which reading goes on are dropped. -/
  onTrial : Bool := false
  /-- Markup at this place has failed on trial. -/
  failedMarkup : Option Nat := none
  deriving Repr

/-- Where reading stands. -/
structure State where
  /-- The token to look at. -/
  token : Token
  /-- The span of the token ahead of it. -/
  last : Span
  context : Context
  /-- The first fault behind which reading went on. -/
  fault : Option Fault
  /-- Where an arrow function may begin. -/
  arrowStart : Option Nat
  /-- The places of commas ahead of the bracket or brace that closes an array or an object, by the
      place of the one that opens it. -/
  commas : List (Nat × Nat) := []
  deriving Repr

/-- The phrases that contain each other. -/
inductive Phrase where
  | expression
  | assignment
  | unary
  /-- Operands with binary operators between them. -/
  | binary
  /-- The operators and operands behind an operand, as long as they bind more tightly than given. -/
  | operation (left : Node) (least : Nat)
  /-- An expression that may be called or extended. -/
  | leftHandSide
  /-- The same without calls other than behind `new`. -/
  | member
  /-- A statement, which may be a declaration if so given. -/
  | statement (declares : Bool)
  | block
  | pattern
  | type
  | typeOperand
  /-- A class from its keyword on. -/
  | classTail (start : Nat) (nameNeeded : Bool) (isAbstract : Bool)
  /-- An element or a fragment; behind one that is nested in another, markup goes on. -/
  | markupElement (nested : Bool)
  | namespaceBody

/-- How a reader ends. -/
inductive Outcome (α : Type) where
  | done (value : α) (state : State)
  | failed (fault : Fault) (state : State)

/-- Readers of all phrases. -/
abbrev Phrases := Phrase → State → Outcome Node

/-- Reads a value. -/
def Reader (α : Type) : Type :=
  Phrases → State → Outcome α

namespace Reader

instance : Monad Reader where
  pure a := fun _ s => .done a s
  bind r f := fun phrases s =>
    match r phrases s with
    | .done a t => f a phrases t
    | .failed e t => .failed e t

/-- Reads one of the phrases. -/
def phrase (p : Phrase) : Reader Node :=
  fun phrases s => phrases p s

/-- The state. -/
def state : Reader State :=
  fun _ s => .done s s

/-- Changes the state. -/
def modify (f : State → State) : Reader Unit :=
  fun _ s => .done () (f s)

/-- The token to look at. -/
def token : Reader Token :=
  fun _ s => .done s.token s

/-- What the token to look at is. -/
def kind : Reader TokenKind :=
  fun _ s => .done s.token.kind s

/-- The surroundings. -/
def context : Reader Context :=
  fun _ s => .done s.context s

/-- Types are part of the language. -/
def isTyped : Reader Bool :=
  fun _ s => .done s.context.typed s

/-! ### Faults -/

/-- Ends with a flaw at a place. -/
def failAt {α : Type} (offset : Nat) (flaw : Flaw) : Reader α :=
  fun _ s => .failed ⟨offset, flaw⟩ s

/-- Keeps a flaw at a place and goes on. -/
def note (offset : Nat) (flaw : Flaw) : Reader Unit :=
  modify fun s =>
    if s.context.onTrial then s else { s with fault := s.fault <|> some ⟨offset, flaw⟩ }

/-- Goes on behind a fault. -/
def rescue {α : Type} (r : Reader α) (handler : Fault → Reader α) : Reader α :=
  fun phrases s =>
    match r phrases s with
    | .done a t => .done a t
    | .failed e t => handler e phrases t

/-- The place of the token to look at; behind the last token there is only its end. -/
def place : Reader Nat :=
  fun _ s =>
    .done (if s.token.kind = .endOfText then s.last.stop else s.token.here.offset) s

/-- The place at which a fault of the token to look at is reported: that of the token, or of the
    last one at the end of the text. -/
def faultPlace : Reader Nat :=
  fun _ s =>
    .done (if s.token.kind = .endOfText then s.last.start else s.token.here.offset) s

/-- Keeps a flaw at the token to look at and goes on. A flaw of the token itself comes first. -/
def noteHere (flaw : Flaw) : Reader Unit := do
  let offset ← faultPlace
  let own := (← token).fault.getD ⟨offset, flaw⟩
  note own.offset own.flaw

/-- The end of the last token. -/
def lastStop : Reader Nat :=
  fun _ s => .done s.last.stop s

/-- The span from a place to the end of the last token. -/
def spanFrom (start : Nat) : Reader Span :=
  fun _ s => .done ⟨start, s.last.stop⟩ s

/-- Ends with a flaw at the token to look at, or with the fault of that token if it is broken. -/
def fail {α : Type} (flaw : Flaw) : Reader α := do
  match ← kind with
  | .broken f => failAt f.offset f.flaw
  | _ => failAt (← faultPlace) flaw

/-- Ends because the token to look at does not fit. -/
def unexpected {α : Type} (wanted : String) : Reader α := do
  fail (.unexpected (← kind).display wanted)

/-- Requires a token to look at. -/
def need : Reader Unit := do
  match ← kind with
  | .endOfText => failAt (← token).here.offset .endOfText
  | .broken f => failAt f.offset f.flaw
  | _ => pure ()

/-! ### Tokens -/

/-- Takes the token and looks at the next one, as the given function reads it. -/
def bumpWith (read : Input → Token) : Reader Unit :=
  modify fun s =>
    { s with
      token := read s.token.next
      last := s.token.span
      fault := if s.context.onTrial then s.fault else s.fault <|> s.token.fault }

/-- Takes the token. The next one is read as this one was. -/
def bump : Reader Unit := do
  if (← token).inTag then bumpWith Token.readTag else bumpWith Token.read

/-- Reads the token to look at in another way. -/
def reread (f : Token → Token) : Reader Unit :=
  modify fun s => { s with token := f s.token }

/-- The token behind the one to look at. -/
def peek : Reader Token := do
  let t ← token
  return if t.inTag then Token.readTag t.next else Token.read t.next

/-- The token to look at is this punctuator. -/
def isPunct (p : Punct) : Reader Bool := do
  return (← kind) = .punct p

/-- The kind is that of a word with this role. -/
def kindIsWord (k : TokenKind) (w : Word) : Bool :=
  match k with
  | .word _ (some v) => v = w
  | _ => false

/-- The token to look at is this word. -/
def isWord (w : Word) : Reader Bool := do
  return kindIsWord (← kind) w

/-- The next token is this punctuator. -/
def peekIsPunct (p : Punct) : Reader Bool := do
  return (← peek).kind = .punct p

/-- The next token is this word. -/
def peekIsWord (w : Word) : Reader Bool := do
  return kindIsWord (← peek).kind w

/-- Takes the token if it is this punctuator. -/
def eat (p : Punct) : Reader Bool := do
  if ← isPunct p then
    bump
    return true
  else return false

/-- Takes the token if it is this word. -/
def eatWord (w : Word) : Reader Bool := do
  if ← isWord w then
    bump
    return true
  else return false

/-- Takes the token, which has to be this punctuator. -/
def expect (p : Punct) : Reader Unit := do
  unless ← eat p do fail (.expected p.text (← kind).display)

/-- Takes the token, which has to be this word. -/
def expectWord (w : Word) (text : String) : Reader Unit := do
  unless ← eatWord w do fail (.expected text (← kind).display)

/-- Takes a token that is a `>`, or the `>` that a longer operator begins with. -/
def eatGreater : Reader Bool := do
  let t ← token
  match t.kind, t.here.chars with
  | .punct _, '>' :: _ =>
    reread (·.cut .greater)
    bump
    return true
  | _, _ => return false

/-- Takes a `>`, which has to be there. -/
def expectGreater : Reader Unit := do
  unless ← eatGreater do fail (.expected ">" (← kind).display)

/-- The token to look at is a `<`, or an operator that begins with one and may be cut. -/
def isLess : Reader Bool := do
  match ← kind with
  | .punct .less | .punct .shiftLeft => return true
  | _ => return false

/-- Takes a `<`, cutting it off a longer operator. -/
def eatLess : Reader Bool := do
  if ← isLess then
    reread (·.cut .less)
    bump
    return true
  else return false

/-- A line ends ahead of the token to look at. -/
def newline : Reader Bool := do
  return (← token).newline

/-- A statement may end here without a semicolon, or a semicolon is the token to look at. -/
def isStatementEnd : Reader Bool := do
  match ← kind with
  | .punct .semicolon | .punct .braceClose | .endOfText => return true
  | _ => newline

/-- Takes the end of a statement. -/
def eatStatementEnd : Reader Bool := do
  if ← eat .semicolon then return true
  isStatementEnd

/-- Takes the end of a statement, which has to be there. -/
def expectStatementEnd : Reader Unit := do
  unless ← eatStatementEnd do fail (.expected ";" (← kind).display)

/-! ### Words -/

/-- The kind is that of a word. -/
def kindIsName : TokenKind → Bool
  | .word _ _ => true
  | _ => false

/-- The kind is that of a word that may be an identifier. -/
def kindIsIdentifier : TokenKind → Bool
  | .word _ none => true
  | .word _ (some w) => !w.isReserved
  | _ => false

/-- The token to look at may be an identifier. -/
def isIdentifier : Reader Bool := do
  return kindIsIdentifier (← kind)

/-- The next token may be an identifier. -/
def peekIsIdentifier : Reader Bool := do
  return kindIsIdentifier (← peek).kind

/-- The next token is a word. -/
def peekIsName : Reader Bool := do
  return kindIsName (← peek).kind

/-! ### Surroundings and trials -/

/-- Reads in changed surroundings. -/
def within {α : Type} (f : Context → Context) (r : Reader α) : Reader α :=
  fun phrases s =>
    let outer := s.context
    match r phrases { s with context := f outer } with
    | .done a t => .done a { t with context := outer }
    | .failed e t => .failed e { t with context := outer }

/-- Reads with the operator `in` allowed or not. -/
def withIn {α : Type} (allowed : Bool) (r : Reader α) : Reader α :=
  within (fun c => { c with allowsIn := allowed }) r

/-- Reads on trial: if that fails or gives nothing, the state is as it was. Faults behind which
    reading goes on are dropped. -/
def attempt {α : Type} (r : Reader (Option α)) : Reader (Option α) :=
  fun phrases s =>
    match r phrases { s with context := { s.context with onTrial := true } } with
    | .done (some a) t => .done (some a) { t with context := s.context, fault := s.fault }
    | _ => .done none s

/-- The answer of a reader, without taking anything; no, if it fails. -/
def lookAhead (r : Reader Bool) : Reader Bool :=
  fun phrases s =>
    match r phrases { s with context := { s.context with onTrial := true } } with
    | .done b _ => .done b s
    | .failed _ _ => .done false s

/-! ### Repetition -/

/-- A round of an iteration. -/
inductive Round (σ α : Type) where
  | again (value : σ)
  | stop (value : α)

/-- Runs rounds until one stops, at most as many as given. -/
def iterateAtMost {σ α : Type} (step : σ → Reader (Round σ α)) : Nat → σ → Reader α
  | 0, _ => fail .tooDeep
  | n + 1, v => do
    match ← step v with
    | .again w => iterateAtMost step n w
    | .stop a => pure a

/-- A bound on the rounds that may follow: every round but a few takes at least one character. -/
def roundBound : Reader Nat := do
  return 2 * (← token).here.chars.length + 8

/-- Runs rounds until one stops. -/
def iterate {σ α : Type} (step : σ → Reader (Round σ α)) (start : σ) : Reader α := do
  iterateAtMost step (← roundBound) start

/-- Reads items until there are none. -/
def collect {α : Type} (item : Reader (Option α)) : Reader (List α) :=
  iterate
    (fun items => do
      match ← item with
      | some a => return .again (a :: items)
      | none => return .stop items.reverse)
    []

/-! ### Nodes -/

/-- A node from a place to the end of the last token. -/
def node (kind : Kind) (start : Nat) (parts : List Node) : Reader Node := do
  return .mk kind (← spanFrom start) parts

end Reader

end FormCodemod.Syntax
