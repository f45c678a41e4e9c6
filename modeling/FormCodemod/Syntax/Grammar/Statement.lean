import FormCodemod.Syntax.Grammar.Class
import FormCodemod.Syntax.Grammar.Variables

/-!
# Statements

What a function body or a block consists of. Declarations may not stand everywhere: the body of a
loop, for one, is a plain statement. In a typed text, words such as `type` or `declare` may begin a
declaration.
-/

namespace FormCodemod.Syntax.Grammar

open Reader

/-- Statements up to a closing brace, which is not taken. -/
def statements (item : Reader Node) : Reader (List Node) :=
  collect do
    if ← isPunct .braceClose then return none
    if (← kind) = .endOfText then
      noteHere (.expected "\x7d" "<eof>")
      return none
    return some (← item)

/-- Statements in braces. -/
def block : Reader Node := do
  let start ← place
  expect .braceOpen
  let items ← statements (phrase (.statement true))
  if (← kind) ≠ .endOfText then expect .braceClose
  node .block start items

/-- A statement that is no declaration. -/
def plainStatement : Reader Node :=
  phrase (.statement false)

/-- An expression in parentheses behind a keyword. -/
def condition : Reader Node := do
  expect .parenOpen
  let value ← withIn true (phrase .expression)
  expect .parenClose
  return value

/-- The surroundings of the body of a loop. -/
def loopBody (c : Context) : Context :=
  { c with canBreak := true, canContinue := true }

/-! ### Branches and loops -/

/-- An `if` statement; one behind `else` belongs to the first. -/
def ifStatement : Reader Node := do
  let start ← place
  bump
  expect .parenOpen
  let test ← withIn true (phrase .expression)
  unless ← eat .parenClose do
    noteHere .missingSemicolon
    return ← node .ifStatement start [test]
  let yes ← plainStatement
  if ← eatWord .else then
    let no ← plainStatement
    node .ifStatement start [test, yes, no]
  else node .ifStatement start [test, yes]

/-- A `while` loop. -/
def whileStatement : Reader Node := do
  let start ← place
  bump
  let test ← condition
  let body ← within loopBody plainStatement
  node .while start [test, body]

/-- A `do` loop. -/
def doStatement : Reader Node := do
  let start ← place
  bump
  let body ← within loopBody plainStatement
  expectWord .while "while"
  let test ← condition
  let _ ← eatStatementEnd
  node .doWhile start [test, body]

/-- A part of the head of a `for` loop that may be absent. -/
def headPart (stop : Punct) : Reader Node := do
  if ← isPunct stop then return .mk .absent (.empty (← place)) []
  else withIn true (phrase .expression)

/-- The rest of a head with semicolons behind its first part and the semicolon. -/
def plainHead (first : Node) : Reader (Kind × List Node) := do
  let test ← headPart .semicolon
  expect .semicolon
  let step ← headPart .parenClose
  return (.forStatement, [first, test, step])

/-- The rest of a head that runs over something, from its `of` or `in` on. -/
def eachHead (isAwait : Bool) (left : Node) : Reader (Kind × List Node) := do
  if ← eatWord .of then
    let right ← withIn true (phrase .assignment)
    return (.forOf isAwait, [left, right])
  else
    bump
    let right ← withIn true (phrase .expression)
    return (.forIn, [left, right])

/-- Notes what a declaration in the head of a loop over something must not have. -/
def checkHeadVariables (declaration : Node) : Reader Unit := do
  match declaration.parts with
  | [d] =>
    let target := (d.parts.head?.getD declaration).span.start
    if d.parts.length > 1 then note target .valueInLoopHead
    if (← context).typed && d.parts.any (fun p => p.parts.any (·.kind = .types)) then
      note target .typedLoopHead
  | _ :: others =>
    for d in others do note (d.parts.head?.getD d).span.start .oneVariable
  | [] => pure ()

/-- The head of a `for` loop with a declaration. -/
def declaredHead (isAwait : Bool) : Reader (Kind × List Node) := do
  let start ← place
  let declaration ← withIn false (variableDeclaration start .loopHead)
  if ← atLoopWord then
    checkHeadVariables declaration
    eachHead isAwait declaration
  else
    expect .semicolon
    plainHead declaration

/-- The variable of a loop behind `using`, if the expression read is that word. -/
def usingHead? (start : Nat) (first : Node) : Reader (Option Node) := do
  let mark := Kind.reference (openName "using")
  let keyword := if first.kind = mark then some VarKeyword.using
    else if first.kind = .await && first.parts.any (·.kind = mark) then some .awaitUsing
    else none
  match keyword with
  | none => return none
  | some keyword =>
    let next ← peek
    let goesOn := kindIsWord next.kind .of || kindIsWord next.kind .in
    unless (← context).typed && !(← isWord .of) && goesOn do return none
    let name ← binder
    let item ← node .declarator name.span.start [name]
    return some (← node (.variableDeclaration keyword) start [item])

/-- The head of a `for` loop without a declaration. -/
def expressionHead (isAwait : Bool) : Reader (Kind × List Node) := do
  let start ← place
  let first ← withIn false (phrase .expression)
  if let some declaration ← usingHead? start first then
    if ← isWord .in then note start .usingInLoop
    return ← eachHead isAwait declaration
  if ← atLoopWord then
    let isIn ← isWord .in
    let isAsync := first.kind = .reference (openName "async")
    if isAsync && !isIn && !isAwait then note start .asyncInForOf
    let pat ← recast .target first
    let left := match pat with
      | .mk (.reference name) span parts => Node.mk (.target name) span parts
      | _ => pat
    if (← context).typed && isIn && (left.kind = .objectPattern || left.kind = .arrayPattern) then
      note start .patternInForIn
    eachHead isAwait left
  else
    expect .semicolon
    checkStray first
    plainHead first

/-- A `for` loop. -/
def forStatement : Reader Node := do
  let start ← place
  bump
  let awaitPlace ← place
  let isAwait ← eatWord .await
  expect .parenOpen
  let declares := (← isWord .var) || (← isWord .const) ||
    ((← isWord .let) && followsLet (← peek))
  let (kind, head) ← if declares then declaredHead isAwait
    else if ← isPunct .semicolon then do
      let first := Node.mk .absent (.empty (← place)) []
      bump
      plainHead first
    else expressionHead isAwait
  expect .parenClose
  let body ← within loopBody plainStatement
  if isAwait && kind ≠ .forOf true then failAt awaitPlace .awaitLoopHead
  node kind start (head ++ [body])

/-! ### Jumps -/

/-- `break` or `continue`, with or without a label. -/
def jump (isBreak : Bool) : Reader Node := do
  let start ← place
  bump
  let label ← if ← eatStatementEnd then pure none
    else do
      let text ← labelText
      expectStatementEnd
      pure (some text)
  let around ← context
  let isKnown := label.all around.labels.contains
  if isBreak then
    if !isKnown then note start .breakLabel
    else unless around.canBreak do note start .breakOutside
  else
    if !around.canContinue then note start .continueOutside
    else unless isKnown do note start .continueLabel
  node (if isBreak then .break else .continue) start []

/-- A `return` statement. -/
def returnStatement : Reader Node := do
  let start ← place
  bump
  let value ← if ← isStatementEnd then pure []
    else do pure [← withIn true (phrase .expression)]
  expectStatementEnd
  unless (← context).inFunction do note start .returnOutside
  node .return start value

/-- A `throw` statement. -/
def throwStatement : Reader Node := do
  let start ← place
  bump
  if ← newline then fail .lineBreakAfterThrow
  let value ← withIn true (phrase .expression)
  expectStatementEnd
  node .throw start [value]

/-! ### Cases, handlers and labels -/

/-- A case of a `switch` statement; the flag tells whether one without a value came before. -/
def switchCase (hasDefault : Bool) : Reader (Option (Node × Bool)) := do
  let start ← place
  let isCase ← isWord .case
  unless isCase || (← isWord .default) do return none
  bump
  let test ← if isCase then do pure [← withIn true (phrase .expression)] else pure []
  if !isCase && hasDefault then fail .severalDefaults
  expect .colon
  let items ← collect do
    if (← kind) = .endOfText || (← isWord .case) || (← isWord .default) ||
        (← isPunct .braceClose) then return none
    return some (← phrase (.statement true))
  let case ← node (if isCase then .switchCase else .switchDefault) start (test ++ items)
  return some (case, hasDefault || !isCase)

/-- A `switch` statement. -/
def switchStatement : Reader Node := do
  let start ← place
  bump
  let value ← condition
  expect .braceOpen
  let cases ← within (fun c => { c with canBreak := true }) (iterate
    (fun (items, hasDefault) => do
      match ← switchCase hasDefault with
      | some (case, hasDefault) => return .again (case :: items, hasDefault)
      | none => return .stop items.reverse)
    (([] : List Node), false))
  expect .braceClose
  node .switch start (value :: cases)

/-- The handler of a `try` statement, if there is one. -/
def handler? : Reader (List Node) := do
  let start ← place
  unless ← eatWord .catch do return []
  let param ← if ← eat .parenOpen then do
      let pat ← phrase .pattern
      let typed := withType pat (← ascription?)
      expect .parenClose
      pure [typed]
    else pure []
  let body ← phrase .block
  return [← node .handler start (param ++ [body])]

/-- The finalizer of a `try` statement, if there is one. -/
def finalizer? : Reader (List Node) := do
  let start ← place
  unless ← eatWord .finally do return []
  let body ← phrase .block
  return [← node .finalizer start [body]]

/-- A `try` statement. -/
def tryStatement : Reader Node := do
  let start ← place
  bump
  let body ← phrase .block
  let behind ← place
  let handler ← handler?
  let finalizer ← finalizer?
  if handler.isEmpty && finalizer.isEmpty then note behind .missingSemicolon
  node .try start (body :: handler ++ finalizer)

/-- A handler or a finalizer that lacks its `try`. -/
def strayHandler : Reader Node := do
  let start ← place
  note start .missingSemicolon
  rescue (do let _ ← handler?; let _ ← finalizer?) fun _ => pure ()
  node .expressionStatement start [.mk .missing (.empty start) []]

/-- A `with` statement. -/
def withStatement : Reader Node := do
  let start ← place
  if (← context).typed then note start .withInTyped
  note start .withInStrict
  bump
  let object ← condition
  let body ← within (fun c => { c with inFunction := true }) plainStatement
  node .with start [object, body]

/-- A labelled statement behind its label and the colon. -/
def labelledStatement (label : Node) (text : String) : Reader Node := do
  let isRepeated := (← context).labels.contains text
  let body ← within (fun c => { c with canBreak := true, labels := text :: c.labels }) do
    if ← isWord .function then
      let start ← place
      let function ← functionDeclaration start false true
      note start .labelledFunction
      if function.parts.any (fun p => p.kind = .function false true) then
        note start .labelledGenerator
      return function
    else plainStatement
  if isRepeated then note label.span.start (.duplicateLabel text)
  node .labelled label.span.start [.mk (.word text) label.span [], body]

/-! ### Declarations of types -/

/-- The names of types that the language itself has. -/
def builtinTypes : List String :=
  ["string", "null", "number", "object", "any", "unknown", "never", "bigint", "symbol",
    "undefined"]

/-- An interface behind its keyword. -/
def interfaceTail (start : Nat) : Reader Node := do
  let name ← word
  if let .word text := name.kind then
    if builtinTypes.contains text then note name.span.start .interfaceName
  let generics ← typeParameters?
  let bases ← if ← eatWord .extends then heritageTypes else pure []
  let members ← typeMembers
  node .typeDeclaration start (bases ++ generics ++ members)

/-- A name for a type behind its keyword. -/
def aliasTail (start : Nat) : Reader Node := do
  let _ ← word
  let generics ← typeParameters?
  expect .assign
  let types ← typeParts
  expectStatementEnd
  node .typeDeclaration start (generics ++ types)

/-- A member of an enumeration. -/
def enumMember : Reader Node := do
  let start ← place
  let name ← match ← kind with
    | .word text _ => do
      bump
      node (.binder (openName text)) start []
    | .string text => tokenLiteral (.string text)
    | .number text => do
      note start .enumNumericName
      tokenLiteral (.literal text)
    | .punct .bracketOpen => do
      bump
      let value ← phrase .expression
      note start .enumComputedName
      expect .bracketClose
      pure value
    | _ => unexpected "identifier, string literal, numeric literal or [ for the computed key"
  let value ← if ← eat .assign then do pure [← withIn true (phrase .assignment)] else pure []
  node .enumMember start (name :: value)

/-- An enumeration behind its keyword. -/
def enumTail (start : Nat) : Reader Node := do
  let nameStart ← place
  let text ← match ← kind with
    | .word text _ => do
      bump
      pure text
    | _ => fail .expectedIdentifier
  let name ← node (.binder (openName text)) nameStart []
  expect .braceOpen
  let members ← collect do
    if (← isPunct .braceClose) || (← kind) = .endOfText then return none
    let item ← enumMember
    unless ← isPunct .braceClose do expect .comma
    return some item
  expect .braceClose
  node .enum start (name :: members)

/-- A namespace behind its keyword, perhaps with dots in its name. -/
def namespaceTail (start : Nat) : Reader Node := do
  let nameStart ← place
  let text ← match ← kind with
    | .word text _ => do
      bump
      pure text
    | _ => fail .expectedIdentifier
  let name ← node (.binder (openName text)) nameStart []
  let _ ← collect do
    if ← eat .dot then
      let _ ← word
      return some ()
    else return none
  let body ← phrase .namespaceBody
  node .namespace start [name, body]

/-- A module of another file, named by a string, or what the whole program shares. -/
def foreignModule (start : Nat) : Reader Node := do
  bump
  if ← isPunct .braceOpen then
    let body ← phrase .namespaceBody
    node .namespace start [body]
  else
    expectStatementEnd
    node .namespace start []

/-- The declaration that a word begins in typed text; behind `declare` or `export` the word is the
    token to look at, and otherwise it has been taken. -/
def wordDeclaration (start : Nat) (text : String) (isNext : Bool) : Reader (Option Node) := do
  let takeWord : Reader Unit := if isNext then bump else pure ()
  match text with
  | "abstract" =>
    if isNext || ((← isWord .classWord) && !(← newline)) then
      takeWord
      return some (← phrase (.classTail start true true))
    else return none
  | "enum" =>
    if isNext || (← isIdentifier) then
      takeWord
      return some (← enumTail start)
    else return none
  | "interface" =>
    if isNext || (← isIdentifier) then
      takeWord
      return some (← interfaceTail start)
    else return none
  | "module" =>
    if ← newline then return none
    takeWord
    match ← kind with
    | .string _ => return some (← foreignModule start)
    | _ => if isNext || (← isIdentifier) then return some (← namespaceTail start) else return none
  | "namespace" =>
    if isNext || (← isIdentifier) then
      takeWord
      return some (← namespaceTail start)
    else return none
  | "type" =>
    if isNext || (!(← newline) && (← isIdentifier)) then
      takeWord
      return some (← aliasTail start)
    else return none
  | _ => return none

/-- A declaration behind `declare`, if one follows. -/
def ambientDeclaration? (start : Nat) (standing : Standing) : Reader (Option Node) :=
  within (fun c => { c with ambient := true }) do
    match ← kind with
    | .word _ (some .function) => return some (← functionDeclaration start false true)
    | .word _ (some .classWord) => return some (← phrase (.classTail start true false))
    | .word _ (some .const) =>
      if ← peekIsWord .enum then
        bump
        bump
        return some (← enumTail start)
      else return some (← variableDeclaration start standing)
    | .word _ (some .var) | .word _ (some .let) => return some (← variableDeclaration start standing)
    | .word _ (some .global) => return some (← foreignModule start)
    | .word text _ => wordDeclaration start text true
    | _ => return none

/-- The declaration that an identifier in the place of a statement turns out to begin. -/
def identifierDeclaration? (start : Nat) (text : String) : Reader (Option Node) := do
  match text with
  | "declare" => if ← newline then return none else ambientDeclaration? start .statement
  | "global" =>
    if ← isPunct .braceOpen then
      let body ← phrase .namespaceBody
      return some (← node .namespace start [body])
    else return none
  | _ => wordDeclaration start text false

/-! ### Statements -/

/-- A statement that begins with an expression. -/
def expressionStatement : Reader Node := do
  let start ← place
  let value ← withIn true (phrase .expression)
  match value.kind with
  | .reference name =>
    if ← eat .colon then return ← labelledStatement value name.text
    if (← context).typed then
      if let some declaration ← identifierDeclaration? start name.text then return declaration
  | _ => checkStray value
  if ← eatStatementEnd then node .expressionStatement start [value]
  else
    need
    match ← kind with
    | .punct p =>
      unless p.isBinary do fail .expectedSemicolon
      note (← place) .missingSemicolon
      let whole ← phrase (.operation value 0)
      node .expressionStatement start [whole]
    | _ => fail .expectedSemicolon

/-- A declaration in typed text whose keyword is followed by a name on the same line. -/
def keywordDeclaration? (start : Nat) : Reader (Option Node) := do
  unless (← context).typed do return none
  let next ← peek
  let named := kindIsIdentifier next.kind && !next.newline
  match ← kind with
  | .word _ (some .const) =>
    unless kindIsWord next.kind .enum do return none
    bump
    bump
    return some (← enumTail start)
  | .word _ (some .interface) =>
    unless named do return none
    bump
    return some (← interfaceTail start)
  | .word _ (some .type) =>
    unless named do return none
    bump
    return some (← aliasTail start)
  | .word _ (some .enum) =>
    unless named do return none
    bump
    return some (← enumTail start)
  | _ => return none

/-- `import(…)` or `import.meta` in the place of a statement; a declaration may not stand here. -/
def importStatement : Reader Node := do
  let start ← place
  let next ← peek
  unless next.kind = .punct .parenOpen || next.kind = .punct .dot do fail .nestedModuleItem
  let value ← phrase .expression
  let _ ← eatStatementEnd
  node .expressionStatement start [value]

/-- A declaration, where one may stand, that begins with a word which need not begin one. -/
def looseDeclaration? (start : Nat) : Reader (Option Node) := do
  match ← kind with
  | .word _ (some .const) => return some (← variableDeclaration start .statement)
  | .word _ (some .let) =>
    if followsLet (← peek) then return some (← variableDeclaration start .statement) else return none
  | .word _ (some .using) => usingDeclaration? start false
  | .word _ (some .await) =>
    unless ← peekIsWord .using do return none
    let next := Token.read (← peek).next
    unless kindIsIdentifier next.kind && !next.newline do return none
    bump
    usingDeclaration? start true
  | _ => return none

/-- A function or a class in the place of a statement. -/
def plainDeclaration (start : Nat) (declares isAsync : Bool) : Reader Node := do
  unless declares do note start .declarationNotAllowed
  if isAsync then bump
  if ← isWord .classWord then phrase (.classTail start true false)
  else functionDeclaration start isAsync true

/-- A statement; whether it may be a declaration is given. -/
def statement (declares : Bool) : Reader Node := do
  let start ← place
  if let some declaration ← keywordDeclaration? start then return declaration
  if declares then
    if let some declaration ← looseDeclaration? start then return declaration
  match ← kind with
  | .punct .braceOpen => phrase .block
  | .punct .semicolon =>
    bump
    node .empty start []
  | .word _ (some w) =>
    match w with
    | .import | .export => importStatement
    | .break => jump true
    | .continue => jump false
    | .debugger =>
      bump
      expectStatementEnd
      node .debugger start []
    | .do => doStatement
    | .for => forStatement
    | .function | .classWord => plainDeclaration start declares false
    | .if => ifStatement
    | .return => returnStatement
    | .switch => switchStatement
    | .throw => throwStatement
    | .catch | .finally => strayHandler
    | .try => tryStatement
    | .with => withStatement
    | .while => whileStatement
    | .var => variableDeclaration start .statement
    | .async =>
      let next ← peek
      if kindIsWord next.kind .function && !next.newline then plainDeclaration start true true
      else expressionStatement
    | _ => expressionStatement
  | _ => expressionStatement

end FormCodemod.Syntax.Grammar
