import FormCodemod.Syntax.Grammar.Arguments
import FormCodemod.Syntax.Grammar.Markup
import FormCodemod.Syntax.Grammar.Object

/-!
# Expressions

From the tightest to the loosest: primary expressions (`primary`), what may be called or extended
(`leftHandSide`), operands (`unary`), binary operators (`binary`, `operation`), assignments
(`assignment`) and lists of them (`expression`).

A binary operator behind an operand that cannot be read lets reading go on, so that what is reported
may be a fault further on.
-/

namespace FormCodemod.Syntax.Grammar

open Reader

/-- The expression is an arrow function, behind which no expression goes on. -/
def isArrow (n : Node) : Bool :=
  match n.kind with
  | .arrow _ => true
  | _ => false

/-- The expression stops at a missing value. -/
def isOptional : Node → Bool
  | .mk .optionalCall _ _ | .mk .optionalMember _ _ => true
  | .mk (.typed .nonNull) _ [e] => isOptional e
  | _ => false

/-! ### Parentheses and arrow functions -/

/-- An expression in parentheses. -/
def parenthesized (start : Nat) (items : List CoverItem) : Reader Node := do
  let span ← spanFrom start
  let values ← items.mapM fun item =>
    match item with
    | .expression none e => pure e
    | .expression (some _) e => failAt e.span.start .spreadInParentheses
    | .pattern p => failAt p.span.start .notAnExpression
  match values with
  | [] => failAt start .emptyParentheses
  | [e] => return .mk .parenthesized span [e]
  | e :: es =>
    let stop := (es.getLast?.getD e).span.stop
    return .mk .parenthesized span [.mk .sequence ⟨e.span.start, stop⟩ (e :: es)]

/-- Notes the properties of objects among the items that only a pattern may have. -/
def checkItems (items : List CoverItem) : Reader Unit := do
  for item in items do
    match item with
    | .expression _ (.mk .object _ props) =>
      for prop in props do
        if prop.kind = .assignedShorthand then note prop.span.start .assignedProperty
    | _ => pure ()

/-- An arrow function behind the type of its result, which the `:` that a conditional expression
    awaits may turn out to begin. -/
def arrowInBranch (start : Nat) (isAsync : Bool) (items : List CoverItem) :
    Reader (Option Node) := do
  expect .colon
  let types ← resultParts
  expect .arrow
  let params ← coverParameters items none
  let function ← arrowTail start isAsync params types
  if (← context).awaitsColon && !(← isPunct .colon) && !(← isStatementEnd) then unexpected "fail"
  return some function

/-- The type of the result ahead of an arrow. -/
def arrowResult : Reader (Option (List Node)) := do
  expect .colon
  let types ← resultParts
  unless ← isPunct .arrow do unexpected "fail"
  return some types

/-- An arrow function from its arrow on. A binary operator behind its body is a flaw. -/
def arrowBehind (start : Nat) (isAsync canBeArrow : Bool) (items : List CoverItem)
    (comma : Option Nat) (types : List Node) : Reader Node := do
  if ← newline then failAt start .lineBreakBeforeArrow
  unless canBeArrow do failAt start .arrowNotAllowed
  expect .arrow
  let params ← coverParameters items comma
  let function ← arrowTail start isAsync params types
  match ← kind with
  | .punct p =>
    if p.isBinary && function.parts.any (·.kind = .block) then
      note (← place) .missingSemicolon
      let whole ← phrase (.operation function 0)
      unless ← isStatementEnd do noteHere .missingSemicolon
      return whole
    else return function
  | _ => return function

/-- An expression in parentheses, the parameters and the body of an arrow function, or a call of a
    function named `async`, whose name is given. -/
def parenthesizedOrArrow (canBeArrow : Bool) (asyncName : Option Node) : Reader Node := do
  let start ← match asyncName with
    | some name => pure name.span.start
    | none => place
  let isAsync := asyncName.isSome
  let (items, comma) ←
    within (fun c => { c with awaitsColon := false, allowsIn := true }) coverItems
  let around ← context
  if around.typed && around.inConditional && (← isPunct .colon) then
    if let some function ← attempt (arrowInBranch start isAsync items) then return function
  let types ← if around.typed && !around.awaitsColon && (← isPunct .colon) then attempt arrowResult
    else pure none
  if types.isSome || (← isPunct .arrow) || items.any CoverItem.isPattern then
    return ← arrowBehind start isAsync canBeArrow items comma (types.getD [])
  checkItems items
  match asyncName with
  | some name =>
    let args ← items.mapM fun item =>
      match item with
      | .expression none e => pure e
      | .expression (some dots) e => pure (.mk .spread ⟨dots, e.span.stop⟩ [e])
      | .pattern p => failAt p.span.start .notAnExpression
    node .call start (name :: args)
  | none => parenthesized start items

/-- An arrow function `async <T>(…) => …` behind its first word. -/
def genericAsyncArrow (start : Nat) : Reader (Option Node) := do
  let generics ← typeParameters
  expect .parenOpen
  let params ← within (fun c => { c with inParameters := true }) parameters
  expect .parenClose
  let result ← if ← eat .colon then resultParts else pure []
  expect .arrow
  let pats := params.map fun p => match p.parts with
    | pat :: _ => asParameter pat
    | [] => p
  return some (← arrowTail start true pats (generics ++ result))

/-! ### Primary expressions -/

/-- Notes flags of a regular expression that mean nothing, or that stand there twice. -/
def checkFlags (start : Nat) (text : String) : Reader Unit := do
  let flags := (text.toList.reverse.takeWhile (· ≠ '/')).reverse
  if flags.any fun c => !("dgimsuvy".toList.contains c) then note start .unknownRegexFlags
  else if let some c := flags.find? (fun c => flags.count c > 1) then
    note start (.repeatedRegexFlag c)

/-- An identifier, or an arrow function that begins with one. -/
def namedPrimary (canBeArrow : Bool) : Reader Node := do
  let start ← place
  let name ← reference
  let isAsync := name.kind = .reference (openName "async")
  if canBeArrow && isAsync && !(← newline) && (← isIdentifier) then
    let param ← binder
    expect .arrow
    arrowTail start true [asParameter param] []
  else if ← pure (canBeArrow && !(← newline)) <&&> eat .arrow then
    match name.kind with
    | .reference n =>
      let param := Node.mk (.binder n) name.span []
      checkNames param
      arrowTail start false [asParameter param] []
    | _ => return name
  else return name

/-- An expression that the word `async` begins. -/
def asyncPrimary (canBeArrow : Bool) : Reader Node := do
  let start ← place
  let next ← peek
  if kindIsWord next.kind .function && !next.newline then
    bump
    return ← functionExpression start true
  if canBeArrow && (← context).typed && next.kind = .punct .less then
    let function ← attempt do
      bump
      genericAsyncArrow start
    if let some f := function then return f
  if canBeArrow && next.kind = .punct .parenOpen then
    let name ← reference
    return ← parenthesizedOrArrow canBeArrow (some name)
  namedPrimary canBeArrow

/-- A literal that is a single token. -/
def tokenLiteral (kind : Kind) : Reader Node := do
  let start ← place
  bump
  node kind start []

/-- An expression that no operator and no brackets extend. -/
def primary : Reader Node := do
  let start ← place
  let canBeArrow := (← state).arrowStart = some start
  match ← kind with
  | .punct .slash | .punct .slashAssign => reread Token.readRegex
  | _ => pure ()
  match ← kind with
  | .word text role =>
    match role with
    | some .this => tokenLiteral .this
    | some .async => asyncPrimary canBeArrow
    | some .function => functionExpression start false
    | some .classWord =>
      let c ← phrase (.classTail start false false)
      return c.withKind .classExpression
    | some .null | some .trueWord | some .falseWord => tokenLiteral (.literal text)
    | some .let => namedPrimary canBeArrow
    | some w => if w.isReserved then fail .expectedExpression else namedPrimary canBeArrow
    | none => namedPrimary canBeArrow
  | .punct .bracketOpen => arrayLiteral argument
  | .punct .braceOpen => objectLiteral
  | .string text => tokenLiteral (.string text)
  | .number text => tokenLiteral (.literal text)
  | .regex text =>
    checkFlags start text
    tokenLiteral (.literal text)
  | .punct .backquote => template
  | .punct .parenOpen => parenthesizedOrArrow canBeArrow none
  | .privateName text => tokenLiteral (.privateName text)
  | .punct .hash => looseHash
  | _ => fail .expectedExpression

/-! ### Calls and members -/

/-- The name of a member behind its dot. -/
def memberProperty : Reader Node := do
  match ← kind with
  | .privateName text =>
    tokenLiteral (.privateName text)
  | .punct .hash => looseHash
  | _ => word

/-- A template behind an expression. -/
def tagged (start : Nat) (tag : Node) (types : List Node) : Reader Node := do
  if isOptional tag then note tag.span.start .templateInOptionalChain
  let text ← template
  let span ← spanFrom start
  return .mk .taggedTemplate span (tag :: typesPart span types ++ [text])

/-- A call whose callee is read. -/
def callTail (start : Nat) (callee : Node) (isOptionalHere : Bool) (types : List Node) :
    Reader Node := do
  let args ← callArguments (callee.kind = .importCallee)
  let span ← spanFrom start
  let kind := if isOptionalHere || isOptional callee then Kind.optionalCall else .call
  return .mk kind span (callee :: args ++ typesPart span types)

/-- Arguments of types ahead of a parenthesis. -/
def typesOfCall : Reader (Option (List Node)) :=
  attempt do
    let types ← typeArguments
    unless ← isPunct .parenOpen do fail (.expected "(" (← kind).display)
    return some types

/-- A call or a template behind the arguments of types. -/
def typedTail (start : Nat) (noCall : Bool) (object : Node) :
    Reader (Option (Round Node Node)) := do
  if !noCall && object.kind = .reference (openName "async") then
    if let some function ← attempt (genericAsyncArrow start) then return some (.again function)
  let types ← typeArguments
  if !noCall && (← isPunct .parenOpen) then
    return some (.again (← callTail start object false types))
  match ← kind with
  | .punct .backquote => return some (.again (← tagged start object types))
  | .punct .assign | .word _ (some .as) =>
    let span ← spanFrom start
    return some (.stop (.mk (.typed .instantiation) span (object :: typesPart span types)))
  | _ => unexpected (if noCall then "`" else "( or `")

/-- The end of what extends an expression. -/
def endOfSubscripts (object : Node) : Reader (Round Node Node) := do
  if object.kind = .super then failAt object.span.start .superOutside
  if object.kind = .importCallee then fail .loneImport
  return .stop object

/-- What extends an expression: brackets, a call, a member or a template, if there is one. -/
def subscript (start : Nat) (noCall noComputed : Bool) (object : Node) :
    Reader (Round Node Node) := do
  if (← context).typed && object.kind ≠ .super then
    if !(← newline) && (← isPunct .bang) then
      bump
      return .again (← node (.typed .nonNull) start [object])
    if ← isLess then
      if let some round ← attempt (typedTail start noCall object) then return round
  let isOptionalHere ← eat .questionDot
  if (isOptionalHere || !noComputed) && (← isPunct .bracketOpen) then
    let bracket ← place
    bump
    let value ← withIn true (phrase .expression)
    expect .bracketClose
    let property ← node .computedName bracket [value]
    let kind := if isOptionalHere || isOptional object then Kind.optionalMember else .member
    return .again (← node kind start [object, property])
  if isOptionalHere && (← context).typed && (← isLess) then
    if let some types ← typesOfCall then return .again (← callTail start object true types)
  if (isOptionalHere || !noCall) && (← isPunct .parenOpen) then
    return .again (← callTail start object isOptionalHere [])
  if isOptionalHere && (← isPunct .backquote) then
    note (← place) .templateInOptionalChain
    return .again (← tagged start object [])
  if ← pure isOptionalHere <||> eat .dot then
    let property ← memberProperty
    let kind := if isOptionalHere || isOptional object then Kind.optionalMember else .member
    return .again (← node kind start [object, property])
  if object.kind ≠ .super && (← isPunct .backquote) then
    return .again (← tagged start object [])
  endOfSubscripts object

/-- Everything that extends an expression. -/
def subscripts (start : Nat) (noCall noComputed : Bool) (object : Node) : Reader Node :=
  iterate (subscript start noCall noComputed) object

/-- `super` with what extends it. -/
def superExpression (noCall : Bool) : Reader Node := do
  let start ← place
  unless (← context).hasSuper do fail .superOutside
  let object ← tokenLiteral .super
  subscripts start noCall false object

/-- `import(…)` or `import.meta` with what extends it. -/
def importExpression (noCall : Bool) : Reader Node := do
  let start ← place
  bump
  if ← eat .dot then
    unless ← eatWord .meta do unexpected "meta"
    subscripts start noCall false (← node (.metaProperty "import.meta") start [])
  else
    subscripts start noCall false (← node .importCallee start [])

/-- Arguments of types behind an expression that is not called. -/
def instantiation (start : Nat) (object : Node) : Reader Node := do
  unless (← context).typed && (← isPunct .less) do return object
  let types ← attempt do
    let types ← typeArguments
    match ← kind with
    | .punct .less | .punct .greater | .punct .shiftRight | .punct .shiftRightUnsigned
    | .punct .parenOpen | .punct .backquote => return none
    | .punct p =>
      if (← newline) || p.isBinary || !(p = .bracketOpen || p = .braceOpen || p = .bang ||
          p = .tilde || p = .plusPlus || p = .minusMinus) then return some types
      else return none
    | .word _ (some .in) | .word _ (some .instanceof) | .word _ (some .as)
    | .word _ (some .satisfies) | .endOfText => return some types
    | _ => if ← newline then return some types else return none
  match types with
  | some types =>
    let span ← spanFrom start
    return .mk (.typed .instantiation) span (object :: typesPart span types)
  | none => return object

/-- A primary expression with what extends it, calls apart. -/
def memberExpression : Reader Node := do
  let start ← place
  if ← isWord .super then superExpression true
  else if ← isWord .import then importExpression true
  else
    let object ← primary
    if isArrow object then return object
    subscripts start true false (← instantiation start object)

/-- `new.target` behind `new.`. -/
def newTarget (start : Nat) : Reader Node := do
  unless ← eatWord .target do unexpected "target"
  let around ← context
  unless around.hasNewTarget || around.inParameters || around.inClass do
    note start .newTargetOutside
  subscripts start true false (← node (.metaProperty "new.target") start [])

/-- An expression that may follow `new`, or that begins with it. -/
def member : Reader Node := do
  let start ← place
  unless ← eatWord .new do return ← memberExpression
  if ← eat .dot then return ← newTarget start
  let callee ← phrase .member
  if isArrow callee then return callee
  let heads := callee :: callee.parts.take 1
  if isOptional callee || (callee.kind = .member && heads.any isOptional) then
    failAt callee.span.start .optionalNew
  let types ← if (← context).typed && (← isLess) then typesOfCall else pure none
  let parts := callee :: typesPart callee.span (types.getD [])
  if ← isPunct .parenOpen then
    let args ← callArguments false
    subscripts start true false (← node .new start (parts ++ args))
  else node .new start parts

/-- An expression that may be called or extended. -/
def leftHandSide : Reader Node := do
  need
  let start ← place
  if (← context).markup && (← isPunct .less) then
    if (← context).failedMarkup = some start then refusedMarkup
    else phrase (.markupElement false)
  else if ← isWord .super then superExpression false
  else if ← isWord .import then importExpression false
  else
    let callee ← phrase .member
    if isArrow callee then return callee
    let types ← if (← context).typed && (← isLess) then typesOfCall else pure none
    if ← isPunct .parenOpen then
      subscripts start false false (← callTail start callee false (types.getD []))
    else return callee

/-! ### Operands -/

/-- Expressions may begin with the token. -/
def startsExpression (markup : Bool) : TokenKind → Bool
  | .word _ none => true
  | .word _ (some w) =>
    !w.isKeyword || w = .function || w = .new || w = .super || w = .this || w = .classWord ||
      w = .null || w = .trueWord || w = .falseWord || w = .typeof || w = .void || w = .delete ||
      w = .import || w = .throw
  | .string _ | .number _ | .regex _ | .privateName _ => true
  | .punct p =>
    p = .bang || p = .parenOpen || p = .bracketOpen || p = .braceOpen || p = .backquote ||
      p = .plusPlus || p = .minusMinus || p = .tilde || p = .plus || p = .minus ||
      (markup && p = .less)
  | _ => false

/-- `yield` and its value. -/
def yieldExpression : Reader Node := do
  let start ← place
  bump
  let around ← context
  if around.inParameters && !around.inFunction then failAt start .yieldInParameter
  let hasValue := (← isPunct .star) || (← isPunct .slash) ||
    startsExpression around.markup (← kind)
  if (← isStatementEnd) || !hasValue then node (.yield false) start []
  else
    let delegates ← eat .star
    let value ← phrase .assignment
    node (.yield delegates) start [value]

/-- `await` and its operand. -/
def awaitExpression : Reader Node := do
  let start ← place
  bump
  if ← isPunct .star then fail .awaitStar
  let around ← context
  if ((← isPunct .parenClose) || (← isPunct .bracketClose)) && !around.inAsync then
    note start .awaitAsName
    return ← node (.reference (openName "await")) start []
  if around.inFunction && !around.inAsync then note start .awaitOutsideAsync
  if around.inParameters && !around.inFunction then note start .awaitInParameter
  let value ← phrase .unary
  node .await start [value]

/-- An expression with a type in angle brackets ahead of it. -/
def angledExpression : Reader Node := do
  let start ← place
  reread (·.cut .less)
  bump
  if (← isWord .const) && (← peekIsPunct .greater) then
    bump
    bump
    let value ← phrase .unary
    return ← node (.typed .angledConst) start [value]
  let types ← typeParts
  expectGreater
  let value ← phrase .unary
  let span ← spanFrom start
  return .mk (.typed .angled) span (value :: typesPart span types)

/-- What typed text has against the operand of `delete`. -/
def checkDeleted (operand : Node) : Reader Unit := do
  if let .reference _ := operand.kind then note operand.span.start .deleteOfName
  if (← context).typed then
    match bare operand with
    | .member | .optionalMember => pure ()
    | _ => note operand.span.start .deleteOperand
where
  /-- The kind of an expression with the parentheses around it removed. -/
  bare : Node → Kind
    | .mk .parenthesized _ [e] => bare e
    | n => n.kind

/-- An operator ahead of an operand; a fault of the operand lets reading go on. -/
def unaryOperation (operator : String) : Reader Node := do
  let start ← place
  bump
  let operand ← rescue (phrase .unary) fun fault => do
    note fault.offset fault.flaw
    return .mk .missing (.empty (← lastStop)) []
  if operator = "delete" then checkDeleted operand
  return .mk (.unary operator) ⟨start, operand.span.stop⟩ [operand]

/-- The operator ahead of an operand that the token is. -/
def unaryOperator? : TokenKind → Option String
  | .word _ (some .delete) => some "delete"
  | .word _ (some .void) => some "void"
  | .word _ (some .typeof) => some "typeof"
  | .punct .plus => some "+"
  | .punct .minus => some "-"
  | .punct .tilde => some "~"
  | .punct .bang => some "!"
  | _ => none

/-- The operator that the token is, if it is one that counts up or down. -/
def updateOperator? : TokenKind → Option String
  | .punct .plusPlus => some "++"
  | .punct .minusMinus => some "--"
  | _ => none

/-- An operand of a binary operator. -/
def unary : Reader Node := do
  let start ← place
  let around ← context
  if around.typed && !around.markup && (← isLess) then return ← angledExpression
  if let some operator := updateOperator? (← kind) then
    bump
    let operand ← phrase .unary
    checkTarget false operand
    return .mk (.update operator true) ⟨start, operand.span.stop⟩ [operand]
  if let some operator := unaryOperator? (← kind) then return ← unaryOperation operator
  if ← isWord .await then return ← awaitExpression
  let operand ← phrase .leftHandSide
  if isArrow operand || (← newline) then return operand
  match updateOperator? (← kind) with
  | some operator =>
    checkTarget false operand
    bump
    node (.update operator false) operand.span.start [operand]
  | none => return operand

/-! ### Binary operators -/

/-- The binary operator that the token is, and how tightly it binds. -/
def binaryOperator? (allowsIn : Bool) : TokenKind → Option (String × Nat)
  | .punct p => if p.isBinary then some (p.text, p.precedence) else none
  | .word _ (some .in) => if allowsIn then some ("in", 7) else none
  | .word _ (some .instanceof) => some ("instanceof", 7)
  | _ => none

/-- Notes an operand of `??` that mixes it with another logical operator. -/
def checkMixed (operand : Node) : Reader Unit := do
  match operand.kind with
  | .binary "&&" | .binary "||" => note operand.span.start .mixedNullish
  | _ => pure ()

/-- A type behind `as` or `satisfies`. -/
def typeBehind (left : Node) : Reader (Option Node) := do
  unless (← context).typed && !(← newline) do return none
  let start := left.span.start
  if ← isWord .as then
    bump
    if ← eatWord .const then return some (← node (.typed .asConst) start [left])
    let types ← typeParts
    let span ← spanFrom start
    return some (.mk (.typed .as) span (left :: typesPart span types))
  if ← isWord .satisfies then
    bump
    let types ← typeParts
    let span ← spanFrom start
    return some (.mk (.typed .satisfies) span (left :: typesPart span types))
  return none

/-- The operators and operands behind an operand, as long as they bind more tightly than given. -/
def operation (left : Node) (least : Nat) : Reader Node :=
  iterate
    (fun left => do
      if let some whole ← typeBehind left then return .again whole
      match binaryOperator? (← context).allowsIn (← kind) with
      | none => return .stop left
      | some (operator, precedence) =>
        if precedence ≤ least then return .stop left
        bump
        if operator = "**" then
          match left.kind with
          | .unary _ | .await => fail .unaryInPower
          | _ => pure ()
        let first ← phrase .unary
        let least := if operator = "**" then precedence - 1 else precedence
        let right ← phrase (.operation first least)
        if operator = "??" then
          checkMixed left
          checkMixed right
        return .again (.mk (.binary operator) ⟨left.span.start, right.span.stop⟩ [left, right]))
    left

/-- Operands with binary operators between them. Behind a first operand that cannot be read, an
    operator lets reading go on. -/
def binary : Reader Node := do
  let left ← rescue (phrase .unary) fun fault => do
    need
    match binaryOperator? (← context).allowsIn (← kind) with
    | some _ =>
      note (← state).last.start .expectedExpression
      return .mk .missing (.empty fault.offset) []
    | none => failAt fault.offset fault.flaw
  if isArrow left then return left
  phrase (.operation left 0)

/-! ### Assignments -/

/-- An expression without commas, in which markup means what it says. -/
def plainAssignment : Reader Node := do
  if (← context).inGenerator && (← isWord .yield) then return ← yieldExpression
  need
  let start ← place
  let mayBeArrow := kindIsIdentifier (← kind) || (← isPunct .parenOpen) || (← isWord .yield)
  modify fun s => { s with arrowStart := if mayBeArrow then some start else none }
  let test ← phrase .binary
  if isArrow test then return test
  if ← eat .question then return ← branches start test
  match test.kind with
  | .binary _ | .unary _ | .update .. => return test
  | _ => assignmentTail start test

/-- An arrow function with type parameters. -/
def genericArrow : Reader (Option Node) := do
  let start ← place
  let generics ← typeParameters
  match ← plainAssignment with
  | .mk (.arrow isAsync) span parts =>
    return some (.mk (.arrow isAsync) ⟨start, span.stop⟩ (parts ++ typesPart span generics))
  | _ => unexpected "("

/-- An expression without commas. What begins with a `<` in typed text is markup, or else an arrow
    function with type parameters, or else what markup is not allowed for. -/
def assignment : Reader Node := do
  let around ← context
  unless around.typed && (← isLess) do return ← plainAssignment
  let start ← place
  if around.markup then
    if let some whole ← attempt (some <$> plainAssignment) then return whole
  if ← peekIsName then
    let function ← attempt (within (fun c => { c with awaitsColon := false }) genericArrow)
    if let some whole := function then return whole
  within (fun c => { c with failedMarkup := some start }) plainAssignment

/-- Expressions with commas between them. -/
def expression : Reader Node := do
  let first ← phrase .assignment
  let rest ← collect do
    if ← eat .comma then return some (← phrase .assignment) else return none
  match rest.getLast? with
  | none => return first
  | some last => return .mk .sequence ⟨first.span.start, last.span.stop⟩ (first :: rest)

end FormCodemod.Syntax.Grammar
