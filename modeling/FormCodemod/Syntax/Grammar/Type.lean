import FormCodemod.Syntax.Grammar.Parameter

/-!
# Types

Types are read for the extent of their text. Of what they contain, a tree keeps the expressions,
which are the computed names of members: the reader of a type gives a node `Kind.types` with these.
-/

namespace FormCodemod.Syntax.Grammar

open Reader

/-- The expressions of a type. -/
abbrev Types := List Node

/-- A type. -/
def typeParts : Reader Types := do
  return (← phrase .type).parts

/-- A type that is no conditional one. -/
def operandParts : Reader Types := do
  return (← phrase .typeOperand).parts

/-- Items with commas between and perhaps behind them, up to a closing token. -/
def separated (isEnd : Reader Bool) (item : Reader Types) : Reader Types := do
  let groups ← collect do
    if (← isEnd) || (← kind) = .endOfText then return none
    let types ← item
    unless ← isEnd do expect .comma
    return some types
  return groups.flatten

/-- The token to look at begins with a `>`. -/
def isGreater : Reader Bool := do
  let t ← token
  match t.kind, t.here.chars with
  | .punct _, '>' :: _ => return true
  | _, _ => return false

/-- The arguments of a type or of a call, in angle brackets. -/
def typeArguments : Reader Types := do
  unless ← eatLess do fail (.expected "<" (← kind).display)
  let types ← separated isGreater typeParts
  expectGreater
  return types

/-- The modifiers of a type parameter. -/
def typeParameterModifiers : Reader Unit := do
  let _ ← collect do
    match ← kind with
    | .word _ (some .const) | .word _ (some .in) =>
      bump
      return some ()
    | .word _ (some .out) =>
      if ← peekIsName then
        bump
        return some ()
      else return none
    | _ => return none

/-- A type parameter. -/
def typeParameter : Reader Types := do
  typeParameterModifiers
  let _ ← word
  let bound ← if ← eatWord .extends then typeParts else pure []
  let value ← if ← eat .assign then typeParts else pure []
  return bound ++ value

/-- The type parameters of a declaration, in angle brackets. -/
def typeParameters : Reader Types := do
  let start ← place
  unless ← eatLess do unexpected "< (jsx tag start)"
  if ← isGreater then note start .emptyTypeParameters
  let types ← separated isGreater typeParameter
  expectGreater
  return types

/-- The type parameters of a declaration, if there are any. -/
def typeParameters? : Reader Types := do
  if (← context).typed && (← isLess) then typeParameters else return []

/-- The type behind a colon or an arrow: it may say what a call asserts. -/
def resultParts : Reader Types := do
  let asserts := kindIsWord (← kind) .asserts && kindIsIdentifier (← peek).kind
  let assertsThis := kindIsWord (← kind) .asserts && kindIsWord (← peek).kind .this
  if asserts || assertsThis then bump
  let subject := kindIsIdentifier (← kind) || kindIsWord (← kind) .this
  let is := subject && kindIsWord (← peek).kind .is && !(← peek).newline
  if asserts || assertsThis || is then
    let _ ← word
    if is then
      bump
      return ← typeParts
    else return []
  else typeParts

/-- The parameters and the result of a signature. -/
def signature (mark : Punct) : Reader Types := do
  let generics ← typeParameters?
  expect .parenOpen
  let _ ← parameters
  expect .parenClose
  let result ← if mark = .arrow then do
      expect .arrow
      resultParts
    else if ← eat .colon then resultParts
    else pure []
  return generics ++ result

/-- The name of a type, with dots in it. -/
def entityName : Reader Unit := do
  match ← kind with
  | .word _ _ =>
    bump
    let _ ← collect do
      if ← eat .dot then
        match ← kind with
        | .privateName _ => bump
        | _ => let _ ← word
        return some ()
      else return none
  | _ => fail .expectedIdentifier

/-- Arguments of a type on the line where its name ends. -/
def typeArgumentsHere? : Reader Types := do
  if !(← newline) && (← isLess) then typeArguments else return []

/-! ### Members -/

/-- The end of a member. -/
def memberEnd : Reader Unit := do
  unless ← eat .comma do expectStatementEnd

/-- The name of a member: the expressions in it. -/
def memberName : Reader Types := do
  need
  match ← kind with
  | .punct .bracketOpen =>
    bump
    let name ← phrase .assignment
    expect .bracketClose
    return [name]
  | .word _ _ | .string _ | .number _ | .privateName _ =>
    bump
    return []
  | _ => fail .expectedIdentifier

/-- Ahead of `[name:` or `[name,`. -/
def atIndexSignature : Reader Bool := do
  unless ← isPunct .bracketOpen do return false
  lookAhead do
    bump
    unless kindIsName (← kind) do return false
    bump
    return (← isPunct .colon) || (← isPunct .comma)

/-- A member `[name: type]: type`. -/
def indexSignature : Reader Types := do
  expect .bracketOpen
  let _ ← word
  expect .colon
  let key ← typeParts
  expect .bracketClose
  let value ← ascribedParts
  memberEnd
  return key ++ value

/-- A property or a method of a type. -/
def propertySignature : Reader Types := do
  let name ← memberName
  let _ ← eat .question
  if (← isPunct .parenOpen) || (← isLess) then
    let rest ← signature .colon
    memberEnd
    return name ++ rest
  else
    let types ← ascribedParts
    memberEnd
    return name ++ types

/-- An accessor of a type behind its word. -/
def accessorSignature : Reader (Option Types) := do
  unless (← isWord .get) || (← isWord .set) do return none
  bump
  let name ← memberName
  expect .parenOpen
  let _ ← parameters
  expect .parenClose
  let types ← ascribedParts
  memberEnd
  return some (name ++ types)

/-- A member of a type. -/
def typeMember : Reader Types := do
  if (← isPunct .parenOpen) || (← isLess) then
    let types ← signature .colon
    memberEnd
    return types
  if ← isWord .new then
    let next ← peek
    if next.kind = .punct .parenOpen || next.kind = .punct .less then
      bump
      let types ← signature .colon
      memberEnd
      return types
  let _ ← eatModifier .readonly
  if ← atIndexSignature then return ← indexSignature
  match ← attempt accessorSignature with
  | some types => return types
  | none => propertySignature

/-- Members in braces. -/
def typeMembers : Reader Types := do
  expect .braceOpen
  let groups ← collect do
    if (← isPunct .braceClose) || (← kind) = .endOfText then return none
    return some (← typeMember)
  expect .braceClose
  return groups.flatten

/-! ### Mapped types and tuples -/

/-- Ahead of `{ [name in`, with modifiers. -/
def atMappedType : Reader Bool :=
  lookAhead do
    bump
    if ← eat .plus <||> eat .minus then return ← isWord .readonly
    let _ ← eatWord .readonly
    unless ← eat .bracketOpen do return false
    unless kindIsName (← kind) do return false
    bump
    isWord .in

/-- A type with a member for each key of another. -/
def mappedType : Reader Types := do
  expect .braceOpen
  if ← eat .plus <||> eat .minus then expectWord .readonly "readonly"
  else
    let _ ← eatWord .readonly
  expect .bracketOpen
  let _ ← word
  expectWord .in "in"
  let keys ← typeParts
  let name ← if ← eatWord .as then typeParts else pure []
  expect .bracketClose
  if ← eat .plus <||> eat .minus then expect .question
  else
    let _ ← eat .question
  let value ← ascribedParts
  expectStatementEnd
  expect .braceClose
  return keys ++ name ++ value

/-- An element of a tuple, perhaps with a label. -/
def tupleElement : Reader Types := do
  let _ ← eat .ellipsis
  let labelled ← lookAhead do
    unless kindIsName (← kind) do return false
    bump
    let _ ← eat .question
    isPunct .colon
  if labelled then
    bump
    let _ ← eat .question
    expect .colon
    typeParts
  else
    let types ← typeParts
    let _ ← eat .question
    return types

/-! ### Operands -/

/-- A type `import("…")` behind the keyword. -/
def importType : Reader Types := do
  bump
  expect .parenOpen
  match ← kind with
  | .string _ => bump
  | _ => fail .stringExpected
  if ← eat .comma then
    let _ ← phrase .assignment
  expect .parenClose
  if ← eat .dot then entityName
  if ← isLess then typeArguments else return []

/-- A type spelled by a template, whose opening backquote is the token to look at. -/
def templateType : Reader Types :=
  iterate
    (fun types => do
      match TemplatePiece.read? (← token).next with
      | none => failAt (← token).next.endOffset .endOfText
      | some piece =>
        reread fun t => { t with next := piece.next }
        bump
        if piece.closes then return .stop types
        let inner ← typeParts
        unless ← isPunct .braceClose do fail (.expected "\x7d" (← kind).display)
        return .again (types ++ inner))
    ([] : Types)

/-- What a type may begin with, as messages list it. -/
def typeStarts : String :=
  "an identifier, void, yield, null, await, break, a string literal, a numeric literal, " ++
    "true, false, `, -, import, this, typeof, \x7b, [, ("

/-- A type without operators and brackets behind it. -/
def plainType : Reader Types := do
  need
  match ← kind with
  | .word _ (some .import) => importType
  | .word _ (some .this) =>
    bump
    if !(← newline) && (← isWord .is) then
      bump
      typeParts
    else return []
  | .word _ (some .typeof) =>
    bump
    if ← isWord .import then importType
    else
      entityName
      typeArgumentsHere?
  | .word _ (some .trueWord) | .word _ (some .falseWord) =>
    bump
    return []
  | .word _ (some .void) | .word _ (some .null) =>
    bump
    return []
  | .word _ role =>
    if role.any Word.isKeyword then
      unexpected typeStarts
    else
      entityName
      typeArgumentsHere?
  | .string _ | .number _ =>
    bump
    return []
  | .punct .backquote => templateType
  | .punct .minus =>
    bump
    match ← kind with
    | .number _ =>
      bump
      return []
    | _ => unexpected "numeric literal or bigint literal"
  | .punct .braceOpen => if ← atMappedType then mappedType else typeMembers
  | .punct .bracketOpen =>
    bump
    let types ← separated (isPunct .bracketClose) tupleElement
    expect .bracketClose
    return types
  | .punct .parenOpen =>
    bump
    let types ← within (fun c => { c with noConditionalType := false }) typeParts
    expect .parenClose
    return types
  | _ => unexpected typeStarts

/-- A type with the brackets behind it. -/
def suffixedType : Reader Types := do
  let base ← plainType
  iterate
    (fun types => do
      if !(← newline) && (← isPunct .bracketOpen) then
        bump
        if ← eat .bracketClose then return .again types
        let index ← typeParts
        expect .bracketClose
        return .again (types ++ index)
      else return .stop types)
    base

/-- The bound of an inferred type, unless it turns out to be the condition of a conditional
    type. -/
def inferredBound : Reader (Option Types) := do
  unless ← eatWord .extends do return none
  let types ← within (fun c => { c with noConditionalType := true }) operandParts
  if (← context).noConditionalType || !(← isPunct .question) then return some types
  else return none

/-- A type with operators ahead of it. -/
def prefixedType : Reader Types := do
  let _ ← collect do
    match ← kind with
    | .word _ (some .keyof) | .word _ (some .unique) | .word _ (some .readonly) =>
      let next ← peek
      match next.kind with
      | .word _ _ | .punct .bracketOpen | .punct .braceOpen | .punct .parenOpen | .string _ =>
        bump
        return some ()
      | _ => return none
    | _ => return none
  if (← isWord .infer) && (← peekIsName) then
    bump
    let _ ← word
    return (← attempt inferredBound).getD []
  suffixedType

/-- Types with an operator between them, and perhaps ahead of the first. -/
def joinedTypes (operator : Punct) (item : Reader Types) : Reader Types := do
  let _ ← eat operator
  let first ← item
  let rest ← collect do
    if ← eat operator then return some (← item) else return none
  return first ++ rest.flatten

/-- The start of a parameter is taken, if there is one. -/
def skipParameterStart : Reader Bool := do
  let _ ← eatAccessModifier
  match ← kind with
  | .word _ _ =>
    bump
    return true
  | .punct .braceOpen | .punct .bracketOpen =>
    rescue (do let _ ← phrase .pattern; return true) fun _ => return false
  | _ => return false

/-- Ahead of the parameters of a function type. -/
def atFunctionType : Reader Bool := do
  if ← isLess then return true
  unless ← isPunct .parenOpen do return false
  lookAhead do
    bump
    match ← kind with
    | .punct .parenClose | .punct .ellipsis => return true
    | _ => pure ()
    unless ← skipParameterStart do return false
    match ← kind with
    | .punct .colon | .punct .comma | .punct .question | .punct .assign => return true
    | .punct .parenClose =>
      bump
      isPunct .arrow
    | _ => return false

/-- A type that is no conditional one. -/
def typeOperand : Reader Node := do
  let start ← place
  let types ← if ← atFunctionType then signature .arrow
    else if ← isWord .new then do
      bump
      signature .arrow
    else if (← isWord .abstract) && (← peekIsWord .new) then do
      bump
      bump
      signature .arrow
    else joinedTypes .bar (joinedTypes .ampersand prefixedType)
  node .types start types

/-- A type. -/
def type : Reader Node := do
  let start ← place
  let first ← operandParts
  if (← context).noConditionalType || (← newline) || !(← isWord .extends) then
    return ← node .types start first
  bump
  let bound ← within (fun c => { c with noConditionalType := true }) operandParts
  expect .question
  let yes ← within (fun c => { c with noConditionalType := false }) typeParts
  expect .colon
  let no ← within (fun c => { c with noConditionalType := false }) typeParts
  node .types start (first ++ bound ++ yes ++ no)

end FormCodemod.Syntax.Grammar
