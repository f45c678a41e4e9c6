import FormCodemod.Syntax.Grammar.Expression

/-!
# Classes

A class has members and may extend an expression. A word such as `static`, `get` or `async` modifies
the member behind it, unless what follows shows that it is the name of a member itself.
-/

namespace FormCodemod.Syntax.Grammar

open Reader

/-- The words ahead of a member. -/
structure Modifiers where
  isStatic : Bool := false
  isDeclared : Bool := false
  hasAccess : Bool := false
  isAbstract : Bool := false
  isOverride : Bool := false
  isReadonly : Bool := false
  deriving Repr

/-- Parameters follow. -/
def atMethod : Reader Bool := do
  if ← isPunct .parenOpen then return true
  return (← context).typed && (← isLess)

/-- What may follow the name of a field: a value, a type or the end of the field. The end may be
    that of a line if so given. -/
def atField (orLineEnd : Bool) : Reader Bool := do
  if (← isPunct .assign) || (← isPunct .braceClose) then return true
  if (← context).typed && ((← isPunct .bang) || (← isPunct .colon)) then return true
  if orLineEnd then isStatementEnd else isPunct .semicolon

/-- The name of a member. -/
def memberKey : Reader Node := do
  match ← kind with
  | .privateName text =>
    if text = "constructor" then note (← place) .privateConstructor
    tokenLiteral (.privateName text)
  | .punct .hash => looseHash
  | _ => propertyName

/-- The member is named `constructor`. -/
def namesConstructor (key : Node) : Bool :=
  key.kind = .word "constructor" || key.kind = .string "'constructor'" ||
    key.kind = .string "\"constructor\""

/-- A method from its parameters on. -/
def classMethod (start : Nat) (modifiers : Modifiers) (key : Node) (isAsync isGenerator : Bool)
    (params : Reader (List Node)) : Reader Node := do
  let function ← methodTail start isAsync isGenerator params
  if modifiers.isAbstract && function.parts.any (·.kind = .block) then
    note start .abstractWithBody
  node (.classMethod modifiers.isStatic) start [key, function]

/-- A field behind its name. -/
def classField (start : Nat) (modifiers : Modifiers) (key : Node) : Reader Node := do
  if namesConstructor key then failAt key.span.start .fieldNamedConstructor
  if let .privateName _ := key.kind then
    if modifiers.isDeclared then note key.span.start (.modifierOnPrivate "declare")
    if modifiers.isAbstract then note key.span.start (.modifierOnPrivate "abstract")
  if (← context).typed then
    let _ ← eat .bang
  let types ← ascribedParts
  let value ← if ← eat .assign then do pure [← withIn true (phrase .assignment)] else pure []
  unless ← eatStatementEnd do noteHere .missingSemicolon
  let span ← spanFrom start
  return .mk (.classField modifiers.isStatic) span (key :: value ++ typesPart span types)

/-! ### Constructors -/

/-- Takes the words that make a parameter of a constructor a property. -/
def propertyWords : Reader Bool := do
  let words ← collect do
    for w in [Word.public, .protected, .private, .override, .readonly] do
      if ← eatModifier w then return some ()
    return none
  return !words.isEmpty

/-- A parameter of a constructor. -/
def constructorParameter : Reader Node := do
  let isProperty ← propertyWords
  let pat ← parameterPattern
  if isProperty then
    match pat.kind with
    | .binder _ | .defaultPattern => pure ()
    | _ => failAt pat.span.start .parameterPropertyPattern
  return pat

/-- A constructor from its parameters on. -/
def constructorTail (start : Nat) : Reader Node := do
  let generics ← typeParameters?
  expect .parenOpen
  let params ← within (fun c => { c with inParameters := true })
    (parametersOf constructorParameter)
  expect .parenClose
  let result ← ascribedParts
  let body ← bodyBlock? false false params
  if body.isNone then checkValues params
  let span ← spanFrom start
  return .mk .constructor span
    (params ++ body.toList ++ typesPart span (generics ++ result))

/-! ### Members -/

/-- A member that is named by a word that is also a modifier, which has been taken. -/
def namedByModifier (start : Nat) (text : String) (orLineEnd : Bool) : Reader (Option Node) := do
  let key := Node.mk (.word text) (← state).last []
  if ← atMethod then return some (← classMethod start {} key false false parameters)
  if (← atField orLineEnd) || ((← context).typed && (← isPunct .question)) then
    let _ ← eat .question
    return some (← classField start {} key)
  return none

/-- What is wrong with a modifier behind the given ones, if anything is. -/
def modifierFlaw? (m : Modifiers) (hasBase : Bool) : Word → Option Flaw
  | .abstract =>
    if m.isAbstract then some (.modifierTwice "abstract")
    else if m.isOverride then some (.modifierOrder "abstract" "override")
    else none
  | .override =>
    if m.isOverride then some (.modifierTwice "override")
    else if m.isReadonly then some (.modifierOrder "override" "readonly")
    else if m.isDeclared then some (.modifiersTogether "override" "declare")
    else if hasBase then none
    else some .overrideWithoutBase
  | .readonly => if m.isReadonly then some (.modifierTwice "readonly") else none
  | .static => if m.isOverride then some (.modifierOrder "static" "override") else none
  | _ => none

/-- Takes a modifier and notes what is wrong with it behind the given ones. -/
def nextModifier (m : Modifiers) (w : Word) : Reader Bool := do
  unless ← eatModifier w do return false
  if let some flaw := modifierFlaw? m (← context).hasBase w then note (← state).last.start flaw
  return true

/-- The modifiers that only typed text has. -/
def typedModifiers (modifiers : Modifiers) : Reader Modifiers :=
  iterate
    (fun m => do
      if ← nextModifier m .abstract then return .again { m with isAbstract := true }
      if ← nextModifier m .override then return .again { m with isOverride := true }
      if ← nextModifier m .readonly then return .again { m with isReadonly := true }
      let startsBlock := (← isWord .static) && (← peekIsPunct .braceOpen)
      unless startsBlock do
        if ← nextModifier m .static then return .again { m with isStatic := true }
      return .stop m)
    modifiers

/-- A static block from its brace on. -/
def staticBlock (start : Nat) : Reader Node := do
  let body ← phrase .block
  node .staticBlock start [body]

/-- An accessor behind its word, which stands at the given place. -/
def classAccessor (start wordPlace : Nat) (isGetter : Bool) (modifiers : Modifiers) :
    Reader Node := do
  let key ← memberKey
  if modifiers.isReadonly then note wordPlace .readonlyAccessor
  if namesConstructor key then note wordPlace .accessorConstructor
  classMethod start modifiers key false false
    (if isGetter then getterParameters wordPlace else setterParameters wordPlace)

/-- A member behind `async`. -/
def asyncMember (start : Nat) (modifiers : Modifiers) : Reader Node := do
  let isGenerator ← eat .star
  let key ← memberKey
  if namesConstructor key then note key.span.start .asyncConstructor
  if modifiers.isReadonly then note start .readonlyMethod
  if (← context).typed then
    let _ ← eat .question
  classMethod start modifiers key true isGenerator parameters

/-- A member behind its modifiers. -/
def modifiedMember (start : Nat) (modifiers : Modifiers) : Reader Node := do
  let isTyped := (← context).typed
  if isTyped && !modifiers.isAbstract && !modifiers.isOverride && !modifiers.hasAccess then
    if ← atIndexSignature then
      let types ← indexSignature
      let span ← spanFrom start
      return .mk .types span types
  if ← eat .star then
    let key ← memberKey
    if modifiers.isReadonly then note start .readonlyMethod
    if namesConstructor key then note key.span.start .generatorConstructor
    return ← classMethod start modifiers key false true parameters
  let isNamedReadonly := modifiers.isReadonly && ((← isPunct .bang) || (← isPunct .colon))
  let key ← if isNamedReadonly then do pure (Node.mk (.word "readonly") (← state).last [])
    else memberKey
  if isTyped then
    let _ ← eat .question
  if ← atMethod then
    if modifiers.isReadonly then failAt start .readonlyMethod
    if namesConstructor key && !modifiers.isStatic then return ← constructorTail start
    return ← classMethod start modifiers key false false parameters
  let isAccessor := key.kind = .word "get" || key.kind = .word "set"
  let accesses := isAccessor && !(← atField false) && !((← newline) && (← isPunct .star))
  if !accesses && (← atField true) then return ← classField start modifiers key
  if key.kind = .word "async" && !(← newline) then return ← asyncMember start modifiers
  if accesses then
    return ← classAccessor start key.span.start (key.kind = .word "get") modifiers
  unexpected "* for generator, private key, identifier or async"

/-- A member of a class, and whether it is abstract. -/
def classMember : Reader (Node × Bool) := do
  let start ← place
  let isTyped := (← context).typed
  let eatsDeclare : Reader Bool := if isTyped then eatWord .declare else return false
  let declared ← eatsDeclare
  if declared then
    if let some named ← namedByModifier start "declare" true then return (named, false)
  let hasAccess ← if isTyped then do
      eatModifier .public <||> eatModifier .protected <||> eatModifier .private
    else pure false
  let declaredLater ← eatsDeclare
  let isStatic ← eatWord .static
  if isStatic then
    if let some named ← namedByModifier start "static" false then return (named, false)
  let declaredLast ← eatsDeclare
  let modifiers ← if isTyped then
      typedModifiers
        { isStatic, hasAccess, isDeclared := declared || declaredLater || declaredLast }
    else pure { isStatic }
  if ← eatModifier .accessor then pure ()
  if modifiers.isStatic && (← isPunct .braceOpen) then return (← staticBlock start, false)
  if (← isWord .static) && (← peekIsPunct .braceOpen) then
    bump
    return (← staticBlock start, false)
  return (← modifiedMember start modifiers, modifiers.isAbstract)

/-- The members of a class up to its closing brace, each with whether it is abstract. -/
def classMembers : Reader (List (Node × Bool)) :=
  iterate
    (fun (items, hasConstructor) => do
      if (← isPunct .braceClose) || (← kind) = .endOfText then return .stop items.reverse
      let start ← place
      if ← eat .semicolon then
        return .again (((← node .empty start []), false) :: items, hasConstructor)
      let (item, isAbstract) ← classMember
      let isConstructor := item.kind = .constructor && item.parts.any (·.kind = .block) &&
        !(← context).ambient
      if isConstructor && hasConstructor then note start .secondConstructor
      return .again ((item, isAbstract) :: items, hasConstructor || isConstructor))
    (([] : List (Node × Bool)), false)

/-! ### What a class extends -/

/-- What a class extends behind the keyword. -/
def superClass : Reader Node := do
  let start ← place
  let base ← phrase .leftHandSide
  let types ← if (← context).typed && (← isLess) then typeArguments else pure []
  let span ← spanFrom start
  return .mk .heritage span (base :: typesPart span types)

/-- The types that a class implements or an interface extends. -/
def heritageTypes : Reader (List Node) :=
  iterate
    (fun items => do
      let start ← place
      match ← kind with
      | .word text _ =>
        bump
        let head ← node (.reference (openName text)) start []
        let base ← subscripts start true true head
        let types ← if ← isLess then typeArguments else pure []
        let span ← spanFrom start
        let items := Node.mk .heritage span (base :: typesPart span types) :: items
        if ← eat .comma then return .again items else return .stop items.reverse
      | _ => fail .expectedIdentifier)
    ([] : List Node)

/-- Everything that a class extends and implements, and whether it extends something. -/
def heritage : Reader (List Node × Bool) := do
  let bases ← if ← eatWord .extends then do
      let base ← superClass
      if ← isTyped <&&> eat .comma then
        for other in ← heritageTypes do note other.span.start .severalBases
      pure [base]
    else pure []
  if ← eatWord .extends then
    note (← state).last.start .extendsTwice
    let _ ← superClass
  if (← context).typed then
    let types ← if ← eatWord .implements then heritageTypes else pure []
    if ← eatWord .implements then
      note (← state).last.start .implementsTwice
      let _ ← heritageTypes
    if ← eatWord .extends then
      note (← state).last.start .extendsAfterImplements
      let _ ← superClass
    return (bases ++ types, !bases.isEmpty)
  else return (bases, !bases.isEmpty)

/-- A class from its keyword on, as a declaration. -/
def classTail (start : Nat) (nameNeeded isAbstract : Bool) : Reader Node := do
  expectWord .classWord "class"
  let name ← if !nameNeeded && (← isWord .implements) then pure [] else binderIf nameNeeded
  let generics ← typeParameters?
  let (bases, hasBase) ← heritage
  expect .braceOpen
  let members ← within (fun c => { c with inClass := true, hasSuper := true, hasBase })
    classMembers
  if (← kind) = .endOfText then noteHere (.expected "\x7d" "<eof>")
  else expect .braceClose
  unless isAbstract do
    for (item, isAbstractItem) in members do
      if isAbstractItem then
        match item.kind with
        | .classMethod _ => note item.span.start .abstractOutside
        | _ => note item.span.start .abstractFieldOutside
  let span ← spanFrom start
  return .mk .classDeclaration span
    (name ++ [.mk .classDefinition span (members.map (·.1) ++ typesPart span generics ++ bases)])

end FormCodemod.Syntax.Grammar
