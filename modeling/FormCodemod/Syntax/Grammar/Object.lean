import FormCodemod.Syntax.Grammar.Function

/-!
# Objects, arrays and templates

The literals that hold expressions.
-/

namespace FormCodemod.Syntax.Grammar

open Reader

/-- A template, whose opening backquote is the token to look at. -/
def template : Reader Node := do
  let start ← place
  let (pieces, parts) ← iterate
    (fun (pieces, parts) => do
      match TemplatePiece.read? (← token).next with
      | none => failAt (← token).next.endOffset .endOfText
      | some piece =>
        reread fun t => { t with next := piece.next }
        bump
        if piece.closes then
          return .stop ((piece.text :: pieces).reverse, parts.reverse)
        let value ← withIn true (phrase .expression)
        unless ← isPunct .braceClose do fail (.expected "\x7d" (← kind).display)
        return .again (piece.text :: pieces, value :: parts))
    (([] : List String), ([] : List Node))
  node (.template pieces) start parts

/-- Remembers the place of a comma ahead of a closing bracket or brace. -/
def rememberComma (start comma : Nat) : Reader Unit :=
  modify fun s => { s with commas := (start, comma) :: s.commas }

/-- An array. -/
def arrayLiteral (argument : Reader Node) : Reader Node := do
  let start ← place
  bump
  let items ← collect do
    if (← kind) = .endOfText || (← isPunct .bracketClose) then return none
    let itemStart ← place
    if ← eat .comma then return some (Node.mk .hole ⟨itemStart, itemStart⟩ [])
    let item ← withIn true argument
    unless ← isPunct .bracketClose do
      let comma ← faultPlace
      expect .comma
      if ← isPunct .bracketClose then rememberComma start comma
    return some item
  expect .bracketClose
  node .array start items

/-! ### Properties -/

/-- What may follow the name of a property, or a word that modifies the name behind it. -/
def isPropertyStart : TokenKind → Bool
  | .word _ _ | .string _ | .number _ => true
  | .punct p =>
    p = .parenOpen || p = .bracketOpen || p = .colon || p = .comma || p = .question ||
      p = .assign || p = .star || p = .less
  | _ => false

/-- A property behind `get`, `set` or `async`. -/
def wordedProperty (start : Nat) (word : String) : Reader Node := do
  let isGenerator ← if word = "async" then eat .star else pure false
  let key ← propertyName
  match word with
  | "get" =>
    let tail ← methodTail start false false (getterParameters key.span.start)
    node .getter start (key :: tail.parts.filter (·.kind ≠ .parameter))
  | "set" =>
    let tail ← methodTail start false false (setterParameters key.span.start)
    node .setter start (key :: tail.parts)
  | _ =>
    let tail ← methodTail start true isGenerator parameters
    node .method start [key, tail]

/-- A property whose name is read, no value and no parameters behind it. -/
def shorthandProperty (start : Nat) (key : Node) (modified : Option Nat) : Reader Node := do
  match plainWord? key with
  | none => unexpected "identifier"
  | some text =>
    let mark ← faultPlace
    if ← eat .question then note mark .optionalMember
    if (← isPunct .assign) || (← isPunct .comma) || (← isPunct .braceClose) then
      if isReservedText text then note key.span.start .reservedShorthand
      let name := Node.mk (.reference (openName text)) key.span []
      if ← eat .assign then
        let value ← phrase .assignment
        node .assignedShorthand start [name, value]
      else return .mk .shorthand key.span [name]
    else if text = "get" || text = "set" || text = "async" then
      if let some offset := modified then note offset .modifierNotHere
      wordedProperty start text
    else if (← context).typed then
      unexpected <| "... , *,  (, [, :, , ?, =, an identifier, " ++
        "public, protected, private, readonly, <."
    else unexpected "... , *,  (, [, :, , ?, = or an identifier"

/-- A property of an object. -/
def property : Reader Node := do
  let start ← place
  if ← eat .ellipsis then
    let value ← phrase .assignment
    return ← node .spread start [value]
  if ← eat .star then
    let key ← propertyName
    let tail ← methodTail start false true parameters
    return ← node .method start [key, tail]
  let modifierStart ← place
  let modified ← eatAccessModifier
  let key ← propertyName
  let isTyped := (← context).typed
  if isTyped && !isPropertyStart (← kind) && !((← isPunct .braceClose) && (plainWord? key).isSome)
  then
    noteHere .missingSemicolon
    return ← node .pair start [key]
  if ← eat .colon then
    let value ← withIn true (phrase .assignment)
    return .mk .pair ⟨start, value.span.stop⟩ [key, value]
  if (← isPunct .parenOpen) || (isTyped && (← isLess)) then
    let tail ← methodTail start false false parameters
    return ← node .method start [key, tail]
  shorthandProperty start key (if modified then some modifierStart else none)

/-- An object. -/
def objectLiteral : Reader Node :=
  within (fun c => { c with awaitsColon := false }) do
    let start ← place
    bump
    let items ← collect do
      if ← eat .braceClose then return none
      let item ← property
      unless ← isPunct .braceClose do
        let comma ← faultPlace
        expect .comma
        if ← isPunct .braceClose then rememberComma start comma
      return some item
    node .object start items

end FormCodemod.Syntax.Grammar
