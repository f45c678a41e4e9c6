import FormCodemod.Syntax.Grammar.Assignment

/-!
# Parentheses

The arguments of a call, and what stands in parentheses that may hold an expression or the
parameters of an arrow function. The latter are read as expressions; only a type, which typed text
may put behind one, makes a pattern of it at once.
-/

namespace FormCodemod.Syntax.Grammar

open Reader

/-- An expression, or one behind dots. -/
def argument : Reader Node := do
  let start ← place
  if ← eat .ellipsis then
    let value ← phrase .assignment
    node .spread start [value]
  else phrase .assignment

/-- The arguments of a call in their parentheses. -/
def callArguments (isImport : Bool) : Reader (List Node) :=
  within (fun c => { c with awaitsColon := false }) do
    let start ← place
    expect .parenOpen
    let items ← iterate
      (fun items => do
        if (← kind) = .endOfText || (← isPunct .parenClose) then return .stop items.reverse
        unless items.isEmpty do
          expect .comma
        if (← isPunct .parenClose) && !items.isEmpty then
          if isImport && !(← context).typed then failAt start .commaInImport
          return .stop items.reverse
        return .again ((← withIn true argument) :: items))
      ([] : List Node)
    expect .parenClose
    return items

/-! ### Expressions and parameters -/

/-- An item in parentheses. -/
inductive CoverItem where
  /-- An expression, behind dots that stand at a place. -/
  | expression (dots : Option Nat) (value : Node)
  | pattern (value : Node)

namespace CoverItem

/-- The place of the item. -/
def start : CoverItem → Nat
  | expression (some dots) _ => dots
  | expression none e => e.span.start
  | pattern p => p.span.start

/-- The item is a pattern. -/
def isPattern : CoverItem → Bool
  | pattern _ => true
  | expression _ _ => false

/-- The item is an identifier. -/
def isName : CoverItem → Bool
  | expression none (.mk (.reference _) _ _) => true
  | pattern (.mk (.binder _) _ _) => true
  | _ => false

end CoverItem

/-- A pattern as a parameter. -/
def asParameter (pat : Node) : Node :=
  .mk .parameter pat.span [pat]

/-- The items as the patterns of parameters; the place is that of a comma behind them. -/
def coverPatterns (comma : Option Nat) : List CoverItem → Reader (List Node)
  | [] => return []
  | [.expression (some dots) e] => do
    if e.kind = .assignment "=" then note dots .restWithValue
    if let some offset := comma then note offset .commaAfterRest
    return [.mk .restPattern e.span [← recast .binding e]]
  | [.expression none e] => do
    return [← recast .binding e]
  | [.pattern p] => do
    if p.kind = .restPattern then
      if let some offset := comma then note offset .commaAfterRest
    return [p]
  | .expression (some dots) _ :: rest => do
    note dots .parameterAfterRest
    coverPatterns comma rest
  | .expression none e :: rest => do
    let first ← recast .binding e
    return first :: (← coverPatterns comma rest)
  | .pattern p :: rest => do
    if p.kind = .restPattern then
      note p.span.start .parameterAfterRest
      coverPatterns comma rest
    else return p :: (← coverPatterns comma rest)

/-- The items as the parameters of an arrow function. -/
def coverParameters (items : List CoverItem) (comma : Option Nat) : Reader (List Node) := do
  let pats ← coverPatterns comma items
  checkAllNames pats
  return pats.map asParameter

/-- A `?` behind an item that is followed by the end of the item, a type or a value. -/
def isOptionalMark : Reader Bool := do
  unless ← isPunct .question do return false
  match (← peek).kind with
  | .punct .comma | .punct .assign | .punct .colon | .punct .parenClose => return true
  | _ => return false

/-- The pattern of an item that has a type or is optional. -/
def typedCoverPattern (start : Nat) (dots : Option Nat) (value : Node) : Reader Node := do
  let recasted ← recast .binding value
  let pat ← if dots.isSome then node .restPattern start [recasted] else pure recasted
  let whole ← match pat.kind with
    | .binder _ | .arrayPattern | .objectPattern | .restPattern =>
      match ← ascription? with
      | some type => do
        let stop ← lastStop
        pure (withType (pat.withSpan ⟨start, stop⟩) type)
      | none => pure pat
    | _ => pure pat
  if ← eat .assign then
    let default ← phrase .assignment
    node .defaultPattern start [whole, default]
  else return whole

/-- An item in parentheses. -/
def coverItem : Reader CoverItem := do
  let start ← place
  modify fun s => { s with arrowStart := some start }
  let modified ← eatAccessModifier
  let itemStart ← place
  let isTyped := (← context).typed
  let dots ← if ← isPunct .ellipsis then pure (some (← place)) else pure none
  let value ←
    if isTyped && ((← isIdentifier) || (dots.isSome && (← peekIsIdentifier))) then
      if dots.isSome then do
        bump
        phrase .binary
      else assignmentTail start (← phrase .binary)
    else do
      let _ ← eat .ellipsis
      phrase .assignment
  if isTyped && (← isOptionalMark) then
    bump
    if dots.isSome then note (← state).last.start .restOptional
    match value.kind with
    | .reference _ => pure ()
    | _ => failAt itemStart .optionalPattern
    let pat ← typedCoverPattern itemStart dots value
    if modified then note start .parameterProperty
    return .pattern pat
  let whole ← if isTyped && dots.isNone && (← isPunct .question) then do
      bump
      branches start value
    else pure value
  if isTyped && (← isPunct .colon) then
    let pat ← typedCoverPattern itemStart dots whole
    if modified then note start .parameterProperty
    return .pattern pat
  if modified then note start .parameterProperty
  return .expression dots whole

/-- What stands in parentheses, and the place of a comma behind it. -/
def coverItems : Reader (List CoverItem × Option Nat) := do
  expect .parenOpen
  let (items, comma) ← iterate
    (fun (items, comma) => do
      if (← kind) = .endOfText || (← isPunct .parenClose) then
        return .stop (items.reverse, comma)
      let start ← place
      let item ← coverItem
      let all := item :: items
      -- An arrow here belongs to the items only if they begin with a name.
      let all ← if ← eat .arrow then
          if (all.getLast?.map CoverItem.isName).getD false then do
            let params ← coverParameters all.reverse none
            pure (.expression none (← arrowTail start false params []) :: all)
          else pure all
        else pure all
      if ← isPunct .parenClose then return .again (all, comma)
      let mark ← faultPlace
      expect .comma
      return .again (all, if ← isPunct .parenClose then some mark else comma))
    (([] : List CoverItem), (none : Option Nat))
  expect .parenClose
  return (items, comma)

end FormCodemod.Syntax.Grammar
