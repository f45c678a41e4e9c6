import FormCodemod.Syntax.Grammar.Name

/-!
# Patterns

The left sides of declarations, and parameters: an identifier, or a pattern that takes an object or
an array apart. A pattern in the place of an element may have a value for when there is none.
-/

namespace FormCodemod.Syntax.Grammar

open Reader

/-- The end of a node. -/
def stopOf (n : Node) : Nat := n.span.stop

/-- A pattern that may be followed by `=` and a value. -/
def element : Reader Node := do
  let start ← place
  let left ← phrase .pattern
  if ← eat .assign then
    let value ← withIn true (phrase .assignment)
    if (← context).ambient then note start .valueInAmbient
    node .defaultPattern start [left, value]
  else return left

/-- The elements of an array pattern up to the closing bracket. -/
def arrayElements : Reader (List Node) :=
  iterate
    (fun (items, rest) => do
      if (← isPunct .bracketClose) || (← kind) = .endOfText then
        return .stop items.reverse
      let start ← place
      if ← eat .comma then
        return .again (Node.mk .hole ⟨start, start⟩ [] :: items, rest)
      if let some offset := rest then note offset .restNotLast
      let isRest ← eat .ellipsis
      let item ← if isRest then do node .restPattern start [← phrase .pattern] else element
      unless ← isPunct .bracketClose do
        let comma ← faultPlace
        expect .comma
        if isRest && (← isPunct .bracketClose) then note comma .commaAfterRest
      return .again (item :: items, if isRest then some start else none))
    (([] : List Node), (none : Option Nat))

/-- A property of an object pattern. -/
def patternProperty : Reader Node := do
  let start ← place
  if ← eat .ellipsis then
    let rest ← phrase .pattern
    return ← node .restPattern start [rest]
  let key ← propertyName
  if ← eat .colon then
    let value ← element
    return Node.mk .pairPattern ⟨start, stopOf value⟩ [key, value]
  match plainWord? key with
  | none => unexpected "an identifier"
  | some text =>
    let name := Node.mk (.binder (openName text)) key.span []
    if ← eat .assign then
      let value ← withIn true (phrase .assignment)
      node .shorthandPattern start [name, value]
    else
      if isReservedText text then note start .reservedShorthand
      node .shorthandPattern start [name]

/-- The properties of an object pattern behind its brace, and the place of a trailing comma. -/
def patternProperties : Reader (List Node × Option Nat) :=
  iterate
    (fun (items, trailing) => do
      if ← eat .braceClose then return .stop (items.reverse, trailing)
      let item ← patternProperty
      if ← isPunct .braceClose then return .again (item :: items, none)
      let comma ← faultPlace
      expect .comma
      return .again (item :: items, if ← isPunct .braceClose then some comma else none))
    (([] : List Node), (none : Option Nat))

/-- Notes the places where a rest property is not what it has to be. -/
def checkRest (trailing : Option Nat) : List Node → Reader Unit
  | [] => pure ()
  | [.mk .restPattern _ (.mk (.binder _) _ _ :: _)] => do
    if let some comma := trailing then note comma .commaAfterRest
    pure ()
  | [p] => do
    if p.kind = .restPattern then failAt p.span.start .dotsWithoutIdentifier
  | p :: ps => do
    if p.kind = .restPattern then note p.span.start .restNotLast
    checkRest trailing ps

/-- An identifier, or a pattern in brackets or braces. -/
def pattern : Reader Node := do
  need
  let start ← place
  match ← kind with
  | .word _ _ => binder
  | .punct .bracketOpen =>
    bump
    let items ← arrayElements
    expect .bracketClose
    if (← context).ambient then
      let _ ← eat .question
    node .arrayPattern start items
  | .punct .braceOpen =>
    within (fun c => { c with awaitsColon := false }) do
      bump
      let (items, trailing) ← patternProperties
      let span ← spanFrom start
      checkRest trailing items
      if (← context).ambient then
        let _ ← eat .question
      return Node.mk .objectPattern span items
  | _ => unexpected "yield, an identifier, [ or \x7b"

end FormCodemod.Syntax.Grammar
