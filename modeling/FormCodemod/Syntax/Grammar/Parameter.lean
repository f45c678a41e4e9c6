import FormCodemod.Syntax.Grammar.Pattern

/-!
# Parameters

The parameters of functions and of signatures. In a typed text a parameter may be optional and may
be given a type, which becomes part of the span of an object or array pattern.
-/

namespace FormCodemod.Syntax.Grammar

open Reader

/-- A node with its type, if it has one, put behind its parts. -/
def withType (n : Node) : Option Node → Node
  | some type => n.addPart type
  | none => n

/-- A type behind a colon, if there is one, from the colon on. -/
def ascription? : Reader (Option Node) := do
  let start ← place
  if (← context).typed && (← isPunct .colon) then
    bump
    let type ← phrase .type
    return some (← node .types start type.parts)
  else return none

/-- The expressions in a type behind a colon, if there is one. -/
def ascribedParts : Reader (List Node) := do
  match ← ascription? with
  | some type => return type.parts
  | none => return []

/-- The words that may stand ahead of a parameter and make it a property. -/
def isAccessWord : TokenKind → Bool
  | .word _ (some w) => w = .public || w = .protected || w = .private || w = .readonly
  | _ => false

/-- The token can follow a modifier. -/
def canFollowModifier (t : Token) : Bool :=
  !t.newline &&
    match t.kind with
    | .word _ _ | .string _ | .number _ | .privateName _ => true
    | .punct p =>
      p = .bracketOpen || p = .braceOpen || p = .star || p = .ellipsis || p = .hash
    | _ => false

/-- Takes a word that stands for a modifier of what follows. -/
def eatModifier (w : Word) : Reader Bool := do
  if (← context).typed && (← isWord w) && canFollowModifier (← peek) then
    bump
    return true
  else return false

/-- Takes a modifier that only parameters of constructors may have. -/
def eatAccessModifier : Reader Bool := do
  unless (← context).typed && isAccessWord (← kind) do return false
  match (← peek).kind with
  | .word _ _ | .punct .braceOpen | .punct .bracketOpen =>
    if canFollowModifier (← peek) then bump
    return true
  | _ => return false

/-- The pattern of a parameter. -/
def parameterPattern : Reader Node := do
  let start ← place
  let modified ← eatAccessModifier
  let patternStart ← place
  let bare ← phrase .pattern
  let (pat, isOptional) ← if (← context).typed then do
      let mark ← faultPlace
      let isOptional ← eat .question
      if isOptional then
        match bare.kind with
        | .binder _ | .arrayPattern | .objectPattern => pure ()
        | _ => unless (← context).ambient do failAt mark .optionalPattern
      match ← ascription? with
      | some type =>
        let stop ← lastStop
        match bare.kind with
        | .defaultPattern =>
          note patternStart .typeAfterValue
          pure (bare.withSpan ⟨patternStart, stop⟩, isOptional)
        | _ => pure (withType (bare.withSpan ⟨patternStart, stop⟩) type, isOptional)
      | none => pure (bare, isOptional)
    else pure (bare, false)
  let result ← if ← eat .assign then do
      if isOptional then note pat.span.start .optionalWithValue
      let value ← phrase .assignment
      if (← context).ambient then note start .valueInAmbient
      node .defaultPattern start [pat, value]
    else pure pat
  if modified then note start .parameterProperty
  return result

/-- A rest parameter behind its dots, which stand at the given place. -/
def restParameter (start : Nat) : Reader Node := do
  let bare ← phrase .pattern
  if ← eat .assign then
    let _ ← phrase .assignment
    note bare.span.start .restWithValue
  let type ← ascription?
  let rest ← node .restPattern start [bare]
  if (← context).typed then
    let mark ← faultPlace
    if ← eat .question then note mark .restOptional
  return withType rest type

/-- Parameters up to the closing parenthesis, of which each but a rest parameter is read by the
    given reader. -/
def parametersOf (pattern : Reader Node) : Reader (List Node) :=
  iterate
    (fun (items, rest) => do
      if (← isPunct .parenClose) || (← kind) = .endOfText then return .stop items.reverse
      if let some offset := rest then note offset .parameterAfterRest
      let start ← place
      let isRest ← eat .ellipsis
      let pat ← if isRest then restParameter start else pattern
      let item ← node .parameter start [pat]
      unless ← isPunct .parenClose do
        let comma ← faultPlace
        expect .comma
        if isRest && (← isPunct .parenClose) then note comma .commaAfterRest
      return .again (item :: items, if isRest then some start else none))
    (([] : List Node), (none : Option Nat))

/-- Parameters up to the closing parenthesis. -/
def parameters : Reader (List Node) :=
  parametersOf parameterPattern

end FormCodemod.Syntax.Grammar
