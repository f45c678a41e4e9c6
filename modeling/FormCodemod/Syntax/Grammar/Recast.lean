import FormCodemod.Syntax.Grammar.Function

/-!
# Expressions that turn out to be patterns

The left side of an assignment and the parameters of an arrow function are read as expressions
before the token behind them tells what they are. `recast` makes the pattern of such an expression;
what cannot be one becomes an invalid pattern, and a flaw is noted.
-/

namespace FormCodemod.Syntax.Grammar

open Reader

/-- What a pattern is for. -/
inductive PatternUse where
  /-- To introduce names. -/
  | binding
  /-- To introduce names, inside another pattern. -/
  | bindingElement
  /-- To assign. -/
  | target
  /-- To assign, inside another pattern. -/
  | targetElement
  deriving DecidableEq, Repr

namespace PatternUse

/-- The use of the patterns inside one. -/
def inner : PatternUse → PatternUse
  | binding | bindingElement => bindingElement
  | target | targetElement => targetElement

/-- The pattern introduces names. -/
def binds : PatternUse → Bool
  | binding | bindingElement => true
  | target | targetElement => false

/-- An identifier in a pattern. -/
def named (use : PatternUse) (name : Name) : Kind :=
  if use.binds then .binder name else .target name

end PatternUse

/-- The expression is one that a single value can be assigned to. -/
def isSimpleTarget : Node → Bool
  | .mk (.reference name) _ _ => name.text != "eval" && name.text != "arguments"
  | .mk .member _ _ => true
  | .mk .parenthesized _ [e] => isSimpleTarget e
  | .mk (.typed _) _ (e :: _) => isSimpleTarget e
  | _ => false

/-- Whether typed text objects to the expression as the target of an assignment right away. -/
def isDeniedTarget (deniesCalls : Bool) : Node → Bool
  | .mk (.literal _) _ _ | .mk (.string _) _ _ | .mk (.binary _) _ _ => false
  | .mk .call _ _ => deniesCalls
  | .mk .parenthesized _ [e] => isDeniedTarget deniesCalls e
  | _ => true

/-- Notes an expression that a single value cannot be assigned to. -/
def checkTarget (deniesCalls : Bool) (n : Node) : Reader Unit := do
  if !isSimpleTarget n && (!(← context).typed || isDeniedTarget deniesCalls n) then
    note n.span.start .targetNeedsReference

mutual

/-- The pattern as one that introduces the names in it. -/
def rebind : Node → Node
  | .mk (.target name) span parts => .mk (.binder name) span parts
  | .mk .objectPattern span parts => .mk .objectPattern span (rebindAll parts)
  | .mk .arrayPattern span parts => .mk .arrayPattern span (rebindAll parts)
  | .mk .pairPattern span [key, value] => .mk .pairPattern span [key, rebind value]
  | .mk .shorthandPattern span (name :: value) => .mk .shorthandPattern span (rebind name :: value)
  | .mk .restPattern span (arg :: types) => .mk .restPattern span (rebind arg :: types)
  | .mk .defaultPattern span (left :: value) => .mk .defaultPattern span (rebind left :: value)
  | n => n

/-- Each of the patterns as one that introduces the names in it. -/
def rebindAll : List Node → List Node
  | [] => []
  | n :: ns => rebind n :: rebindAll ns

end

/-- The places of commas ahead of a closing bracket or brace. -/
def commaOf (start : Nat) : Reader (Option Nat) := do
  return ((← state).commas.find? (·.1 = start)).map (·.2)

/-- An element that is no pattern. -/
def invalidPattern (span : Span) : Reader Node := do
  note span.start .notAPattern
  return .mk .invalidPattern span []

/-- Expressions that stand in the place of an element to be assigned to without more ado. -/
def isPlainElement : Kind → Bool
  | .member | .call | .new | .literal _ | .string _ | .reference _ | .functionExpression
  | .classExpression | .parenthesized | .template _ | .typed .as | .typed .asConst => true
  | _ => false

mutual

/-- The pattern that an expression turns out to be. -/
def recast (use : PatternUse) : Node → Reader Node
  | .mk .object span props => do
    return .mk .objectPattern span (← recastProperties use (← commaOf span.start) props)
  | .mk .array span items => do
    let lastIsHole := match items.getLast? with
      | some last => last.kind = .hole
      | none => false
    return .mk .arrayPattern span
      (← recastElements use lastIsHole (← commaOf span.start) items)
  | .mk .missing span _ => return .mk .invalidPattern span []
  | .mk (.reference name) span parts => do
    if use = .target then
      checkTarget true (.mk (.reference name) span parts)
      return .mk (.reference name) span parts
    else return .mk (use.named name) span parts
  | .mk (.assignment "=") span [left, right] => do
    if use = .target then
      checkTarget true (.mk (.assignment "=") span [left, right])
      return .mk (.assignment "=") span [left, right]
    else
      let pat ← match left.kind with
        | .objectPattern | .arrayPattern | .invalidPattern =>
          pure (if use.binds then rebind left else left)
        | _ => recast use left
      return .mk .defaultPattern span [pat, right]
  | .mk kind span parts => do
    if use = .target then
      checkTarget true (.mk kind span parts)
      return .mk kind span parts
    else if use = .targetElement && isPlainElement kind then
      unless isSimpleTarget (.mk kind span parts) do note span.start .notSimpleTarget
      return .mk kind span parts
    else invalidPattern span

/-- The properties of a pattern that the properties of an object turn out to be; the place is that
    of a comma behind them. -/
def recastProperties (use : PatternUse) (comma : Option Nat) : List Node → Reader (List Node)
  | [] => return []
  | .mk .shorthand span [.mk (.reference name) inner parts] :: rest => do
    let item := Node.mk .shorthandPattern span [.mk (use.named name) inner parts]
    return item :: (← recastProperties use comma rest)
  | .mk .assignedShorthand span [.mk (.reference name) inner parts, value] :: rest => do
    let item := Node.mk .shorthandPattern span [.mk (use.named name) inner parts, value]
    return item :: (← recastProperties use comma rest)
  | .mk .pair span [key, value] :: rest => do
    let item := Node.mk .pairPattern span [key, ← recast use.inner value]
    return item :: (← recastProperties use comma rest)
  | .mk .spread span [arg] :: rest => do
    unless rest.isEmpty do note span.start .restNotLast
    if rest.isEmpty then
      if let some offset := comma then note offset .commaAfterRest
    let pat ← if use.binds then
        match arg.kind with
        | .reference name => pure (Node.mk (.binder name) arg.span [])
        | _ => do
          note span.start .dotsWithoutIdentifier
          pure (Node.mk .invalidPattern span [])
      else recast use.inner arg
    if pat.kind = .defaultPattern then note span.start .restWithValue
    return .mk .restPattern span [pat] :: (← recastProperties use comma rest)
  | n :: _ => failAt n.span.start .notAPattern

/-- The elements of a pattern that the elements of an array turn out to be. A rest element has to be
    the last one, with no gap behind it. -/
def recastElements (use : PatternUse) (lastIsHole : Bool) (comma : Option Nat) :
    List Node → Reader (List Node)
  | [] => return []
  | .mk .hole span parts :: rest => do
    return .mk .hole span parts :: (← recastElements use lastIsHole comma rest)
  | .mk .spread span [arg] :: rest => do
    if !rest.isEmpty || lastIsHole then
      note span.start .restNotLast
      recastElements use lastIsHole comma rest
    else
      if arg.kind = .assignment "=" then note span.start .restWithValue
      if let some offset := comma then note offset .commaAfterRest
      return [.mk .restPattern arg.span [← recast use.inner arg]]
  | n :: rest => do
    return (← recast use.inner n) :: (← recastElements use lastIsHole comma rest)

end

/-- A node that may stand on the left of an assignment. -/
def canBeAssigned : Kind → Bool
  | .objectPattern | .arrayPattern | .invalidPattern | .reference _ | .member | .optionalMember
  | .optionalCall | .parenthesized | .typed _ | .missing => true
  | _ => false

/-! ### Names that must not be bound -/

mutual

/-- Notes the identifiers of a pattern that strict text must not bind. -/
def checkNames : Node → Reader Unit
  | .mk (.binder name) span _ => do
    if name.text = "eval" || name.text = "arguments" then note span.start .evalOrArguments
  | .mk .objectPattern _ parts => checkAllNames parts
  | .mk .arrayPattern _ parts => checkAllNames parts
  | .mk .pairPattern _ [_, value] => checkNames value
  | .mk .shorthandPattern _ (name :: _) => checkNames name
  | .mk .restPattern _ (arg :: _) => checkNames arg
  | .mk .defaultPattern _ (left :: _) => checkNames left
  | _ => pure ()

/-- Notes the identifiers of patterns that strict text must not bind. -/
def checkAllNames : List Node → Reader Unit
  | [] => pure ()
  | n :: ns => do
    checkNames n
    checkAllNames ns

end

end FormCodemod.Syntax.Grammar
