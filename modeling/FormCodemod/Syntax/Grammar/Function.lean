import FormCodemod.Syntax.Grammar.Type

/-!
# Functions

What stands behind the name of a function or a method: type parameters, parameters, the type of the
result, and the body. In a typed text the body may be missing, and a semicolon then takes its place.
-/

namespace FormCodemod.Syntax.Grammar

open Reader

/-- The surroundings in the body of a function. -/
def bodyContext (isAsync isGenerator isArrow : Bool) (c : Context) : Context :=
  { c with
    inFunction := true
    inAsync := isAsync
    inGenerator := isGenerator
    hasNewTarget := c.hasNewTarget || !isArrow
    inParameters := false
    canBreak := false
    canContinue := false
    labels := []
    awaitsColon := false }

/-- The pattern of a parameter is an identifier. -/
def isPlainParameter (parameter : Node) : Bool :=
  match parameter.parts with
  | .mk (.binder _) _ _ :: _ => true
  | _ => false

/-- The place of a directive `'use strict'` at the start of a body. -/
def strictDirective? : List Node → Option Nat
  | .mk .expressionStatement span [.mk (.string text) _ _] :: rest =>
    if text = "'use strict'" || text = "\"use strict\"" then some span.start
    else strictDirective? rest
  | _ => none

/-- A body in braces. -/
def bodyBlock (isAsync isGenerator isArrow : Bool) (params : List Node) : Reader Node := do
  if (← context).ambient && (← context).typed && (← isPunct .braceOpen) then
    note (← place) .bodyInAmbient
  let body ← within (fun c => { bodyContext isAsync isGenerator isArrow c with allowsIn := true })
    (phrase .block)
  unless params.all isPlainParameter do
    if let some offset := strictDirective? body.parts then note offset .strictDirective
  return body

/-- A body in braces, if there is one. -/
def bodyBlock? (isAsync isGenerator : Bool) (params : List Node) : Reader (Option Node) := do
  let mayEnd := (← context).typed && !(← isPunct .braceOpen)
  if ← pure mayEnd <&&> eatStatementEnd then return none
  return some (← bodyBlock isAsync isGenerator false params)

/-- A parameter of a function without a body must not have a value. -/
def checkValues : List Node → Reader Unit
  | .mk .parameter _ (.mk .defaultPattern span _ :: _) :: rest => do
    note span.start .valueWithoutBody
    checkValues rest
  | _ :: rest => checkValues rest
  | [] => pure ()

/-- The expressions of types as a part of a node, if there are any. -/
def typesPart (span : Span) (types : List Node) : List Node :=
  if types.isEmpty then [] else [.mk .types span types]

/-- A function from its type parameters on; its parameters are read by the given reader. -/
def functionTail (start : Nat) (isAsync isGenerator : Bool) (params : Reader (List Node)) :
    Reader Node :=
  within (fun c => { c with inAsync := isAsync, inGenerator := isGenerator }) do
    let generics ← typeParameters?
    expect .parenOpen
    let items ← within (fun c => { c with inParameters := true, inFunction := false }) params
    expect .parenClose
    let result ← if (← context).typed then
        if ← eat .colon then resultParts else pure []
      else pure []
    let body ← bodyBlock? isAsync isGenerator items
    if body.isNone then checkValues items
    let span ← spanFrom start
    return .mk (.function isAsync isGenerator) span
      (items ++ body.toList ++ typesPart span (generics ++ result))

/-- A method from its type parameters on. -/
def methodTail (start : Nat) (isAsync isGenerator : Bool) (params : Reader (List Node)) :
    Reader Node :=
  within (fun c => { c with hasSuper := true }) (functionTail start isAsync isGenerator params)

/-- The name of a function or a class, which a declaration may need. -/
def binderIf (needed : Bool) : Reader (List Node) := do
  if needed || (← isIdentifier) then return [← binder] else return []

/-- A function from its keyword on: its name, if there is one, and the function. -/
def functionParts (start : Nat) (isAsync nameNeeded : Bool) : Reader (List Node) := do
  expectWord .function "function"
  let isGenerator ← eat .star
  let name ← binderIf nameNeeded
  let tail ← within (fun c => { c with hasSuper := c.typed })
    (functionTail start isAsync isGenerator parameters)
  return name ++ [tail]

/-- A declaration of a function from its keyword on. -/
def functionDeclaration (start : Nat) (isAsync nameNeeded : Bool) : Reader Node := do
  let parts ← functionParts start isAsync nameNeeded
  node .functionDeclaration start parts

/-- A node has no part that is the body of a function. -/
def lacksBody (parts : List Node) : Bool :=
  match parts.getLast? with
  | some f => !f.parts.any (·.kind = .block)
  | none => true

/-- A function in the place of an expression from its keyword on. -/
def functionExpression (start : Nat) (isAsync : Bool) : Reader Node := do
  let parts ← functionParts start isAsync false
  if lacksBody parts then unexpected "\x7b"
  node .functionExpression start parts

/-- The body of an arrow function and the function as a whole. -/
def arrowTail (start : Nat) (isAsync : Bool) (params types : List Node) : Reader Node := do
  let body ← if ← isPunct .braceOpen then bodyBlock isAsync false true params
    else within (bodyContext isAsync false true) (phrase .assignment)
  let span ← spanFrom start
  return .mk (.arrow isAsync) span (params ++ [body] ++ typesPart span types)

/-! ### Accessors -/

/-- The pattern of a parameter is not a `this` that only has a type. -/
def isOwnParameter (parameter : Node) : Bool :=
  match parameter.parts with
  | .mk (.binder name) _ _ :: _ => name.text != "this"
  | _ => true

/-- The parameters of an accessor that gives a value: none. -/
def getterParameters (place : Nat) : Reader (List Node) := do
  let items ← parameters
  if items.any isOwnParameter then note place .getterParameter
  return items

/-- The parameters of an accessor that takes a value: one. -/
def setterParameters (place : Nat) : Reader (List Node) := do
  let items ← parameters
  if (items.filter isOwnParameter).length ≠ 1 then note place .setterParameter
  match items with
  | .mk _ _ (.mk .restPattern span _ :: _) :: _ => note span.start .restInSetter
  | _ => pure ()
  return items

end FormCodemod.Syntax.Grammar
