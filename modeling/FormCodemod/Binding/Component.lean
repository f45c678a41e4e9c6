import FormCodemod.Syntax.Node

/-!
# Components

A component is a function under a name: a declared one, or one that a variable starts with. Only its
parameters and its body matter here.
-/

namespace FormCodemod

open FormCodemod.Syntax

/-- What a function does when it is called. -/
inductive Body where
  /-- Statements in braces. -/
  | block (span : Span)
  /-- A single expression. -/
  | expression
  /-- Nothing is said: the function is only declared. -/
  | missing
  deriving DecidableEq, Repr

/-- How a component gets its name. -/
inductive Origin where
  | declaration
  | defaultExport
  | variable
  deriving DecidableEq, Repr

/-- A function as the rules look at it. -/
structure Component where
  name : Option Name
  /-- The nodes of the parameters. -/
  parameters : List Node
  body : Body
  deriving Repr

namespace Component

/-- The pattern of a parameter. -/
def patternOf (parameter : Node) : Node :=
  parameter.parts.head?.getD parameter

/-- The body among the parts of a function. -/
def bodyOf (isArrow : Bool) (parts : List Node) : Body :=
  match parts.find? (fun p => p.kind ≠ .parameter && p.kind ≠ .types) with
  | some (.mk .block span _) => .block span
  | some _ => if isArrow then .expression else .missing
  | none => .missing

/-- The component that a function node is under a name. -/
def ofFunction? (name : Option Name) : Node → Option Component
  | .mk (.function ..) _ parts =>
    some ⟨name, parts.filter (·.kind = .parameter), bodyOf false parts⟩
  | .mk (.arrow _) _ parts =>
    some ⟨name, parts.filter (·.kind = .parameter), bodyOf true parts⟩
  | _ => none

/-- The component that a node declares. -/
def ofNode? : Node → Option Component
  | .mk .functionDeclaration _ [.mk (.binder name) _ _, function] =>
    ofFunction? (some name) function
  | .mk .functionDeclaration _ [function] => ofFunction? none function
  | .mk .declarator _ [.mk (.binder name) _ _, value] =>
    match value with
    | .mk (.arrow _) _ _ => ofFunction? (some name) value
    | .mk .functionExpression _ [function] => ofFunction? (some name) function
    | .mk .functionExpression _ [_, function] => ofFunction? (some name) function
    | _ => none
  | _ => none

mutual

/-- The components of a tree, each ahead of those inside it. -/
def all (isDefault : Bool) : Node → List (Origin × Component)
  | .mk .exportDefault _ parts => allIn true parts
  | .mk kind span parts =>
    let origin := if isDefault then .defaultExport
      else if kind = .declarator then .variable else .declaration
    (ofNode? (.mk kind span parts)).toList.map (origin, ·) ++ allIn false parts

/-- The components of some trees. -/
def allIn (isDefault : Bool) : List Node → List (Origin × Component)
  | [] => []
  | n :: ns => all isDefault n ++ allIn isDefault ns

end

end Component

end FormCodemod
