import FormCodemod.Syntax.Node

/-!
# References

The places of a module that use a name. What counts is an identifier in the place of an expression,
in markup or in an export, and the single target of an assignment; the names that a destructuring
assignment writes to and those in types do not.

A reference is told apart by the call it directly belongs to, as its callee or as one of its
arguments. At a call these come ahead of all other references inside it (`Node.references`).
-/

namespace FormCodemod.Syntax

/-- What a name is used for. -/
inductive Role where
  | callee
  /-- An argument of a call, perhaps its only one. -/
  | argument (call : Node) (isSole : Bool)
  | other
  deriving Repr

/-- A use of a name. -/
structure Reference where
  span : Span
  role : Role
  deriving Repr

namespace Node

/-- The node is this name in the place of an expression. -/
def isReferenceTo (name : Name) (n : Node) : Bool :=
  n.kind = .reference name

/-- The arguments of a call. -/
def arguments : Node → List Node
  | mk .call _ (_ :: parts) => parts.filter (·.kind ≠ .types)
  | _ => []

/-- The callee of a call, if it is an expression. -/
def callee? : Node → Option Node
  | mk .call _ (callee :: _) =>
    if callee.kind = .importCallee || callee.kind = .super then none else some callee
  | _ => none

/-- The uses of a name as the callee of a call and as its arguments. -/
def directReferences (name : Name) (call : Node) : List Reference :=
  let isSole := call.arguments.length = 1
  (call.callee?.toList.filter (isReferenceTo name)).map (⟨·.span, .callee⟩) ++
    (call.arguments.filter (isReferenceTo name)).map (⟨·.span, .argument call isSole⟩)

mutual

/-- The uses of a name in a tree; one that directly belongs to a call comes a second time, without
    the call. -/
def allReferences (name : Name) : Node → List Reference
  | mk (.reference n) span parts =>
    (if n = name then [⟨span, .other⟩] else []) ++ referencesIn name parts
  | mk .call span parts =>
    directReferences name (mk .call span parts) ++ referencesIn name parts
  | mk _ _ parts => referencesIn name parts

/-- The uses of a name in some trees. -/
def referencesIn (name : Name) : List Node → List Reference
  | [] => []
  | n :: ns => allReferences name n ++ referencesIn name ns

end

end Node

/-- The references with only the first at each place. -/
def Reference.firstAtEach : List Span → List Reference → List Reference
  | _, [] => []
  | seen, r :: rs =>
    if seen.contains r.span then firstAtEach seen rs
    else r :: firstAtEach (r.span :: seen) rs

/-- The uses of a name in a tree. -/
def Node.references (name : Name) (n : Node) : List Reference :=
  Reference.firstAtEach [] (n.allReferences name)

end FormCodemod.Syntax
