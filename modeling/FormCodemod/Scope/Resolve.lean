import FormCodemod.Scope.Declared

/-!
# Resolving names

`Node.resolved` gives every identifier of a module its home, the scope that declares it. Scopes are
opened by functions, blocks, loops, handlers, classes and the like, and are numbered in the order in
which they are opened. A name is looked up from the innermost scope outwards; one that no scope
declares is at home outside of the module.

A statement list declares its names before its first statement is looked at, and a function all its
parameters but the rest before the first of them; what else binds a name does so where it stands.
-/

namespace FormCodemod.Scope

open FormCodemod.Syntax

/-- A scope and the names that it declares so far. -/
structure Frame where
  id : Nat
  /-- The body of a function or the like, which `var` declares its names for. -/
  isRoot : Bool
  names : List String
  deriving Repr

/-- The scopes around a place, innermost first, and the number of the next scope. -/
structure Scopes where
  frames : List Frame
  next : Nat
  deriving Repr

namespace Scopes

/-- The scopes with one more inside. -/
def enter (s : Scopes) (isRoot : Bool) (names : List String) : Scopes :=
  ⟨⟨s.next, isRoot, names⟩ :: s.frames, s.next + 1⟩

/-- The scopes around those given, of which the numbers have been used up. -/
def leave (s inner : Scopes) : Scopes :=
  { s with next := inner.next }

/-- The scopes with names declared in the innermost one. -/
def declare (s : Scopes) (names : List String) : Scopes :=
  match s.frames with
  | [] => s
  | f :: fs => { s with frames := { f with names := names ++ f.names } :: fs }

/-- The scope that declares a name. -/
def home (s : Scopes) (name : String) : Home :=
  match s.frames.find? (·.names.contains name) with
  | some f => .scope f.id
  | none => .outside

/-- The innermost scope. -/
def innermost (s : Scopes) : Home :=
  match s.frames with
  | f :: _ => .scope f.id
  | [] => .outside

/-- The scope that a `var` declares a name for: the nearest root, or a handler within it that binds
    the same name. -/
def varHome (s : Scopes) (name : String) : Home :=
  match s.frames.find? (fun f => f.isRoot || f.names.contains name) with
  | some f => .scope f.id
  | none => .outside

end Scopes

/-- Resolves something among scopes. -/
abbrev Resolver := StateM Scopes

/-- Resolves in one more scope. -/
def within {α : Type} (isRoot : Bool) (names : List String) (r : Resolver α) : Resolver α := do
  let outer ← get
  set (outer.enter isRoot names)
  let a ← r
  modify outer.leave
  return a

/-- The names of the parameters among the parts of a function, the rest left out. -/
def parameterNames (parts : List Node) : List String :=
  parts.flatMap fun p =>
    match p with
    | .mk .parameter _ (.mk .restPattern _ _ :: _) => []
    | .mk .parameter _ _ => p.boundNames
    | _ => []

/-- The names that the members of an enumeration declare for each other. -/
def memberNames (parts : List Node) : List String :=
  parts.flatMap fun p =>
    match p with
    | .mk .enumMember _ parts => Node.leadingName parts
    | _ => []

/-- The names that a list of statements declares. -/
def listNames (isRoot : Bool) (items : List Node) : List String :=
  items.flatMap Node.lexicalNames ++ if isRoot then Node.allVarNames [] items else []

mutual

/-- The node with a home for every name; whether binders in it belong to the scope that `var`
    declares names for is given. -/
def resolve (isVar : Bool) : Node → Resolver Node
  | .mk (.reference name) span parts => do
    return .mk (.reference { name with home := (← get).home name.text }) span parts
  | .mk (.target name) span parts => do
    return .mk (.target { name with home := (← get).home name.text }) span parts
  | .mk (.binder name) span parts => do
    let scopes ← get
    if isVar then
      return .mk (.binder { name with home := scopes.varHome name.text }) span parts
    else
      set (scopes.declare [name.text])
      return .mk (.binder { name with home := scopes.innermost }) span parts
  | .mk (.variableDeclaration .var) span parts => do
    return .mk (.variableDeclaration .var) span (← resolveAll true parts)
  | .mk (.function isAsync isGenerator) span parts =>
    within true (parameterNames parts) do
      return .mk (.function isAsync isGenerator) span (← resolveBody true parts)
  | .mk (.arrow isAsync) span parts =>
    within true (parameterNames parts) do
      return .mk (.arrow isAsync) span (← resolveBody true parts)
  | .mk .constructor span parts =>
    within true (parameterNames parts) do
      return .mk .constructor span (← resolveBody true parts)
  | .mk .functionExpression span [name, function] =>
    within false [] do
      let name ← resolve false name
      return .mk .functionExpression span [name, ← resolve false function]
  | .mk .getter span (key :: parts) => do
    let key ← resolve false key
    let parts ← within true (Node.allVarNames [] parts) (resolveAll false parts)
    return .mk .getter span (key :: parts)
  | .mk .setter span (key :: parts) => do
    let key ← resolve false key
    let parts ← within true (Node.allVarNames [] parts) (resolveAll false parts)
    return .mk .setter span (key :: parts)
  | .mk .staticBlock span parts => do
    let parts ← within true (Node.allVarNames [] parts) (resolveAll false parts)
    return .mk .staticBlock span parts
  | .mk .namespace span (.mk (.binder name) inner types :: parts) => do
    modify (·.declare [name.text])
    let home := (← get).innermost
    let parts ← within true [] (resolveBody true parts)
    return .mk .namespace span (.mk (.binder { name with home }) inner types :: parts)
  | .mk .namespace span parts => do
    return .mk .namespace span (← within true [] (resolveBody true parts))
  | .mk .handler span parts =>
    within false [] do
      return .mk .handler span (← resolveBody false parts)
  | .mk .block span items =>
    within false (listNames false items) do
      return .mk .block span (← resolveAll false items)
  | .mk .forStatement span parts =>
    within false [] do
      return .mk .forStatement span (← resolveAll false parts)
  | .mk .forIn span parts =>
    within false [] do
      return .mk .forIn span (← resolveAll false parts)
  | .mk (.forOf isAwait) span parts =>
    within false [] do
      return .mk (.forOf isAwait) span (← resolveAll false parts)
  | .mk .switch span (value :: cases) => do
    let value ← resolve false value
    let cases ← within false [] (resolveAll false cases)
    return .mk .switch span (value :: cases)
  | .mk .switchCase span (test :: items) => do
    modify (·.declare (listNames false items))
    let items ← resolveAll false items
    return .mk .switchCase span ((← resolve false test) :: items)
  | .mk .switchDefault span items => do
    modify (·.declare (listNames false items))
    return .mk .switchDefault span (← resolveAll false items)
  | .mk .classExpression span [name, .mk .classDefinition inner parts] => do
    let bases ← resolveBases parts
    within false [] do
      let name ← resolve false name
      let members ← resolveMembers parts
      return .mk .classExpression span [name, .mk .classDefinition inner (members ++ bases)]
  | .mk .classDefinition span parts => do
    let bases ← resolveBases parts
    let members ← resolveMembers parts
    return .mk .classDefinition span (members ++ bases)
  | .mk .enum span (name :: members) => do
    let name ← resolve false name
    let members ← within false (memberNames members) (resolveAll false members)
    return .mk .enum span (name :: members)
  | .mk kind span parts => do
    return .mk kind span (← resolveAll isVar parts)

/-- Each of the nodes with a home for every name. -/
def resolveAll (isVar : Bool) : List Node → Resolver (List Node)
  | [] => return []
  | n :: ns => do
    let n ← resolve isVar n
    return n :: (← resolveAll isVar ns)

/-- The parts of a function or the like, the statements of whose body belong to its own scope. -/
def resolveBody (isRoot : Bool) : List Node → Resolver (List Node)
  | [] => return []
  | .mk .block span items :: ns => do
    modify (·.declare (listNames isRoot items))
    let items ← resolveAll false items
    return .mk .block span items :: (← resolveBody isRoot ns)
  | n :: ns => do
    let n ← resolve false n
    return n :: (← resolveBody isRoot ns)

/-- What a class extends. -/
def resolveBases : List Node → Resolver (List Node)
  | [] => return []
  | .mk .heritage span parts :: ns => do
    let parts ← resolveAll false parts
    return .mk .heritage span parts :: (← resolveBases ns)
  | _ :: ns => resolveBases ns

/-- What a class has beside what it extends. -/
def resolveMembers : List Node → Resolver (List Node)
  | [] => return []
  | .mk .heritage _ _ :: ns => resolveMembers ns
  | n :: ns => do
    let n ← resolve false n
    return n :: (← resolveMembers ns)

end

end FormCodemod.Scope

namespace FormCodemod.Syntax.Node

open FormCodemod.Scope

/-- The module with a home for every name. -/
def resolved : Node → Node
  | .mk kind span items =>
    let start : Scopes := ⟨[⟨0, true, listNames true items⟩], 1⟩
    .mk kind span ((resolveAll false items).run start).1

end FormCodemod.Syntax.Node
