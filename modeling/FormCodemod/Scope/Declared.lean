import FormCodemod.Syntax.Node

/-!
# Declared names

The names that a list of statements declares ahead of its first statement. Those of `let`, `const`,
classes, functions and imports are declared by the list that they stand in (`Node.lexicalNames`);
those of `var` by the body of the innermost function, or the like, around them, from however deep in
nested statements (`Node.varNames`).
-/

namespace FormCodemod.Syntax

namespace Node

mutual

/-- The names that a pattern, or a declaration made of patterns, binds. -/
def boundNames : Node → List String
  | .mk (.binder name) _ _ => [name.text]
  | .mk .objectPattern _ parts => allBoundNames parts
  | .mk .arrayPattern _ parts => allBoundNames parts
  | .mk .pairPattern _ [_, value] => boundNames value
  | .mk .shorthandPattern _ (name :: _) => boundNames name
  | .mk .restPattern _ (arg :: _) => boundNames arg
  | .mk .defaultPattern _ (left :: _) => boundNames left
  | .mk .parameter _ (pat :: _) => boundNames pat
  | .mk .declarator _ (pat :: _) => boundNames pat
  | .mk (.variableDeclaration _) _ parts => allBoundNames parts
  | .mk (.importDeclaration _) _ parts => allBoundNames parts
  | .mk (.importSpecifier _) _ parts => allBoundNames parts
  | .mk .importEquals _ parts => allBoundNames parts
  | _ => []

/-- The names that patterns bind. -/
def allBoundNames : List Node → List String
  | [] => []
  | n :: ns => boundNames n ++ allBoundNames ns

end

/-- The name that a declaration begins with. -/
def leadingName (parts : List Node) : List String :=
  match parts with
  | .mk (.binder name) _ _ :: _ => [name.text]
  | _ => []

/-- The names that a statement declares for the list that it stands in. -/
def lexicalNames : Node → List String
  | .mk (.variableDeclaration .var) _ _ => []
  | .mk (.variableDeclaration keyword) span parts =>
    boundNames (.mk (.variableDeclaration keyword) span parts)
  | .mk .functionDeclaration _ parts => leadingName parts
  | .mk .classDeclaration _ parts => leadingName parts
  | .mk .enum _ parts => leadingName parts
  | .mk .namespace _ parts => leadingName parts
  | .mk (.importDeclaration source) span parts =>
    boundNames (.mk (.importDeclaration source) span parts)
  | .mk .importEquals span parts => boundNames (.mk .importEquals span parts)
  | .mk .exportDeclaration _ [declaration] => lexicalNames declaration
  | .mk .exportDefault _ [.mk .functionDeclaration _ parts] => leadingName parts
  | .mk .exportDefault _ [.mk .classDeclaration _ parts] => leadingName parts
  | .mk .labelled _ [_, body] => lexicalNames body
  | _ => []

/-- Statements and parts of statements that hold further statements of the same function. -/
def isTransparent : Kind → Bool
  | .block | .ifStatement | .forStatement | .forIn | .forOf _ | .while | .doWhile | .try | .handler
  | .finalizer | .switch | .switchCase | .switchDefault | .labelled | .with
  | .exportDeclaration => true
  | _ => false

/-- The names that a handler binds. -/
def handledNames (parts : List Node) : List String :=
  match parts with
  | [param, _] => boundNames param
  | _ => []

mutual

/-- The names that `var` declares anywhere in a statement, those left out that a handler around
    them binds. -/
def varNames (hidden : List String) : Node → List String
  | .mk (.variableDeclaration .var) span parts =>
    (boundNames (.mk (.variableDeclaration .var) span parts)).filter fun x => !hidden.contains x
  | .mk .handler _ parts => allVarNames (handledNames parts ++ hidden) parts
  | .mk kind _ parts => if isTransparent kind then allVarNames hidden parts else []

/-- The names that `var` declares anywhere in the statements. -/
def allVarNames (hidden : List String) : List Node → List String
  | [] => []
  | n :: ns => varNames hidden n ++ allVarNames hidden ns

end

end Node

end FormCodemod.Syntax
