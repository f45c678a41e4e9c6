import FormCodemod.Span

/-!
# Syntax trees

A module is a tree of nodes. A node has a kind, the span of the text that it was read from, and its
parts in the order in which a walk over the tree meets them. This order is the textual one with
three exceptions: a class lists its members ahead of what it extends, a `do` loop its condition
ahead of its body, and a tagged template the expressions in it ahead of its pieces of text.

Kinds tell apart what the analysis of names and the rules have to tell apart, and hold the words and
operators that the parts of a node do not show, so that a tree determines its program up to layout.
Of types, only the expressions in them are kept (`Kind.types`).

A name has a text and a `Home`, the scope that declares it. A freshly read tree leaves every home
open.
-/

namespace FormCodemod.Syntax

/-- Where a name is declared. -/
inductive Home where
  /-- Not looked up. -/
  | unresolved
  /-- Nowhere in the module. -/
  | outside
  /-- In the scope of this number. -/
  | scope (id : Nat)
  deriving DecidableEq, Repr, Inhabited

/-- An identifier: its text, with escapes decoded, and the place of its declaration. -/
structure Name where
  text : String
  home : Home := .unresolved
  deriving DecidableEq, Repr, Inhabited

/-- The keyword of a variable declaration. -/
inductive VarKeyword where
  | var
  | let
  | const
  | using
  | awaitUsing
  deriving DecidableEq, Repr

/-- The keyword declares plain variables. -/
def VarKeyword.isPlain : VarKeyword → Bool
  | .var | .let | .const => true
  | .using | .awaitUsing => false

/-- Where a variable declaration stands. -/
inductive Standing where
  /-- As a statement of its own. -/
  | statement
  /-- Behind `export`. -/
  | exported
  /-- In the head of a loop. -/
  | loopHead
  deriving DecidableEq, Repr

/-- How a type is attached to an expression. -/
inductive TypeForm where
  | as
  | asConst
  | satisfies
  | angled
  | angledConst
  | nonNull
  | instantiation
  deriving DecidableEq, Repr

/-- What a node is. -/
inductive Kind where
  /- Names. -/
  /-- An identifier in the place of an expression. -/
  | reference (name : Name)
  /-- An identifier that a declaration introduces. -/
  | binder (name : Name)
  /-- An identifier that a destructuring assignment or the head of a loop writes to. -/
  | target (name : Name)
  /-- The name of a property, a label, or a name of another module. -/
  | word (text : String)
  | privateName (text : String)
  /-- A name in square brackets; its part is the expression in them. -/
  | computedName
  /- Patterns. -/
  /-- The parts are its properties, and types. -/
  | objectPattern
  | arrayPattern
  /-- A property `a` or `a = value`; its parts are the binder and the value. -/
  | shorthandPattern
  /-- A property `key: pattern`. -/
  | pairPattern
  | restPattern
  /-- A pattern with a value for when there is none; its parts are the two. -/
  | defaultPattern
  | invalidPattern
  /-- A gap in an array or in an array pattern. -/
  | hole
  /- Expressions. -/
  | this
  | super
  /-- A literal that is no string, as it is written. -/
  | literal (text : String)
  /-- A string literal as it is written, with its quotes. -/
  | string (text : String)
  /-- A template; its parts are the expressions in it. -/
  | template (pieces : List String)
  /-- The parts are the tag, the template, and types. -/
  | taggedTemplate
  | array
  | object
  /-- A property `a` of an object. -/
  | shorthand
  /-- A property `key: value` of an object. -/
  | pair
  /-- A property `a = value`, which only a pattern may have. -/
  | assignedShorthand
  /-- The parts are the key and the function. -/
  | method
  /-- The parts are the key and the body. -/
  | getter
  /-- The parts are the key, a parameter and the body. -/
  | setter
  | spread
  /-- The parts are the binder, if there is one, and the function. -/
  | functionExpression
  /-- The parts are parameters, the body if there is one, and types. -/
  | function (isAsync isGenerator : Bool)
  /-- A parameter; its part is a pattern. -/
  | parameter
  /-- The parts are parameters, the body, and types. -/
  | arrow (isAsync : Bool)
  /-- The parts are the binder, if there is one, and the class. -/
  | classExpression
  | unary (operator : String)
  | update (operator : String) (before : Bool)
  | binary (operator : String)
  | assignment (operator : String)
  | conditional
  | sequence
  | parenthesized
  /-- The parts are the callee, the arguments, and types. -/
  | call
  | new
  /-- The parts are the object and the name of the property. -/
  | member
  /-- A call or a member that stops at a missing value; its parts are as there. -/
  | optionalCall
  | optionalMember
  | await
  | yield (delegates : Bool)
  | metaProperty (text : String)
  /-- The callee of `import(…)`. -/
  | importCallee
  | typed (form : TypeForm)
  /-- An operand that is missing. -/
  | missing
  /- Markup. -/
  /-- The parts are the opening tag, the children, and the closing tag if there is one. -/
  | jsxElement
  | jsxFragment
  /-- The parts are the name, the attributes, and types. -/
  | jsxOpening (selfClosing : Bool)
  | jsxClosing
  /-- The name of an element of the host, in lower case. -/
  | jsxIntrinsic (text : String)
  | jsxNamespacedName (space text : String)
  | jsxMemberName
  /-- The parts are the name, and a value. -/
  | jsxAttribute
  | jsxSpreadAttribute
  /-- An expression in braces; an empty pair of braces has no parts. -/
  | jsxContainer
  | jsxSpreadChild
  | jsxText (text : String)
  /- Statements. -/
  | block
  | empty
  | debugger
  | expressionStatement
  | ifStatement
  | forStatement
  | forIn
  | forOf (isAwait : Bool)
  | while
  | doWhile
  | return
  | throw
  /-- The parts are the block, the handler, and the finalizer. -/
  | try
  | handler
  | finalizer
  | switch
  /-- The parts are the condition and the statements of the case. -/
  | switchCase
  /-- The parts are the statements of the `default` case. -/
  | switchDefault
  | labelled
  | break
  | continue
  | with
  /-- An absent part of a `for` head. -/
  | absent
  /- Declarations. -/
  /-- The parts are declarators. -/
  | variableDeclaration (keyword : VarKeyword)
  /-- The parts are the pattern and the initial value. -/
  | declarator
  /-- The parts are the binder and the function. -/
  | functionDeclaration
  /-- The parts are the binder and the class. -/
  | classDeclaration
  /-- The parts are the members and what the class extends. -/
  | classDefinition
  /-- The parts are the key and the function. -/
  | classMethod (isStatic : Bool)
  /-- The parts are parameters and the body. -/
  | constructor
  /-- The parts are the key and the value. -/
  | classField (isStatic : Bool)
  | staticBlock
  | heritage
  | enum
  | enumMember
  | namespace
  /-- A declaration of types only; its parts are the expressions in them. -/
  | typeDeclaration
  /-- Types; the parts are the expressions in them. -/
  | types
  /- The module. -/
  | module
  | importDeclaration (source : String)
  /-- The part is the binder. -/
  | importSpecifier (imported : String)
  | importEquals
  | exportDeclaration
  | exportDefault
  | exportNamed (source : Option String)
  /-- The part is the name on this side. -/
  | exportSpecifier (exported : String)
  | exportAll (source : String)
  | exportEquals
  | exportNamespace
  deriving DecidableEq, Repr, Inhabited

/-- Where the part of this number stands in a node of the kind, if it is a declaration of
    variables. -/
def Kind.standing : Kind → Nat → Standing
  | .exportDeclaration, _ => .exported
  | .forStatement, 0 | .forIn, 0 | .forOf _, 0 => .loopHead
  | _, _ => .statement

/-- A tree of syntax. -/
inductive Node where
  | mk (kind : Kind) (span : Span) (parts : List Node)
  deriving Repr, Inhabited

namespace Node

/-- What the node is. -/
def kind : Node → Kind
  | mk k _ _ => k

/-- The text that the node was read from. -/
def span : Node → Span
  | mk _ s _ => s

/-- The parts of the node. -/
def parts : Node → List Node
  | mk _ _ ps => ps

/-- The parts of the node that are no types. -/
def bareParts (n : Node) : List Node :=
  n.parts.filter (·.kind ≠ .types)

theorem mem_bareParts_iff {n p : Node} : p ∈ n.bareParts ↔ p ∈ n.parts ∧ p.kind ≠ .types := by
  simp [bareParts]

/-- The node gives a name to something. -/
def isBinder (n : Node) : Bool :=
  match n.kind with
  | .binder _ => true
  | _ => false

mutual

/-- The nodes of a tree, each ahead of those inside it. -/
def preorder : Node → List Node
  | mk k s ps => mk k s ps :: preorderAll ps

/-- The nodes of some trees, one tree after the other. -/
def preorderAll : List Node → List Node
  | [] => []
  | n :: ns => preorder n ++ preorderAll ns

end

/-- A node of another kind with the same span and parts. -/
def withKind : Node → Kind → Node
  | mk _ s ps, k => mk k s ps

/-- A node of the same kind and parts with another span. -/
def withSpan : Node → Span → Node
  | mk k _ ps, s => mk k s ps

/-- A node with a part put behind the others. -/
def addPart : Node → Node → Node
  | mk k s ps, p => mk k s (ps ++ [p])

end Node

end FormCodemod.Syntax
