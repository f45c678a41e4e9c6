import FormCodemod.Rule.DecoratorBinding
import FormCodemod.Rule.EmptyPattern
import FormCodemod.Rule.FieldDecorator
import FormCodemod.Rule.FormProp

/-!
# Linting

Some nodes are the subject of a rule (`Subject`): components, functions, declarations of plain
variables, and elements of markup. A walk over the tree (`reportsIn`) has what the rule reports of a
subject ahead of what is reported of the nodes inside it. On the way down it keeps where a node
stands in the one around it, which decides whether a declaration may go as a whole.
-/

namespace FormCodemod

open FormCodemod.Syntax

/-- What a rule looks at. -/
inductive Subject where
  /-- A component with a name, which may take the form from its props. -/
  | component (component : Component)
  /-- A function, whose parameter may be empty. -/
  | function (function : Component)
  /-- A declaration of plain variables, which may take the decorator from the form. It can be
      removed where it stands as a statement of its own. -/
  | declaration (span : Span) (declarators : List Node) (removable : Bool)
  /-- An element of markup, which may have a decorated child. -/
  | element (span : Span) (opening : Node) (children : List Node)
  deriving Repr

namespace Subject

/-- The subject that a node is, where it stands as given. -/
def ofNode? (standing : Standing) : Node → Option Subject
  | .mk (.variableDeclaration keyword) span declarators =>
    if keyword.isPlain then some (.declaration span declarators (standing = .statement)) else none
  | .mk .jsxElement span (opening :: children) => some (.element span opening children)
  | n =>
    (((Component.ofNode? n).filter (·.name.isSome)).map .component).or
      ((Component.ofFunction? none n).map .function)

/-- What the rule for the subject reports of it. -/
def reports (m : Module) (config : Config) : Subject → List Report
  | component c => FormProp.check m config c
  | function f => EmptyPattern.check f
  | declaration span declarators removable =>
    DecoratorBinding.check m config span declarators removable
  | element span opening children => FieldDecorator.check m config span opening children

end Subject

namespace Module

/-- What the rules report of a node that stands as given. -/
def reportsAt (m : Module) (config : Config) (standing : Standing) (n : Node) : List Report :=
  (Subject.ofNode? standing n).toList.flatMap (·.reports m config)

mutual

/-- What the rules report of a node and of those inside it. -/
def reportsIn (m : Module) (config : Config) (standing : Standing) : Node → List Report
  | .mk kind span parts =>
    m.reportsAt config standing (.mk kind span parts) ++ reportsInParts m config kind 0 parts

/-- What the rules report of the parts of a node, the first of which has the given number. -/
def reportsInParts (m : Module) (config : Config) (parent : Kind) : Nat → List Node → List Report
  | _, [] => []
  | i, n :: ns =>
    reportsIn m config (parent.standing i) n ++ reportsInParts m config parent (i + 1) ns

end

/-- What the rules report of a module. -/
def reports (m : Module) (config : Config) : List Report :=
  m.reportsIn config .statement m.tree

/-- What the rules find in a module. -/
def lint (m : Module) (config : Config) : List Violation :=
  (m.reports config).map m.violation

end Module

end FormCodemod
