import FormCodemod.Binding.Component
import FormCodemod.Binding.Wrapper
import FormCodemod.Rule.Basic

/-!
# The injected prop

`function Foo({ form }) {}` that `Form.create()(Foo)` wraps gets the form from the factory. The fix
drops the prop from the parameter, declares the form by the hook at the start of the body, and
removes the call of the factory from around the component.
-/

namespace FormCodemod.FormProp

open FormCodemod.Syntax

/-- A property that takes the form from the props. -/
structure Property where
  span : Span
  /-- The pattern that takes the form itself apart, if one does. -/
  nested : Option Span
  deriving DecidableEq, Repr

/-- The property of a pattern as one that takes the form, if it does. -/
def Property.ofNode? (config : Config) : Node → Option Property
  | .mk .shorthandPattern span [.mk (.binder name) _ _] =>
    if name.text = config.formProp then some ⟨span, none⟩ else none
  | .mk .pairPattern span [.mk (.word key) _ _, .mk kind inner _] =>
    if key = config.formProp then
      match kind with
      | .binder name => if name.text = config.formProp then some ⟨span, none⟩ else none
      | .objectPattern => some ⟨span, some inner⟩
      | _ => none
    else none
  | _ => none

/-- The properties of the first parameter that take the form. -/
def properties (config : Config) (component : Component) : List Property :=
  match component.parameters with
  | [] => []
  | parameter :: _ =>
    let pattern := Component.patternOf parameter
    if pattern.kind = .objectPattern then
      pattern.bareParts.filterMap (Property.ofNode? config)
    else []

/-- The declaration of the form by the hook. -/
def hookDeclaration (config : Config) : List Char :=
  ("\nconst [" ++ config.formProp ++ "] = " ++ config.owner ++ "." ++ config.hook ++ "();").toList

/-- The declaration of what a pattern takes from the form. -/
def rebinding (config : Config) (pattern : List Char) : List Char :=
  "\nconst ".toList ++ pattern ++ (" = " ++ config.formProp ++ ";").toList

/-- What is inserted at the start of the body. -/
def declarations (m : Module) (config : Config) (props : List Property) : List Char :=
  hookDeclaration config ++
    (props.filterMap (·.nested)).flatMap fun pattern => rebinding config (m.slice pattern)

/-- The edits of the fix, unless the body is no block, or the call of the factory stands in a part
    of the text that is removed. -/
def plan? (m : Module) (config : Config) (component : Component) (props : List Property)
    (wrapper : Wrapper) : Option (List Edit) :=
  match component.body with
  | .block span => do
    let brace ← m.openingBrace? span
    let removals := props.flatMap fun p => m.removal p.span
    if removals.any (·.span.overlaps wrapper.factory) then none
    else
      some (removals ++
        [.insertAfter brace.stop (declarations m config props), .delete wrapper.factory])
  | .expression | .missing => none

/-- What the rule reports of a component. -/
def check (m : Module) (config : Config) (component : Component) : List Report :=
  match component.name, properties config component with
  | some name, first :: rest =>
    match Wrapper.find? config m.tree name with
    | some wrapper => [⟨.formProp, first.span, plan? m config component (first :: rest) wrapper⟩]
    | none => []
  | _, _ => []

end FormCodemod.FormProp
