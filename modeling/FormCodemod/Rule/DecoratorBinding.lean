import FormCodemod.Rule.Basic

/-!
# Bindings of the decorator

`const { getFieldDecorator } = form;` has nothing to bind once fields are no longer decorated. The
properties go, and the whole declaration goes if it declares nothing else and stands as a statement
of its own.
-/

namespace FormCodemod.DecoratorBinding

open FormCodemod.Syntax

/-- The property of a pattern binds the decorator under its own name. -/
def bindsDecorator (config : Config) : Node → Bool
  | .mk .shorthandPattern _ [.mk (.binder name) _ _] => name.text = config.decorator
  | .mk .pairPattern _ [.mk (.word key) _ _, .mk (.binder name) _ _] =>
    key = config.decorator && name.text = config.decorator
  | _ => false

/-- The pattern of a declarator that takes the form apart. -/
def formPattern? (config : Config) : Node → Option Node
  | .mk .declarator _ [.mk .objectPattern span parts, .mk (.reference name) _ _] =>
    if name.text = config.formProp then some (.mk .objectPattern span parts) else none
  | _ => none

/-- What the rule reports of a declarator of a declaration, which goes as a whole if so given. -/
def checkDeclarator (m : Module) (config : Config) (declaration : Span) (removable : Bool)
    (declarator : Node) : List Report :=
  match formPattern? config declarator with
  | none => []
  | some pattern =>
    let bindings := pattern.bareParts.filter (bindsDecorator config)
    bindings.map (fun p => ⟨.decoratorBinding, p.span, some (m.removal p.span)⟩) ++
      if removable && pattern.bareParts.all (bindsDecorator config) then
        [⟨.emptyFormDestructuring, declaration, some [.delete declaration]⟩]
      else []

/-- What the rule reports of a declaration with these declarators. It goes as a whole only with a
    single declarator, and if nothing around it needs it. -/
def check (m : Module) (config : Config) (declaration : Span) (declarators : List Node)
    (removable : Bool) : List Report :=
  declarators.flatMap
    (checkDeclarator m config declaration (removable && declarators.length = 1))

end FormCodemod.DecoratorBinding
