import FormCodemod.Binding.Component
import FormCodemod.Rule.Basic

/-!
# Empty parameters

A single parameter `{}` takes nothing from its argument and can go, together with its type.
-/

namespace FormCodemod.EmptyPattern

open FormCodemod.Syntax

/-- What goes with an empty parameter: the parameter and the type of its pattern. -/
def removed (parameter pattern : Node) : Span :=
  match pattern.parts.find? (·.kind = .types) with
  | some type => ⟨parameter.span.start, max parameter.span.stop type.span.stop⟩
  | none => parameter.span

/-- What the rule reports of a function. -/
def check (function : Component) : List Report :=
  match function.parameters with
  | [parameter] =>
    let pattern := Component.patternOf parameter
    if pattern.kind = .objectPattern && pattern.bareParts.isEmpty then
      [⟨.emptyPattern, parameter.span, some [.delete (removed parameter pattern)]⟩]
    else []
  | _ => []

end FormCodemod.EmptyPattern
