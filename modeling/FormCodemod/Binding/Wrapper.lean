import FormCodemod.Binding.Reference
import FormCodemod.Config

/-!
# Wrapped components

A component is wrapped if the legacy factory gets it: `Form.create()(Component)`. That is only taken
for granted if the call is the one and only use of the component's name, since with several uses no
single call could be changed without the others.
-/

namespace FormCodemod

open FormCodemod.Syntax

/-- The call that wraps a component. -/
structure Wrapper where
  /-- `Form.create()(Component)`. -/
  call : Span
  /-- `Form.create()`, without which `(Component)` remains. -/
  factory : Span
  deriving DecidableEq, Repr

/-- The node is a call of the factory without arguments. -/
def isFactoryCall (config : Config) (n : Node) : Bool :=
  n.kind = .call && n.arguments.isEmpty &&
    match n.callee? with
    | some (.mk .member _ [.mk (.reference owner) _ _, .mk (.word method) _ _]) =>
      owner.text = config.owner && method = config.factory
    | _ => false

/-- The call that wraps a component with these uses. -/
def Wrapper.ofReferences? (config : Config) : List Reference → Option Wrapper
  | [⟨_, .argument call true⟩] =>
    match call.callee? with
    | some factory =>
      if isFactoryCall config factory then some ⟨call.span, factory.span⟩ else none
    | none => none
  | _ => none

/-- The call that wraps the component of this name. -/
def Wrapper.find? (config : Config) (module : Node) (name : Name) : Option Wrapper :=
  ofReferences? config (module.references name)

end FormCodemod
