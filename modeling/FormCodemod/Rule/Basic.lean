import FormCodemod.Config
import FormCodemod.Edit.Set
import FormCodemod.Module

/-!
# Violations

What a rule reports of a module: an issue at a place and, where the text can be mended mechanically,
the edits that do it (`Report`). In a violation these are a fix, unless they are in conflict.
-/

namespace FormCodemod

/-- What a rule objects to. -/
inductive Issue where
  /-- A parameter takes the form from the props. -/
  | formProp
  /-- A field is bound by the legacy decorator. -/
  | fieldDecorator
  /-- The legacy decorator is taken from the form. -/
  | decoratorBinding
  /-- Nothing but the legacy decorator is taken from the form. -/
  | emptyFormDestructuring
  /-- A single parameter takes nothing from an object. -/
  | emptyPattern
  deriving DecidableEq, Repr

namespace Issue

/-- All issues. -/
def all : List Issue :=
  [formProp, fieldDecorator, decoratorBinding, emptyFormDestructuring, emptyPattern]

/-- The name of an issue in reports. -/
def id : Issue → String
  | formProp => "formProp"
  | fieldDecorator => "fieldDecorator"
  | decoratorBinding => "decoratorBinding"
  | emptyFormDestructuring => "emptyFormDestructuring"
  | emptyPattern => "emptyPattern"

/-- What an issue is reported as. -/
def message (config : Config) : Issue → String
  | formProp => "Should not have `" ++ config.formProp ++ "` at props"
  | fieldDecorator => "Should upgrade " ++ config.decorator ++ " to antd@4"
  | decoratorBinding => "remove " ++ config.decorator
  | emptyFormDestructuring => "remove empty " ++ config.formProp ++ " destructuring"
  | emptyPattern => "remove empty pattern"

end Issue

/-- What a rule has to say about a place of a module. -/
structure Report where
  issue : Issue
  span : Span
  /-- The edits that are to mend it, if there are any. -/
  edits : Option (List Edit)
  deriving DecidableEq, Repr

/-- An issue at a place of a module. -/
structure Violation where
  issue : Issue
  span : Span
  position : Text.Position
  /-- The edits that mend it, if it can be mended. -/
  fix : Option EditSet
  deriving DecidableEq, Repr

namespace Module

/-- The violation that a rule reports. -/
def violation (m : Module) (r : Report) : Violation :=
  ⟨r.issue, r.span, m.position r.span, r.edits.bind EditSet.compose?⟩

/-- The comma behind a span, if it is the next token. -/
def commaAfter? (m : Module) (span : Span) : Option Span :=
  ((m.tokenAfter? span).filter (·.isChar ',')).map fun comma => ⟨comma.start, comma.stop⟩

/-- Deletes a span, and the comma behind it if there is one. -/
def removal (m : Module) (span : Span) : List Edit :=
  .delete span :: (m.commaAfter? span).toList.map .delete

end Module

end FormCodemod
