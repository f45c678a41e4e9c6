import FormCodemod.Binding.Reference
import FormCodemod.Rule.Basic

/-!
# The field decorator

`{getFieldDecorator("name", options)(<Input />)}` inside a form item. The name and the options
become attributes of the item, and the decorated element takes the place of the expression.
-/

namespace FormCodemod.FieldDecorator

open FormCodemod.Syntax

/-- A decorated element: the braces around it, and the arguments of the two calls. -/
structure Decoration where
  container : Span
  /-- The name and the options. -/
  settings : List Node
  /-- What is decorated. -/
  elements : List Node
  deriving Repr

/-- The child of an element as a decoration, if it is one. -/
def Decoration.ofChild? (config : Config) : Node → Option Decoration
  | .mk .jsxContainer span [outer] =>
    match outer.callee? with
    | some inner =>
      match inner.callee? with
      | some (.mk (.reference name) _ _) =>
        if name.text = config.decorator then some ⟨span, inner.arguments, outer.arguments⟩ else none
      | _ => none
    | none => none
  | _ => none

/-- The expression without the parentheses around it. -/
def bare : Node → Node
  | .mk .parenthesized _ [e] => bare e
  | n => n

/-- A text in braces. -/
def braced (text : List Char) : List Char :=
  '{' :: text ++ ['}']

/-- The value of the attribute `name`: a string stays one if it has no backslash, since the strings
    of attributes have no escapes. -/
def nameValue? (m : Module) (name : Node) : Option (List Char) :=
  let text := m.slice name.span
  match name.kind with
  | .spread => none
  | .string _ => some (if text.contains '\\' then braced text else text)
  | _ => some (braced text)

/-- An attribute to be added. -/
structure Attribute where
  key : String
  value : List Char
  deriving DecidableEq, Repr

namespace Attribute

/-- The attribute as it is written behind others. -/
def written (a : Attribute) : List Char :=
  ' ' :: a.key.toList ++ '=' :: a.value

/-- The option that a property of an object sets, as an attribute. -/
def ofProperty? (m : Module) : Node → Option Attribute
  | .mk .pair _ [.mk (.word key) _ _, value] => some ⟨key, braced (m.slice value.span)⟩
  | .mk .shorthand _ [.mk (.reference name) _ _] => some ⟨name.text, braced name.text.toList⟩
  | _ => none

/-- The attributes for the name and the options. -/
def ofSettings? (m : Module) : List Node → Option (List Attribute)
  | [name] => do
    let value ← nameValue? m name
    some [⟨"name", value⟩]
  | [name, options] => do
    let value ← nameValue? m name
    match bare options with
    | .mk .object _ props => do
      let attributes ← props.mapM (ofProperty? m)
      some (⟨"name", value⟩ :: attributes)
    | _ => none
  | _ => none

end Attribute

/-- The names of the plain attributes of an opening tag. -/
def attributeNames (opening : Node) : List String :=
  opening.parts.filterMap fun part =>
    match part with
    | .mk .jsxAttribute _ (.mk (.word name) _ _ :: _) => some name
    | _ => none

/-- No name stands twice in the list. -/
def allDistinct : List String → Bool
  | [] => true
  | x :: xs => !xs.contains x && allDistinct xs

/-- The edits of the fix. -/
def plan? (m : Module) (opening : Node) (decoration : Decoration) : Option (List Edit) :=
  match decoration.elements with
  | [element] => do
    let field := bare element
    if field.kind ≠ .jsxElement then none
    else
      let attributes ← Attribute.ofSettings? m decoration.settings
      let keys := attributes.map (·.key)
      let taken := attributeNames opening
      if !allDistinct keys || keys.any taken.contains then none
      else
        let last : Span := ⟨opening.span.stop - 1, opening.span.stop⟩
        if opening.span.stop = 0 || m.slice last ≠ ['>'] then none
        else
          some [.replace last (attributes.flatMap Attribute.written ++ ['>']),
            .replace decoration.container (m.slice field.span)]
  | _ => none

/-- What the rule reports of an element. Two decorations in one element cannot both name it. -/
def check (m : Module) (config : Config) (element : Span) (opening : Node)
    (children : List Node) : List Report :=
  match children.filterMap (Decoration.ofChild? config) with
  | [] => []
  | [decoration] => [⟨.fieldDecorator, element, plan? m opening decoration⟩]
  | _ => [⟨.fieldDecorator, element, none⟩]

end FormCodemod.FieldDecorator
