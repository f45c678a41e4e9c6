import FormCodemod.Syntax.Grammar.Type

/-!
# Markup

Elements and fragments: an opening tag, children, and a closing tag of the same name, or a single
tag that closes itself. The tokens of a tag, the text between tags and the expressions in braces are
each read in a way of their own, so every step across such a border says how the next token is to be
read.
-/

namespace FormCodemod.Syntax.Grammar

open Reader

/-- Takes the token, which has to be this punctuator; the next one is read as given. -/
def expectThen (p : Punct) (read : Input → Token) : Reader Unit := do
  unless ← isPunct p do fail (.expected p.text (← kind).display)
  bumpWith read

/-- How the token behind an element is read. -/
def readBehind (nested : Bool) : Input → Token :=
  if nested then Token.readMarkupText else Token.read

/-- A name in a tag, without colons and dots. -/
def tagName : Reader (String × Span) := do
  match ← kind with
  | .jsxName text =>
    let span := (← token).span
    bump
    return (text, span)
  | _ => unexpected "jsx identifier"

/-- The name names an element of the host: it begins with a small letter of ASCII. -/
def isIntrinsic (name : String) : Bool :=
  match name.toList with
  | c :: _ => c.isLower
  | [] => false

/-- The name of an element. -/
def elementName : Reader Node := do
  let start ← place
  let (text, span) ← tagName
  if ← eat .colon then
    let (inner, _) ← tagName
    return ← node (.jsxNamespacedName text inner) start []
  let isMember ← isPunct .dot
  let head := if isIntrinsic text && !isMember then Kind.jsxIntrinsic text
    else .reference ⟨text, .unresolved⟩
  iterate
    (fun name => do
      if ← eat .dot then
        let (property, propertySpan) ← tagName
        let whole ← spanFrom start
        return .again (.mk .jsxMemberName whole [name, .mk (.word property) propertySpan []])
      else return .stop name)
    (Node.mk head span [])

/-- How messages write the name of an element. -/
def displayName : Node → String
  | .mk (.jsxIntrinsic text) _ _ => text
  | .mk (.reference name) _ _ => name.text
  | .mk (.jsxNamespacedName space text) _ _ => space ++ ":" ++ text
  | .mk .jsxMemberName _ [object, .mk (.word property) _ _] =>
    displayName object ++ "." ++ property
  | _ => ""

/-- An expression in braces, or nothing in braces. -/
def container (read : Input → Token) : Reader Node := do
  let start ← place
  expectThen .braceOpen Token.read
  if ← isPunct .braceClose then
    expectThen .braceClose read
    node .jsxContainer start []
  else
    let spreads ← eat .ellipsis
    let value ← withIn true (phrase .expression)
    expectThen .braceClose read
    node (if spreads then .jsxSpreadChild else .jsxContainer) start [value]

/-- The value of an attribute. -/
def attributeValue : Reader Node := do
  need
  let start ← place
  within (fun c => { c with inConditional := false, awaitsColon := false }) do
    match ← kind with
    | .punct .braceOpen =>
      let value ← container Token.readTag
      if value.parts.isEmpty then failAt start .emptyAttribute
      return value
    | .string text =>
      bump
      node (.string text) start []
    | .punct .less =>
      let value ← phrase (.markupElement false)
      reread fun t => { Token.readTag t.here with newline := t.newline }
      return value
    | _ => fail .attributeValue

/-- An attribute. -/
def tagAttribute : Reader Node := do
  let start ← place
  if ← isPunct .braceOpen then
    expectThen .braceOpen Token.read
    expect .ellipsis
    let value ← withIn true (phrase .assignment)
    expectThen .braceClose Token.readTag
    return ← node .jsxSpreadAttribute start [value]
  let (text, span) ← tagName
  let name ← if ← eat .colon then do
      let (inner, _) ← tagName
      node (.jsxNamespacedName text inner) start []
    else pure (Node.mk (.word text) span [])
  let value ← if ← eat .assign then do pure [← attributeValue] else pure []
  node .jsxAttribute start (name :: value)

/-- The arguments of a type ahead of the attributes. -/
def tagTypeArguments : Reader (Option Types) := do
  reread fun t => { t with inTag := false }
  let types ← typeArguments
  reread fun t => { Token.readTag t.here with newline := t.newline }
  return some types

/-- The rest of an opening tag, whose name is given. -/
def openingTail (start : Nat) (read : Bool → Input → Token) (name : Node) : Reader Node := do
  let types ← if (← context).typed && (← isPunct .less) then do
      pure ((← attempt tagTypeArguments).getD [])
    else pure []
  let items ← collect do
    match ← kind with
    | .endOfText | .punct .slash | .punct .greater => return none
    | _ => return some (← tagAttribute)
  let selfClosing ← eat .slash
  unless ← isPunct .greater do unexpected "> (jsx closing tag)"
  bumpWith (read selfClosing)
  let span ← spanFrom start
  return .mk (.jsxOpening selfClosing) span
    (name :: items ++ if types.isEmpty then [] else [.mk .types span types])

/-- The rest of a closing tag behind its `</`: nothing for that of a fragment. -/
def closingTail (start : Nat) (nested : Bool) : Reader (Option Node) := do
  if ← isPunct .greater then
    bumpWith (readBehind nested)
    return none
  let name ← elementName
  unless ← isPunct .greater do fail (.expected "> (jsx tag end)" (← kind).display)
  bumpWith (readBehind nested)
  return some (← node .jsxClosing start [name])

/-- The children of an element up to the start of its closing tag, which is taken. -/
def children : Reader (List Node × Nat) :=
  iterate
    (fun items => do
      need
      let start ← place
      match ← kind with
      | .jsxText text =>
        bumpWith Token.readMarkupText
        return .again ((← node (.jsxText text) start []) :: items)
      | .punct .braceOpen => return .again ((← container Token.readMarkupText) :: items)
      | .punct .less =>
        if (Token.readTag (← token).next).kind = .punct .slash then
          bumpWith Token.readTag
          bumpWith Token.readTag
          return .stop (items.reverse, start)
        return .again ((← phrase (.markupElement true)) :: items)
      | _ => unexpected "< (jsx tag start), jsx text or \x7b")
    ([] : List Node)

/-- An element or a fragment from its `<` on. -/
def markupElement (nested : Bool) : Reader Node := do
  let start ← place
  bumpWith Token.readTag
  if ← isPunct .greater then
    bumpWith Token.readMarkupText
    let (items, closing) ← children
    match ← closingTail closing nested with
    | some _ => failAt closing .closingFragment
    | none => node .jsxFragment start items
  else
    let name ← elementName
    let tag ← openingTail start
      (fun selfClosing => if selfClosing then readBehind nested else Token.readMarkupText) name
    if tag.kind = .jsxOpening true then return ← node .jsxElement start [tag]
    let (items, closing) ← children
    match ← closingTail closing nested with
    | none => failAt closing (.closingTag (displayName name))
    | some closingTag =>
      unless closingTag.parts.map displayName = [displayName name] do
        failAt closing (.closingTag (displayName name))
      node .jsxElement start (tag :: items ++ [closingTag])

/-- Markup in a text in which the last resort failed: what stands behind the `<` is read as in
    expressions, and cannot be a name. -/
def refusedMarkup : Reader Node := do
  bumpWith Token.read
  unexpected "jsx identifier"

end FormCodemod.Syntax.Grammar
