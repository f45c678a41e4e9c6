import FormCodemod.Syntax.Reader

/-!
# Names

Identifiers, which must not be reserved, and the names of properties, which may be any word, a
string, a number or an expression in square brackets.
-/

namespace FormCodemod.Syntax.Grammar

open Reader

/-- A freshly read name. -/
def openName (text : String) : Name :=
  ⟨text, .unresolved⟩

/-- Takes a word that may be an identifier and gives its text. In the places where it only names
    something, `yield` and `await` are words like others to begin with. -/
def identifierText (lenient : Bool) : Reader String := do
  need
  match ← kind with
  | .word text role =>
    let start ← place
    bump
    match role with
    | none => return text
    | some w =>
      if w.isStrictReserved then note start (.reservedInStrict text)
      match w with
      | .await =>
        if (← context).ambient then return text
        else failAt start .awaitAsName
      | .yield => if lenient then return text else failAt start .expectedIdentifier
      | .this => if (← context).typed then return text else failAt start .expectedIdentifier
      | _ => if w.isKeyword then failAt start .expectedIdentifier else return text
  | _ => fail .expectedIdentifier

/-- An identifier in the place of an expression. -/
def reference : Reader Node := do
  let start ← place
  let text ← identifierText true
  node (.reference (openName text)) start []

/-- An identifier that a declaration introduces. -/
def binder : Reader Node := do
  let start ← place
  let text ← identifierText true
  if text = "eval" || text = "arguments" then note start .evalOrArguments
  node (.binder (openName text)) start []

/-- Any word. -/
def word : Reader Node := do
  let start ← place
  match ← kind with
  | .word text _ =>
    bump
    node (.word text) start []
  | _ => fail .expectedIdentifier

/-- Ends at a `#` that no identifier follows directly. -/
def looseHash : Reader Node := do
  let start ← place
  bump
  if (← token).here.offset = (← state).last.stop then fail .expectedIdentifier
  else failAt start .spaceAfterHash

/-- A label, or the name behind one of the keywords that take a label. -/
def labelText : Reader String := identifierText true

/-- The name of a property. -/
def propertyName : Reader Node := do
  need
  let start ← place
  match ← kind with
  | .word text _ =>
    bump
    node (.word text) start []
  | .string text =>
    bump
    node (.string text) start []
  | .number text =>
    bump
    node (.literal text) start []
  | .punct .bracketOpen =>
    bump
    let inner ← place
    let first ← withIn true (phrase .assignment)
    let rest ← if (← context).typed then
        collect do
          if ← eat .comma then return some (← withIn true (phrase .assignment))
          else return none
      else pure []
    let value ← if rest.isEmpty then pure first
      else do
        note inner .commaInComputedName
        node .sequence inner (first :: rest)
    expect .bracketClose
    node .computedName start [value]
  | _ =>
    unexpected "identifier, string literal, numeric literal or [ for the computed key"

/-- The text of a name that is a plain word. -/
def plainWord? (name : Node) : Option String :=
  match name.kind with
  | .word text => some text
  | _ => none

/-- The word must not stand for both a property and an identifier. -/
def isReservedText (text : String) : Bool :=
  (Word.ofChars? text.toList).any Word.isReserved

end FormCodemod.Syntax.Grammar
