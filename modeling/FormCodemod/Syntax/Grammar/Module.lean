import FormCodemod.Syntax.Grammar.Statement

/-!
# Modules

Statements, imports and exports. Namespaces of typed text hold the same.
-/

namespace FormCodemod.Syntax.Grammar

open Reader

/-- The name of something that modules exchange: any word, or a string. -/
def exchangedName : Reader Node := do
  match ← kind with
  | .string text => tokenLiteral (.string text)
  | .word _ _ => word
  | _ => unexpected "identifier or string"

/-- The text of an exchanged name. -/
def exchangedText (name : Node) : String :=
  match name.kind with
  | .string text => text
  | .word text => text
  | _ => ""

/-- Attributes of an import, which only typed text has. -/
def importAttributes : Reader Unit := do
  if (← context).typed && !(← newline) && ((← isWord .assert) || (← isWord .with)) then
    bump
    let _ ← objectLiteral

/-- Another module, named by a string, up to the end of the statement. -/
def sourceTail : Reader String := do
  need
  match ← kind with
  | .string text =>
    bump
    importAttributes
    expectStatementEnd
    return text
  | _ => unexpected "a string literal"

/-- Another module behind `from`. -/
def sourceClause : Reader String := do
  expectWord .from "from"
  sourceTail

/-! ### Imports -/

/-- A binder of an import. -/
def importSpecifier (start : Nat) (imported : String) (name : Node) : Reader Node :=
  node (.importSpecifier imported) start [name]

/-- A word as the binder of an import. -/
def wordBinder (w : Node) : Node :=
  .mk (.binder (openName (exchangedText w))) w.span []

/-- An imported name behind the word `type`, if that marks it as the name of a type. -/
def typeSpecifier? (start : Nat) (typeWord : Node) : Reader (Option Node) := do
  unless (← context).typed && typeWord.kind = .word "type" && kindIsName (← kind) do return none
  let second ← word
  if exchangedText second ≠ "as" then
    let name ← if ← eatWord .as then binder else pure (wordBinder second)
    return some (← importSpecifier start (exchangedText second) name)
  -- `type as …`: the word `as` may be a name, or stand for itself.
  unless kindIsName (← kind) do
    return some (← importSpecifier start "as" (wordBinder second))
  let third ← word
  if exchangedText third = "as" && kindIsName (← kind) then
    let name ← binder
    return some (← importSpecifier start "as" name)
  return some (← importSpecifier start "type" (wordBinder third))

/-- An import in braces. -/
def namedImport : Reader Node := do
  let start ← place
  let name ← exchangedName
  if let some whole ← typeSpecifier? start name then return whole
  if ← eatWord .as then return ← importSpecifier start (exchangedText name) (← binder)
  match name.kind with
  | .string text =>
    failAt name.span.start
      (.importedString (String.ofList ((text.toList.drop 1).dropLast)))
  | _ =>
    if isReservedText (exchangedText name) then failAt name.span.start .reservedImport
    importSpecifier start (exchangedText name) (wordBinder name)

/-- Items in braces with commas between them, up to the closing brace. -/
def braced (item : Reader Node) : Reader (List Node) := do
  let items ← collect do
    if (← kind) = .endOfText || (← isPunct .braceClose) then return none
    let next ← item
    unless ← isPunct .braceClose do expect .comma
    return some next
  expect .braceClose
  return items

/-- An import that names an entity of a namespace, from its name on. -/
def importEqualsTail (start : Nat) : Reader Node := do
  let name ← word
  expect .assign
  if (← isWord .require) && (← peekIsPunct .parenOpen) then
    bump
    bump
    match ← kind with
    | .string _ => bump
    | _ => unexpected "a string literal"
    expect .parenClose
  else entityName
  expectStatementEnd
  node .importEquals start [wordBinder name]

/-- What an import statement begins with, up to a comma or `from`. -/
def defaultImport : Reader (List Node) := do
  unless ← isIdentifier do return []
  let start ← place
  let first ← binder
  let isType := (← context).typed && first.kind = .binder (openName "type")
  if isType then
    if (← isPunct .star) || (← isPunct .braceOpen) then return []
  let name ← if isType && (← isIdentifier) && (!(← isWord .from) || (← peekIsWord .from)) then
      binder
    else pure first
  unless ← isWord .from do
    unless (← context).typed && (← isPunct .assign) do expect .comma
  return [← importSpecifier start "default" name]

/-- The other imports of a statement. -/
def furtherImports : Reader (List Node) := do
  let start ← place
  if ← eat .star then
    expectWord .as "as"
    return [← importSpecifier start "*" (← binder)]
  else if ← eat .braceOpen then braced namedImport
  else return []

/-- An import. -/
def importDeclaration : Reader Node := do
  let start ← place
  let next ← peek
  if next.kind = .punct .dot || next.kind = .punct .parenOpen then return ← importStatement
  bump
  if (← context).typed && (← isIdentifier) && (← peekIsPunct .assign) then
    return ← importEqualsTail start
  match ← kind with
  | .string _ =>
    let source ← sourceTail
    node (.importDeclaration source) start []
  | _ =>
    let first ← defaultImport
    if (← context).typed && (← isPunct .assign) then
      let equals ← attempt do
        bump
        if ← isWord .require then
          bump
          expect .parenOpen
          bump
          expect .parenClose
        else entityName
        expectStatementEnd
        return some (← node .importEquals start (first.flatMap Node.parts))
      if let some whole := equals then return whole
    let others ← furtherImports
    let source ← sourceClause
    node (.importDeclaration source) start (first ++ others)

/-! ### Exports -/

/-- A name of an export as a part of its specifier: a name of this module refers to its
    declaration. -/
def exportedName (name : Node) : Node :=
  match name.kind with
  | .word text => name.withKind (.reference (openName text))
  | _ => name

/-- A specifier of an export. -/
def exportSpecifier (start : Nat) (name exported : Node) : Reader Node :=
  node (.exportSpecifier (exchangedText exported)) start [exportedName name]

/-- An exported name behind the word `type`, if that marks it as the name of a type. -/
def exportedType? (start : Nat) (typeWord : Node) : Reader (Option Node) := do
  unless (← context).typed && typeWord.kind = .word "type" && kindIsName (← kind) do return none
  let second ← word
  if exchangedText second ≠ "as" then
    let exported ← if ← eatWord .as then exchangedName else pure second
    return some (← exportSpecifier start second exported)
  unless kindIsName (← kind) do return some (← exportSpecifier start second second)
  let third ← word
  if exchangedText third = "as" && kindIsName (← kind) then
    let exported ← word
    return some (← exportSpecifier start second exported)
  return some (← exportSpecifier start typeWord third)

/-- An export in braces. -/
def namedExport : Reader Node := do
  let start ← place
  let name ← exchangedName
  if let some whole ← exportedType? start name then return whole
  let exported ← if ← eatWord .as then exchangedName else pure name
  exportSpecifier start name exported

/-- Notes the names that cannot be exported without naming another module. -/
def checkExports (items : List Node) : Reader Unit := do
  for item in items do
    match item.parts with
    | .mk (.reference name) span _ :: _ =>
      if isReservedText name.text then note span.start (.exportWithoutSource name.text)
    | name :: _ => note name.span.start .exportedString
    | [] => pure ()

/-- Names of another module do not refer to declarations of this one. -/
def foreignSpecifier (item : Node) : Node :=
  match item with
  | .mk kind span [.mk (.reference name) inner _] => .mk kind span [.mk (.word name.text) inner []]
  | _ => item

/-- An export of names, or of all names of another module. -/
def exportNames (start : Nat) : Reader Node := do
  let behind ← place
  if ← eat .star then
    if !(← isWord .as) then
      let source ← sourceClause
      return ← node (.exportAll source) start []
    bump
    let name ← exchangedName
    let item ← node (.exportSpecifier (exchangedText name)) behind []
    unless ← isWord .from do expectWord .from "from"
    let source ← sourceClause
    return ← node (.exportNamed (some source)) start [item]
  expect .braceOpen
  let items ← braced namedExport
  if ← isWord .from then
    let source ← sourceClause
    node (.exportNamed (some source)) start (items.map foreignSpecifier)
  else
    checkExports items
    expectStatementEnd
    node (.exportNamed none) start items

/-- What stands behind `export default`. -/
def defaultExport : Reader Node := do
  let start ← place
  let next ← peek
  let isTyped := (← context).typed
  if isTyped && (← isWord .abstract) && kindIsWord next.kind .classWord && !next.newline then
    bump
    return ← phrase (.classTail start false true)
  if isTyped && (← isWord .interface) then
    bump
    return ← interfaceTail start
  if ← isWord .classWord then return ← phrase (.classTail start false false)
  if (← isWord .async) && kindIsWord next.kind .function && !next.newline then
    bump
    return ← functionDeclaration start true false
  if ← isWord .function then return ← functionDeclaration start false false
  let value ← withIn true (phrase .assignment)
  expectStatementEnd
  return value

/-- An exported declaration that only typed text has. -/
def typedExport? (start behind : Nat) : Reader (Option Node) := do
  unless (← context).typed do return none
  if ← eatWord .declare then
    if let some declaration ← ambientDeclaration? behind .exported then
      return some (← node .exportDeclaration start [declaration])
  if let .word text _ := ← kind then
    if let some declaration ← attempt (wordDeclaration behind text true) then
      return some (← node .exportDeclaration start [declaration])
  if ← eatWord .import then
    if (← isWord .type) && (← peekIsIdentifier) then bump
    return some (← importEqualsTail start)
  if ← eat .assign then
    let value ← phrase .expression
    expectStatementEnd
    return some (← node .exportEquals start [value])
  if ← eatWord .as then
    expectWord .namespace "namespace"
    let _ ← word
    expectStatementEnd
    return some (← node .exportNamespace start [])
  return none

/-- A declaration that any text may export. -/
def exportedDeclaration? : Reader (Option Node) := do
  let start ← place
  let next ← peek
  match ← kind with
  | .word _ (some .classWord) => return some (← phrase (.classTail start true false))
  | .word _ (some .function) => return some (← functionDeclaration start false true)
  | .word _ (some .async) =>
    if kindIsWord next.kind .function && !next.newline then
      bump
      return some (← functionDeclaration start true true)
    else return none
  | .word _ (some .const) =>
    if (← context).typed && kindIsWord next.kind .enum then
      bump
      bump
      return some (← enumTail start)
    else return some (← variableDeclaration start .exported)
  | .word _ (some .var) => return some (← variableDeclaration start .exported)
  | .word _ (some .let) =>
    if followsLet next then return some (← variableDeclaration start .exported) else return none
  | _ => return none

/-- An export. -/
def exportDeclaration : Reader Node := do
  let start ← place
  bump
  need
  let behind ← place
  if let some whole ← typedExport? start behind then return whole
  let isType ← if (← context).typed then eatWord .type else pure false
  if ← pure !isType <&&> eatWord .default then
    let value ← defaultExport
    return ← node .exportDefault start [value]
  if !isType then
    if let some declaration ← exportedDeclaration? then
      return ← node .exportDeclaration start [declaration]
  exportNames start

/-! ### Bodies -/

/-- A statement, an import or an export. -/
def moduleItem : Reader Node := do
  if ← isWord .import then importDeclaration
  else if ← isWord .export then exportDeclaration
  else phrase (.statement true)

/-- The body of a namespace in braces. -/
def namespaceBody : Reader Node := do
  let start ← place
  expect .braceOpen
  let items ← statements moduleItem
  if (← kind) ≠ .endOfText then expect .braceClose
  node .block start items

/-- A module: items up to the end of the text. -/
def moduleItems : Reader (List Node) :=
  collect do
    if (← kind) = .endOfText then return none
    return some (← moduleItem)

end FormCodemod.Syntax.Grammar
