import FormCodemod.Syntax.Grammar.Assignment

/-!
# Variables

Declarations of variables, with or without values, as statements and in the heads of loops.
-/

namespace FormCodemod.Syntax.Grammar

open Reader

/-- The keyword of a declaration that the word is. -/
def varKeyword? : TokenKind → Option VarKeyword
  | .word _ (some .var) => some .var
  | .word _ (some .let) => some .let
  | .word _ (some .const) => some .const
  | _ => none

/-- A declaration goes on behind the word `let`. -/
def followsLet (t : Token) : Bool :=
  match t.kind with
  | .punct .braceOpen | .punct .bracketOpen => true
  | .word _ (some w) => !w.isKeyword
  | .word _ none => true
  | _ => false

/-- The head of a loop goes on behind a variable. -/
def atLoopWord : Reader Bool := do
  return (← isWord .of) || (← isWord .in)

/-- A variable, perhaps with a value. -/
def declarator (keyword : VarKeyword) (standing : Standing) : Reader Node := do
  let start ← place
  let pat ← phrase .pattern
  if (← context).typed && pat.isBinder then
    let _ ← eat .bang
  let typed := withType pat (← ascription?)
  if standing = .loopHead && (← atLoopWord) then return ← node .declarator start [typed]
  if ← eat .assign then
    let value ← phrase .assignment
    checkStray value
    return ← node .declarator start [typed, value]
  unless (← context).ambient do
    if keyword = .const then note start .constWithoutValue
    else unless pat.isBinder do failAt start .patternWithoutValue
  node .declarator start [typed]

/-- The variables of a declaration. -/
def declarators (keyword : VarKeyword) (standing : Standing) : Reader (List Node) :=
  iterate
    (fun items => do
      if ← isPunct .semicolon then
        let last := (← state).last
        note (if items.isEmpty then last.stop else last.start) .trailingComma
        return .stop items.reverse
      let items := (← declarator keyword standing) :: items
      if ← eat .comma then return .again items else return .stop items.reverse)
    ([] : List Node)

/-- Skips tokens up to where a statement ends, or to something that is no token. -/
def skipToStatementEnd : Reader Unit := do
  let _ ← collect do
    if ← eatStatementEnd then return none
    bump
    match ← kind with
    | .broken _ => return none
    | _ => return some ()

/-- A declaration of variables from its keyword on. Where it should end and does not, the rest of it
    is skipped. -/
def variableDeclaration (start : Nat) (standing : Standing) : Reader Node := do
  let keyword := (varKeyword? (← kind)).getD .var
  bump
  let items ← declarators keyword standing
  if standing ≠ .loopHead then
    unless ← eatStatementEnd do
      noteHere .missingSemicolon
      rescue (do let _ ← phrase .expression) fun _ => pure ()
      skipToStatementEnd
  node (.variableDeclaration keyword) start items

/-- A declaration that begins with `using`, if one does: the word may also be an identifier. -/
def usingDeclaration? (start : Nat) (isAwait : Bool) : Reader (Option Node) := do
  let next ← peek
  unless kindIsIdentifier next.kind && !next.newline do return none
  bump
  let items ← declarators .var .statement
  let keyword := if isAwait then VarKeyword.awaitUsing else .using
  unless (← context).typed do note start .usingNotAllowed
  for item in items do
    match item.parts with
    | .mk (.binder _) _ _ :: _ => pure ()
    | _ => note start .usingPattern
    if item.parts.length < 2 then note start .usingWithoutValue
  unless ← eatStatementEnd do noteHere .missingSemicolon
  return some (← node (.variableDeclaration keyword) start items)

end FormCodemod.Syntax.Grammar
