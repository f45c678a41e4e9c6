import FormCodemod.Syntax.Grammar.Recast

/-!
# Assignments and conditions

What may stand behind an expression with binary operators: an assignment to it, or the branches of a
conditional expression.
-/

namespace FormCodemod.Syntax.Grammar

open Reader

/-- The target of an assignment with this operator. -/
def assignmentTarget (operator : Punct) (left : Node) : Reader Node := do
  let target ← if operator = .assign then recast .target left
    else do
      unless isSimpleTarget left do
        note left.span.start
          (if (← context).typed then .targetNeedsReference else .notSimpleTarget)
      pure left
  unless canBeAssigned target.kind do failAt left.span.start .invalidTarget
  return target

/-- An assignment to an expression, if one follows. -/
def assignmentTail (start : Nat) (left : Node) : Reader Node := do
  match ← kind with
  | .punct p =>
    if p.isAssignment then
      let target ← assignmentTarget p left
      bump
      let right ← phrase .assignment
      node (.assignment p.text) start [target, right]
    else return left
  | _ => return left

/-- The branches of a conditional expression behind its `?`. -/
def branches (start : Nat) (test : Node) : Reader Node := do
  let inFirst (c : Context) : Context :=
    { c with allowsIn := true, inConditional := true, awaitsColon := true }
  let yes ← within inFirst (phrase .assignment)
  expect .colon
  let no ← within (fun c => { c with inConditional := true, awaitsColon := false })
    (phrase .assignment)
  return .mk .conditional ⟨start, no.span.stop⟩ [test, yes, no]

/-! ### Leftovers of patterns -/

mutual

/-- The place of a property `a = value` of an object that did not turn out to be a pattern, outside
    of nested functions. -/
def strayAssignment? : Node → Option Nat
  | .mk .assignedShorthand span _ => some span.start
  | .mk (.function ..) _ _ => none
  | .mk .functionExpression _ _ => none
  | .mk (.arrow _) _ _ => none
  | .mk _ _ parts => firstStrayAssignment? parts

/-- The first such place in one of the nodes. -/
def firstStrayAssignment? : List Node → Option Nat
  | [] => none
  | n :: ns => strayAssignment? n <|> firstStrayAssignment? ns

end

/-- Refuses an expression with a property that only a pattern may have. -/
def checkStray (n : Node) : Reader Unit := do
  if let some offset := strayAssignment? n then failAt offset .assignedProperty

end FormCodemod.Syntax.Grammar
