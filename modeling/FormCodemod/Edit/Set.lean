import FormCodemod.Edit.Basic
import FormCodemod.Span.Order

/-!
# Sets of edits

An edit set holds edits in the order of their spans, no one of which begins before the ones ahead of
it end. Edits with the same span stay in the order in which they were given, so that insertions at
one place come out in the order of their making, and ahead of an edit that consumes text from there.

* `EditSet.ofList`: sorts edits and refuses the first two neighbours that overlap;
* `EditSet.merged?`: the whole set as one replacement;
* `Edit.appliedInTurn`: edits carried out one at a time, the last one first.
-/

namespace FormCodemod

/-- Two edits of which the second begins before the first ends. -/
structure EditConflict where
  first : Span
  second : Span
  deriving DecidableEq, Repr

/-- What a conflict is reported as. -/
def EditConflict.message (c : EditConflict) : String :=
  s!"edit {c.second.display} overlaps edit {c.first.display}"

namespace Edit

/-- Edits in the order of their spans; equal spans keep their order. -/
def sort (edits : List Edit) : List Edit :=
  Span.sortOn Edit.span edits

/-- The first two neighbours of which the second begins before the first ends. -/
def firstConflict? : List Edit → Option EditConflict
  | e :: f :: fs =>
    if f.span.start < e.span.stop then some ⟨e.span, f.span⟩ else firstConflict? (f :: fs)
  | _ => none

/-- Of sorted edits without a conflict between neighbours, none begins before one ahead of it
    ends. -/
theorem pairwise_of_firstConflict?_eq_none {edits : List Edit}
    (hsort : edits.Pairwise fun e f => e.span.precedes f.span)
    (hnone : firstConflict? edits = none) :
    edits.Pairwise fun e f => e.span.stop ≤ f.span.start := by
  induction edits with
  | nil => exact .nil
  | cons e es ih =>
    obtain ⟨he, hes⟩ := List.pairwise_cons.1 hsort
    cases es with
    | nil => exact List.pairwise_singleton _ _
    | cons f fs =>
      rw [firstConflict?] at hnone
      split at hnone
      · cases hnone
      case isFalse hef =>
        refine List.pairwise_cons.2 ⟨fun g hg => ?_, ih hes hnone⟩
        -- The neighbour `f` begins behind `e`, and all others begin behind `f`.
        have hfg : f.span.start ≤ g.span.start := by
          rcases List.mem_cons.1 hg with rfl | hg
          · exact Nat.le_refl _
          · have := Span.precedes_iff.1 ((List.pairwise_cons.1 hes).1 g hg)
            omega
        omega

/-- The text after edits have been carried out one at a time, from the last one to the first. -/
def appliedInTurn (edits : List Edit) (source : List Char) : Option (List Char) :=
  edits.foldr (fun e text => text.bind e.appliedTo) (some source)

end Edit

/-- Edits that can be carried out together. -/
structure EditSet where
  edits : List Edit
  /-- They are in the order of their spans. -/
  sorted : edits.Pairwise fun e f => e.span.precedes f.span
  /-- None begins before one ahead of it ends. -/
  apart : edits.Pairwise fun e f => e.span.stop ≤ f.span.start
  deriving DecidableEq, Repr

namespace EditSet

/-- The set of the given edits, unless two of them are in conflict. -/
def ofList (edits : List Edit) : Except EditConflict EditSet :=
  match h : Edit.firstConflict? (Edit.sort edits) with
  | some conflict => .error conflict
  | none =>
    have sorted := Span.pairwise_precedes_sortOn edits
    .ok ⟨Edit.sort edits, sorted, Edit.pairwise_of_firstConflict?_eq_none sorted h⟩

/-- The set has no edits. -/
def isEmpty (set : EditSet) : Bool :=
  set.edits.isEmpty

/-- The set of the given edits, if there are any and none are in conflict. -/
def compose? (edits : List Edit) : Option EditSet :=
  match ofList edits with
  | .ok set => if set.isEmpty then none else some set
  | .error _ => none

/-- The smallest span from the first edit's start that covers every edit. -/
def span? (set : EditSet) : Option Span :=
  match set.edits with
  | [] => none
  | e :: es => some ⟨e.span.start, es.foldl (fun stop f => max stop f.span.stop) e.span.stop⟩

/-- What edits make of the source between two places, with the text between the edits kept. -/
def weave? (source : List Char) : List Edit → Nat → Nat → Option (List Char)
  | [], cursor, stop => Text.slice? source cursor stop
  | e :: es, cursor, stop => do
    let kept ← Text.slice? source cursor e.span.start
    let rest ← weave? source es e.span.stop stop
    pure (kept ++ e.text ++ rest)

/-- The whole set as one replacement of its span. -/
def merged? (set : EditSet) (source : List Char) : Option (Span × List Char) := do
  let span ← set.span?
  let text ← weave? source set.edits span.start span.stop
  pure (span, text)

end EditSet

end FormCodemod
