import FormCodemod.Edit.Set

/-!
# Passes

A pass carries out as many fixes as stand apart from each other. They are taken in the order of the
spans that they replace; one that touches or overlaps an earlier one of the same pass is left for
later.
-/

namespace FormCodemod

/-- A fix as one replacement. -/
structure Patch where
  span : Span
  text : List Char
  deriving DecidableEq, Repr

namespace Patch

/-- The fix as one replacement in a source. -/
def ofFix? (source : List Char) (fix : EditSet) : Option Patch :=
  (fix.merged? source).map fun r => ⟨r.1, r.2⟩

/-- The text behind a place with patches put in. -/
def weave (source : List Char) : List Patch → Nat → List Char
  | [], cursor => ((Text.dropBytes? cursor source).getD [])
  | p :: ps, cursor =>
    Text.slice source cursor p.span.start ++ p.text ++ weave source ps p.span.stop

end Patch

/-- The result of a pass. -/
structure FixPass where
  output : List Char
  /-- The number of fixes carried out. -/
  applied : Nat
  deriving DecidableEq, Repr

/-- Carries out fixes, where a violation has one. -/
def applyFixes (source : List Char) (fixes : List (Option EditSet)) : FixPass :=
  let patches := fixes.filterMap fun fix => fix.bind (Patch.ofFix? source)
  let chosen := Span.apartOn Patch.span none (Span.sortOn Patch.span patches)
  ⟨Patch.weave source chosen 0, chosen.length⟩

end FormCodemod
