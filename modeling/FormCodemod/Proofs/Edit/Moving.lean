import FormCodemod.Fix.Pass
import FormCodemod.Proofs.Span.Selection
import FormCodemod.Proofs.Text.Place

/-!
# Edits moved with their text

A text that is put in front of a source moves every place of the source on by its own width. Edits
that are moved as far do to the whole what they did to the source: as a set (`merged?_moved`), and
with other sets in one pass (`applyFixes_moved`). Nothing in a pass depends on where a source
begins, so all that has to be right are the places that the edits name.
-/

namespace FormCodemod

open Text

variable {α : Type} {source : List Char}

/-! ### Spans -/

namespace Span

variable {span : α → Span}

/-- The span so many bytes further on. -/
def moved (n : Nat) (s : Span) : Span :=
  ⟨n + s.start, n + s.stop⟩

theorem precedes_moved (n : Nat) (s t : Span) :
    (s.moved n).precedes (t.moved n) = s.precedes t := by
  rw [Bool.eq_iff_iff, precedes_iff, precedes_iff, moved, moved]
  dsimp only
  omega

theorem insertOn_moved (n : Nat) (a : α) (l : List α) :
    insertOn (fun b => (span b).moved n) a l = insertOn span a l := by
  induction l with
  | nil => rfl
  | cons b bs ih => rw [insertOn, insertOn, precedes_moved, ih]

theorem sortOn_moved (n : Nat) (l : List α) :
    sortOn (fun a => (span a).moved n) l = sortOn span l := by
  induction l with
  | nil => rfl
  | cons a as ih => rw [sortOn, sortOn, insertOn_moved, ih]

theorem apartOn_moved (n : Nat) (stop : Option Nat) (l : List α) :
    apartOn (fun a => (span a).moved n) (stop.map (n + ·)) l = apartOn span stop l := by
  induction l generalizing stop with
  | nil => rfl
  | cons a as ih =>
    have hany : (stop.map (n + ·)).any (((span a).moved n).start ≤ ·) =
        stop.any ((span a).start ≤ ·) := by
      cases stop with
      | none => rfl
      | some stop => simp [moved]
    rw [apartOn, apartOn, hany, ih, ← ih (some (span a).stop)]
    rfl

end Span

/-! ### Sets of edits -/

/-- The edit so many bytes further on. -/
def Edit.moved (n : Nat) : Edit → Edit
  | delete s => delete (s.moved n)
  | insertAfter offset text => insertAfter (n + offset) text
  | replace s text => replace (s.moved n) text

theorem Edit.span_moved (n : Nat) (e : Edit) : (e.moved n).span = e.span.moved n := by
  cases e <;> rfl

theorem Edit.text_moved (n : Nat) (e : Edit) : (e.moved n).text = e.text := by
  cases e <;> rfl

namespace EditSet

/-- The edits of the set so many bytes further on. -/
def moved (n : Nat) (set : EditSet) : EditSet where
  edits := set.edits.map (Edit.moved n)
  sorted := by
    refine List.pairwise_map.2 (set.sorted.imp fun h => ?_)
    rwa [Edit.span_moved, Edit.span_moved, Span.precedes_moved]
  apart := by
    refine List.pairwise_map.2 (set.apart.imp fun h => ?_)
    rw [Edit.span_moved, Edit.span_moved]
    exact Nat.add_le_add_left h n

theorem foldl_stop_moved (n stop : Nat) (edits : List Edit) :
    (edits.map (Edit.moved n)).foldl (fun stop e => max stop e.span.stop) (n + stop) =
      n + edits.foldl (fun stop e => max stop e.span.stop) stop := by
  induction edits generalizing stop with
  | nil => rfl
  | cons e es ih =>
    rw [List.map_cons, List.foldl_cons, List.foldl_cons, ← ih, Edit.span_moved, Span.moved,
      Nat.add_max_add_left]

theorem span?_moved (n : Nat) (set : EditSet) :
    (set.moved n).span? = set.span?.map (Span.moved n) := by
  obtain ⟨edits, sorted, apart⟩ := set
  cases edits with
  | nil => rfl
  | cons e es =>
    simp only [span?, moved, List.map_cons, Edit.span_moved, Option.map_some, Span.moved]
    rw [foldl_stop_moved]

theorem weave?_moved (front source : List Char) (edits : List Edit) (cursor stop : Nat) :
    weave? (front ++ source) (edits.map (Edit.moved (width front))) (width front + cursor)
      (width front + stop) = weave? source edits cursor stop := by
  induction edits generalizing cursor with
  | nil => exact slice?_width_add front source cursor stop
  | cons e es ih =>
    rw [List.map_cons, weave?, weave?, Edit.span_moved, Edit.text_moved, Span.moved,
      slice?_width_add, ih]

/-- The replacement is the same one further on. -/
theorem merged?_moved (front source : List Char) (set : EditSet) :
    (set.moved (width front)).merged? (front ++ source) =
      (set.merged? source).map fun r => (r.1.moved (width front), r.2) := by
  rw [merged?, merged?, span?_moved]
  cases set.span? with
  | none => rfl
  | some span =>
    rw [Option.map_some, Option.bind_eq_bind, Option.bind_some, Option.bind_eq_bind,
      Option.bind_some, moved, Span.moved, weave?_moved]
    cases weave? source set.edits span.start span.stop <;> rfl

/-- A set can be merged only if its first edit begins at a place of the source. -/
theorem isPlace_of_merged? {set : EditSet} {span : Span} {text : List Char}
    (h : set.merged? source = some (span, text)) : IsPlace source span.start := by
  -- Weaving begins with the slice ahead of the first edit, which is empty but has to be there.
  obtain ⟨edits, sorted, apart⟩ := set
  simp only [merged?, Option.bind_eq_bind, Option.bind_eq_some_iff, Option.pure_def,
    Option.some.injEq, Prod.mk.injEq] at h
  obtain ⟨_, hspan, _, hweave, rfl, -⟩ := h
  cases edits with
  | nil => cases hspan
  | cons e es =>
    cases hspan
    obtain ⟨kept, hkept, -⟩ := Option.bind_eq_some_iff.1 hweave
    obtain ⟨before, behind, rfl, hbefore, -⟩ := slice?_eq_some_iff.1 hkept
    exact ⟨before, _, rfl, hbefore⟩

end EditSet

/-! ### Passes -/

namespace Patch

/-- The patch so many bytes further on. -/
def moved (n : Nat) (p : Patch) : Patch :=
  ⟨p.span.moved n, p.text⟩

theorem ofFix?_moved (front source : List Char) (fix : EditSet) :
    ofFix? (front ++ source) (fix.moved (width front)) =
      (ofFix? source fix).map (moved (width front)) := by
  rw [ofFix?, ofFix?, EditSet.merged?_moved, Option.map_map, Option.map_map]
  rfl

theorem isPlace_of_ofFix? {fix : EditSet} {p : Patch} (h : ofFix? source fix = some p) :
    IsPlace source p.span.start := by
  obtain ⟨r, hr, rfl⟩ := Option.map_eq_some_iff.1 h
  exact EditSet.isPlace_of_merged? hr

theorem weave_moved (front source : List Char) (ps : List Patch) (cursor : Nat) :
    weave (front ++ source) (ps.map (moved (width front))) (width front + cursor) =
      weave source ps cursor := by
  induction ps generalizing cursor with
  | nil => rw [List.map_nil, weave, weave, dropBytes?_width_add]
  | cons p ps ih =>
    rw [List.map_cons, weave, weave, moved, Span.moved, slice, slice, slice?_width_add, ih]

/-- What stands in front is kept. -/
theorem weave_moved_zero (front : List Char) {ps : List Patch}
    (hplace : ∀ p ∈ ps, IsPlace source p.span.start) :
    weave (front ++ source) (ps.map (moved (width front))) 0 = front ++ weave source ps 0 := by
  cases ps with
  | nil =>
    have hdrop : ∀ text : List Char, dropBytes? 0 text = some text := fun text => by
      cases text <;> rfl
    rw [List.map_nil, weave, weave, hdrop, hdrop, Option.getD_some, Option.getD_some]
  | cons p ps =>
    -- What stands ahead of the first patch is a slice of the source, and with it the front.
    obtain ⟨before, behind, rfl, hbefore⟩ := hplace p (.head ps)
    have hkept : slice (before ++ behind) 0 p.span.start = before := by
      rw [← hbefore, ← Nat.zero_add (width before)]
      exact slice_width [] before behind
    have hkept' : slice (front ++ (before ++ behind)) 0 (width front + p.span.start) =
        front ++ before := by
      rw [← hbefore, ← width_append, ← List.append_assoc, ← Nat.zero_add (width _)]
      exact slice_width [] (front ++ before) behind
    rw [List.map_cons, weave, weave, moved, Span.moved, hkept, hkept', weave_moved]
    simp only [List.append_assoc]

end Patch

/-- A pass does to a source behind another text what it does to the source, if all fixes are moved
    along. -/
theorem applyFixes_moved (front source : List Char) (fixes : List (Option EditSet)) :
    applyFixes (front ++ source) (fixes.map (·.map (EditSet.moved (width front)))) =
      ⟨front ++ (applyFixes source fixes).output, (applyFixes source fixes).applied⟩ := by
  have hpatches : (fixes.map (·.map (EditSet.moved (width front)))).filterMap
      (fun fix => fix.bind (Patch.ofFix? (front ++ source))) =
      (fixes.filterMap fun fix => fix.bind (Patch.ofFix? source)).map
        (Patch.moved (width front)) := by
    rw [List.filterMap_map, List.map_filterMap]
    congr 1
    funext fix
    cases fix with
    | none => rfl
    | some fix => exact Patch.ofFix?_moved front source fix
  have hchosen (ps : List Patch) : Span.apartOn Patch.span none
      (Span.sortOn Patch.span (ps.map (Patch.moved (width front)))) =
      (Span.apartOn Patch.span none (Span.sortOn Patch.span ps)).map
        (Patch.moved (width front)) := by
    rw [Span.sortOn_map, Span.apartOn_map]
    exact congrArg (List.map _)
      ((Span.apartOn_moved (width front) none _).trans
        (congrArg _ (Span.sortOn_moved (width front) ps)))
  rw [applyFixes, applyFixes, hpatches, hchosen, List.length_map, Patch.weave_moved_zero]
  intro p hp
  have hp := (Span.perm_sortOn _).subset ((Span.apartOn_sublist none _).subset hp)
  obtain ⟨fix, -, hfix⟩ := List.mem_filterMap.1 hp
  obtain ⟨set, -, hset⟩ := Option.bind_eq_some_iff.1 hfix
  exact Patch.isPlace_of_ofFix? hset

end FormCodemod
