import FormCodemod.Fix.Pass
import FormCodemod.Proofs.Edit.Merging

/-!
# The fixes of a pass

A pass carries out some of the fixes that it is given, each as a whole (`applyFixes_selects`). Which
ones, is said by positions (`Candidate`), since a list may hold the same fix twice: those that are
chosen stand apart from each other, and one that fits and is not chosen touches or overlaps a chosen
one ahead of it (`Selection`). The output is what *all* edits of the chosen fixes make of the source
at their own places, so two fixes that were merged apart do not get into each other's way
(`rewrites_weave`).

A fix without edits replaces nothing, and is not carried out (`not_selection_empty`).
-/

namespace FormCodemod

open Text

/-- A fix, with its position in a list. -/
structure Candidate where
  fix : EditSet
  position : Nat

namespace Candidate

/-- The part of the source that the fix replaces. -/
def span (a : Candidate) : Span :=
  a.fix.span?.getD (.empty 0)

/-- Ahead of another one, by what it replaces and then by its position. -/
def Before (a b : Candidate) : Prop :=
  a.span.precedes b.span ∧ (a.span = b.span → a.position < b.position)

/-- The fix is in the list, and all its bounds are places of the source. -/
structure Placed (source : List Char) (fixes : List (Option EditSet)) (a : Candidate) : Prop where
  listed : fixes[a.position]? = some (some a.fix)
  bounds : ∀ e ∈ a.fix.edits, IsPlace source e.span.start ∧ IsPlace source e.span.stop

/-- The fix can be carried out: it is placed, and has edits. -/
structure Fits (source : List Char) (fixes : List (Option EditSet)) (a : Candidate) : Prop extends
    Placed source fixes a where
  nonempty : a.fix.edits ≠ []

/-- The fix as one replacement in a source. -/
def patch (source : List Char) (a : Candidate) : Patch :=
  ⟨a.span, ((a.fix.merged? source).map (·.2)).getD []⟩

theorem patch_span (source : List Char) (a : Candidate) : (a.patch source).span = a.span :=
  rfl

/-- The fixes of a list that can be merged, with their positions. -/
def ofFixes (source : List Char) (fixes : List (Option EditSet)) : List Candidate :=
  fixes.zipIdx.filterMap fun p =>
    (p.1.filter fun fix => (fix.merged? source).isSome).map fun fix => ⟨fix, p.2⟩

end Candidate

/-- Some of the candidates: they stand apart by at least a byte, in the order of what they replace,
    and every other one touches or overlaps one of them ahead of it. -/
structure Selection (candidate : Candidate → Prop) (chosen : List Candidate) : Prop where
  nodup : chosen.Nodup
  candidates : ∀ a ∈ chosen, candidate a
  apart : chosen.Pairwise fun a b => a.span.stop < b.span.start
  reached : ∀ b, candidate b → b ∉ chosen →
    ∃ a ∈ chosen, a.Before b ∧ a.span.start ≤ b.span.stop ∧ b.span.start ≤ a.span.stop

variable {source : List Char} {fixes : List (Option EditSet)}

/-! ### Candidates -/

namespace Candidate

/-- All fixes of a list have edits whose spans run forward. -/
def AllForward (fixes : List (Option EditSet)) : Prop :=
  ∀ fix ∈ fixes, ∀ set ∈ fix, Edit.AllForward set.edits

instance (fixes : List (Option EditSet)) : Decidable (AllForward fixes) :=
  inferInstanceAs (Decidable (∀ fix ∈ fixes, ∀ set ∈ fix, Edit.AllForward set.edits))

theorem merged?_eq_some {a : Candidate} (h : (a.fix.merged? source).isSome) :
    a.fix.merged? source = some (a.span, (a.patch source).text) := by
  obtain ⟨⟨span, text⟩, hm⟩ := Option.isSome_iff_exists.1 h
  have hspan : a.fix.span? = some span := by
    simp only [EditSet.merged?, Option.bind_eq_bind, Option.bind_eq_some_iff, Option.pure_def,
      Option.some.injEq, Prod.mk.injEq] at hm
    obtain ⟨_, hspan, _, _, rfl, _⟩ := hm
    exact hspan
  rw [patch, hm, Candidate.span, hspan, Option.map_some, Option.getD_some, Option.getD_some]

theorem mem_ofFixes_iff {a : Candidate} :
    a ∈ ofFixes source fixes ↔
      fixes[a.position]? = some (some a.fix) ∧ (a.fix.merged? source).isSome := by
  obtain ⟨fix, position⟩ := a
  simp only [ofFixes, List.mem_filterMap, Prod.exists, List.mk_mem_zipIdx_iff_getElem?,
    Option.map_eq_some_iff, Option.filter_eq_some_iff, Candidate.mk.injEq]
  constructor
  · rintro ⟨_, _, h, _, ⟨rfl, hm⟩, rfl, rfl⟩
    exact ⟨h, hm⟩
  · rintro ⟨h, hm⟩
    exact ⟨_, _, h, _, ⟨rfl, hm⟩, rfl, rfl⟩

theorem allForward_of_listed (hf : AllForward fixes) {a : Candidate}
    (h : fixes[a.position]? = some (some a.fix)) : Edit.AllForward a.fix.edits :=
  hf _ (List.mem_of_getElem? h) _ rfl

/-- The fixes that can be merged are those that fit. -/
theorem mem_ofFixes_iff_fits (hf : AllForward fixes) {a : Candidate} :
    a ∈ ofFixes source fixes ↔ a.Fits source fixes := by
  rw [mem_ofFixes_iff]
  constructor
  · rintro ⟨h, hm⟩
    obtain ⟨hne, hbounds⟩ := (EditSet.isSome_merged?_iff (allForward_of_listed hf h)).1 hm
    exact ⟨⟨h, hbounds⟩, hne⟩
  · rintro ⟨⟨h, hbounds⟩, hne⟩
    exact ⟨h, (EditSet.isSome_merged?_iff (allForward_of_listed hf h)).2 ⟨hne, hbounds⟩⟩

theorem pairwise_ofFixes :
    (ofFixes source fixes).Pairwise fun a b => a.position < b.position := by
  have hpos : fixes.zipIdx.Pairwise fun p q => p.2 < q.2 := by
    rw [← List.pairwise_map (f := Prod.snd) (R := (· < ·)), List.zipIdx_map_snd]
    exact List.pairwise_lt_range'
  refine hpos.filterMap _ ?_
  rintro p q h a ha b hb
  obtain ⟨_, -, rfl⟩ := Option.map_eq_some_iff.1 ha
  obtain ⟨_, -, rfl⟩ := Option.map_eq_some_iff.1 hb
  exact h

/-- A fix that fits replaces a part of the source by what its edits make of it. -/
theorem Fits.exists_mid (hf : AllForward fixes) {a : Candidate} (h : a.Fits source fixes) :
    ∃ before mid behind, source = before ++ (mid ++ behind) ∧ width before = a.span.start ∧
      a.span.start + width mid = a.span.stop ∧
      Edit.Rewrites a.span.start a.fix.edits mid (a.patch source).text :=
  ((EditSet.merged?_eq_some_iff (allForward_of_listed hf h.listed)).1
    (merged?_eq_some (mem_ofFixes_iff.1 ((mem_ofFixes_iff_fits hf).2 h)).2)).2

theorem Fits.start_le_stop (hf : AllForward fixes) {a : Candidate} (h : a.Fits source fixes) :
    a.span.start ≤ a.span.stop := by
  obtain ⟨_, mid, _, _, _, hstop, _⟩ := h.exists_mid hf
  omega

end Candidate

/-! ### The choice -/

/-- The fixes of a pass, with their positions. -/
def chosenFixes (source : List Char) (fixes : List (Option EditSet)) : List Candidate :=
  Span.apartOn Candidate.span none
    (Span.sortOn Candidate.span (Candidate.ofFixes source fixes))

theorem filterMap_ofFix? :
    (fixes.filterMap fun fix => fix.bind (Patch.ofFix? source)) =
      (Candidate.ofFixes source fixes).map (Candidate.patch source) := by
  rw [Candidate.ofFixes, List.map_filterMap]
  conv_lhs => rw [← List.zipIdx_map_fst 0 fixes, List.filterMap_map]
  congr 1
  funext ⟨fix, position⟩
  cases fix with
  | none => rfl
  | some fix =>
    simp only [Function.comp_apply, Option.bind_some, Patch.ofFix?, Option.filter_some]
    split
    case isTrue h =>
      rw [Candidate.merged?_eq_some (a := ⟨fix, position⟩) h]
      rfl
    case isFalse h =>
      rw [Option.not_isSome_iff_eq_none.1 h]
      rfl

theorem applyFixes_eq :
    applyFixes source fixes =
      ⟨Patch.weave source ((chosenFixes source fixes).map (Candidate.patch source)) 0,
        (chosenFixes source fixes).length⟩ := by
  have hchosen : Span.apartOn Patch.span none (Span.sortOn Patch.span
      ((Candidate.ofFixes source fixes).map (Candidate.patch source))) =
      (chosenFixes source fixes).map (Candidate.patch source) := by
    rw [Span.sortOn_map, Span.apartOn_map]
    rfl
  rw [applyFixes, filterMap_ofFix?, hchosen, List.length_map]

/-- The candidates as they are looked at. -/
theorem pairwise_before :
    (Span.sortOn Candidate.span (Candidate.ofFixes source fixes)).Pairwise Candidate.Before :=
  Span.pairwise_sortOn Candidate.pairwise_ofFixes

theorem mem_sortOn_iff_fits (hf : Candidate.AllForward fixes) {a : Candidate} :
    a ∈ Span.sortOn Candidate.span (Candidate.ofFixes source fixes) ↔ a.Fits source fixes :=
  (Span.perm_sortOn _).mem_iff.trans (Candidate.mem_ofFixes_iff_fits hf)

theorem selection_chosenFixes (hf : Candidate.AllForward fixes) :
    Selection (Candidate.Fits source fixes) (chosenFixes source fixes) where
  nodup :=
    (pairwise_before.imp fun h => fun heq => by
      cases heq
      exact Nat.lt_irrefl _ (h.2 rfl)).sublist (Span.apartOn_sublist _ _)
  candidates a ha := (mem_sortOn_iff_fits hf).1 ((Span.apartOn_sublist _ _).subset ha)
  apart := Span.pairwise_apartOn none (Span.pairwise_precedes_sortOn _)
  reached b hb hnot := by
    rcases Span.exists_reaching none ((mem_sortOn_iff_fits hf).2 hb) hnot with
      ⟨n, hn, -⟩ | ⟨a, ha, hsub, hle⟩
    · cases hn
    · have hbefore : a.Before b := List.pairwise_iff_forall_sublist.1 pairwise_before hsub
      have := Span.precedes_iff.1 hbefore.1
      have := hb.start_le_stop hf
      exact ⟨a, ha, hbefore, by omega, hle⟩

/-! ### The output -/

/-- What comes behind a place is what the edits of all patches make of it. -/
theorem rewrites_weave (hf : Candidate.AllForward fixes) {chosen : List Candidate}
    (hfits : ∀ a ∈ chosen, a.Fits source fixes)
    (hapart : chosen.Pairwise fun a b => a.span.stop < b.span.start)
    {before rest : List Char} (hsource : source = before ++ rest)
    (hstart : ∀ a ∈ chosen, width before ≤ a.span.start) :
    Edit.Rewrites (width before) (chosen.flatMap (·.fix.edits)) rest
      (Patch.weave source (chosen.map (Candidate.patch source)) (width before)) := by
  -- The cursor has passed over `before`, so that `rest` is still to come.
  induction chosen generalizing before rest with
  | nil =>
    rw [List.map_nil, Patch.weave, hsource, dropBytes?_width]
    exact .done
  | cons a as ih =>
    obtain ⟨ha, has⟩ := List.pairwise_cons.1 hapart
    obtain ⟨upto, mid, behind, hcut, hupto, hstop, hr⟩ := (hfits a (.head as)).exists_mid hf
    have hle := hstart a (.head as)
    obtain ⟨kept, rfl, rfl⟩ := exists_between (hsource.symm.trans hcut) (by omega)
    have hkept : slice source (width before) a.span.start = kept := by
      rw [← hupto, width_append, hsource, slice_width]
    have hrest := @ih (fun b hb => hfits b (.tail a hb)) has (before ++ kept ++ mid) behind
      (by rw [hcut, List.append_assoc _ mid]) fun b hb => by
        have := ha b hb
        rw [width_append]
        omega
    have hwidth : width (before ++ kept ++ mid) = a.span.stop := by
      rw [width_append]
      omega
    rw [hwidth] at hrest
    rw [List.map_cons, Patch.weave, List.flatMap_cons, Candidate.patch_span, hkept,
      List.append_assoc]
    apply Edit.Rewrites.keep
    rw [← width_append, hupto]
    exact hr.append (hstop.symm ▸ hrest)

/-- The output is what all edits of the chosen fixes make of the source. -/
theorem rewrites_output (source : List Char) (hf : Candidate.AllForward fixes) :
    Edit.Rewrites 0 ((chosenFixes source fixes).flatMap (·.fix.edits)) source
      (applyFixes source fixes).output := by
  have hchosen : Selection (Candidate.Fits source fixes) (chosenFixes source fixes) :=
    selection_chosenFixes hf
  rw [applyFixes_eq]
  exact rewrites_weave hf hchosen.candidates hchosen.apart (List.nil_append source).symm
    fun a _ => Nat.zero_le _

/-! ### The order of the violations -/

/-- What a fix replaces in a source, if there is one that can be merged. -/
def mergedSpan? (source : List Char) (fix : Option EditSet) : Option Span :=
  (fix.bind (·.merged? source)).map (·.1)

/-- The patches for a span come from the fixes for it. -/
theorem filter_filterMap_ofFix? (fixes : List (Option EditSet)) (span : Span) :
    (fixes.filterMap fun fix => fix.bind (Patch.ofFix? source)).filter (·.span = span) =
      (fixes.filter (mergedSpan? source · = some span)).filterMap
        fun fix => fix.bind (Patch.ofFix? source) := by
  rw [List.filter_filterMap, List.filterMap_filter]
  congr 1
  funext fix
  cases fix with
  | none => rfl
  | some fix =>
    cases hm : fix.merged? source with
    | none => simp [mergedSpan?, Patch.ofFix?, hm]
    | some r => simp [mergedSpan?, Patch.ofFix?, hm, Option.filter]

/-- A pass depends only on the order of the fixes within each merged span. -/
theorem applyFixes_congr {fixes' : List (Option EditSet)}
    (h : ∀ span, fixes'.filter (mergedSpan? source · = some span) =
      fixes.filter (mergedSpan? source · = some span)) :
    applyFixes source fixes' = applyFixes source fixes := by
  have hsort : Span.sortOn Patch.span
      (fixes'.filterMap fun fix => fix.bind (Patch.ofFix? source)) =
      Span.sortOn Patch.span (fixes.filterMap fun fix => fix.bind (Patch.ofFix? source)) :=
    Span.sortOn_congr fun span => by
      rw [filter_filterMap_ofFix?, filter_filterMap_ofFix?, h]
  rw [applyFixes, applyFixes, hsort]

/-- Violations that have no fix, or one without edits, make no difference. -/
theorem applyFixes_filter {p : Option EditSet → Bool}
    (h : ∀ fix ∈ fixes, ¬p fix → ∀ set ∈ fix, set.edits = []) :
    applyFixes source (fixes.filter p) = applyFixes source fixes := by
  refine applyFixes_congr fun span => ?_
  rw [List.filter_filter]
  refine List.filter_congr fun fix hfix => ?_
  cases hp : p fix with
  | true => exact Bool.and_true _
  | false =>
    have hnone : mergedSpan? source fix = none := by
      cases fix with
      | none => rfl
      | some set =>
        have hempty := h _ hfix (by rw [hp]; exact Bool.false_ne_true) set rfl
        rw [mergedSpan?, Option.bind_some, EditSet.merged?, EditSet.span?_eq_none_iff.2 hempty]
        rfl
    rw [hnone]
    rfl

/-! ### A pass -/

/-- A pass carries out fixes that stand apart, and every other one that fits touches or overlaps one
    of them ahead of it. All edits of those fixes come into the output, each at its own place. The
    order of the violations matters only within a merged span, and those that have no fix, or one
    without edits, do not matter at all. -/
theorem applyFixes_selects (source : List Char) (fixes : List (Option EditSet))
    (hf : Candidate.AllForward fixes) :
    (∃ chosen, Selection (Candidate.Fits source fixes) chosen ∧
      ((∃ a, Candidate.Fits source fixes a) → chosen ≠ []) ∧
      (applyFixes source fixes).applied = chosen.length ∧
      Edit.Rewrites 0 (chosen.flatMap (·.fix.edits)) source (applyFixes source fixes).output ∧
      Edit.appliedInTurn (chosen.flatMap (·.fix.edits)) source =
        some (applyFixes source fixes).output) ∧
    (∀ fixes', fixes'.Perm fixes →
      (∀ span, fixes'.filter (mergedSpan? source · = some span) =
        fixes.filter (mergedSpan? source · = some span)) →
      applyFixes source fixes' = applyFixes source fixes) ∧
    ∀ p : Option EditSet → Bool, (∀ fix ∈ fixes, ¬p fix → ∀ set ∈ fix, set.edits = []) →
      applyFixes source (fixes.filter p) = applyFixes source fixes := by
  have hchosen : Selection (Candidate.Fits source fixes) (chosenFixes source fixes) :=
    selection_chosenFixes hf
  have hr := rewrites_output source hf
  refine ⟨⟨chosenFixes source fixes, hchosen, ?_, by rw [applyFixes_eq], hr,
    hr.appliedInTurn width_nil⟩, fun _ _ => applyFixes_congr, fun _ => applyFixes_filter⟩
  -- A fix that fits is chosen itself, or a chosen one keeps it out.
  rintro ⟨a, ha⟩ hnil
  obtain ⟨b, hb, -⟩ := hchosen.reached a ha (hnil ▸ List.not_mem_nil)
  exact List.not_mem_nil (hnil ▸ hb)

/-- A deletion behind an insertion that it touches is left for later. -/
theorem applyFixes_selects_touching :
    ∃ insertion deletion : EditSet, ∃ chosen, insertion.edits = [.insertAfter 1 ['x']] ∧
      deletion.edits = [.delete ⟨1, 3⟩] ∧
      Candidate.AllForward [some deletion, none, some insertion] ∧
      Selection (Candidate.Fits ['a', 'é', 'b'] [some deletion, none, some insertion]) chosen ∧
      chosen.length = 1 ∧
      Edit.appliedInTurn (chosen.flatMap (·.fix.edits)) ['a', 'é', 'b'] =
        some ['a', 'x', 'é', 'b'] := by
  let insertion : EditSet := ⟨[.insertAfter 1 ['x']], by decide, by decide⟩
  let deletion : EditSet := ⟨[.delete ⟨1, 3⟩], by decide, by decide⟩
  obtain ⟨⟨chosen, hsel, -, happlied, -, hturn⟩, -⟩ := applyFixes_selects ['a', 'é', 'b']
    [some deletion, none, some insertion] (by decide)
  exact ⟨insertion, deletion, chosen, rfl, rfl, by decide, hsel, happlied.symm.trans rfl,
    hturn.trans (congrArg some rfl)⟩

/-- A fix without edits has all its bounds in the source, and is not chosen although no other fix is
    there to touch it. -/
theorem not_selection_empty :
    ¬∃ chosen, Selection (Candidate.Placed ['a'] [some ⟨[], .nil, .nil⟩]) chosen ∧
      (applyFixes ['a'] [some ⟨[], .nil, .nil⟩]).applied = chosen.length := by
  rintro ⟨chosen, hsel, happlied⟩
  obtain rfl : chosen = [] := List.eq_nil_of_length_eq_zero happlied.symm
  obtain ⟨a, ha, -⟩ := hsel.reached ⟨⟨[], .nil, .nil⟩, 0⟩
    ⟨rfl, fun _ he => absurd he List.not_mem_nil⟩ List.not_mem_nil
  exact List.not_mem_nil ha

end FormCodemod
