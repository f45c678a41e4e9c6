import FormCodemod.Edit.Set
import FormCodemod.Proofs.Span.Selection
import Mathlib.Tactic.ByContra

/-!
# The layout of an edit set

`EditSet.ofList` looks at neighbours only, after a stable sort. That is enough: in a set no edit
begins before any one ahead of it ends, and edits whose spans run forward are refused only if two of
them overlap (`ofList_layout`). Whether edits go together thus does not hang on their order.

Overlapping is symmetric, so that it does not matter whether the edits are looked at as they were
given or as they are sorted (`compatible_iff_pairwise`); and in the order of their spans, a conflict
is an overlap (`overlaps_of_precedes`).
-/

namespace FormCodemod

namespace Span

variable {s t : Span}

/-- A span that begins before one ahead of it ends shares text with it, or is a place inside it. An
    empty span at the place where both begin would stand ahead of the other one. -/
theorem overlaps_of_precedes (hst : s.precedes t) (ht : t.start ≤ t.stop) (h : t.start < s.stop) :
    s.overlaps t := by
  rw [precedes_iff] at hst
  rw [overlaps_iff]
  omega

end Span

/-- Two items, one ahead of the other, have different positions also where the list is put into
    another order. -/
theorem exists_positions {α : Type} {l l' : List α} {a b : α} (hp : l.Perm l')
    (h : [a, b].Sublist l) :
    ∃ i j, ∃ (hi : i < l'.length) (hj : j < l'.length), i ≠ j ∧ l'[i] = a ∧ l'[j] = b := by
  by_contra hne
  -- Otherwise no two items of the other list are these two, in either order.
  have hl' : l'.Pairwise fun x y => ¬(x = a ∧ y = b ∨ x = b ∧ y = a) := by
    rw [List.pairwise_iff_getElem]
    rintro i j hi hj hij (⟨ha, hb⟩ | ⟨hb, ha⟩)
    · exact hne ⟨i, j, hi, hj, Nat.ne_of_lt hij, ha, hb⟩
    · exact hne ⟨j, i, hj, hi, Nat.ne_of_gt hij, ha, hb⟩
  have hl := (hp.pairwise_iff fun hxy hyx => hxy (hyx.symm.imp And.symm And.symm)).2 hl'
  exact List.pairwise_iff_forall_sublist.1 hl h (.inl ⟨rfl, rfl⟩)

namespace Edit

/-- The spans of the edits have their bounds in order. -/
def AllForward (edits : List Edit) : Prop :=
  ∀ e ∈ edits, e.span.start ≤ e.span.stop

instance (edits : List Edit) : Decidable (AllForward edits) :=
  inferInstanceAs (Decidable (∀ e ∈ edits, e.span.start ≤ e.span.stop))

/-- No two edits at different positions overlap. -/
def Compatible (edits : List Edit) : Prop :=
  ∀ i j (hi : i < edits.length) (hj : j < edits.length), i ≠ j →
    ¬edits[i].span.overlaps edits[j].span

variable {edits edits' : List Edit}

theorem AllForward.of_perm (h : AllForward edits) (hp : edits'.Perm edits) : AllForward edits' :=
  fun e he => h e (hp.mem_iff.1 he)

theorem compatible_iff_pairwise :
    Compatible edits ↔ edits.Pairwise fun e f => ¬e.span.overlaps f.span := by
  rw [List.pairwise_iff_getElem]
  constructor
  · exact fun h i j hi hj hij => h i j hi hj (Nat.ne_of_lt hij)
  · intro h i j hi hj hij
    rcases Nat.lt_or_gt_of_ne hij with hlt | hlt
    · exact h i j hi hj hlt
    · -- The pair is looked at in the other order.
      rw [Span.overlaps_comm]
      exact h j i hj hi hlt

instance (edits : List Edit) : Decidable (Compatible edits) :=
  decidable_of_iff _ compatible_iff_pairwise.symm

theorem compatible_perm (hp : edits'.Perm edits) : Compatible edits' ↔ Compatible edits := by
  rw [compatible_iff_pairwise, compatible_iff_pairwise]
  exact hp.pairwise_iff fun h => by rwa [Span.overlaps_comm]

theorem perm_sort (edits : List Edit) : (sort edits).Perm edits :=
  Span.perm_sortOn edits

theorem exists_of_firstConflict?_eq_some {c : EditConflict} (h : firstConflict? edits = some c) :
    ∃ e f, [e, f].Sublist edits ∧ c = ⟨e.span, f.span⟩ ∧ f.span.start < e.span.stop := by
  induction edits with
  | nil => cases h
  | cons e es ih =>
    cases es with
    | nil => cases h
    | cons f fs =>
      rw [firstConflict?] at h
      split at h
      case isTrue hlt =>
        cases h
        exact ⟨e, f, ((List.nil_sublist fs).cons_cons f).cons_cons e, rfl, hlt⟩
      case isFalse =>
        obtain ⟨e', f', hsub, hc, hlt⟩ := ih h
        exact ⟨e', f', hsub.cons e, hc, hlt⟩

end Edit

namespace EditSet

variable {edits : List Edit}

theorem ofList_eq_error_iff {c : EditConflict} :
    ofList edits = .error c ↔ Edit.firstConflict? (Edit.sort edits) = some c := by
  rw [ofList]
  split <;> simp_all

theorem edits_of_ofList {set : EditSet} (h : ofList edits = .ok set) :
    set.edits = Edit.sort edits := by
  rw [ofList] at h
  split at h
  · cases h
  · cases h
    rfl

/-- How a set stands to the edits that it was made of. -/
structure LaysOut (set : EditSet) (edits : List Edit) : Prop where
  perm : set.edits.Perm edits
  sorted : set.edits.Pairwise fun e f => e.span.precedes f.span
  /-- Edits with the same span keep their order. -/
  stable : ∀ s, set.edits.filter (·.span = s) = edits.filter (·.span = s)
  /-- No edit begins before any one ahead of it ends. -/
  apart : set.edits.Pairwise fun e f => e.span.stop ≤ f.span.start
  compatible : Edit.Compatible set.edits

theorem compatible_edits (set : EditSet) : Edit.Compatible set.edits :=
  Edit.compatible_iff_pairwise.2 (set.apart.imp Span.not_overlaps_of_le)

theorem laysOut_of_ofList {set : EditSet} (h : ofList edits = .ok set) : set.LaysOut edits where
  perm := by
    rw [edits_of_ofList h]
    exact Edit.perm_sort edits
  sorted := set.sorted
  stable s := by
    rw [edits_of_ofList h]
    exact Span.filter_sortOn s edits
  apart := set.apart
  compatible := set.compatible_edits

/-- The spans of a conflict are those of two of the edits, and overlap. -/
theorem overlaps_of_ofList_eq_error {c : EditConflict} (hf : Edit.AllForward edits)
    (h : ofList edits = .error c) :
    ∃ i j, ∃ (hi : i < edits.length) (hj : j < edits.length), i ≠ j ∧
      edits[i].span = c.first ∧ edits[j].span = c.second ∧ c.first.overlaps c.second := by
  obtain ⟨e, f, hsub, rfl, hlt⟩ :=
    Edit.exists_of_firstConflict?_eq_some (ofList_eq_error_iff.1 h)
  obtain ⟨i, j, hi, hj, hij, rfl, rfl⟩ := exists_positions (Edit.perm_sort edits) hsub
  have hprec : (edits[i]).span.precedes (edits[j]).span :=
    List.pairwise_iff_forall_sublist.1 (Span.pairwise_precedes_sortOn edits) hsub
  exact ⟨i, j, hi, hj, hij, rfl, rfl,
    Span.overlaps_of_precedes hprec (hf _ (List.getElem_mem hj)) hlt⟩

/-- Edits make a set if and only if no two of them overlap. -/
theorem exists_ofList_eq_ok_iff (hf : Edit.AllForward edits) :
    (∃ set, ofList edits = .ok set) ↔ Edit.Compatible edits := by
  constructor
  · rintro ⟨set, h⟩
    have hl := laysOut_of_ofList h
    exact (Edit.compatible_perm hl.perm).1 hl.compatible
  · intro hc
    cases h : ofList edits with
    | ok set => exact ⟨set, rfl⟩
    | error c =>
      obtain ⟨i, j, hi, hj, hij, hfirst, hsecond, hover⟩ := overlaps_of_ofList_eq_error hf h
      rw [← hfirst, ← hsecond] at hover
      exact absurd hover (hc i j hi hj hij)

/-- A set has the edits it was made of, in the order of their spans, and no one begins before any
    one ahead of it ends. Edits that run forward make a set just if no two of them overlap, however
    they are ordered, and a conflict names two that do. -/
theorem ofList_layout (edits : List Edit) :
    (∀ set, ofList edits = .ok set → set.LaysOut edits) ∧
      (Edit.AllForward edits →
        ((∃ set, ofList edits = .ok set) ↔ Edit.Compatible edits) ∧
        (∀ edits', edits'.Perm edits →
          ((∃ set, ofList edits' = .ok set) ↔ ∃ set, ofList edits = .ok set)) ∧
        ∀ c, ofList edits = .error c →
          ∃ i j, ∃ (hi : i < edits.length) (hj : j < edits.length), i ≠ j ∧
            edits[i].span = c.first ∧ edits[j].span = c.second ∧
              c.first.overlaps c.second) := by
  refine ⟨fun set => laysOut_of_ofList, fun hf => ⟨exists_ofList_eq_ok_iff hf, ?_, ?_⟩⟩
  · intro edits' hp
    rw [exists_ofList_eq_ok_iff hf, exists_ofList_eq_ok_iff (hf.of_perm hp)]
    exact Edit.compatible_perm hp
  · exact fun c => overlaps_of_ofList_eq_error hf

/-- Insertions at the border of a deletion go together with it, also where it was given first; one
    inside it does not. -/
theorem ofList_layout_border :
    (∃ set, ofList [.delete ⟨2, 4⟩, .insertAfter 4 ['b'], .insertAfter 2 ['a']] = .ok set ∧
      set.LaysOut [.delete ⟨2, 4⟩, .insertAfter 4 ['b'], .insertAfter 2 ['a']]) ∧
    ¬∃ set, ofList [.delete ⟨2, 4⟩, .insertAfter 3 ['c']] = .ok set := by
  constructor
  · have hl := ofList_layout [.delete ⟨2, 4⟩, .insertAfter 4 ['b'], .insertAfter 2 ['a']]
    obtain ⟨set, h⟩ := (hl.2 (by decide)).1.2 (by decide)
    exact ⟨set, h, hl.1 set h⟩
  · rw [((ofList_layout _).2 (by decide)).1]
    decide

end EditSet

end FormCodemod
