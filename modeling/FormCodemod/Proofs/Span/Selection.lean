import FormCodemod.Span.Order

/-!
# Sorting and selecting by spans

What comes out of `Span.sortOn` depends only on the order of the items within each span
(`sortOn_congr`), and what comes out of `Span.apartOn` leaves no item out without a reason: one that
is chosen ahead of it reaches up to it (`exists_reaching`).

Neither looks at anything but the spans, so both commute with maps that keep them
(`sortOn_map`, `apartOn_map`). An item can thus be followed together with what it was made from.
-/

namespace FormCodemod.Span

variable {α β : Type} {span : α → Span}

/-! ### Sorting -/

theorem filter_insertOn (s : Span) (a : α) (l : List α) :
    (insertOn span a l).filter (span · = s) = (a :: l).filter (span · = s) := by
  induction l with
  | nil => rfl
  | cons b bs ih =>
    rw [insertOn]
    split
    case isTrue => rfl
    case isFalse hab =>
      have hne : span a ≠ span b := fun heq => hab (heq ▸ precedes_refl _)
      rw [List.filter_cons, ih]
      by_cases hb : span b = s
      · rw [List.filter_cons_of_neg (by simpa [hb] using hne), List.filter_cons_of_neg
          (by simpa [hb] using hne), List.filter_cons]
      · simp [List.filter_cons, hb]

/-- Items with the same span keep their order. -/
theorem filter_sortOn (s : Span) (l : List α) :
    (sortOn span l).filter (span · = s) = l.filter (span · = s) := by
  induction l with
  | nil => rfl
  | cons a as ih => rw [sortOn, filter_insertOn, List.filter_cons, List.filter_cons, ih]

/-- Sorted lists with the same items in each span are the same. -/
theorem eq_of_filter_eq {l l' : List α} (h : l.Pairwise fun a b => (span a).precedes (span b))
    (h' : l'.Pairwise fun a b => (span a).precedes (span b))
    (hf : ∀ s, l.filter (span · = s) = l'.filter (span · = s)) : l = l' := by
  have hmem {a : α} : a ∈ l ↔ a ∈ l' := by
    have := congrArg (a ∈ ·) (hf (span a))
    simpa using this
  induction l generalizing l' with
  | nil =>
    cases l' with
    | nil => rfl
    | cons b bs => exact absurd (hmem.2 (.head bs)) List.not_mem_nil
  | cons a as ih =>
    cases l' with
    | nil => exact absurd (hmem.1 (.head as)) List.not_mem_nil
    | cons b bs =>
      obtain ⟨ha, has⟩ := List.pairwise_cons.1 h
      obtain ⟨hb, hbs⟩ := List.pairwise_cons.1 h'
      -- Each of the two first items stands ahead of the other in a sorted list.
      have hab : (span a).precedes (span b) := by
        rcases List.mem_cons.1 (hmem.2 (.head bs)) with heq | hmem
        · exact heq ▸ precedes_refl _
        · exact ha b hmem
      have hba : (span b).precedes (span a) := by
        rcases List.mem_cons.1 (hmem.1 (.head as)) with heq | hmem
        · exact heq ▸ precedes_refl _
        · exact hb a hmem
      have heq := precedes_antisymm hab hba
      have hfirst := hf (span a)
      rw [List.filter_cons_of_pos (by simp), List.filter_cons_of_pos (by simp [heq])] at hfirst
      obtain ⟨rfl, -⟩ := List.cons.inj hfirst
      have hrest (s : Span) : as.filter (span · = s) = bs.filter (span · = s) := by
        have := hf s
        rw [List.filter_cons, List.filter_cons] at this
        split at this
        · exact (List.cons.inj this).2
        · exact this
      rw [ih has hbs hrest]
      intro c
      have := congrArg (c ∈ ·) (hrest (span c))
      simpa using this

/-- The outcome of sorting depends only on the order of the items within each span. -/
theorem sortOn_congr {l l' : List α} (h : ∀ s, l.filter (span · = s) = l'.filter (span · = s)) :
    sortOn span l = sortOn span l' :=
  eq_of_filter_eq (pairwise_precedes_sortOn l) (pairwise_precedes_sortOn l') fun s => by
    rw [filter_sortOn, filter_sortOn, h]

theorem sortOn_eq_self {l : List α} (h : l.Pairwise fun a b => (span a).precedes (span b)) :
    sortOn span l = l :=
  eq_of_filter_eq (pairwise_precedes_sortOn l) h fun s => filter_sortOn s l

theorem insertOn_map (f : β → α) (b : β) (l : List β) :
    insertOn span (f b) (l.map f) = (insertOn (fun c => span (f c)) b l).map f := by
  induction l with
  | nil => rfl
  | cons c cs ih =>
    rw [List.map_cons, insertOn, insertOn, ih]
    split <;> rfl

theorem sortOn_map (f : β → α) (l : List β) :
    sortOn span (l.map f) = (sortOn (fun b => span (f b)) l).map f := by
  induction l with
  | nil => rfl
  | cons b bs ih => rw [List.map_cons, sortOn, ih, insertOn_map, sortOn]

/-! ### Selecting -/

theorem apartOn_map (f : β → α) (stop : Option Nat) (l : List β) :
    apartOn span stop (l.map f) = (apartOn (fun b => span (f b)) stop l).map f := by
  induction l generalizing stop with
  | nil => rfl
  | cons b bs ih =>
    rw [List.map_cons, apartOn, apartOn, ih, ih]
    split <;> rfl

theorem apartOn_sublist (stop : Option Nat) (l : List α) : (apartOn span stop l).Sublist l := by
  induction l generalizing stop with
  | nil => exact .slnil
  | cons a as ih =>
    rw [apartOn]
    split
    · exact (ih _).cons a
    · exact (ih _).cons_cons a

/-- What is chosen behind a place begins behind it. -/
theorem lt_start_of_mem_apartOn {l : List α} {n : Nat} {a : α}
    (h : l.Pairwise fun a b => (span a).precedes (span b)) (ha : a ∈ apartOn span (some n) l) :
    n < (span a).start := by
  induction l with
  | nil => exact absurd ha List.not_mem_nil
  | cons b bs ih =>
    obtain ⟨hb, hbs⟩ := List.pairwise_cons.1 h
    rw [apartOn] at ha
    split at ha
    case isTrue => exact ih hbs ha
    case isFalse hnb =>
      replace hnb : n < (span b).start := by simpa using hnb
      rcases List.mem_cons.1 ha with rfl | ha
      · exact hnb
      · have := precedes_iff.1 (hb a ((apartOn_sublist _ bs).subset ha))
        omega

/-- The chosen items do not touch each other. -/
theorem pairwise_apartOn {l : List α} (stop : Option Nat)
    (h : l.Pairwise fun a b => (span a).precedes (span b)) :
    (apartOn span stop l).Pairwise fun a b => (span a).stop < (span b).start := by
  induction l generalizing stop with
  | nil => exact .nil
  | cons a as ih =>
    have has := (List.pairwise_cons.1 h).2
    rw [apartOn]
    split
    · exact ih _ has
    · exact List.pairwise_cons.2 ⟨fun b hb => lt_start_of_mem_apartOn has hb, ih _ has⟩

/-- An item that is not chosen begins where the last one before the list ended, or earlier, or there
    is one chosen ahead of it that reaches up to it. -/
theorem exists_reaching {l : List α} {b : α} (stop : Option Nat) (hb : b ∈ l)
    (hnot : b ∉ apartOn span stop l) :
    (∃ n, stop = some n ∧ (span b).start ≤ n) ∨
      ∃ a ∈ apartOn span stop l, [a, b].Sublist l ∧ (span b).start ≤ (span a).stop := by
  induction l generalizing stop with
  | nil => exact absurd hb List.not_mem_nil
  | cons a as ih =>
    rw [apartOn] at hnot ⊢
    split at hnot
    case isTrue ha =>
      rw [if_pos ha]
      rcases List.mem_cons.1 hb with rfl | hb
      · obtain ⟨n, rfl, hn⟩ := (Option.any_eq_true _ _).1 ha
        exact .inl ⟨n, rfl, by simpa using hn⟩
      · refine (ih stop hb hnot).imp_right ?_
        rintro ⟨c, hc, hsub, hle⟩
        exact ⟨c, hc, hsub.cons a, hle⟩
    case isFalse ha =>
      rw [if_neg ha]
      rw [List.mem_cons, not_or] at hnot
      have hbas := (List.mem_cons.1 hb).resolve_left hnot.1
      right
      rcases ih _ hbas hnot.2 with ⟨n, hn, hle⟩ | ⟨c, hc, hsub, hle⟩
      · cases hn
        exact ⟨a, .head _, (List.singleton_sublist.2 hbas).cons_cons a, hle⟩
      · exact ⟨c, .tail a hc, hsub.cons a, hle⟩

end FormCodemod.Span
