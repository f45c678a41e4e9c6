import FormCodemod.Span

/-!
# Items in the order of their spans

Edits, and whole fixes, are taken in the order of the spans that they consume. The sort is stable:
items with the same span keep the order in which they were given.

* `Span.sortOn`: items in the order of their spans;
* `Span.apartOn`: of sorted items, the first ones that do not touch each other.
-/

namespace FormCodemod.Span

theorem precedes_iff {s t : Span} :
    s.precedes t ↔ s.start < t.start ∨ s.start = t.start ∧ s.stop ≤ t.stop := by
  simp [precedes]

theorem precedes_refl (s : Span) : s.precedes s :=
  precedes_iff.2 (.inr ⟨rfl, Nat.le_refl _⟩)

theorem precedes_trans {s t u : Span} (hst : s.precedes t) (htu : t.precedes u) :
    s.precedes u := by
  rw [precedes_iff] at *
  omega

theorem precedes_of_not_precedes {s t : Span} (h : ¬s.precedes t) : t.precedes s := by
  rw [precedes_iff] at *
  omega

theorem precedes_antisymm {s t : Span} (hst : s.precedes t) (hts : t.precedes s) : s = t := by
  obtain ⟨a, b⟩ := s
  obtain ⟨c, d⟩ := t
  simp only [precedes_iff, Span.mk.injEq] at *
  omega

variable {α : Type}

/-- Puts an item ahead of the items of a sorted list that do not precede it strictly. -/
def insertOn (span : α → Span) (a : α) : List α → List α
  | [] => [a]
  | b :: bs => if (span a).precedes (span b) then a :: b :: bs else b :: insertOn span a bs

/-- Items in the order of their spans; equal spans keep their order. -/
def sortOn (span : α → Span) : List α → List α
  | [] => []
  | a :: as => insertOn span a (sortOn span as)

/-- The first items of a sorted list that stand apart from each other and from the place at which
    the last one ended. -/
def apartOn (span : α → Span) : Option Nat → List α → List α
  | _, [] => []
  | stop, a :: as =>
    if stop.any ((span a).start ≤ ·) then apartOn span stop as
    else a :: apartOn span (some (span a).stop) as

variable {span : α → Span}

theorem perm_insertOn (a : α) (l : List α) : (insertOn span a l).Perm (a :: l) := by
  induction l with
  | nil => exact .refl _
  | cons b bs ih =>
    rw [insertOn]
    split
    · exact .refl _
    · exact (ih.cons b).trans (.swap a b bs)

theorem perm_sortOn (l : List α) : (sortOn span l).Perm l := by
  induction l with
  | nil => exact .nil
  | cons a as ih => exact (perm_insertOn a _).trans (ih.cons a)

theorem pairwise_insertOn {r : α → α → Prop} {a : α} {l : List α} (hr : ∀ b ∈ l, r a b)
    (h : l.Pairwise fun b c => (span b).precedes (span c) ∧ (span b = span c → r b c)) :
    (insertOn span a l).Pairwise fun b c =>
      (span b).precedes (span c) ∧ (span b = span c → r b c) := by
  induction l with
  | nil => exact List.pairwise_singleton _ _
  | cons b bs ih =>
    obtain ⟨hb, hbs⟩ := List.pairwise_cons.1 h
    rw [insertOn]
    split
    case isTrue hab =>
      refine List.pairwise_cons.2 ⟨fun c hc => ⟨?_, fun _ => hr c hc⟩, h⟩
      rcases List.mem_cons.1 hc with rfl | hc
      · exact hab
      · exact precedes_trans hab (hb c hc).1
    case isFalse hab =>
      refine List.pairwise_cons.2 ⟨fun c hc => ?_, ih (fun c hc => hr c (.tail b hc)) hbs⟩
      rcases List.mem_cons.1 ((perm_insertOn a bs).mem_iff.1 hc) with rfl | hc
      · exact ⟨precedes_of_not_precedes hab, fun heq => absurd (heq ▸ precedes_refl _) hab⟩
      · exact hb c hc

/-- Sorted items are in the order of their spans, and those with the same span keep every relation
    in which they were given. -/
theorem pairwise_sortOn {r : α → α → Prop} {l : List α} (h : l.Pairwise r) :
    (sortOn span l).Pairwise fun a b =>
      (span a).precedes (span b) ∧ (span a = span b → r a b) := by
  induction l with
  | nil => exact .nil
  | cons a as ih =>
    obtain ⟨ha, has⟩ := List.pairwise_cons.1 h
    exact pairwise_insertOn (fun b hb => ha b ((perm_sortOn as).mem_iff.1 hb)) (ih has)

theorem pairwise_precedes_sortOn (l : List α) :
    (sortOn span l).Pairwise fun a b => (span a).precedes (span b) :=
  (pairwise_sortOn (List.pairwise_of_forall fun _ _ => trivial)).imp And.left

end FormCodemod.Span
