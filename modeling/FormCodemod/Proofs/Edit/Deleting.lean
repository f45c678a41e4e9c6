import FormCodemod.Proofs.Edit.Rewriting

/-!
# Deleting

Edits that only delete leave the characters that begin in none of their spans (`Text.outside`). How
the spans are ordered, and whether they touch or lie at the ends of the text, makes no difference.
So one insertion among deletions parts the text in two, from each of which the same spans are gone
(`Rewrites.eq_mended`).

The argument is about what a list of spans covers (`Span.Covers`): two lists that cover the same
places of a text leave the same of it (`outside_congr`).
-/

namespace FormCodemod

open Text

/-- The byte at the offset lies in one of the spans. -/
def Span.Covers (gone : List Span) (offset : Nat) : Prop :=
  ∃ s ∈ gone, s.start ≤ offset ∧ offset < s.stop

instance (gone : List Span) (offset : Nat) : Decidable (Span.Covers gone offset) :=
  inferInstanceAs (Decidable (∃ s ∈ gone, _))

/-- The characters of a text that begin in none of the spans; the text itself begins at an
    offset. -/
def Text.outside (gone : List Span) : Nat → List Char → List Char
  | _, [] => []
  | offset, c :: cs =>
    if Span.Covers gone offset then outside gone (offset + c.utf8Size) cs
    else c :: outside gone (offset + c.utf8Size) cs

/-- What is left of a text in two parts, with another text put in between them. -/
def Text.mended (gone : List Span) (front inserted behind : List Char) : List Char :=
  outside gone 0 front ++ (inserted ++ outside gone (width front) behind)

variable {gone gone' : List Span} {offset : Nat} {text s out : List Char} {e : Edit}
  {es : List Edit}

/-! ### What spans leave of a text -/

namespace Text

theorem outside_append (gone : List Span) (offset : Nat) (s t : List Char) :
    outside gone offset (s ++ t) = outside gone offset s ++ outside gone (offset + width s) t := by
  induction s generalizing offset with
  | nil => rfl
  | cons c cs ih =>
    rw [List.cons_append, outside, outside, ih, width_cons, Nat.add_assoc]
    split
    · rfl
    · rfl

/-- Only what is covered within the text matters. -/
theorem outside_congr
    (h : ∀ n, offset ≤ n → n < offset + width text → (Span.Covers gone n ↔ Span.Covers gone' n)) :
    outside gone offset text = outside gone' offset text := by
  induction text generalizing offset with
  | nil => rfl
  | cons c cs ih =>
    rw [width_cons] at h
    have hpos := c.utf8Size_pos
    have hhead := h offset (Nat.le_refl _) (by omega)
    rw [outside, outside, ih fun n hn hlt => h n (by omega) (by omega)]
    simp only [hhead]

theorem outside_eq_self (h : ∀ n, offset ≤ n → n < offset + width text → ¬Span.Covers gone n) :
    outside gone offset text = text := by
  induction text generalizing offset with
  | nil => rfl
  | cons c cs ih =>
    rw [width_cons] at h
    have hpos := c.utf8Size_pos
    rw [outside, if_neg (h offset (Nat.le_refl _) (by omega)),
      ih fun n hn hlt => h n (by omega) (by omega)]

theorem outside_eq_nil (h : ∀ n, offset ≤ n → n < offset + width text → Span.Covers gone n) :
    outside gone offset text = [] := by
  induction text generalizing offset with
  | nil => rfl
  | cons c cs ih =>
    rw [width_cons] at h
    have hpos := c.utf8Size_pos
    rw [outside, if_pos (h offset (Nat.le_refl _) (by omega)),
      ih fun n hn hlt => h n (by omega) (by omega)]

end Text

/-! ### Edits that delete -/

namespace Edit

theorem Rewrites.le_start (h : Rewrites offset es s out) : ∀ e ∈ es, offset ≤ e.span.start := by
  induction h with
  | done => exact nofun
  | edit kept consumed hstart hstop _ ih =>
    refine List.forall_mem_cons.2 ⟨by omega, fun e he => ?_⟩
    have := ih e he
    omega

theorem Rewrites.stop_le (h : Rewrites offset es s out) :
    ∀ e ∈ es, e.span.stop ≤ offset + width s := by
  induction h with
  | done => exact nofun
  | edit kept consumed hstart hstop _ ih =>
    simp only [width_append]
    refine List.forall_mem_cons.2 ⟨by omega, fun e he => ?_⟩
    have := ih e he
    omega

/-- Edits without a text leave what is outside their spans. -/
theorem Rewrites.eq_outside (h : Rewrites offset es s out) (hdelete : ∀ e ∈ es, e.text = []) :
    out = outside (es.map Edit.span) offset s := by
  induction h with
  | done => exact (outside_eq_self fun n _ _ => by simp [Span.Covers]).symm
  | @edit offset e es kept consumed rest out hstart hstop hrest ih =>
    obtain ⟨htext, hdelete⟩ := List.forall_mem_cons.1 hdelete
    have hlater := hrest.le_start
    -- Later edits begin behind `e`, and `e` covers just what it consumes.
    have hkept : outside ((e :: es).map Edit.span) offset kept = kept := by
      refine outside_eq_self fun n hn hlt => ?_
      rintro ⟨s, hs, hle, -⟩
      obtain ⟨f, hf, rfl⟩ := List.mem_map.1 hs
      rcases List.mem_cons.1 hf with rfl | hf
      · omega
      · have := hlater f hf
        omega
    have hconsumed : outside ((e :: es).map Edit.span) (offset + width kept) consumed = [] :=
      outside_eq_nil fun n hn hlt => ⟨e.span, List.mem_cons_self, by omega, by omega⟩
    have hbehind : outside ((e :: es).map Edit.span) e.span.stop rest =
        outside (es.map Edit.span) e.span.stop rest := by
      refine outside_congr fun n hn _ => ⟨?_, ?_⟩
      · rintro ⟨s, hs, hle, hlt⟩
        rcases List.mem_cons.1 hs with rfl | hs
        · omega
        · exact ⟨s, hs, hle, hlt⟩
      · exact fun ⟨s, hs, hle, hlt⟩ => ⟨s, List.mem_cons_of_mem _ hs, hle, hlt⟩
    have hstop' : offset + width kept + width consumed = e.span.stop := by omega
    rw [outside_append, outside_append, hkept, hconsumed, hstop', hbehind, ← ih hdelete, htext]

/-- Deletions and one insertion: ahead and behind of where the text is put in, what is outside the
    deleted spans is left. -/
theorem Rewrites.eq_inserted {place : Nat} {inserted : List Char}
    (hes : es.Perm (.insertAfter place inserted :: gone.map .delete))
    (h : Rewrites offset es s out) :
    ∃ front behind, s = front ++ behind ∧ offset + width front = place ∧
      out = outside gone offset front ++ (inserted ++ outside gone place behind) := by
  obtain ⟨earlier, later, rfl⟩ :=
    List.append_of_mem (hes.mem_iff.2 (List.mem_cons_self (a := insertAfter place inserted)))
  have hperm : (earlier ++ later).Perm (gone.map .delete) :=
    List.Perm.cons_inv (List.perm_middle.symm.trans hes)
  have hdelete : ∀ e ∈ earlier ++ later, e.text = [] := by
    intro e he
    obtain ⟨s, -, rfl⟩ := List.mem_map.1 (hperm.mem_iff.1 he)
    rfl
  have hcovers : ∀ n, Span.Covers gone n ↔
      Span.Covers (earlier.map span) n ∨ Span.Covers (later.map span) n := by
    intro n
    have hspans : ((earlier ++ later).map span).Perm gone := by
      simpa [Function.comp_def, span] using hperm.map span
    simp only [Span.Covers, ← hspans.mem_iff, List.map_append, List.mem_append, or_and_right,
      exists_or]
  obtain ⟨front, behind, front', behind', rfl, rfl, hwidth, hearlier, hrest⟩ := h.split
  have hrest : Rewrites place ([insertAfter place inserted] ++ later) behind behind' := hrest
  obtain ⟨out', rfl, hlater⟩ := hrest.insertions fun e he => List.mem_singleton.1 he ▸ rfl
  have hwidth : place = offset + width front := hwidth
  refine ⟨front, behind, rfl, hwidth.symm, ?_⟩
  rw [hearlier.eq_outside fun e he => hdelete e (List.mem_append_left _ he),
    hlater.eq_outside fun e he => hdelete e (List.mem_append_right _ he), List.flatMap_singleton]
  -- The earlier edits end ahead of the insertion, and the later ones begin behind it.
  congr 1
  · refine outside_congr fun n _ hlt => ?_
    rw [hcovers, or_iff_left]
    rintro ⟨s, hs, hle, -⟩
    obtain ⟨e, he, rfl⟩ := List.mem_map.1 hs
    have := hlater.le_start e he
    omega
  · congr 1
    refine outside_congr fun n hle _ => ?_
    rw [hcovers, or_iff_right]
    rintro ⟨s, hs, -, hlt⟩
    obtain ⟨e, he, rfl⟩ := List.mem_map.1 hs
    have := hearlier.stop_le e he
    omega

theorem Rewrites.eq_mended {place : Nat} {inserted : List Char}
    (hes : es.Perm (.insertAfter place inserted :: gone.map .delete)) (h : Rewrites 0 es s out) :
    ∃ front behind, s = front ++ behind ∧ width front = place ∧
      out = mended gone front inserted behind := by
  obtain ⟨front, behind, rfl, hwidth, rfl⟩ := h.eq_inserted hes
  rw [Nat.zero_add] at hwidth
  exact ⟨front, behind, rfl, hwidth, by rw [mended, hwidth]⟩

end Edit

end FormCodemod
