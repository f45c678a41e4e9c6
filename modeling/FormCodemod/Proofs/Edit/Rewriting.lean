import FormCodemod.Edit.Set
import FormCodemod.Proofs.Text.Place

/-!
# Rewriting

What edits make of a text, said without carrying them out (`Edit.Rewrites`): the text falls into
pieces that are kept and pieces that are consumed, each at the place that its edit names, and the
result has the kept pieces and, in the place of the consumed ones, the texts of the edits. Nothing
else is in it, and all of it is in the order of the edits.

* `Rewrites.append`, `Rewrites.split`: a text can be rewritten part by part;
* `Rewrites.appliedInTurn`: carrying the edits out from the last one to the first gives the result;
* `exists_rewrites`: there is a result if the bounds of the edits are places of the text.
-/

namespace FormCodemod.Edit

open Text

/-- The edits, in order, turn a text that begins at an offset into another: what stands ahead of an
    edit is kept, what it consumes gives way to its text, and the rest is left to those behind. -/
inductive Rewrites : Nat → List Edit → List Char → List Char → Prop
  | done {offset : Nat} {text : List Char} : Rewrites offset [] text text
  | edit {offset : Nat} {e : Edit} {es : List Edit} (kept consumed : List Char)
      {rest out : List Char} :
      e.span.start = offset + width kept → e.span.stop = e.span.start + width consumed →
      Rewrites e.span.stop es rest out →
      Rewrites offset (e :: es) (kept ++ (consumed ++ rest)) (kept ++ (e.text ++ out))

variable {offset : Nat} {e f : Edit} {es fs : List Edit} {s s' out out' : List Char}

/-! ### Part by part -/

theorem Rewrites.eq_of_nil (h : Rewrites offset [] s out) : out = s := by
  cases h
  rfl

/-- What the first edit does, and what it leaves to the others. -/
theorem Rewrites.exists_of_cons (h : Rewrites offset (e :: es) s out) :
    ∃ kept consumed rest out', s = kept ++ (consumed ++ rest) ∧
      out = kept ++ (e.text ++ out') ∧ e.span.start = offset + width kept ∧
      e.span.stop = e.span.start + width consumed ∧ Rewrites e.span.stop es rest out' := by
  cases h with
  | edit kept consumed hstart hstop hrest => exact ⟨_, _, _, _, rfl, rfl, hstart, hstop, hrest⟩

/-- What stands ahead of all edits is kept. -/
theorem Rewrites.keep {kept : List Char} (h : Rewrites (offset + width kept) es s out) :
    Rewrites offset es (kept ++ s) (kept ++ out) := by
  cases h with
  | done => exact .done
  | edit kept' consumed hstart hstop hrest =>
    rw [← List.append_assoc kept, ← List.append_assoc kept]
    exact .edit _ consumed (by rw [width_append]; omega) hstop hrest

theorem Rewrites.append (h : Rewrites offset es s out)
    (h' : Rewrites (offset + width s) fs s' out') :
    Rewrites offset (es ++ fs) (s ++ s') (out ++ out') := by
  induction h with
  | done => exact h'.keep
  | @edit offset e es kept consumed rest out hstart hstop hrest ih =>
    have hwidth : offset + width (kept ++ (consumed ++ rest)) = e.span.stop + width rest := by
      rw [width_append, width_append]
      omega
    simp only [List.append_assoc, List.cons_append]
    exact .edit _ _ hstart hstop (ih (hwidth ▸ h'))

/-- What stands behind all edits is kept. -/
theorem Rewrites.extend (h : Rewrites offset es s out) (behind : List Char) :
    Rewrites offset es (s ++ behind) (out ++ behind) := by
  have hnone : Rewrites (offset + width s) [] behind behind := .done
  rw [← List.append_nil es]
  exact h.append hnone

/-- The text and the result fall apart where an edit begins. -/
theorem Rewrites.split (h : Rewrites offset (es ++ f :: fs) s out) :
    ∃ ahead behind ahead' behind', s = ahead ++ behind ∧ out = ahead' ++ behind' ∧
      f.span.start = offset + width ahead ∧ Rewrites offset es ahead ahead' ∧
      Rewrites f.span.start (f :: fs) behind behind' := by
  induction es generalizing offset s out with
  | nil =>
    cases h with
    | @edit _ _ _ kept consumed rest out hstart hstop hrest =>
      exact ⟨kept, consumed ++ rest, kept, f.text ++ out, rfl, rfl, hstart, .done,
        .edit [] consumed rfl hstop hrest⟩
  | cons e es ih =>
    cases h with
    | @edit _ _ _ kept consumed rest out hstart hstop hrest =>
      obtain ⟨ahead, behind, ahead', behind', rfl, rfl, hf, hes, hfs⟩ := ih hrest
      refine ⟨kept ++ (consumed ++ ahead), behind, kept ++ (e.text ++ ahead'), behind', ?_, ?_, ?_,
        .edit _ _ hstart hstop hes, hfs⟩
      · simp only [List.append_assoc]
      · simp only [List.append_assoc]
      · rw [width_append, width_append]
        omega

/-- The text and the result have what stands behind the last edit in common. -/
theorem Rewrites.trim (h : Rewrites offset es s out) (hne : es ≠ []) :
    ∃ mid behind out', s = mid ++ behind ∧ out = out' ++ behind ∧
      offset + width mid = (es.getLast hne).span.stop ∧ Rewrites offset es mid out' := by
  induction h with
  | done => exact absurd rfl hne
  | @edit offset e es kept consumed rest out hstart hstop hrest ih =>
    cases es with
    | nil =>
      -- The last edit: all that it leaves is behind.
      cases hrest
      refine ⟨kept ++ (consumed ++ []), rest, kept ++ (e.text ++ []), ?_, ?_, ?_,
        .edit _ _ hstart hstop .done⟩
      · simp only [List.append_assoc, List.nil_append]
      · simp only [List.append_assoc, List.nil_append]
      · rw [List.getLast_singleton, width_append, width_append, width_nil]
        omega
    | cons f fs =>
      obtain ⟨mid, behind, out', rfl, rfl, hlast, hfs⟩ := ih (List.cons_ne_nil f fs)
      refine ⟨kept ++ (consumed ++ mid), behind, kept ++ (e.text ++ out'), ?_, ?_, ?_,
        .edit _ _ hstart hstop hfs⟩
      · simp only [List.append_assoc]
      · simp only [List.append_assoc]
      · rw [List.getLast_cons (List.cons_ne_nil f fs), ← hlast, width_append, width_append]
        omega

/-- The texts of insertions at the beginning come out in their order. -/
theorem Rewrites.insertions (h : Rewrites offset (es ++ fs) s out)
    (hes : ∀ e ∈ es, e.span = .empty offset) :
    ∃ out', out = es.flatMap (·.text) ++ out' ∧ Rewrites offset fs s out' := by
  induction es generalizing s out with
  | nil => exact ⟨out, rfl, h⟩
  | cons e es ih =>
    cases h with
    | @edit _ _ _ kept consumed rest out hstart hstop hrest =>
      rw [hes e (.head es)] at hstart hstop hrest
      simp only [Span.empty] at hstart hstop hrest
      obtain rfl : kept = [] := eq_nil_of_width_eq_zero (by omega)
      obtain rfl : consumed = [] := eq_nil_of_width_eq_zero (by omega)
      obtain ⟨out', rfl, hfs⟩ := ih hrest fun e he => hes e (.tail _ he)
      exact ⟨out', by simp only [List.flatMap_cons, List.nil_append, List.append_assoc], hfs⟩

/-- The text of an edit at the beginning, if there is one, comes out in the place of what the edit
    consumes. -/
theorem Rewrites.replacement (h : Rewrites offset (es ++ fs) s out)
    (hes : ∀ e ∈ es, e.span.start = offset) (hone : es.Pairwise fun _ _ => False) :
    ∃ consumed rest out', s = consumed ++ rest ∧ out = es.flatMap (·.text) ++ out' ∧
      Rewrites (offset + width consumed) fs rest out' := by
  cases es with
  | nil => exact ⟨[], s, out, rfl, rfl, h⟩
  | cons e es =>
    obtain rfl : es = [] := List.eq_nil_iff_forall_not_mem.2 (List.pairwise_cons.1 hone).1
    cases h with
    | @edit _ _ _ kept consumed rest out hstart hstop hrest =>
      have he := hes e (.head _)
      obtain rfl : kept = [] := eq_nil_of_width_eq_zero (by omega)
      rw [hstop, he] at hrest
      refine ⟨consumed, rest, out, rfl, ?_, hrest⟩
      simp only [List.flatMap_singleton, List.nil_append]

/-! ### In turn -/

theorem appliedInTurn_cons (e : Edit) (es : List Edit) (source : List Char) :
    appliedInTurn (e :: es) source = (appliedInTurn es source).bind e.appliedTo :=
  rfl

/-- An edit puts its text in the place of what it consumes. -/
theorem appliedTo_append {before consumed behind : List Char} (hstart : e.span.start = width before)
    (hstop : e.span.stop = e.span.start + width consumed) :
    e.appliedTo (before ++ (consumed ++ behind)) = some (before ++ (e.text ++ behind)) := by
  have hdrop : dropBytes? e.span.stop (before ++ (consumed ++ behind)) = some behind := by
    rw [← List.append_assoc, hstop, hstart, ← width_append, dropBytes?_width]
  rw [appliedTo, if_pos (by omega), hdrop, hstart, takeBytes?_width, Option.bind_some,
    Option.map_some, List.append_assoc]

/-- Carried out from the last one to the first, the edits give the result. -/
theorem Rewrites.appliedInTurn (h : Rewrites offset es s out) {before : List Char}
    (hb : width before = offset) :
    appliedInTurn es (before ++ s) = some (before ++ out) := by
  induction h generalizing before with
  | done => rfl
  | @edit offset e es kept consumed rest out hstart hstop _ ih =>
    -- The edits behind `e` leave all up to its end as it is, so it finds what it consumes in place.
    have hrest := @ih (before ++ (kept ++ consumed)) (by
      rw [width_append, width_append]
      omega)
    simp only [List.append_assoc] at hrest
    rw [appliedInTurn_cons, hrest, Option.bind_some, ← List.append_assoc before kept,
      ← List.append_assoc before kept]
    exact appliedTo_append (by rw [width_append]; omega) hstop

/-! ### Bounds -/

theorem Rewrites.isPlace (h : Rewrites offset es s out) {before : List Char}
    (hb : width before = offset) :
    ∀ e ∈ es, IsPlace (before ++ s) e.span.start ∧ IsPlace (before ++ s) e.span.stop := by
  induction h generalizing before with
  | done => exact fun _ he => absurd he List.not_mem_nil
  | @edit offset e es kept consumed rest out hstart hstop _ ih =>
    have hsplit : before ++ (kept ++ (consumed ++ rest)) =
        before ++ (kept ++ consumed) ++ rest := by
      simp only [List.append_assoc]
    intro f hf
    rcases List.mem_cons.1 hf with rfl | hf
    · constructor
      · exact ⟨before ++ kept, consumed ++ rest, by simp only [List.append_assoc],
          by rw [width_append]; omega⟩
      · exact ⟨before ++ (kept ++ consumed), rest, hsplit,
          by rw [width_append, width_append]; omega⟩
    · rw [hsplit]
      exact ih (by rw [width_append, width_append]; omega) f hf

/-- Edits that run forward, stand apart and have places for bounds rewrite a text that begins ahead
    of them. -/
theorem exists_rewrites {before : List Char} (hb : width before = offset)
    (hforward : ∀ e ∈ es, e.span.start ≤ e.span.stop)
    (hapart : es.Pairwise fun e f => e.span.stop ≤ f.span.start)
    (hstart : ∀ e ∈ es, offset ≤ e.span.start)
    (hplace : ∀ e ∈ es, IsPlace (before ++ s) e.span.start ∧ IsPlace (before ++ s) e.span.stop) :
    ∃ out, Rewrites offset es s out := by
  induction es generalizing offset before s with
  | nil => exact ⟨s, .done⟩
  | cons e es ih =>
    obtain ⟨he, hes⟩ := List.pairwise_cons.1 hapart
    obtain ⟨⟨upto, rest, hcut, hupto⟩, upto', rest', hcut', hupto'⟩ := hplace e (.head es)
    -- The bounds of `e` cut the text in three: what is kept, what `e` consumes, and the rest, from
    -- which the others go on.
    have hle := hstart e (.head es)
    have hfw := hforward e (.head es)
    obtain ⟨kept, rfl, rfl⟩ := exists_between hcut (by omega)
    obtain ⟨consumed, rfl, rfl⟩ := exists_between (hcut.symm.trans hcut') (by omega)
    obtain ⟨out, hout⟩ := ih hupto' (fun f hf => hforward f (.tail e hf)) hes he fun f hf => by
      rw [← hcut']
      exact hplace f (.tail e hf)
    simp only [width_append] at hupto hupto'
    exact ⟨kept ++ (e.text ++ out), .edit kept consumed (by omega) (by omega) hout⟩

end FormCodemod.Edit
