import FormCodemod.Proofs.Syntax.Path
import FormCodemod.Proofs.Text.Token

/-!
# Spans in a text

A span *fits in* a text if its bounds are places of the text and stand in order (`Span.FitsIn`). The
spans of tokens fit in the text that they were found in (`fitsIn_of_tokenAfter?`).

That those of a tree fit in its text (`Node.SpansFit`) is all that the rules rely on for their edits
to be carried out.
-/

namespace FormCodemod

open FormCodemod.Text

/-- The bounds of the span are places of the text, in this order. -/
structure Span.FitsIn (text : List Char) (s : Span) : Prop where
  forward : s.start ≤ s.stop
  start : IsPlace text s.start
  stop : IsPlace text s.stop

instance (text : List Char) (s : Span) : Decidable (s.FitsIn text) :=
  decidable_of_iff (s.start ≤ s.stop ∧ IsPlace text s.start ∧ IsPlace text s.stop)
    ⟨fun ⟨h, h', h''⟩ => ⟨h, h', h''⟩, fun ⟨h, h', h''⟩ => ⟨h, h', h''⟩⟩

/-- A span that fits in a text still does when it is extended to where another one stops. -/
theorem Span.FitsIn.extend {text : List Char} {s t : Span} (hs : s.FitsIn text)
    (ht : t.FitsIn text) : FitsIn text ⟨s.start, max s.stop t.stop⟩ where
  forward := Nat.le_trans hs.forward (Nat.le_max_left _ _)
  start := hs.start
  stop := by
    rcases Nat.le_total s.stop t.stop with hle | hle
    · rw [Nat.max_eq_right hle]
      exact ht.stop
    · rw [Nat.max_eq_left hle]
      exact hs.stop

/-- What is at a span that fits in a text is a part of it. -/
theorem Span.FitsIn.slice?_eq {text : List Char} {s : Span} (hs : s.FitsIn text) :
    slice? text s.start s.stop = some (slice text s.start s.stop) := by
  obtain ⟨before, rest, rfl, hstart⟩ := hs.start
  obtain ⟨upto, behind, hcut, hstop⟩ := hs.stop
  have hforward := hs.forward
  obtain ⟨mid, rfl, rfl⟩ := exists_between hcut (by omega)
  rw [width_append] at hstop
  rw [slice, slice?_eq_some_iff.2 ⟨before, behind, rfl, hstart, by omega⟩, Option.getD_some]

theorem Text.IsPlace.fitsIn_empty {text : List Char} {n : Nat} (h : IsPlace text n) :
    (Span.empty n).FitsIn text :=
  ⟨Nat.le_refl n, h, h⟩

namespace Syntax.Node

/-- The spans of all nodes fit in the text. -/
def SpansFit (text : List Char) (tree : Node) : Prop :=
  ∀ n ∈ tree.preorder, n.span.FitsIn text

instance (text : List Char) (tree : Node) : Decidable (tree.SpansFit text) :=
  inferInstanceAs (Decidable (∀ n ∈ _, _))

end Syntax.Node

namespace Text

variable {text : List Char} {offset n : Nat} {t : PlainToken} {s : Span}

theorem IsPlace.le_width (h : IsPlace text n) : n ≤ width text := by
  obtain ⟨before, behind, rfl, rfl⟩ := h
  rw [width_append]
  exact Nat.le_add_right _ _

/-- A part of a text fits in it. -/
theorem fitsIn_append {before mid behind : List Char} (htext : text = before ++ (mid ++ behind))
    (hstart : width before = s.start) (hstop : s.start + width mid = s.stop) : s.FitsIn text where
  forward := by omega
  start := ⟨before, mid ++ behind, htext, hstart⟩
  stop := ⟨before ++ mid, behind, by rw [htext, List.append_assoc],
    by rw [width_append, hstart, hstop]⟩

theorem fitsIn_of_tokenAt? (h : tokenAt? text offset = some t) :
    Span.FitsIn text ⟨t.start, t.stop⟩ := by
  obtain ⟨before, behind, htext, hwidth, hstart⟩ := exists_of_tokenAt? h
  exact fitsIn_append htext (hwidth.trans hstart.symm) rfl

theorem fitsIn_of_tokenAfter? (h : tokenAfter? text offset = some t) :
    Span.FitsIn text ⟨t.start, t.stop⟩ := by
  obtain ⟨before, behind, htext, hwidth, -⟩ := exists_of_tokenAfter? h
  exact fitsIn_append htext hwidth rfl

/-- The text of a span says that it fits, unless it is empty. -/
theorem fitsIn_of_slice (h : slice text s.start s.stop ≠ []) : s.FitsIn text := by
  cases hslice : slice? text s.start s.stop with
  | none =>
    rw [slice, hslice] at h
    exact absurd rfl h
  | some mid =>
    obtain ⟨before, behind, htext, hstart, hstop⟩ := slice?_eq_some_iff.1 hslice
    exact fitsIn_append htext hstart hstop

end Text

end FormCodemod
