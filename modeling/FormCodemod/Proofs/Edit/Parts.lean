import FormCodemod.Proofs.Edit.Deleting
import FormCodemod.Proofs.Syntax.Layout

/-!
# Parts of a rewritten text

Edits that do not reach over the bounds of a span rewrite the text of the span on its own, and it
comes out between what they make of the text ahead of it and of the text behind it (`Edit.Turns`).
So it can be told what becomes of one part of a text, however many edits there are in others.

* `Rewrites.cut`: a text can be rewritten in two parts, wherever no edit stands in the way;
* `Turns.eq_outside`, `Turns.eq_inserted`: the part, if the edits in it delete, and if one inserts;
* `LaidOut.spares`: a node that is deleted does not reach over the bounds of those not inside it.
-/

namespace FormCodemod

open Text

namespace Edit

/-- The edit stands on one side of the place. -/
def Spares (e : Edit) (place : Nat) : Prop :=
  e.span.stop ≤ place ∨ place ≤ e.span.start

/-- The edit stands in the span. One that ends where the span begins does not. -/
def LiesIn (s : Span) (e : Edit) : Prop :=
  s.start < e.span.stop ∧ e.span.stop ≤ s.stop

instance (s : Span) (e : Edit) : Decidable (e.LiesIn s) :=
  inferInstanceAs (Decidable (_ ∧ _))

/-- The edits turn the text of a span into another one, between what they make of the text ahead and
    of the text behind. -/
def Turns (es : List Edit) (text out : List Char) (s : Span) (part' : List Char) : Prop :=
  ∃ before part behind before' behind', text = before ++ (part ++ behind) ∧
    width before = s.start ∧ s.start + width part = s.stop ∧
    out = before' ++ (part' ++ behind') ∧
    Rewrites 0 (es.filter (·.span.stop ≤ s.start)) before before' ∧
    Rewrites s.start (es.filter (LiesIn s)) part part' ∧
    Rewrites s.stop (es.filter (s.stop < ·.span.stop)) behind behind'

variable {offset place : Nat} {es : List Edit} {e : Edit} {text out front behind part' : List Char}
  {s : Span} {gone : List Span}

/-! ### Cuts -/

theorem Rewrites.forward (h : Rewrites offset es text out) :
    ∀ e ∈ es, e.span.start ≤ e.span.stop := by
  induction h with
  | done => exact nofun
  | edit kept consumed hstart hstop _ ih => exact List.forall_mem_cons.2 ⟨by omega, ih⟩

/-- What stands ahead of all edits can be taken away. -/
theorem Rewrites.drop (h : Rewrites offset es (front ++ behind) out)
    (hes : ∀ e ∈ es, offset + width front ≤ e.span.start) :
    ∃ behind', out = front ++ behind' ∧ Rewrites (offset + width front) es behind behind' := by
  cases es with
  | nil => exact ⟨behind, h.eq_of_nil, .done⟩
  | cons e es =>
    obtain ⟨kept, consumed, rest, out', hcut, rfl, hstart, hstop, hrest⟩ := h.exists_of_cons
    have hle := hes e List.mem_cons_self
    obtain ⟨mid, rfl, rfl⟩ := exists_between hcut (by omega)
    rw [width_append] at hstart
    exact ⟨mid ++ (e.text ++ out'), List.append_assoc .., .edit mid consumed (by omega) hstop hrest⟩

/-- At a place over which no edit reaches, the text can be cut in two. Edits that end there go with
    the first part. -/
theorem Rewrites.cut (h : Rewrites offset es (front ++ behind) out)
    (hplace : offset + width front = place) (hes : ∀ e ∈ es, e.Spares place) :
    ∃ front' behind', out = front' ++ behind' ∧
      Rewrites offset (es.filter (·.span.stop ≤ place)) front front' ∧
      Rewrites place (es.filter (place < ·.span.stop)) behind behind' := by
  induction es generalizing offset front out with
  | nil => exact ⟨front, behind, h.eq_of_nil, .done, .done⟩
  | cons e es ih =>
    obtain ⟨kept, consumed, rest, out', hcut, rfl, hstart, hstop, hrest⟩ := h.exists_of_cons
    obtain ⟨he, hes⟩ := List.forall_mem_cons.1 hes
    by_cases hle : e.span.stop ≤ place
    · -- The edit goes with the first part, and the cut is in the rest.
      obtain ⟨mid, rfl, rfl⟩ : ∃ mid, front = (kept ++ consumed) ++ mid ∧ rest = mid ++ behind := by
        rw [← List.append_assoc] at hcut
        exact exists_between hcut.symm (by rw [width_append]; omega)
      rw [width_append, width_append] at hplace
      obtain ⟨mid', behind', rfl, hmid, hbehind⟩ := ih hrest (by omega) hes
      rw [List.filter_cons_of_pos (by simpa using hle),
        List.filter_cons_of_neg (by simpa using hle)]
      refine ⟨kept ++ (e.text ++ mid'), behind', by simp only [List.append_assoc], ?_, hbehind⟩
      rw [List.append_assoc]
      exact .edit kept consumed hstart hstop hmid
    · -- The edit stands behind the place, and so do all later ones.
      have hbehind : ∀ f ∈ e :: es, place ≤ f.span.start ∧ place < f.span.stop := by
        have hfirst := he.resolve_left hle
        refine List.forall_mem_cons.2 ⟨by omega, fun f hf => ?_⟩
        have := hrest.le_start f hf
        have := hrest.forward f hf
        omega
      obtain ⟨behind', hout, hrewrites⟩ := h.drop fun f hf => by
        have := hbehind f hf
        omega
      rw [List.filter_eq_nil_iff.2 fun f hf => by simpa using (hbehind f hf).2,
        List.filter_eq_self.2 fun f hf => by simpa using (hbehind f hf).2]
      exact ⟨front, behind', hout, .done, hplace ▸ hrewrites⟩

/-- An edit that consumes a byte at most stands on one side of every place. -/
theorem spares_of_stop_le (h : e.span.stop ≤ e.span.start + 1) (place : Nat) : e.Spares place := by
  unfold Spares
  omega

/-! ### Parts -/

/-- The text of a span is rewritten on its own if no edit reaches over its bounds. -/
theorem Rewrites.exists_turns (h : Rewrites 0 es text out) (hs : s.FitsIn text)
    (hes : ∀ e ∈ es, e.Spares s.start ∧ e.Spares s.stop) : ∃ part', Turns es text out s part' := by
  have hforward := hs.forward
  obtain ⟨before, part, behind, htext, hbefore, hpart⟩ :
      ∃ before part behind, text = before ++ (part ++ behind) ∧ width before = s.start ∧
        s.start + width part = s.stop := by
    obtain ⟨before, behind, h⟩ := slice?_eq_some_iff.1 hs.slice?_eq
    exact ⟨before, _, behind, h⟩
  rw [htext] at h
  obtain ⟨before', rest', rfl, hahead, hrest⟩ := h.cut (by rw [Nat.zero_add]; exact hbefore)
    fun e he => (hes e he).1
  obtain ⟨part', behind', rfl, hin, hbehind⟩ := hrest.cut hpart
    fun e he => (hes e (List.mem_filter.1 he).1).2
  -- What is cut off behind the first place is cut once more, so each part has its own edits.
  have hliesIn : (es.filter (s.start < ·.span.stop)).filter (·.span.stop ≤ s.stop) =
      es.filter (LiesIn s) := by
    rw [List.filter_filter]
    refine List.filter_congr fun e _ => ?_
    simp [LiesIn, and_comm]
  have hlater : (es.filter (s.start < ·.span.stop)).filter (s.stop < ·.span.stop) =
      es.filter (s.stop < ·.span.stop) := by
    rw [List.filter_filter]
    refine List.filter_congr fun e _ => ?_
    rw [← Bool.decide_and, decide_eq_decide]
    omega
  exact ⟨part', before, part, behind, before', behind', htext, hbefore, hpart, rfl, hahead,
    hliesIn ▸ hin, hlater ▸ hbehind⟩

theorem Turns.rewrites (h : Turns es text out s part') :
    s.start + width (slice text s.start s.stop) = s.stop ∧
      Rewrites s.start (es.filter (LiesIn s)) (slice text s.start s.stop) part' := by
  obtain ⟨before, part, behind, before', behind', rfl, hbefore, hpart, rfl, -, hin, -⟩ := h
  have hslice := slice_width before part behind
  rw [hbefore, hpart] at hslice
  rw [hslice]
  exact ⟨hpart, hin⟩

/-- An edit that consumes text of the span stands in it. -/
theorem Turns.liesIn (h : Turns es text out s part') (he : e ∈ es) {n : Nat} (hn : s.start ≤ n)
    (hlt : n < s.stop) (hstart : e.span.start ≤ n) (hstop : n < e.span.stop) : e.LiesIn s := by
  obtain ⟨_, _, _, _, _, -, -, -, -, -, -, hbehind⟩ := h
  refine ⟨by omega, Nat.le_of_not_lt fun hover => ?_⟩
  have := hbehind.le_start e (List.mem_filter.2 ⟨he, by simpa using hover⟩)
  omega

/-- Where the edits in the span only delete, what is outside their spans is left of it. -/
theorem Turns.eq_outside (h : Turns es text out s part')
    (hdelete : ∀ e ∈ es, e.LiesIn s → e.text = []) :
    part' = outside (es.map span) s.start (slice text s.start s.stop) := by
  obtain ⟨hstop, hrewrites⟩ := h.rewrites
  rw [hrewrites.eq_outside fun e he => by
    obtain ⟨he, hin⟩ := List.mem_filter.1 he
    exact hdelete e he (of_decide_eq_true hin)]
  refine outside_congr fun n hle hlt => ⟨?_, ?_⟩
  · rintro ⟨t, ht, hcovers⟩
    exact ⟨t, (List.filter_sublist.map span).subset ht, hcovers⟩
  · rintro ⟨t, ht, hstart, hstop⟩
    obtain ⟨e, he, rfl⟩ := List.mem_map.1 ht
    have hin := h.liesIn he hle (by omega) hstart hstop
    exact ⟨e.span, List.mem_map_of_mem (List.mem_filter.2 ⟨he, decide_eq_true hin⟩), hstart, hstop⟩

/-- Deletions and one insertion that stands elsewhere: what is outside the deleted spans is left. -/
theorem Turns.eq_outside_of_perm {inserted : List Char}
    (hes : es.Perm (.insertAfter place inserted :: gone.map .delete))
    (hplace : ¬(s.start < place ∧ place ≤ s.stop)) (h : Turns es text out s part') :
    part' = outside gone s.start (slice text s.start s.stop) := by
  rw [h.eq_outside fun e he hin => ?_]
  · refine outside_congr fun n _ _ => ?_
    -- The empty span of the insertion covers nothing.
    have hspans : (es.map span).Perm (.empty place :: gone) := by
      simpa [Function.comp_def, span] using hes.map span
    simp only [Span.Covers, hspans.mem_iff, List.mem_cons, or_and_right, exists_or,
      exists_eq_left, Span.empty]
    rw [or_iff_right (by omega)]
  · rcases List.mem_cons.1 (hes.mem_iff.1 he) with rfl | he
    · exact absurd hin hplace
    · obtain ⟨t, -, rfl⟩ := List.mem_map.1 he
      rfl

/-- Deletions and one insertion in the span: ahead and behind of where the text is put in, what is
    outside the deleted spans is left. -/
theorem Turns.eq_inserted {inserted : List Char}
    (hes : es.Perm (.insertAfter place inserted :: gone.map .delete))
    (hplace : s.start < place ∧ place ≤ s.stop) (h : Turns es text out s part') :
    ∃ front behind, slice text s.start s.stop = front ++ behind ∧ s.start + width front = place ∧
      part' = outside gone s.start front ++ (inserted ++ outside gone place behind) := by
  obtain ⟨hstop, hrewrites⟩ := h.rewrites
  have hinsertion : (insertAfter place inserted).LiesIn s := hplace
  have hfilter : (es.filter (LiesIn s)).Perm (.insertAfter place inserted ::
      (gone.filter fun t => LiesIn s (.delete t)).map .delete) := by
    have hsplit := hes.filter fun e => decide (LiesIn s e)
    rwa [List.filter_cons, if_pos (decide_eq_true hinsertion), List.filter_map] at hsplit
  have hcovers : ∀ n, s.start ≤ n → n < s.stop →
      (Span.Covers (gone.filter fun t => LiesIn s (.delete t)) n ↔ Span.Covers gone n) := by
    refine fun n hle hlt => ⟨?_, ?_⟩
    · exact fun ⟨t, ht, hcovers⟩ => ⟨t, (List.mem_filter.1 ht).1, hcovers⟩
    · rintro ⟨t, ht, hstart, hstop⟩
      have he : .delete t ∈ es := hes.mem_iff.2 (List.mem_cons_of_mem _ (List.mem_map_of_mem ht))
      have hin := h.liesIn he hle hlt hstart hstop
      exact ⟨t, List.mem_filter.2 ⟨ht, decide_eq_true hin⟩, hstart, hstop⟩
  obtain ⟨front, behind, hcut, hfront, rfl⟩ := hrewrites.eq_inserted hfilter
  rw [hcut, width_append] at hstop
  have hahead : outside (gone.filter fun t => LiesIn s (.delete t)) s.start front =
      outside gone s.start front :=
    outside_congr fun n hle hlt => hcovers n hle (by omega)
  have hbehind : outside (gone.filter fun t => LiesIn s (.delete t)) place behind =
      outside gone place behind :=
    outside_congr fun n hle hlt => hcovers n (by omega) (by omega)
  exact ⟨front, behind, hcut, hfront, by rw [hahead, hbehind]⟩

end Edit

/-- Of a part of a text from which one piece is gone, the pieces on both sides are left. -/
theorem Text.outside_of_within {text : List Char} {s t : Span} {gone : List Span}
    (hs : s.FitsIn text) (ht : t.FitsIn text) (hin : s.Within t)
    (hcovers : ∀ n, t.start ≤ n → n < t.stop → (Span.Covers gone n ↔ s.start ≤ n ∧ n < s.stop)) :
    outside gone t.start (slice text t.start t.stop) =
      slice text t.start s.start ++ slice text s.stop t.stop := by
  obtain ⟨hstart, hstop⟩ := hin
  have hforward := hs.forward
  -- The four bounds cut the text in five.
  obtain ⟨before, rest, htext, hbefore⟩ := ht.start
  obtain ⟨upto, rest', hcut, hupto⟩ := hs.start
  obtain ⟨upto', rest'', hcut', hupto'⟩ := hs.stop
  obtain ⟨upto'', behind, hcut'', hupto''⟩ := ht.stop
  obtain ⟨a, rfl, rfl⟩ := exists_between (htext.symm.trans hcut) (by omega)
  obtain ⟨b, rfl, rfl⟩ := exists_between (hcut.symm.trans hcut') (by omega)
  obtain ⟨d, rfl, rfl⟩ := exists_between (hcut'.symm.trans hcut'') (by omega)
  subst htext
  simp only [width_append] at hupto hupto' hupto''
  have hwhole := slice_width before (a ++ (b ++ d)) behind
  have hfirst := slice_width before a (b ++ (d ++ behind))
  have hlast := slice_width (before ++ (a ++ b)) d behind
  simp only [List.append_assoc, width_append] at hwhole hfirst hlast
  rw [show width before + (width a + width b) = s.stop by omega,
    show s.stop + width d = t.stop by omega] at hlast
  rw [show width before + (width a + (width b + width d)) = t.stop by omega, hbefore] at hwhole
  rw [show width before + width a = s.start by omega, hbefore] at hfirst
  rw [hwhole, hfirst, hlast, outside_append, outside_append]
  rw [outside_eq_self fun n hle hlt => by rw [hcovers n hle (by omega)]; omega,
    outside_eq_nil fun n hle hlt => (hcovers n (by omega) (by omega)).2 (by omega),
    outside_eq_self fun n hle hlt => by rw [hcovers n (by omega) (by omega)]; omega,
    List.nil_append]

/-! ### Nodes -/

namespace Syntax.Node.LaidOut

variable {text : List Char} {tree n deleted : Node} {path path' : List Nat}

/-- Nodes of which neither is inside the other share no text, unless one covers its name. -/
theorem not_overlaps (hlaid : tree.LaidOut text) (h : tree.at? path = some n)
    (h' : tree.at? path' = some deleted) (hname : n.coversName = false)
    (hname' : deleted.coversName = false) (hle : ¬path <+: path') (hge : ¬path' <+: path) :
    ¬n.span.overlaps deleted.span := by
  intro hover
  rcases hlaid.nested path (mem_paths_of_at? h) path' (mem_paths_of_at? h') n h deleted h' hover
    with ⟨hle', -⟩ | ⟨hge', -⟩ | ⟨-, -, hnames⟩
  · exact hle hle'
  · exact hge hge'
  · simp [hname, hname'] at hnames

/-- A node that is deleted does not reach over the bounds of one that is not inside it. -/
theorem spares (hlaid : tree.LaidOut text) (h : tree.at? path = some n)
    (h' : tree.at? path' = some deleted) (hname : n.coversName = false)
    (hname' : deleted.coversName = false)
    (hge : n.span.overlaps deleted.span → ¬path' <+: path) :
    (Edit.delete deleted.span).Spares n.span.start ∧
      (Edit.delete deleted.span).Spares n.span.stop := by
  have hforward := (hlaid.fit n (mem_preorder_of_at? h)).forward
  unfold Edit.Spares
  dsimp only [Edit.span]
  by_cases hover : n.span.overlaps deleted.span
  · -- The deleted node is inside the other one.
    have hle : path <+: path' :=
      Decidable.of_not_not fun hle => hlaid.not_overlaps h h' hname hname' hle (hge hover) hover
    obtain ⟨hstart, hstop⟩ := hlaid.within_of_overlaps h h' hle hover
    omega
  · rw [Span.overlaps_iff] at hover
    omega

end Syntax.Node.LaidOut

end FormCodemod
