import FormCodemod.Proofs.Edit.Layout
import FormCodemod.Proofs.Edit.Rewriting

/-!
# Merging

A set of edits can be carried out as one replacement, which `EditSet.merged?` finds with a cursor
that passes over the source once. What the cursor writes is what the edits make of the part of the
source that it passes over (`weave?_eq_some_iff`), so the replacement does to the source just what
the edits do one at a time (`merged?_replaces`).
-/

namespace FormCodemod

open Text

variable {source text : List Char} {edits : List Edit} {set : EditSet} {span : Span}
  {cursor stop : Nat}

namespace Edit

theorem AllForward.tail {e : Edit} (h : AllForward (e :: edits)) : AllForward edits :=
  fun f hf => h f (.tail e hf)

/-- The greatest end of edits that stand apart is that of the last one. -/
theorem foldl_max_stop {e : Edit} (hf : AllForward (e :: edits))
    (hapart : (e :: edits).Pairwise fun e f => e.span.stop ≤ f.span.start) :
    edits.foldl (fun stop f => max stop f.span.stop) e.span.stop =
      ((e :: edits).getLast (List.cons_ne_nil e edits)).span.stop := by
  induction edits generalizing e with
  | nil => rfl
  | cons f fs ih =>
    obtain ⟨he, hfs⟩ := List.pairwise_cons.1 hapart
    have hlast : max e.span.stop f.span.stop = f.span.stop :=
      Nat.max_eq_right (Nat.le_trans (he f (.head fs)) (hf f (.tail e (.head fs))))
    rw [List.foldl_cons, hlast, ih hf.tail hfs, List.getLast_cons (List.cons_ne_nil f fs)]

end Edit

namespace EditSet

/-- The span of a set runs from the start of its first edit to the end of its last one. -/
theorem span?_eq_some (hf : Edit.AllForward set.edits) (hne : set.edits ≠ []) :
    set.span? =
      some ⟨(set.edits.head hne).span.start, (set.edits.getLast hne).span.stop⟩ := by
  obtain ⟨edits, hsorted, hapart⟩ := set
  cases edits with
  | nil => exact absurd rfl hne
  | cons e es =>
    simp only [span?, List.head_cons]
    rw [Edit.foldl_max_stop hf hapart]

/-- The first edit is the first to begin. -/
theorem head_start_le (hne : set.edits ≠ []) {e : Edit} (he : e ∈ set.edits) :
    (set.edits.head hne).span.start ≤ e.span.start := by
  obtain ⟨edits, hsorted, hapart⟩ := set
  cases edits with
  | nil => exact absurd rfl hne
  | cons f fs =>
    rcases List.mem_cons.1 he with rfl | he
    · exact Nat.le_refl _
    · have := Span.precedes_iff.1 ((List.pairwise_cons.1 hsorted).1 e he)
      rw [List.head_cons]
      omega

theorem span?_eq_none_iff : set.span? = none ↔ set.edits = [] := by
  rw [span?]
  split <;> simp_all

/-- The cursor writes what the edits make of the text that it passes over. -/
theorem weave?_eq_some_iff (hf : Edit.AllForward edits) :
    weave? source edits cursor stop = some text ↔
      ∃ before mid behind, source = before ++ (mid ++ behind) ∧ width before = cursor ∧
        cursor + width mid = stop ∧ Edit.Rewrites cursor edits mid text := by
  induction edits generalizing cursor text with
  | nil =>
    rw [weave?, slice?_eq_some_iff]
    constructor
    · rintro ⟨before, behind, h, hb, hm⟩
      exact ⟨before, text, behind, h, hb, hm, .done⟩
    · rintro ⟨before, mid, behind, h, hb, hm, hr⟩
      cases hr
      exact ⟨before, behind, h, hb, hm⟩
  | cons e es ih =>
    have he : e.span.start ≤ e.span.stop := hf e (.head es)
    simp only [weave?, Option.bind_eq_bind, Option.bind_eq_some_iff, Option.pure_def,
      Option.some.injEq, slice?_eq_some_iff, ih hf.tail]
    constructor
    · rintro ⟨kept, ⟨before, behind, rfl, hb, hk⟩, rest, ⟨upto, mid, behind', h, hu, hm, hr⟩, rfl⟩
      -- What `e` consumes lies between the end of what is kept and the place where the cursor
      -- goes on.
      rw [← List.append_assoc] at h
      obtain ⟨consumed, rfl, rfl⟩ := exists_between h (by rw [width_append]; omega)
      simp only [width_append] at hu
      refine ⟨before, kept ++ (consumed ++ mid), behind', by simp only [List.append_assoc], hb, ?_,
        ?_⟩
      · simp only [width_append]
        omega
      · rw [List.append_assoc]
        exact .edit kept consumed hk.symm (by omega) hr
    · rintro ⟨before, mid, behind, rfl, hb, hm, hr⟩
      cases hr with
      | @edit _ _ _ kept consumed rest out hstart hstop hrest =>
        simp only [width_append] at hm
        refine ⟨kept, ⟨before, consumed ++ rest ++ behind, by simp only [List.append_assoc], hb,
          hstart.symm⟩, out, ⟨before ++ (kept ++ consumed), rest, behind,
          by simp only [List.append_assoc], ?_, by omega, hrest⟩,
          by simp only [List.append_assoc]⟩
        simp only [width_append]
        omega

theorem merged?_eq_some_iff (hf : Edit.AllForward set.edits) :
    set.merged? source = some (span, text) ↔
      set.span? = some span ∧ ∃ before mid behind, source = before ++ (mid ++ behind) ∧
        width before = span.start ∧ span.start + width mid = span.stop ∧
        Edit.Rewrites span.start set.edits mid text := by
  simp only [merged?, Option.bind_eq_bind, Option.bind_eq_some_iff, Option.pure_def,
    Option.some.injEq, Prod.mk.injEq]
  constructor
  · rintro ⟨span, hspan, text, htext, rfl, rfl⟩
    exact ⟨hspan, (weave?_eq_some_iff hf).1 htext⟩
  · rintro ⟨hspan, h⟩
    exact ⟨span, hspan, text, (weave?_eq_some_iff hf).2 h, rfl, rfl⟩

/-- The replacement makes of the source what the edits make of it. -/
theorem rewrites_of_merged? (hf : Edit.AllForward set.edits)
    (h : set.merged? source = some (span, text)) :
    ∃ out, (Edit.replace span text).appliedTo source = some out ∧
      Edit.Rewrites 0 set.edits source out := by
  obtain ⟨-, before, mid, behind, rfl, hb, hm, hr⟩ := (merged?_eq_some_iff hf).1 h
  refine ⟨before ++ (text ++ behind), Edit.appliedTo_append hb.symm hm.symm, ?_⟩
  rw [← hb, ← Nat.zero_add (width before)] at hr
  exact (hr.extend behind).keep

/-- A set can be merged if it has edits whose bounds are all places of the source. -/
theorem isSome_merged?_iff (hf : Edit.AllForward set.edits) :
    (set.merged? source).isSome ↔
      set.edits ≠ [] ∧
        ∀ e ∈ set.edits, IsPlace source e.span.start ∧ IsPlace source e.span.stop := by
  rw [Option.isSome_iff_exists, Prod.exists]
  constructor
  · rintro ⟨span, text, h⟩
    obtain ⟨out, -, hr⟩ := rewrites_of_merged? hf h
    refine ⟨fun hnil => ?_, hr.isPlace width_nil⟩
    have := ((merged?_eq_some_iff hf).1 h).1
    rw [span?_eq_none_iff.2 hnil] at this
    cases this
  · rintro ⟨hne, hplace⟩
    have hspan := span?_eq_some hf hne
    obtain ⟨before, rest, rfl, hb⟩ := (hplace _ (List.head_mem hne)).1
    -- The edits rewrite all that stands behind the start of the first one, and leave what stands
    -- behind the end of the last one as it is.
    obtain ⟨out, hout⟩ := Edit.exists_rewrites hb hf set.apart (fun _ => head_start_le hne) hplace
    obtain ⟨mid, behind, text, rfl, -, hlast, hr⟩ := hout.trim hne
    exact ⟨_, text, (merged?_eq_some_iff hf).2 ⟨hspan, before, mid, behind, rfl, hb, hlast, hr⟩⟩

end EditSet

/-! ### The edits at one place -/

/-- Items of two kinds, none of the second ahead of one of the first. -/
theorem filter_eq_append {α : Type} {p q r : α → Bool} {l : List α}
    (hp : ∀ a ∈ l, p a ↔ q a ∨ r a) (hqr : ∀ a ∈ l, q a → ¬r a)
    (h : l.Pairwise fun a b => r a → ¬q b) : l.filter p = l.filter q ++ l.filter r := by
  induction l with
  | nil => rfl
  | cons a as ih =>
    obtain ⟨ha, has⟩ := List.pairwise_cons.1 h
    have hrest := ih (fun b hb => hp b (.tail a hb)) (fun b hb => hqr b (.tail a hb)) has
    have hpa := hp a (.head as)
    by_cases hq : q a
    · rw [List.filter_cons_of_pos (hpa.2 (.inl hq)), List.filter_cons_of_pos hq,
        List.filter_cons_of_neg (hqr a (.head as) hq), hrest, List.cons_append]
    by_cases hr : r a
    · -- An item of the second kind has none of the first behind it.
      have hnone : as.filter q = [] := List.filter_eq_nil_iff.2 fun b hb => ha b hb hr
      rw [List.filter_cons_of_pos (hpa.2 (.inr hr)), List.filter_cons_of_neg hq,
        List.filter_cons_of_pos hr, hrest, hnone, List.nil_append, List.nil_append]
    · rw [List.filter_cons_of_neg fun h => (hpa.1 h).elim hq hr, List.filter_cons_of_neg hq,
        List.filter_cons_of_neg hr, hrest]

namespace Edit

/-- The edits that consume nothing, at a place. -/
def insertionsAt (offset : Nat) (edits : List Edit) : List Edit :=
  edits.filter fun e => e.span.start = offset ∧ e.span.stop = offset

/-- The edits that consume text from a place on. -/
def replacementsAt (offset : Nat) (edits : List Edit) : List Edit :=
  edits.filter fun e => e.span.start = offset ∧ offset < e.span.stop

theorem span_of_mem_insertionsAt {e : Edit} {offset : Nat} (he : e ∈ insertionsAt offset edits) :
    e.span = .empty offset := by
  have := (List.mem_filter.1 he).2
  rw [decide_eq_true_eq, ← Span.mk.injEq] at this
  exact this

theorem start_of_mem_replacementsAt {e : Edit} {offset : Nat}
    (he : e ∈ replacementsAt offset edits) : e.span.start = offset :=
  (of_decide_eq_true (List.mem_filter.1 he).2).1

/-- An edit that begins at a place consumes nothing, or text from there. -/
theorem mem_insertionsAt_or_replacementsAt {e : Edit} (hf : AllForward edits) (he : e ∈ edits) :
    e ∈ insertionsAt e.span.start edits ∨ e ∈ replacementsAt e.span.start edits := by
  rcases Nat.eq_or_lt_of_le (hf e he) with hstop | hstop
  · exact .inl (List.mem_filter.2 ⟨he, decide_eq_true ⟨rfl, hstop.symm⟩⟩)
  · exact .inr (List.mem_filter.2 ⟨he, decide_eq_true ⟨rfl, hstop⟩⟩)

theorem AllForward.of_ofList (hf : AllForward edits) (h : EditSet.ofList edits = .ok set) :
    AllForward set.edits :=
  hf.of_perm (EditSet.laysOut_of_ofList h).perm

end Edit

namespace EditSet

/-- Insertions at a place stand ahead of what consumes text from there, and both stand between the
    edits that begin earlier and those that begin later. -/
theorem edits_eq_append (set : EditSet) (hf : Edit.AllForward set.edits) (offset : Nat) :
    set.edits =
      set.edits.filter (·.span.start < offset) ++ (Edit.insertionsAt offset set.edits ++
        (Edit.replacementsAt offset set.edits ++
          set.edits.filter (offset < ·.span.start))) := by
  have hsorted := set.sorted.imp Span.precedes_iff.1
  -- The set is cut where the edits begin at the place, then where they consume something, and last
  -- where they begin behind it.
  have hlater : set.edits.filter (offset ≤ ·.span.start) =
      Edit.insertionsAt offset set.edits ++
        set.edits.filter fun e => offset ≤ e.span.start ∧ offset < e.span.stop := by
    refine filter_eq_append (fun e he => ?_) (fun e he => ?_) (hsorted.imp_of_mem
      fun he hf h => ?_)
    all_goals simp only [decide_eq_true_eq]; grind [Edit.AllForward]
  have hlonger : set.edits.filter (fun e => offset ≤ e.span.start ∧ offset < e.span.stop) =
      Edit.replacementsAt offset set.edits ++ set.edits.filter (offset < ·.span.start) := by
    refine filter_eq_append (fun e he => ?_) (fun e he => ?_) (hsorted.imp fun h => ?_)
    all_goals simp only [decide_eq_true_eq]; grind [Edit.AllForward]
  have hall : set.edits.filter (fun _ => true) = set.edits :=
    List.filter_eq_self.2 fun _ _ => rfl
  rw [← hlonger, ← hlater]
  refine hall.symm.trans (filter_eq_append (fun e he => ?_) (fun e he => ?_)
    (hsorted.imp fun h => ?_))
  all_goals simp only [decide_eq_true_eq, true_iff]; omega

theorem insertionsAt_edits (h : ofList edits = .ok set) (offset : Nat) :
    Edit.insertionsAt offset set.edits = Edit.insertionsAt offset edits := by
  have hspan (e : Edit) : decide (e.span.start = offset ∧ e.span.stop = offset) =
      decide (e.span = ⟨offset, offset⟩) := by
    rw [decide_eq_decide, ← Span.mk.injEq]
  simp only [Edit.insertionsAt, hspan]
  exact (laysOut_of_ofList h).stable _

/-- Of edits that do not overlap, at most one consumes text from a place on. -/
theorem pairwise_replacementsAt (set : EditSet) (offset : Nat) :
    (Edit.replacementsAt offset set.edits).Pairwise fun _ _ => False := by
  refine (set.apart.filter _).imp_of_mem fun he hf hle => ?_
  have he := (List.mem_filter.1 he).2
  have hf := (List.mem_filter.1 hf).2
  simp only [decide_eq_true_eq] at he hf
  omega

theorem replacementsAt_edits (h : ofList edits = .ok set) (offset : Nat) :
    Edit.replacementsAt offset set.edits = Edit.replacementsAt offset edits := by
  -- A list of at most one item has no order to lose.
  have hone := pairwise_replacementsAt set offset
  have hperm : (Edit.replacementsAt offset set.edits).Perm (Edit.replacementsAt offset edits) :=
    (laysOut_of_ofList h).perm.filter _
  exact hperm.eq_of_pairwise (fun _ _ _ _ h => h.elim) hone (hperm.pairwise hone id)

/-- At a place, the result has the texts of all insertions, in the order in which they were given,
    and behind them the text of the edit that consumes the source from there. What stands ahead and
    behind is as the edits that begin earlier and later make it. -/
def PartedAt (set : EditSet) (edits : List Edit) (source out : List Char) (offset : Nat) : Prop :=
  ∃ ahead consumed behind ahead' behind',
    source = ahead ++ (consumed ++ behind) ∧ width ahead = offset ∧
    out = ahead' ++ ((Edit.insertionsAt offset edits).flatMap (·.text) ++
      ((Edit.replacementsAt offset edits).flatMap (·.text) ++ behind')) ∧
    Edit.Rewrites 0 (set.edits.filter (·.span.start < offset)) ahead ahead' ∧
    Edit.Rewrites (offset + width consumed) (set.edits.filter (offset < ·.span.start))
      behind behind'

theorem partedAt_of_rewrites (h : ofList edits = .ok set) (hf : Edit.AllForward edits)
    {source out : List Char} (hr : Edit.Rewrites 0 set.edits source out) {offset : Nat}
    (hat : ∃ e ∈ edits, e.span.start = offset) : set.PartedAt edits source out offset := by
  have hone := pairwise_replacementsAt set offset
  rw [replacementsAt_edits h] at hone
  -- The text is cut at the first edit that begins at the place.
  obtain ⟨f, fs, hfs⟩ : ∃ f fs, Edit.insertionsAt offset edits ++
      Edit.replacementsAt offset edits = f :: fs := by
    obtain ⟨e, he, rfl⟩ := hat
    exact List.exists_cons_of_ne_nil (List.ne_nil_of_mem
      (List.mem_append.2 (Edit.mem_insertionsAt_or_replacementsAt hf he)))
  have hstart : f.span.start = offset := by
    have hmem : f ∈ f :: fs := .head fs
    rw [← hfs] at hmem
    rcases List.mem_append.1 hmem with hmem | hmem
    · rw [Edit.span_of_mem_insertionsAt hmem, Span.empty]
    · exact Edit.start_of_mem_replacementsAt hmem
  rw [edits_eq_append set (hf.of_ofList h) offset, insertionsAt_edits h, replacementsAt_edits h,
    ← List.append_assoc (Edit.insertionsAt _ _), hfs, List.cons_append] at hr
  obtain ⟨ahead, rest, ahead', out, rfl, rfl, hwidth, hahead, hrest⟩ := hr.split
  rw [← List.cons_append, ← hfs, List.append_assoc, hstart] at hrest
  obtain ⟨out, rfl, hlater⟩ := hrest.insertions fun _ => Edit.span_of_mem_insertionsAt
  obtain ⟨consumed, behind, behind', rfl, rfl, hbehind⟩ :=
    hlater.replacement (fun _ => Edit.start_of_mem_replacementsAt) hone
  exact ⟨ahead, consumed, behind, ahead', behind', rfl, by omega, rfl, hahead, hbehind⟩

/-! ### One replacement -/

/-- A set can be merged just if it has edits and all their bounds are places of the source. The
    replacement then runs from the start of the first edit to the end of the last one, and does to
    the source what the edits do one at a time, from the last one to the first. -/
theorem merged?_replaces (source : List Char) (edits : List Edit) (set : EditSet)
    (h : ofList edits = .ok set) (hf : Edit.AllForward edits) :
    ((set.merged? source).isSome ↔
      set.edits ≠ [] ∧
        ∀ e ∈ set.edits, IsPlace source e.span.start ∧ IsPlace source e.span.stop) ∧
    ∀ span text, set.merged? source = some (span, text) →
      (∃ hne : set.edits ≠ [],
        span = ⟨(set.edits.head hne).span.start, (set.edits.getLast hne).span.stop⟩) ∧
      ∃ out, (Edit.replace span text).appliedTo source = some out ∧
        Edit.appliedInTurn set.edits source = some out ∧ Edit.Rewrites 0 set.edits source out ∧
        ∀ offset, (∃ e ∈ edits, e.span.start = offset) → set.PartedAt edits source out offset := by
  have hset := hf.of_ofList h
  refine ⟨isSome_merged?_iff hset, fun span text hm => ⟨?_, ?_⟩⟩
  · have hne := ((isSome_merged?_iff hset).1 (Option.isSome_of_eq_some hm)).1
    have hspan := ((merged?_eq_some_iff hset).1 hm).1
    rw [span?_eq_some hset hne, Option.some.injEq] at hspan
    exact ⟨hne, hspan.symm⟩
  · obtain ⟨out, happlied, hr⟩ := rewrites_of_merged? hset hm
    exact ⟨out, happlied, hr.appliedInTurn width_nil, hr,
      fun offset => partedAt_of_rewrites h hf hr⟩

/-- Two insertions ahead of a replacement of what stands behind them. -/
theorem merged?_replaces_insertions :
    ∃ set, ofList [.replace ⟨1, 3⟩ ['x'], .insertAfter 1 ['p'], .insertAfter 1 ['q']] = .ok set ∧
      Edit.AllForward [.replace ⟨1, 3⟩ ['x'], .insertAfter 1 ['p'], .insertAfter 1 ['q']] ∧
      set.merged? ['a', 'é', 'b'] = some (⟨1, 3⟩, ['p', 'q', 'x']) ∧
      ∃ out, (Edit.replace ⟨1, 3⟩ ['p', 'q', 'x']).appliedTo ['a', 'é', 'b'] = some out ∧
        Edit.appliedInTurn set.edits ['a', 'é', 'b'] = some out := by
  refine ⟨⟨[.insertAfter 1 ['p'], .insertAfter 1 ['q'], .replace ⟨1, 3⟩ ['x']], by decide,
    by decide⟩, rfl, by decide, by decide, ?_⟩
  obtain ⟨-, hall⟩ := merged?_replaces ['a', 'é', 'b']
    [.replace ⟨1, 3⟩ ['x'], .insertAfter 1 ['p'], .insertAfter 1 ['q']] _ rfl (by decide)
  obtain ⟨-, out, happlied, hturn, -⟩ := hall ⟨1, 3⟩ ['p', 'q', 'x'] (by decide)
  exact ⟨out, happlied, hturn⟩

end EditSet

end FormCodemod
