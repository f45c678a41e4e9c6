import FormCodemod.Proofs.Edit.Parts
import FormCodemod.Proofs.Fix.Readable
import FormCodemod.Proofs.Rule.Bindings

/-!
# Dead declarations

A declaration that takes nothing but the decorator from the form is deleted whole unless it stands
behind `export` or in the head of a loop (`wholeReport_mem_check_iff`). All else keeps its text
(`dead_deleted`). Yet it is not asked whether the declaration is one statement of several: it may be
all that an `if`, a loop or a label has for a body. The next statement then comes in its place, and
runs under the condition of the body that is gone (`dead_body_deleted`).
-/

namespace FormCodemod

open FormCodemod.Syntax FormCodemod.Text

variable {m : Module} {config : Config} {path : List Nat} {span : Span} {declarators : List Node}
  {removable : Bool} {r : Report}

namespace DecoratorBinding

/-! ### The report -/

theorem mem_check_iff : r ∈ check m config span declarators removable ↔
    ∃ d ∈ declarators, ∃ pattern, TakesApart config d pattern ∧
      ((∃ p ∈ pattern.bareParts, BindsDecorator config p ∧ r = propertyReport m p) ∨
        IsDead config declarators removable pattern ∧ r = wholeReport span) := by
  rw [check, List.mem_flatMap]
  refine exists_congr fun d => and_congr_right fun _ => ?_
  constructor
  · intro hr
    by_cases htakes : ∃ pattern, TakesApart config d pattern
    · obtain ⟨pattern, htakes⟩ := htakes
      refine ⟨pattern, htakes, ?_⟩
      rw [checkDeclarator_of_takesApart htakes, List.mem_append] at hr
      rcases hr with hr | hr
      · obtain ⟨p, hp, rfl⟩ := List.mem_map.1 hr
        obtain ⟨hp, hbinds⟩ := List.mem_filter.1 hp
        exact .inl ⟨p, hp, of_decide_eq_true hbinds, rfl⟩
      · split at hr
        case isTrue hdead => exact .inr ⟨hdead, List.mem_singleton.1 hr⟩
        case isFalse => cases hr
    · rw [checkDeclarator_of_not_takesApart (not_exists.1 htakes)] at hr
      cases hr
  · rintro ⟨pattern, htakes, hr⟩
    rw [checkDeclarator_of_takesApart htakes, List.mem_append]
    rcases hr with ⟨p, hp, hbinds, rfl⟩ | ⟨hdead, rfl⟩
    · exact .inl (List.mem_map_of_mem (List.mem_filter.2 ⟨hp, decide_eq_true hbinds⟩))
    · rw [if_pos hdead]
      exact .inr List.mem_cons_self

/-- The declaration is reported as a whole unless it stands behind `export` or in the head of a
    loop, if it has a single declarator and takes nothing but the decorator from the form. -/
theorem wholeReport_mem_check_iff
    (hands : Hands m.tree path (.declaration span declarators removable)) :
    wholeReport span ∈ check m config span declarators removable ↔
      ¬m.tree.IsAttached path ∧ ∃ d pattern, declarators = [d] ∧ TakesApart config d pattern ∧
        ∀ p ∈ pattern.bareParts, BindsDecorator config p := by
  have hremovable : removable ↔ ¬m.tree.IsAttached path := by
    cases hands with
    | declaration _ _ hremovable => exact hremovable
  rw [mem_check_iff, ← hremovable]
  constructor
  · rintro ⟨d, hd, pattern, htakes, ⟨p, -, -, heq⟩ | ⟨⟨hremovable, hlength, hbinds⟩, -⟩⟩
    · cases heq
    · obtain ⟨d', rfl⟩ := List.length_eq_one_iff.1 hlength
      obtain rfl := List.mem_singleton.1 hd
      exact ⟨hremovable, d, pattern, rfl, htakes, hbinds⟩
  · rintro ⟨hremovable, d, pattern, rfl, htakes, hbinds⟩
    exact ⟨d, List.mem_cons_self, pattern, htakes, .inr ⟨⟨hremovable, rfl, hbinds⟩, rfl⟩⟩

end DecoratorBinding

/-! ### What is left -/

/-- Where a node is deleted, those apart from it keep their text, and those around it lose just the
    text of the node. -/
theorem turns_of_deleted {n deleted : Node} {path' : List Nat} {out : List Char}
    (hlaid : m.tree.LaidOut m.text) (hdeleted : m.tree.at? path = some deleted)
    (hname' : deleted.coversName = false)
    (h : Edit.Rewrites 0 [.delete deleted.span] m.text out) (hn : m.tree.at? path' = some n)
    (hname : n.coversName = false) (hout : ¬path <+: path') :
    (¬path' <+: path → Edit.Turns [.delete deleted.span] m.text out n.span (m.slice n.span)) ∧
      (deleted.span.Within n.span →
        Edit.Turns [.delete deleted.span] m.text out n.span
          (m.slice ⟨n.span.start, deleted.span.start⟩ ++
            m.slice ⟨deleted.span.stop, n.span.stop⟩)) := by
  have hfit := hlaid.fit n (Node.mem_preorder_of_at? hn)
  obtain ⟨part', hturns⟩ := h.exists_turns hfit fun e he =>
    List.mem_singleton.1 he ▸ hlaid.spares hn hdeleted hname hname' fun _ => hout
  obtain rfl := hturns.eq_outside fun e he _ => List.mem_singleton.1 he ▸ rfl
  rw [List.map_singleton, Edit.span] at hturns
  have hcovers : ∀ k, Span.Covers [deleted.span] k ↔
      deleted.span.start ≤ k ∧ k < deleted.span.stop := by
    simp [Span.Covers]
  constructor
  · intro hin
    -- The deleted node shares no text with the other one.
    have hapart := hlaid.not_overlaps hn hdeleted hname hname' hin hout
    have hwidth := hturns.rewrites.1
    rw [Span.overlaps_iff] at hapart
    rwa [outside_eq_self fun k hle hlt => by
      rw [hcovers]
      omega] at hturns
  · intro hwithin
    have hfit' := hlaid.fit deleted (Node.mem_preorder_of_at? hdeleted)
    rwa [outside_of_within hfit' hfit hwithin fun k _ _ => hcovers k] at hturns

/-- The fix of a dead declaration, carried out on its own, deletes the declaration. -/
theorem DecoratorBinding.exists_output_of_whole (hfit : span.FitsIn m.text) :
    ∃ set out, (m.violation (wholeReport span)).fix = some set ∧ set.edits = [.delete span] ∧
      applyFixes m.text [some set] = ⟨out, 1⟩ ∧ Edit.Rewrites 0 set.edits m.text out := by
  obtain ⟨set, hset, hedits⟩ := exists_fix_wholeReport m span
  have hfits : ∀ e ∈ set.edits, e.span.FitsIn m.text := fun e he => by
    rw [hedits, List.mem_singleton] at he
    exact he ▸ hfit
  have hforward : Edit.AllForward set.edits := fun e he => (hfits e he).forward
  have hmerged : (set.merged? m.text).isSome := by
    refine (EditSet.isSome_merged?_iff hforward).2 ⟨?_, fun e he => ?_⟩
    · rw [hedits]
      exact List.cons_ne_nil _ _
    · exact ⟨(hfits e he).start, (hfits e he).stop⟩
  obtain ⟨out, happlied, hrewrites⟩ := applyFixes_singleton hforward hmerged
  exact ⟨set, out, hset, hedits, happlied, hrewrites⟩

/-! ### The main result -/

/-- A declaration of plain variables is reported as a whole just if it has a single declarator that
    takes nothing but the decorator from the form, and stands neither behind `export` nor in the
    head of a loop. What else it is a part of is not asked. The fix, on its own, deletes the
    declaration, so that the token behind comes in its place. Nodes apart from the declaration keep
    their text, and those around it lose just the declaration. -/
theorem dead_deleted (m : Module) (config : Config) (path : List Nat) (span : Span)
    (declarators : List Node) (removable : Bool)
    (hands : Hands m.tree path (.declaration span declarators removable))
    (hlaid : m.tree.LaidOut m.text) :
    (DecoratorBinding.wholeReport span ∈
        DecoratorBinding.check m config span declarators removable ↔
      ¬m.tree.IsAttached path ∧ ∃ d pattern, declarators = [d] ∧ TakesApart config d pattern ∧
        ∀ p ∈ pattern.bareParts, BindsDecorator config p) ∧
    (∀ r ∈ DecoratorBinding.check m config span declarators removable,
      r.issue = .emptyFormDestructuring → r = DecoratorBinding.wholeReport span) ∧
    ∃ set out, (m.violation (DecoratorBinding.wholeReport span)).fix = some set ∧
      set.edits = [.delete span] ∧ applyFixes m.text [some set] = ⟨out, 1⟩ ∧
      (Edit.delete span).appliedTo m.text = some out ∧
      (tokenAfter? out span.start).map (·.chars) = (m.tokenAfter? span).map (·.chars) ∧
      ∀ path' n, m.tree.at? path' = some n → n.coversName = false → ¬path <+: path' →
        (¬path' <+: path → Edit.Turns [.delete span] m.text out n.span (m.slice n.span)) ∧
        (span.Within n.span → Edit.Turns [.delete span] m.text out n.span
          (m.slice ⟨n.span.start, span.start⟩ ++ m.slice ⟨span.stop, n.span.stop⟩)) := by
  refine ⟨DecoratorBinding.wholeReport_mem_check_iff hands, fun r hr hissue => ?_, ?_⟩
  · obtain ⟨_, -, _, -, ⟨p, -, -, rfl⟩ | ⟨-, rfl⟩⟩ := DecoratorBinding.mem_check_iff.1 hr
    · cases hissue
    · rfl
  · cases hands with
    | declaration hat =>
      have hfit := hlaid.fit _ (Node.mem_preorder_of_at? hat)
      obtain ⟨set, out, hset, hedits, happlied, hrewrites⟩ :=
        DecoratorBinding.exists_output_of_whole hfit
      rw [hedits] at hrewrites
      have hdeleted : (Edit.delete span).appliedTo m.text = some out :=
        hrewrites.appliedInTurn width_nil
      obtain ⟨out', hout', hnext⟩ := Span.FitsIn.next_of_deleted hfit
      obtain rfl := Option.some.inj (hdeleted.symm.trans hout')
      exact ⟨set, out, hset, hedits, happlied, hdeleted, hnext, fun path' n hn hname hout =>
        turns_of_deleted hlaid hat rfl hrewrites hn hname hout⟩

/-- In a block, the statement behind a dead declaration stays in the block, and as it is. -/
theorem dead_deleted_block :
    ∃ m span declarators removable set out n,
      Module.read "a.jsx" "\x7bvar\x7b\x7d=form;b()\x7d".toList = .ok m ∧
      Hands m.tree [0, 0] (.declaration span declarators removable) ∧
      DecoratorBinding.wholeReport span ∈
        DecoratorBinding.check m {} span declarators removable ∧
      (m.violation (DecoratorBinding.wholeReport span)).fix = some set ∧
      applyFixes m.text [some set] = ⟨out, 1⟩ ∧
      m.tree.at? [0, 1] = some n ∧ m.slice n.span = "b()".toList ∧
      Edit.Turns [.delete span] m.text out n.span "b()".toList := by
  have hread : ∃ m, Module.read "a.jsx" "\x7bvar\x7b\x7d=form;b()\x7d".toList = .ok m ∧
      m.tree.LaidOut m.text ∧
      (m.tree.at? [0, 1]).any (fun n => decide (n.coversName = false ∧
        m.slice n.span = "b()".toList)) = true ∧
      ((m.tree.subjectAt? [0, 0]).bind Subject.declaration?).any (fun x => decide
        (DecoratorBinding.wholeReport x.1 ∈ DecoratorBinding.check m {} x.1 x.2.1 x.2.2)) = true :=
    exists_ok (by decide +kernel)
  obtain ⟨m, hm, hlaid, hn, hany⟩ := hread
  obtain ⟨span, declarators, removable, hands, hreport⟩ := exists_declaration hany
  obtain ⟨n, hat, hn⟩ := (Option.any_eq_true _ _).1 hn
  obtain ⟨hname, hslice⟩ := of_decide_eq_true hn
  obtain ⟨-, -, set, out, hset, -, happlied, -, -, hnodes⟩ :=
    dead_deleted m {} [0, 0] span declarators removable hands hlaid
  have hturns := (hnodes [0, 1] n hat hname (by decide)).1 (by decide)
  rw [hslice] at hturns
  exact ⟨m, span, declarators, removable, set, out, n, hm, hands, hreport, hset, happlied, hat,
    hslice, hturns⟩

/-- The declaration is the body of the `if`, and the statement behind the `if` becomes it. -/
theorem dead_body_deleted :
    ∃ m m' report span declarators removable,
      Module.read "a.jsx" "if(a)var\x7b\x7d=form;b()".toList = .ok m ∧
      Hands m.tree [0, 1] (.declaration span declarators removable) ∧
      DecoratorBinding.wholeReport span ∈
        DecoratorBinding.check m {} span declarators removable ∧
      (m.tree.at? [0]).map (·.kind) = some .ifStatement ∧
      (m.tree.at? [1]).map (m.slice ·.span) = some "b()".toList ∧
      fixSource "a.jsx" m.text {} = .ok report ∧ report.output = "if(a)b()".toList ∧
      Module.read "a.jsx" report.output = .ok m' ∧ m'.tree.parts.length = 1 ∧
      (m'.tree.at? [0]).map (·.kind) = some .ifStatement ∧
      (m'.tree.at? [0, 1]).map (m'.slice ·.span) = some "b()".toList := by
  have hread : ∃ m, Module.read "a.jsx" "if(a)var\x7b\x7d=form;b()".toList = .ok m ∧
      ((m.tree.subjectAt? [0, 1]).bind Subject.declaration?).any (fun x => decide
        (DecoratorBinding.wholeReport x.1 ∈ DecoratorBinding.check m {} x.1 x.2.1 x.2.2)) = true ∧
      (m.tree.at? [0]).map (·.kind) = some .ifStatement ∧
      (m.tree.at? [1]).map (m.slice ·.span) = some "b()".toList :=
    exists_ok (by decide +kernel)
  have hrun : ∃ report, fixSource "a.jsx" "if(a)var\x7b\x7d=form;b()".toList {} = .ok report ∧
      report.output = "if(a)b()".toList :=
    exists_ok (by decide +kernel)
  have hread' : ∃ m', Module.read "a.jsx" "if(a)b()".toList = .ok m' ∧ m'.tree.parts.length = 1 ∧
      (m'.tree.at? [0]).map (·.kind) = some .ifStatement ∧
      (m'.tree.at? [0, 1]).map (m'.slice ·.span) = some "b()".toList :=
    exists_ok (by decide +kernel)
  obtain ⟨m, hm, hany, hif, hbehind⟩ := hread
  obtain ⟨report, hrun, houtput⟩ := hrun
  obtain ⟨m', hm', hrest⟩ := hread'
  obtain ⟨span, declarators, removable, hands, hreport⟩ := exists_declaration hany
  rw [← Module.text_of_read hm] at hrun
  rw [← houtput] at hm'
  exact ⟨m, m', report, span, declarators, removable, hm, hands, hreport, hif, hbehind, hrun,
    houtput, hm', hrest⟩

end FormCodemod
