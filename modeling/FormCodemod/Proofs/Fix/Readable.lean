import FormCodemod.Proofs.Edit.Rewriting
import FormCodemod.Proofs.Fix.Rerun
import FormCodemod.Proofs.Rule.Edits

/-!
# Runs that fail

A run fails just if one of the texts that its passes lead to cannot be read
(`exists_fixSource_eq_ok_iff`): it looks at no text but these, and once a pass carries nothing out,
all texts to come are the same.

A text can be read and yet lead to one that cannot. An empty parameter goes without the comma behind
it, so that this comma comes in its place (`EmptyPattern.next_of_removed`), where the grammar has
none (`not_exists_fixSource_eq_ok`).
-/

namespace FormCodemod

open FormCodemod.Syntax FormCodemod.Text

variable {filename : String} {config : Config} {source text : List Char} {k n : Nat} {m : Module}
  {pass : FixPass} {fixes : List (Option EditSet)}

/-! ### Texts that stay as they are -/

theorem output_of_applied_eq_zero (h : (applyFixes source fixes).applied = 0) :
    (applyFixes source fixes).output = source := by
  rw [applyFixes] at h ⊢
  dsimp only at h ⊢
  rw [List.length_eq_zero_iff.1 h, Patch.weave]
  cases source <;> rfl

/-- Behind a pass that carries nothing out, all passes find the same text. -/
theorem textAfter_of_applied_eq_zero (htext : textAfter filename config source n = some text)
    (hpass : passOn filename config text = .ok pass) (hnone : pass.applied = 0) (k : Nat) :
    textAfter filename config source (n + k) = some text := by
  have hsame : pass.output = text := by
    obtain ⟨m, -, rfl⟩ := exists_read_of_passOn hpass
    exact output_of_applied_eq_zero hnone
  rw [textAfter_add htext]
  induction k with
  | zero => rfl
  | succ k ih =>
    rw [textAfter, ih, Option.bind_some, hpass]
    exact congrArg some hsame

/-- All texts ahead of one that is reached can be read. -/
theorem exists_read_of_lt (hk : k < n) (h : (textAfter filename config source n).isSome) :
    ∃ text m, textAfter filename config source k = some text ∧
      Module.read filename text = .ok m := by
  induction n with
  | zero => exact absurd hk (Nat.not_lt_zero k)
  | succ n ih =>
    obtain ⟨out, hout⟩ := Option.isSome_iff_exists.1 h
    obtain ⟨text, pass, htext, hpass, -⟩ := exists_passOn_of_textAfter hout
    rcases Nat.eq_or_lt_of_le (Nat.le_of_lt_succ hk) with rfl | hk
    · obtain ⟨m, hread, -⟩ := exists_read_of_passOn hpass
      exact ⟨text, m, htext, hread⟩
    · exact ih hk (Option.isSome_of_eq_some htext)

/-- A run succeeds just if each of the texts that its passes lead to can be read. -/
theorem exists_fixSource_eq_ok_iff :
    (∃ report, fixSource filename source config = .ok report) ↔
      ∀ k ≤ maxPasses, ∀ text, textAfter filename config source k = some text →
        ∃ m, Module.read filename text = .ok m := by
  constructor
  · rintro ⟨report, hrun⟩ k hk text htext
    obtain ⟨hreach, hstop, m, hread, -⟩ := reaches_output hrun
    rcases Nat.lt_or_ge k report.passes with hlt | hge
    · -- The run has gone through the text.
      obtain ⟨text', m', htext', hread'⟩ :=
        exists_read_of_lt hlt (Option.isSome_of_eq_some hreach.text_eq)
      cases htext.symm.trans htext'
      exact ⟨m', hread'⟩
    · -- The run has ended, at the latest, where the text is its output.
      have houtput : textAfter filename config source k = some report.output := by
        rcases (stops_iff hreach.text_eq hread).1 hstop with hmax | hnone
        · rw [Nat.le_antisymm (hmax ▸ hk) hge, hreach.text_eq]
        · rw [← Nat.add_sub_cancel' hge]
          exact textAfter_of_applied_eq_zero hreach.text_eq (passOn_of_read hread) hnone _
      cases htext.symm.trans houtput
      exact ⟨m, hread⟩
  · intro h
    obtain ⟨k, text, hk, hreach, -, hrun⟩ := fixSource_reaches filename source config
    obtain ⟨m, hread⟩ := h k hk text hreach.text_eq
    rw [hread] at hrun
    exact ⟨_, hrun⟩

/-! ### A comma that stays -/

/-- Where a part of a text is deleted, the token behind it comes in its place. -/
theorem Span.FitsIn.next_of_deleted {span : Span} (h : span.FitsIn text) :
    ∃ out, (Edit.delete span).appliedTo text = some out ∧
      (tokenAfter? out span.start).map (·.chars) = (tokenAfter? text span.stop).map (·.chars) := by
  obtain ⟨before, rest, hstart, hbefore⟩ := h.start
  obtain ⟨upto, behind, hstop, hupto⟩ := h.stop
  obtain ⟨mid, rfl, rfl⟩ := exists_between (hstart.symm.trans hstop)
    (by rw [hbefore, hupto]; exact h.forward)
  subst hstart
  refine ⟨before ++ ([] ++ behind), Edit.appliedTo_append hbefore.symm ?_, ?_⟩
  · rw [width_append, hbefore] at hupto
    exact hupto.symm
  · have hout := chars_tokenAfter?_width_add before behind 0
    have htext := chars_tokenAfter?_width_add (before ++ mid) behind 0
    rw [Nat.add_zero, hbefore] at hout
    rw [Nat.add_zero, hupto, List.append_assoc] at htext
    exact hout.trans htext.symm

/-- The token behind an empty parameter comes in its place, whichever it is. -/
theorem EmptyPattern.next_of_removed {f : Component} {function : Node} {r : Report}
    (hfit : m.tree.SpansFit m.text) (hin : f.IsIn m.tree function) (hr : r ∈ check f) :
    ∃ span out, r.edits = some [.delete span] ∧ (Edit.delete span).appliedTo m.text = some out ∧
      (tokenAfter? out span.start).map (·.chars) = (m.tokenAfter? span).map (·.chars) := by
  obtain ⟨parameter, -, hedits⟩ := mem_check hr
  have hspan := EmptyPattern.fitsIn hfit hin hr hedits (List.mem_singleton_self _)
  obtain ⟨out, hout, hnext⟩ := Span.FitsIn.next_of_deleted hspan
  exact ⟨_, out, hedits, hout, hnext⟩

/-! ### The main result -/

/-- A run succeeds just if each of the texts that its passes lead to can be read. That its source
    can be read does not make it so: an empty parameter goes on its own, and what stood behind it
    comes in its place. -/
theorem fixSource_readable (filename : String) (source : List Char) (config : Config) :
    ((∃ report, fixSource filename source config = .ok report) ↔
      ∀ k ≤ maxPasses, ∀ text, textAfter filename config source k = some text →
        ∃ m, Module.read filename text = .ok m) ∧
    ∀ m path f, Module.read filename source = .ok m → m.tree.SpansFit m.text →
      Hands m.tree path (.function f) → ∀ r ∈ EmptyPattern.check f,
        ∃ span out, r.edits = some [.delete span] ∧
          (Edit.delete span).appliedTo source = some out ∧
          (tokenAfter? out span.start).map (·.chars) =
            (tokenAfter? source span.stop).map (·.chars) := by
  refine ⟨exists_fixSource_eq_ok_iff, fun m path f hread hfit hands r hr => ?_⟩
  obtain ⟨function, hin⟩ := Hands.exists_isIn (.inr hands)
  rw [← Module.text_of_read hread]
  exact EmptyPattern.next_of_removed hfit hin hr

/-- With the empty parameter gone, the comma behind it comes behind the opening parenthesis. -/
theorem fixSource_readable_comma :
    ∃ m path f, Module.read "a.jsx" "function f({},){}".toList = .ok m ∧
      m.tree.SpansFit m.text ∧ Hands m.tree path (.function f) ∧ ∃ r ∈ EmptyPattern.check f,
        ∃ span out, r.edits = some [.delete span] ∧
          (Edit.delete span).appliedTo m.text = some out ∧
          (tokenAfter? out span.start).map (·.chars) = some [','] := by
  have hread : ∃ m, Module.read "a.jsx" "function f({},){}".toList = .ok m ∧
      m.tree.SpansFit m.text ∧ m.tree.subjects.any (fun v => match v.2 with
        | .function f => (EmptyPattern.check f).any fun r => r.edits = some [.delete ⟨11, 13⟩]
        | _ => false) = true :=
    exists_ok (by decide +kernel)
  obtain ⟨m, hm, hfit, hany⟩ := hread
  obtain ⟨⟨path, s⟩, hs, hany⟩ := List.any_eq_true.1 hany
  cases s with
  | function f =>
    obtain ⟨r, hr, hedits⟩ := List.any_eq_true.1 hany
    have hedits : r.edits = some [.delete ⟨11, 13⟩] := of_decide_eq_true hedits
    have hands := mem_subjects_iff.1 hs
    obtain ⟨span, out, hspan, hout, hnext⟩ :=
      (fixSource_readable "a.jsx" _ {}).2 m path f hm hfit hands r hr
    cases hspan.symm.trans hedits
    rw [← Module.text_of_read hm] at hout
    exact ⟨m, path, f, hm, hfit, hands, r, hr, _, out, hedits, hout,
      hnext.trans (by decide +kernel)⟩
  | component => cases hany
  | declaration => cases hany
  | element => cases hany

/-- The first pass leaves `function f(,)`. -/
theorem not_exists_fixSource_eq_ok :
    ¬∀ (filename : String) (source : List Char) (m : Module),
      Module.read filename source = .ok m →
        ∃ report, fixSource filename source {} = .ok report := by
  intro h
  have hread : ∃ m, Module.read "a.jsx" "function f({},){}".toList = .ok m ∧
      (fixSource "a.jsx" m.text {}).toOption = none :=
    exists_ok (by decide +kernel)
  obtain ⟨m, hm, hnone⟩ := hread
  obtain ⟨report, hrun⟩ := h _ _ m hm
  rw [Module.text_of_read hm, hrun] at hnone
  cases hnone

end FormCodemod
