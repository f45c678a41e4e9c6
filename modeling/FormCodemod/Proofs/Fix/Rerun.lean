import FormCodemod.Proofs.Fix.Run
import FormCodemod.Proofs.Module

/-!
# Running again

A run on the output of a run takes up the passes where the first one has left them
(`textAfter_add`). It changes nothing just if no fix is left that could be carried out, which is so
unless the first run has made all passes that it may make (`fixSource_output`).

The rounds of linting and fixing are these passes too, with what the rules find ahead of each of
them (`getElem?_rounds`); they go on where a run stops.

The bound on the passes does matter: of fixes that overlap each other, a pass carries out only one,
so that elements decorated inside each other take as many passes as there are
(`not_fixSource_output`).
-/

namespace FormCodemod

open FormCodemod.Syntax

variable {filename : String} {config : Config} {source text : List Char}
  {passes fixed left n : Nat} {m : Module} {pass : FixPass} {report : FixReport}

/-! ### Passes after passes -/

theorem textAfter_add_eq_bind (n k : Nat) :
    textAfter filename config source (n + k) =
      (textAfter filename config source n).bind fun text => textAfter filename config text k := by
  induction k with
  | zero => exact (Option.bind_fun_some _).symm
  | succ k ih => rw [← Nat.add_assoc, textAfter, ih, Option.bind_assoc]; rfl

/-- The passes after some passes are those on the text that these lead to. -/
theorem textAfter_add (h : textAfter filename config source n = some text) (k : Nat) :
    textAfter filename config source (n + k) = textAfter filename config text k := by
  rw [textAfter_add_eq_bind, h, Option.bind_some]

/-- A round over a text, if it can be read. -/
def roundOn (filename : String) (config : Config) (text : List Char) : Except Fault Round :=
  (lintSource filename text config).map fun found => ⟨found, applyFixes text (found.map (·.fix))⟩

/-- The round over the text comes first, and then those over what its pass leads to. -/
theorem rounds_succ :
    rounds filename config (n + 1) source = roundOn filename config source ::
      (textAfter filename config source 1).toList.flatMap (rounds filename config n) := by
  rw [rounds, roundOn, textAfter, textAfter, Option.bind_some, passOn]
  cases lintSource filename source config with
  | error fault => rfl
  | ok found => exact congrArg (List.cons _) (List.append_nil _).symm

/-- Each of the rounds is the one over the text that the passes ahead of it lead to, and they end
    with the number asked for, or with the first of these texts that cannot be read. -/
theorem getElem?_rounds (n : Nat) (source : List Char) (k : Nat) :
    (rounds filename config n source)[k]? =
      if k < n then (textAfter filename config source k).map (roundOn filename config)
      else none := by
  induction n generalizing source k with
  | zero => rfl
  | succ n ih =>
    rw [rounds_succ]
    cases k with
    | zero => rfl
    | succ k =>
      rw [List.getElem?_cons_succ, Nat.add_comm k 1, textAfter_add_eq_bind]
      cases textAfter filename config source 1 with
      | none => simp
      | some text => simpa [Nat.add_comm 1 k] using ih text k

/-- The loop counts on from the passes that were made before. -/
theorem le_passes_of_fixOnward
    (h : fixOnward filename config passes fixed left text = .ok report) :
    passes ≤ report.passes := by
  induction left generalizing passes fixed text with
  | zero =>
    cases hread : Module.read filename text with
    | error fault =>
      rw [fixOnward_of_error hread] at h
      cases h
    | ok m =>
      rw [fixOnward_zero hread] at h
      cases h
      exact Nat.le_refl _
  | succ left ih =>
    cases hread : Module.read filename text with
    | error fault =>
      rw [fixOnward_of_error hread] at h
      cases h
    | ok m =>
      have hpass : passOn filename config text = .ok _ := passOn_of_read hread
      by_cases hnone : (applyFixes text ((m.lint config).map (·.fix))).applied = 0
      · rw [fixOnward_succ_of_applied_eq_zero hread hpass hnone] at h
        cases h
        exact Nat.le_refl _
      · rw [fixOnward_succ_of_applied_ne_zero hpass hnone] at h
        exact Nat.le_of_succ_le (ih h)

/-- A run leaves a text alone just if there is no fix to carry out in it. -/
theorem fixSource_eq_self_iff (hread : Module.read filename text = .ok m) :
    fixSource filename text config = .ok ⟨text, 0, 0, m.lint config⟩ ↔
      (applyFixes text ((m.lint config).map (·.fix))).applied = 0 := by
  have hpass : passOn filename config text = .ok _ := passOn_of_read hread
  constructor
  · intro h
    -- A pass that carries something out would be counted.
    by_contra hsome
    have hrun : fixSource filename text config = fixOnward filename config 1 _ 9 _ :=
      fixOnward_succ_of_applied_ne_zero hpass hsome
    rw [h] at hrun
    exact absurd (le_passes_of_fixOnward hrun.symm) (Nat.not_succ_le_zero 0)
  · exact fixOnward_succ_of_applied_eq_zero hread hpass

/-! ### A second run -/

/-- A run on the output of a run makes the passes that would have come next. It makes none, and
    reports the same output and the same remaining violations, just if no fix is left that could be
    carried out; and none is left unless the first run has made all passes that it may make. -/
theorem fixSource_output (filename : String) (source : List Char) (config : Config)
    (report : FixReport) (h : fixSource filename source config = .ok report) :
    (fixSource filename report.output config = .ok ⟨report.output, 0, 0, report.remaining⟩ ↔
      (applyFixes report.output (report.remaining.map (·.fix))).applied = 0) ∧
    (report.passes < maxPasses →
      (applyFixes report.output (report.remaining.map (·.fix))).applied = 0) ∧
    ∀ k, textAfter filename config source (report.passes + k) =
      textAfter filename config report.output k := by
  obtain ⟨hreach, -, m, hread, hremaining⟩ := reaches_output h
  refine ⟨?_, applied_eq_zero_of_passes_lt h, textAfter_add hreach.text_eq⟩
  rw [hremaining]
  exact fixSource_eq_self_iff hread

/-- One pass removes the empty parameter, and a second run finds nothing more to do. -/
theorem fixSource_output_arrow :
    ∃ report, fixSource "a.jsx" "f((\x7b\x7d)=>1)".toList {} = .ok report ∧ report.passes = 1 ∧
      fixSource "a.jsx" report.output {} = .ok ⟨report.output, 0, 0, report.remaining⟩ := by
  have hrun : ∃ report, fixSource "a.jsx" "f((\x7b\x7d)=>1)".toList {} = .ok report ∧
      report.passes = 1 :=
    exists_ok (by decide +kernel)
  obtain ⟨report, hrun, hpasses⟩ := hrun
  obtain ⟨hself, hsettled, -⟩ := fixSource_output "a.jsx" _ {} report hrun
  exact ⟨report, hrun, hpasses, hself.2 (hsettled (by rw [hpasses]; decide))⟩

/-- An element that is decorated inside another one, and so on, so many times. -/
def decorated : Nat → List Char
  | 0 => "<b/>".toList
  | n + 1 => "<a>\x7bgetFieldDecorator(1)(".toList ++ decorated n ++ ")\x7d</a>".toList

/-- The fix for an element reaches over the ones inside it, so that eleven of them are too many for
    the passes of a run. -/
theorem not_fixSource_output :
    ¬∀ (filename : String) (source : List Char) (report : FixReport),
      fixSource filename source {} = .ok report →
        fixSource filename report.output {} = .ok ⟨report.output, 0, 0, report.remaining⟩ := by
  intro h
  have hrun : ∃ report, fixSource "a.jsx" (decorated 11) {} = .ok report ∧
      (applyFixes report.output (report.remaining.map (·.fix))).applied ≠ 0 :=
    exists_ok (by decide +kernel)
  obtain ⟨report, hrun, hsome⟩ := hrun
  obtain ⟨-, -, m, hread, hremaining⟩ := reaches_output hrun
  have hself := h _ _ report hrun
  rw [hremaining] at hself hsome
  exact hsome ((fixSource_eq_self_iff hread).1 hself)

end FormCodemod
