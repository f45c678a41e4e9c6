import FormCodemod.Fix.Run
import Mathlib.Algebra.BigOperators.Group.Finset.Basic

/-!
# The passes of a run

A run makes passes for as long as the text can be read, a pass carries out a fix, and no ten have
been made. `textAfter` is the text after any number of passes, regardless of where a run stops, and
`fixSource_stops` says that it stops after the first number that gives it a reason to (`Stops`),
with the text that it has reached by then: its counts and its violations are all about that text.

The invariant of the loop (`Reaches`) is that the passes made so far had no reason to be the last.
-/

namespace FormCodemod

open FormCodemod.Syntax

variable (filename : String) (config : Config) (source : List Char)

/-- A pass over a text with what the rules find in it, if it can be read. -/
def passOn (text : List Char) : Except Fault FixPass :=
  (lintSource filename text config).map fun found => applyFixes text (found.map (·.fix))

/-- The text after so many passes, if all texts before it can be read. -/
def textAfter : Nat → Option (List Char)
  | 0 => some source
  | n + 1 => (textAfter n).bind fun text => (passOn filename config text).toOption.map (·.output)

/-- The number of fixes that the pass on the text after so many passes carries out. -/
def appliedAfter (n : Nat) : Nat :=
  ((textAfter filename config source n).bind fun text =>
    (passOn filename config text).toOption.map (·.applied)).getD 0

/-- The number of fixes that so many passes carry out. -/
def fixedWithin (n : Nat) : Nat :=
  ∑ i ∈ Finset.range n, appliedAfter filename config source i

/-- A reason to stop after so many passes: they are all that may be made, the text that they lead to
    cannot be read, or there is no fix to carry out in it. -/
def Stops (n : Nat) : Prop :=
  n = maxPasses ∨ ∃ text, textAfter filename config source n = some text ∧
    ((∃ fault, Module.read filename text = .error fault) ∨
      ∃ pass, passOn filename config text = .ok pass ∧ pass.applied = 0)

/-- So many passes lead to the text, and there is no reason to stop before the last of them. -/
structure Reaches (n : Nat) (text : List Char) : Prop where
  text_eq : textAfter filename config source n = some text
  goes_on : ∀ i < n, ¬Stops filename config source i

variable {filename config source} {text : List Char} {passes fixed left n : Nat} {fault : Fault}
  {m : Module} {pass : FixPass} {report : FixReport}

/-! ### A pass -/

theorem lintSource_of_read (h : Module.read filename text = .ok m) :
    lintSource filename text config = .ok (m.lint config) := by
  rw [lintSource, h]
  rfl

theorem lintSource_of_error (h : Module.read filename text = .error fault) :
    lintSource filename text config = .error fault := by
  rw [lintSource, h]
  rfl

theorem passOn_of_read (h : Module.read filename text = .ok m) :
    passOn filename config text = .ok (applyFixes text ((m.lint config).map (·.fix))) := by
  rw [passOn, lintSource_of_read h]
  rfl

/-- A pass is made only on a text that can be read. -/
theorem exists_read_of_passOn (h : passOn filename config text = .ok pass) :
    ∃ m, Module.read filename text = .ok m ∧
      pass = applyFixes text ((m.lint config).map (·.fix)) := by
  cases hread : Module.read filename text with
  | error fault =>
    rw [passOn, lintSource_of_error hread] at h
    cases h
  | ok m =>
    rw [passOn_of_read hread, Except.ok.injEq] at h
    exact ⟨m, rfl, h.symm⟩

/-- A text that cannot be read ends the loop. -/
theorem fixOnward_of_error (h : Module.read filename text = .error fault) :
    fixOnward filename config passes fixed left text = .error fault := by
  cases left with
  | zero => rw [fixOnward, lintSource_of_error h]; rfl
  | succ left => rw [fixOnward, lintSource_of_error h]; rfl

theorem fixOnward_zero (h : Module.read filename text = .ok m) :
    fixOnward filename config passes fixed 0 text = .ok ⟨text, passes, fixed, m.lint config⟩ := by
  rw [fixOnward, lintSource_of_read h]
  rfl

/-- A pass that carries nothing out ends the loop. -/
theorem fixOnward_succ_of_applied_eq_zero (h : Module.read filename text = .ok m)
    (hpass : passOn filename config text = .ok pass) (hnone : pass.applied = 0) :
    fixOnward filename config passes fixed (left + 1) text =
      .ok ⟨text, passes, fixed, m.lint config⟩ := by
  rw [passOn_of_read h, Except.ok.injEq] at hpass
  subst hpass
  rw [fixOnward, lintSource_of_read h]
  simp only [bind, Except.bind, hnone, if_true]
  rfl

/-- A pass that carries something out is counted, and the loop goes on with its output. -/
theorem fixOnward_succ_of_applied_ne_zero (hpass : passOn filename config text = .ok pass)
    (hsome : pass.applied ≠ 0) :
    fixOnward filename config passes fixed (left + 1) text =
      fixOnward filename config (passes + 1) (fixed + pass.applied) left pass.output := by
  obtain ⟨m, hread, rfl⟩ := exists_read_of_passOn hpass
  rw [fixOnward, lintSource_of_read hread]
  simp only [bind, Except.bind, hsome, if_false]

/-- The last of some passes finds the text that the others lead to. -/
theorem exists_passOn_of_textAfter (h : textAfter filename config source (n + 1) = some text) :
    ∃ before pass, textAfter filename config source n = some before ∧
      passOn filename config before = .ok pass ∧ pass.output = text := by
  obtain ⟨before, hbefore, h⟩ := Option.bind_eq_some_iff.1 h
  obtain ⟨pass, hpass, houtput⟩ := Option.map_eq_some_iff.1 h
  refine ⟨before, pass, hbefore, ?_, houtput⟩
  cases hon : passOn filename config before with
  | error fault =>
    rw [hon] at hpass
    cases hpass
  | ok pass' =>
    rw [hon] at hpass
    cases hpass
    rfl

/-- Where a text can be read, there are two reasons to stop. -/
theorem stops_iff (htext : textAfter filename config source n = some text)
    (hread : Module.read filename text = .ok m) :
    Stops filename config source n ↔
      n = maxPasses ∨ (applyFixes text ((m.lint config).map (·.fix))).applied = 0 := by
  refine or_congr_right ⟨?_, fun hnone => ⟨text, htext, .inr ⟨_, passOn_of_read hread, hnone⟩⟩⟩
  rintro ⟨text', htext', ⟨fault, hfault⟩ | ⟨pass, hpass, hnone⟩⟩
  · cases htext.symm.trans htext'
    cases hread.symm.trans hfault
  · cases htext.symm.trans htext'
    cases (passOn_of_read hread).symm.trans hpass
    exact hnone

theorem fixedWithin_succ (n : Nat) :
    fixedWithin filename config source (n + 1) =
      fixedWithin filename config source n + appliedAfter filename config source n :=
  Finset.sum_range_succ _ n

theorem Reaches.appliedAfter_eq (h : Reaches filename config source n text)
    (hpass : passOn filename config text = .ok pass) :
    appliedAfter filename config source n = pass.applied := by
  rw [appliedAfter, h.text_eq, Option.bind_some, hpass]
  rfl

/-- A pass that carries something out keeps the invariant. -/
theorem Reaches.succ (h : Reaches filename config source n text) (hn : n ≠ maxPasses)
    (hpass : passOn filename config text = .ok pass) (hsome : pass.applied ≠ 0) :
    Reaches filename config source (n + 1) pass.output where
  text_eq := by
    rw [textAfter, h.text_eq, Option.bind_some, hpass]
    rfl
  goes_on i hi := by
    rcases Nat.eq_or_lt_of_le (Nat.le_of_lt_succ hi) with rfl | hi
    · -- None of the reasons is one to stop here.
      obtain ⟨m, hread, rfl⟩ := exists_read_of_passOn hpass
      rw [stops_iff h.text_eq hread, not_or]
      exact ⟨hn, hsome⟩
    · exact h.goes_on i hi

/-- Every pass ahead of the reason to stop carries out a fix. -/
theorem le_fixedWithin {n : Nat} (htext : ∃ text, textAfter filename config source n = some text)
    (hgo : ∀ i < n, ¬Stops filename config source i) :
    n ≤ fixedWithin filename config source n := by
  induction n with
  | zero => exact Nat.zero_le _
  | succ n ih =>
    obtain ⟨text, htext⟩ := htext
    obtain ⟨before, pass, hbefore, hpass, -⟩ := exists_passOn_of_textAfter htext
    have hle := ih ⟨before, hbefore⟩ fun i hi => hgo i (Nat.lt_succ_of_lt hi)
    have hsome : pass.applied ≠ 0 := fun hnone =>
      hgo n (Nat.lt_succ_self n) (.inr ⟨before, hbefore, .inr ⟨pass, hpass, hnone⟩⟩)
    rw [fixedWithin_succ, appliedAfter, hbefore, Option.bind_some, hpass]
    simp only [Except.toOption, Option.map_some, Option.getD_some]
    omega

/-! ### A run -/

/-- The loop stops with the first reason to, and reports what it finds in the text by then. -/
theorem fixOnward_stops (h : Reaches filename config source n text) (hn : n + left = maxPasses) :
    ∃ k text', k ≤ maxPasses ∧ Reaches filename config source k text' ∧
      Stops filename config source k ∧
      fixOnward filename config n (fixedWithin filename config source n) left text =
        (Module.read filename text').map fun m =>
          ⟨text', k, fixedWithin filename config source k, m.lint config⟩ := by
  -- Each pass but the last takes one from `left` and keeps `Reaches`.
  induction left generalizing n text with
  | zero =>
    refine ⟨n, text, Nat.le_of_eq hn, h, .inl hn, ?_⟩
    cases hread : Module.read filename text with
    | error fault => exact fixOnward_of_error hread
    | ok m => exact fixOnward_zero hread
  | succ left ih =>
    cases hread : Module.read filename text with
    | error fault =>
      refine ⟨n, text, by omega, h, .inr ⟨text, h.text_eq, .inl ⟨fault, hread⟩⟩, ?_⟩
      rw [hread]
      exact fixOnward_of_error hread
    | ok m =>
      have hpass : passOn filename config text = .ok _ := passOn_of_read hread
      by_cases hnone : (applyFixes text ((m.lint config).map (·.fix))).applied = 0
      · refine ⟨n, text, by omega, h, (stops_iff h.text_eq hread).2 (.inr hnone), ?_⟩
        rw [hread]
        exact fixOnward_succ_of_applied_eq_zero hread hpass hnone
      · rw [fixOnward_succ_of_applied_ne_zero hpass hnone, ← h.appliedAfter_eq hpass,
          ← fixedWithin_succ]
        exact ih (h.succ (by omega) hpass hnone) (by omega)

/-- A run reaches a text where it has a reason to stop, and reports what it finds there. -/
theorem fixSource_reaches (filename : String) (source : List Char) (config : Config) :
    ∃ k text, k ≤ maxPasses ∧ Reaches filename config source k text ∧
      Stops filename config source k ∧
      fixSource filename source config = (Module.read filename text).map fun m =>
        ⟨text, k, fixedWithin filename config source k, m.lint config⟩ := by
  have hstart : Reaches filename config source 0 source :=
    ⟨rfl, fun i hi => absurd hi (Nat.not_lt_zero i)⟩
  exact fixOnward_stops hstart (Nat.zero_add maxPasses)

/-- The output of a run is the text that its passes lead to, and what remains is what the rules find
    in it. -/
theorem reaches_output (h : fixSource filename source config = .ok report) :
    Reaches filename config source report.passes report.output ∧
      Stops filename config source report.passes ∧
      ∃ m, Module.read filename report.output = .ok m ∧ report.remaining = m.lint config := by
  obtain ⟨k, text, -, hreach, hstop, hrun⟩ := fixSource_reaches filename source config
  rw [h] at hrun
  cases hread : Module.read filename text with
  | error fault =>
    rw [hread] at hrun
    cases hrun
  | ok m =>
    rw [hread] at hrun
    cases hrun
    exact ⟨hreach, hstop, m, hread, rfl⟩

/-- A run that has not made all passes that it may make has ended where nothing could be carried
    out. -/
theorem applied_eq_zero_of_passes_lt (h : fixSource filename source config = .ok report)
    (hlt : report.passes < maxPasses) :
    (applyFixes report.output (report.remaining.map (·.fix))).applied = 0 := by
  obtain ⟨hreach, hstop, m, hread, hremaining⟩ := reaches_output h
  rw [hremaining]
  exact ((stops_iff hreach.text_eq hread).1 hstop).resolve_left (Nat.ne_of_lt hlt)

/-- A run stops after the first number of passes that gives it a reason to. If the text that these
    lead to cannot be read, the run ends with the fault of that text; else it ends with that text,
    the number of passes, the fixes that these carried out, no fewer than them, and what the rules
    find in that very text. -/
theorem fixSource_stops (filename : String) (source : List Char) (config : Config) :
    ∃ k text, k ≤ maxPasses ∧ textAfter filename config source k = some text ∧
      Stops filename config source k ∧ (∀ i < k, ¬Stops filename config source i) ∧
      (∀ fault, Module.read filename text = .error fault →
        fixSource filename source config = .error fault) ∧
      (∀ m, Module.read filename text = .ok m →
        fixSource filename source config =
            .ok ⟨text, k, fixedWithin filename config source k, m.lint config⟩ ∧
          lintSource filename text config = .ok (m.lint config)) ∧
      k ≤ fixedWithin filename config source k := by
  have hstart : Reaches filename config source 0 source :=
    ⟨rfl, fun i hi => absurd hi (Nat.not_lt_zero i)⟩
  obtain ⟨k, text, hk, hreach, hstop, hrun⟩ := fixOnward_stops hstart (Nat.zero_add maxPasses)
  refine ⟨k, text, hk, hreach.text_eq, hstop, hreach.goes_on, fun fault hread => ?_,
    fun m hread => ⟨?_, lintSource_of_read hread⟩,
    le_fixedWithin ⟨text, hreach.text_eq⟩ hreach.goes_on⟩
  · rw [hread] at hrun
    exact hrun
  · rw [hread] at hrun
    exact hrun

end FormCodemod
