import FormCodemod.Proofs.Edit.Moving
import FormCodemod.Proofs.Fix.Rerun
import FormCodemod.Proofs.Lint.Visits

/-!
# Texts with a byte order mark

A byte order mark at the start of a text is no part of what is read, and what the rules find does
not depend on it (`lint_marked`): the same issues, at the same spans and positions. So a text in
which nothing is found stays as it is.

The spans are those of the text without the mark, while a fix is carried out on the text as it is.
It would do to the text behind the mark what it should if it were moved by the three bytes of the
mark (`applyFixes_moved`). It is not, and so changes what stands three bytes ahead
(`not_mark_transparent`).
-/

namespace FormCodemod

open FormCodemod.Syntax

variable {filename : String} {config : Config} {source : List Char} {m m' : Module}

/-! ### Reading -/

/-- The module with a byte order mark at the start of its text. -/
def Module.marked (m : Module) : Module :=
  { m with text := '\ufeff' :: m.text }

theorem Module.read_marked (h : source.head? ≠ some '\ufeff') :
    read filename ('\ufeff' :: source) = (read filename source).map marked := by
  have hparse (dialect : Dialect) : parse dialect ('\ufeff' :: source) = parse dialect source := by
    rw [parse, parse, withoutMark_eq h]
    rfl
  rw [read, read, hparse]
  cases parse (.ofFilename filename) source <;> rfl

/-! ### Finding -/

/-- What a rule reports, without the edits. -/
def Report.finding (r : Report) : Issue × Span :=
  (r.issue, r.span)

/-- A violation without its fix. -/
def Violation.finding (v : Violation) : Issue × Span × Text.Position :=
  (v.issue, v.span, v.position)

theorem FormProp.findings_congr (htree : m'.tree = m.tree) (c : Component) :
    (check m' config c).map Report.finding = (check m config c).map Report.finding := by
  rw [check, check, htree]
  split
  case h_1 name first rest _ _ => cases Wrapper.find? config m.tree name <;> rfl
  case h_2 => rfl

theorem DecoratorBinding.findings_congr (m m' : Module) (span : Span) (declarators : List Node)
    (removable : Bool) :
    (check m' config span declarators removable).map Report.finding =
      (check m config span declarators removable).map Report.finding := by
  rw [check, check, List.map_flatMap, List.map_flatMap]
  congr 1
  funext declarator
  rw [checkDeclarator, checkDeclarator]
  cases formPattern? config declarator with
  | none => rfl
  | some pattern =>
    dsimp only
    rw [List.map_append, List.map_append, List.map_map, List.map_map]
    rfl

theorem FieldDecorator.findings_congr (m m' : Module) (span : Span) (opening : Node)
    (children : List Node) :
    (check m' config span opening children).map Report.finding =
      (check m config span opening children).map Report.finding := by
  rw [check, check]
  split <;> rfl

namespace Module

/-- What is found in a module depends on its text only for the edits. -/
theorem findings_congr (htree : m'.tree = m.tree) :
    (m'.reports config).map Report.finding = (m.reports config).map Report.finding := by
  rw [reports_eq_flatMap, reports_eq_flatMap, htree, List.map_flatMap, List.map_flatMap]
  congr 1
  funext ⟨_, s⟩
  cases s with
  | component c => exact FormProp.findings_congr htree c
  | function f => rfl
  | declaration span declarators removable =>
    exact DecoratorBinding.findings_congr m m' span declarators removable
  | element span opening children =>
    exact FieldDecorator.findings_congr m m' span opening children

/-- The rules find the same with a mark as without. -/
theorem lint_marked (h : m.text.head? ≠ some '\ufeff') :
    (m.marked.lint config).map Violation.finding = (m.lint config).map Violation.finding := by
  have hposition (span : Span) : m.marked.position span = m.position span := by
    rw [position, position, withoutMark_eq h]
    rfl
  have hfinding (n : Module) : (n.lint config).map Violation.finding =
      ((n.reports config).map Report.finding).map fun f => (f.1, f.2, n.position f.2) := by
    rw [lint, List.map_map, List.map_map]
    rfl
  have htree : m.marked.tree = m.tree := rfl
  rw [hfinding, hfinding, findings_congr htree, funext hposition]

end Module

/-! ### Fixing -/

/-- A text in which nothing is found stays as it is. -/
theorem fixSource_of_lint_eq_nil (hread : Module.read filename source = .ok m)
    (hnone : m.lint config = []) :
    fixSource filename source config = .ok ⟨source, 0, 0, []⟩ := by
  have happlied : (applyFixes source ((m.lint config).map (·.fix))).applied = 0 := by
    rw [hnone]
    rfl
  have hself := (fixSource_eq_self_iff hread).2 happlied
  rwa [hnone] at hself

/-- With a byte order mark, a text is read as without, or fails with the same fault, and the rules
    find the same in it; if they find nothing, it stays as it is. A pass would do the same to it,
    and keep the mark, if the fixes were moved by the width of the mark. -/
theorem mark_found (filename : String) (source : List Char) (config : Config)
    (hmark : source.head? ≠ some '\ufeff') :
    (∀ m, Module.read filename source = .ok m →
      Module.read filename ('\ufeff' :: source) = .ok m.marked ∧
      (m.marked.lint config).map Violation.finding = (m.lint config).map Violation.finding ∧
      (m.lint config = [] →
        fixSource filename ('\ufeff' :: source) config = .ok ⟨'\ufeff' :: source, 0, 0, []⟩)) ∧
    (∀ fault, Module.read filename source = .error fault →
      fixSource filename ('\ufeff' :: source) config = .error fault) ∧
    ∀ fixes, applyFixes ('\ufeff' :: source)
        (fixes.map (·.map (EditSet.moved (Text.width ['\ufeff'])))) =
      ⟨'\ufeff' :: (applyFixes source fixes).output, (applyFixes source fixes).applied⟩ := by
  refine ⟨fun m hread => ?_, fun fault hread => ?_, applyFixes_moved ['\ufeff'] source⟩
  · have hmarked : Module.read filename ('\ufeff' :: source) = .ok m.marked := by
      rw [Module.read_marked hmark, hread]
      rfl
    have hfound : (m.marked.lint config).map Violation.finding =
        (m.lint config).map Violation.finding :=
      Module.lint_marked (by rwa [Module.text_of_read hread])
    refine ⟨hmarked, hfound, fun hnone => fixSource_of_lint_eq_nil hmarked ?_⟩
    rw [hnone] at hfound
    exact List.map_eq_nil_iff.1 hfound
  · have hmarked : Module.read filename ('\ufeff' :: source) = .error fault := by
      rw [Module.read_marked hmark, hread]
      rfl
    exact fixOnward_of_error hmarked

/-- The place of the empty parameter is found behind the mark as well. -/
theorem mark_found_arrow :
    ∃ m, Module.read "a.jsx" "f((\x7b\x7d)=>1)".toList = .ok m ∧
      m.text.head? ≠ some '\ufeff' ∧
      Module.read "a.jsx" ('\ufeff' :: m.text) = .ok m.marked ∧
      (m.marked.lint {}).map Violation.finding = [(.emptyPattern, ⟨3, 5⟩, ⟨1, 3⟩)] := by
  have hread : ∃ m, Module.read "a.jsx" "f((\x7b\x7d)=>1)".toList = .ok m ∧
      m.text.head? ≠ some '\ufeff' ∧
      (m.lint {}).map Violation.finding = [(.emptyPattern, ⟨3, 5⟩, ⟨1, 3⟩)] :=
    exists_ok (by decide +kernel)
  obtain ⟨m, hm, hmark, hfound⟩ := hread
  have htext := Module.text_of_read hm
  obtain ⟨hmarked, hsame, -⟩ := (mark_found "a.jsx" m.text {} hmark).1 m (htext ▸ hm)
  exact ⟨m, hm, hmark, hmarked, hsame.trans hfound⟩

/-- Three bytes ahead of the empty parameter, the call and its parenthesis open. -/
theorem not_mark_transparent :
    ¬∀ (filename : String) (source : List Char) (config : Config) (report : FixReport),
      source.head? ≠ some '\ufeff' → fixSource filename source config = .ok report →
        ∃ marked, fixSource filename ('\ufeff' :: source) config = .ok marked ∧
          marked.output = '\ufeff' :: report.output ∧ marked.passes = report.passes ∧
          marked.fixed = report.fixed := by
  intro h
  have hrun : ∃ report, fixSource "a.jsx" "f((\x7b\x7d)=>1)".toList {} = .ok report ∧
      (fixSource "a.jsx" ('\ufeff' :: "f((\x7b\x7d)=>1)".toList) {}).toOption = none :=
    exists_ok (by decide +kernel)
  obtain ⟨report, hrun, hnone⟩ := hrun
  obtain ⟨marked, hmarked, -⟩ := h _ _ {} report (by decide) hrun
  rw [hmarked] at hnone
  cases hnone

end FormCodemod
