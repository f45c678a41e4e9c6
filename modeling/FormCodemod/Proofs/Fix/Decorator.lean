import FormCodemod.Proofs.Fix.Settled
import FormCodemod.Proofs.Rule.Composing

/-!
# Decorators that remain

Whether a binding of the decorator is used is not asked: the rule for it looks at the declaration
alone, and always has a fix (`TakesDecorator.exists_fix`). A use is rewritten only if it decorates
the one field of an element, and if its name and options make attributes (`IsRewritable`). So a run
that ends by itself leaves no binding, and no such use (`decorator_settles`). It leaves any other
use as it is, of a name that may have lost its declaration (`used_binding_removed`).
-/

namespace FormCodemod

open FormCodemod.Syntax

variable {m : Module} {config : Config} {p : Node} {element : Span} {edits : List Edit}
  {r : Report}

/-- The property takes the decorator from the form, in a declaration of plain variables. -/
def TakesDecorator (config : Config) (tree p : Node) : Prop :=
  ∃ path span declarators removable,
    Hands tree path (.declaration span declarators removable) ∧
      ∃ declarator ∈ declarators, ∃ pattern,
        DecoratorBinding.formPattern? config declarator = some pattern ∧
          p ∈ pattern.bareParts ∧ DecoratorBinding.bindsDecorator config p

/-- The element has a single decorated child, with a name and options that make attributes of the
    element. -/
def IsRewritable (m : Module) (config : Config) (element : Span) : Prop :=
  ∃ path opening children decoration edits,
    Hands m.tree path (.element element opening children) ∧
      children.filterMap (FieldDecorator.Decoration.ofChild? config) = [decoration] ∧
      FieldDecorator.plan? m opening decoration = some edits

/-! ### Fixes that are there -/

/-- Edits that go together are the fix of a violation, if there are any. -/
theorem Module.exists_fix_of_mem_reports (hr : r ∈ m.reports config) (hedits : r.edits = some edits)
    (hne : edits ≠ []) (haccepted : ∃ set, EditSet.ofList edits = .ok set) :
    ∃ v ∈ m.lint config, v.issue = r.issue ∧ v.span = r.span ∧ v.fix.isSome := by
  refine ⟨m.violation r, List.mem_map_of_mem hr, rfl, rfl, ?_⟩
  rw [violation, hedits, Option.bind_some]
  exact EditSet.isSome_compose? hne haccepted

/-- A binding of the decorator has a fix, whether it is used or not. -/
theorem TakesDecorator.exists_fix (hfit : m.tree.SpansFit m.text)
    (h : TakesDecorator config m.tree p) :
    ∃ v ∈ m.lint config, v.issue = .decoratorBinding ∧ v.span = p.span ∧ v.fix.isSome := by
  obtain ⟨path, span, declarators, removable, hands, d, hd, pattern, hpattern, hp, hbinds⟩ := h
  have hcheck : ⟨.decoratorBinding, p.span, some (m.removal p.span)⟩ ∈
      DecoratorBinding.check m config span declarators removable := by
    refine List.mem_flatMap.2 ⟨d, hd, ?_⟩
    rw [DecoratorBinding.checkDeclarator, hpattern]
    exact List.mem_append_left _ (List.mem_map.2 ⟨p, List.mem_filter.2 ⟨hp, hbinds⟩, rfl⟩)
  have hr := (m.mem_reports_iff_reported config).2 (.decoratorBinding hands hcheck)
  cases hands with
  | declaration hat =>
    have haccepted :=
      DecoratorBinding.accepted hfit (Node.mem_preorder_of_at? hat) hcheck rfl
    exact Module.exists_fix_of_mem_reports hr rfl (List.cons_ne_nil _ _) haccepted

/-- A use of the decorator that can be rewritten has a fix. -/
theorem IsRewritable.exists_fix (hlaid : m.tree.LaidOut m.text)
    (h : IsRewritable m config element) :
    ∃ v ∈ m.lint config, v.issue = .fieldDecorator ∧ v.span = element ∧ v.fix.isSome := by
  obtain ⟨path, opening, children, decoration, edits, hands, hchildren, hplan⟩ := h
  have hcheck : ⟨.fieldDecorator, element, some edits⟩ ∈
      FieldDecorator.check m config element opening children := by
    rw [FieldDecorator.check, hchildren, ← hplan]
    exact List.mem_singleton_self _
  have hr := (m.mem_reports_iff_reported config).2 (.fieldDecorator hands hcheck)
  have hne : edits ≠ [] := by
    obtain ⟨_, _, rfl, -⟩ := FieldDecorator.edits_of_plan? hplan
    exact List.cons_ne_nil _ _
  cases hands with
  | element hat =>
    have haccepted := FieldDecorator.accepted hlaid (Node.mem_preorder_of_at? hat) hcheck rfl
    exact Module.exists_fix_of_mem_reports hr rfl hne haccepted

/-! ### The main result -/

/-- Among what remains after a run is every binding of the decorator, and every use of it that can
    be rewritten, with a fix that is still to be carried out. There are none of them unless the run
    has made all passes that it may make. -/
theorem decorator_settles (filename : String) (source : List Char) (config : Config)
    (report : FixReport) (hrun : fixSource filename source config = .ok report)
    (hlaid : ∀ m, Module.read filename report.output = .ok m → m.tree.LaidOut m.text) :
    ∃ m, Module.read filename report.output = .ok m ∧
      (∀ p, TakesDecorator config m.tree p → ∃ v ∈ report.remaining,
        v.issue = .decoratorBinding ∧ v.span = p.span ∧ v.fix.isSome) ∧
      (∀ element, IsRewritable m config element → ∃ v ∈ report.remaining,
        v.issue = .fieldDecorator ∧ v.span = element ∧ v.fix.isSome) ∧
      (report.passes < maxPasses →
        (∀ p, ¬TakesDecorator config m.tree p) ∧ ∀ element, ¬IsRewritable m config element) := by
  obtain ⟨-, -, m, hread, hremaining⟩ := reaches_output hrun
  have hlaid := hlaid m hread
  rw [hremaining]
  refine ⟨m, hread, fun p hp => hp.exists_fix hlaid.fit, fun e he => he.exists_fix hlaid,
    fun hlt => ?_⟩
  -- Any fix that is left would have made the run go on.
  have hnone : ¬∃ v ∈ m.lint config, v.fix.isSome := by
    have happlied := applied_eq_zero_of_passes_lt hrun hlt
    rw [hremaining, ← Module.text_of_read hread] at happlied
    rw [← applied_pos_iff hlaid.fit, happlied]
    exact Nat.lt_irrefl 0
  constructor
  · intro p hp
    obtain ⟨v, hv, -, -, hfix⟩ := hp.exists_fix hlaid.fit
    exact hnone ⟨v, hv, hfix⟩
  · intro element helement
    obtain ⟨v, hv, -, -, hfix⟩ := helement.exists_fix hlaid
    exact hnone ⟨v, hv, hfix⟩

/-- The binding goes, and the field is not decorated any more. -/
theorem decorator_settles_item :
    ∃ report m,
      fixSource "a.jsx"
          "const\x7bgetFieldDecorator,a\x7d=form;<I>\x7bgetFieldDecorator(1)(<b/>)\x7d</I>".toList
          {} = .ok report ∧
        report.output = "const\x7ba\x7d=form;<I name=\x7b1\x7d><b/></I>".toList ∧
        Module.read "a.jsx" report.output = .ok m ∧
        (∀ p, ¬TakesDecorator {} m.tree p) ∧ ∀ element, ¬IsRewritable m {} element := by
  have hrun : ∃ report,
      fixSource "a.jsx"
          "const\x7bgetFieldDecorator,a\x7d=form;<I>\x7bgetFieldDecorator(1)(<b/>)\x7d</I>".toList
          {} = .ok report ∧
        report.output = "const\x7ba\x7d=form;<I name=\x7b1\x7d><b/></I>".toList ∧
        report.passes < maxPasses ∧
        (Module.read "a.jsx" report.output).toOption.any (fun m => m.tree.LaidOut m.text) = true :=
    exists_ok (by decide +kernel)
  obtain ⟨report, hrun, houtput, hlt, hlaid⟩ := hrun
  have hlaid : ∀ m, Module.read "a.jsx" report.output = .ok m → m.tree.LaidOut m.text := by
    intro m hm
    rw [hm] at hlaid
    exact of_decide_eq_true hlaid
  obtain ⟨m, hm, -, -, hsettled⟩ := decorator_settles "a.jsx" _ {} report hrun hlaid
  exact ⟨report, m, hrun, houtput, hm, hsettled hlt⟩

/-- The binding goes although it is used, and the use is of a name that is declared nowhere. -/
theorem used_binding_removed :
    ∃ m report m' p,
      Module.read "a.jsx" "const\x7bgetFieldDecorator\x7d=form;use(getFieldDecorator)".toList =
          .ok m ∧
        TakesDecorator {} m.tree p ∧
        (∃ b ∈ p.parts, b.kind = .binder ⟨"getFieldDecorator", .scope 0⟩) ∧
        (∃ n ∈ m.tree.preorder, n.kind = .reference ⟨"getFieldDecorator", .scope 0⟩) ∧
        fixSource "a.jsx" m.text {} = .ok report ∧ report.passes = 1 ∧
        report.output = "use(getFieldDecorator)".toList ∧
        Module.read "a.jsx" report.output = .ok m' ∧
        ∃ n ∈ m'.tree.preorder, n.kind = .reference ⟨"getFieldDecorator", .outside⟩ := by
  -- The declaration is the first statement; in the tree of the output, no scope declares the name.
  have hread : ∃ m,
      Module.read "a.jsx" "const\x7bgetFieldDecorator\x7d=form;use(getFieldDecorator)".toList =
          .ok m ∧
        ((m.tree.subjectAt? [0]).bind Subject.declaration?).any (fun x => decide
          (∃ declarator ∈ x.2.1, ∃ pattern ∈ DecoratorBinding.formPattern? {} declarator,
            ∃ p ∈ pattern.bareParts, DecoratorBinding.bindsDecorator {} p = true ∧
              ∃ b ∈ p.parts, b.kind = .binder ⟨"getFieldDecorator", .scope 0⟩)) = true ∧
        ∃ n ∈ m.tree.preorder, n.kind = .reference ⟨"getFieldDecorator", .scope 0⟩ :=
    exists_ok (by decide +kernel)
  have hrun : ∃ report,
      fixSource "a.jsx" "const\x7bgetFieldDecorator\x7d=form;use(getFieldDecorator)".toList {} =
          .ok report ∧
        report.passes = 1 ∧ report.output = "use(getFieldDecorator)".toList :=
    exists_ok (by decide +kernel)
  have hleft : ∃ m', Module.read "a.jsx" "use(getFieldDecorator)".toList = .ok m' ∧
      ∃ n ∈ m'.tree.preorder, n.kind = .reference ⟨"getFieldDecorator", .outside⟩ :=
    exists_ok (by decide +kernel)
  obtain ⟨m, hm, hany, huse⟩ := hread
  obtain ⟨report, hrun, hpasses, houtput⟩ := hrun
  obtain ⟨m', hm', hleft⟩ := hleft
  rw [← Module.text_of_read hm] at hrun
  rw [← houtput] at hm'
  obtain ⟨span, declarators, removable, hands, d, hd, pattern, hpattern, p, hp, hbinds, hbinder⟩ :=
    exists_declaration hany
  have htakes : TakesDecorator {} m.tree p :=
    ⟨[0], span, declarators, removable, hands, d, hd, pattern, hpattern, hp, hbinds⟩
  exact ⟨m, report, m', p, hm, htakes, hbinder, huse, hrun, hpasses, houtput, hm', hleft⟩

end FormCodemod
