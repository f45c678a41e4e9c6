import FormCodemod.Proofs.Binding.Wrapping
import FormCodemod.Proofs.Lint.Visits
import FormCodemod.Proofs.Syntax.Spans

/-!
# The edits of the rules

Where the edits that a rule reports come from: for each rule, an inversion lemma says what they are
(`mem_check`), and so that their spans are those of nodes of the tree, or of tokens behind them. All
of them fit in the text of a module if the spans of its tree do (`Module.fitsIn_of_mem_reports`).
-/

namespace FormCodemod

open FormCodemod.Syntax

variable {m : Module} {config : Config} {span comma : Span} {e : Edit} {edits : List Edit}
  {r : Report}

/-! ### Removals -/

namespace Module

/-- The comma behind a span takes one byte. -/
theorem commaAfter?_spec (h : m.commaAfter? span = some comma) :
    span.stop ≤ comma.start ∧ comma.stop = comma.start + 1 ∧ comma.FitsIn m.text := by
  obtain ⟨t, ht, rfl⟩ := Option.map_eq_some_iff.1 h
  obtain ⟨ht, hchar⟩ := Option.filter_eq_some_iff.1 ht
  obtain ⟨-, -, -, -, hle⟩ := Text.exists_of_tokenAfter? ht
  have hchars : t.chars = [','] := of_decide_eq_true hchar
  exact ⟨hle, by rw [Text.PlainToken.stop, hchars]; rfl, Text.fitsIn_of_tokenAfter? ht⟩

theorem slice?_commaAfter? (h : m.commaAfter? span = some comma) :
    Text.slice? m.text comma.start comma.stop = some [','] := by
  obtain ⟨t, ht, rfl⟩ := Option.map_eq_some_iff.1 h
  obtain ⟨ht, hchar⟩ := Option.filter_eq_some_iff.1 ht
  obtain ⟨before, behind, htext, hwidth, -⟩ := Text.exists_of_tokenAfter? ht
  rw [← show t.chars = [','] from of_decide_eq_true hchar]
  exact Text.slice?_eq_some_iff.2 ⟨before, behind, htext, hwidth, rfl⟩

theorem mem_removal_iff :
    e ∈ m.removal span ↔
      e = .delete span ∨ ∃ comma, m.commaAfter? span = some comma ∧ e = .delete comma := by
  simp [removal, eq_comm]

theorem fitsIn_of_mem_removal (hspan : span.FitsIn m.text) (he : e ∈ m.removal span) :
    e.span.FitsIn m.text := by
  rcases mem_removal_iff.1 he with rfl | ⟨comma, hcomma, rfl⟩
  · exact hspan
  · exact (commaAfter?_spec hcomma).2.2

end Module

/-! ### Empty parameters -/

namespace EmptyPattern

variable {f : Component}

theorem mem_check (h : r ∈ check f) :
    ∃ parameter ∈ f.parameters,
      r.edits = some [.delete (removed parameter (Component.patternOf parameter))] := by
  unfold check at h
  split at h
  case h_1 parameter hparameters =>
    dsimp only at h
    split at h
    · rw [List.mem_singleton] at h
      exact ⟨parameter, hparameters ▸ List.mem_singleton_self _, by rw [h]⟩
    · cases h
  case h_2 => cases h

end EmptyPattern

/-! ### Bindings of the decorator -/

namespace DecoratorBinding

variable {declarators : List Node} {removable : Bool} {declarator pattern : Node}

theorem mem_of_formPattern? (h : formPattern? config declarator = some pattern) :
    pattern ∈ declarator.parts := by
  unfold formPattern? at h
  split at h
  · split at h
    · cases h
      exact List.mem_cons_self
    · cases h
  · cases h

theorem mem_check (h : r ∈ check m config span declarators removable) :
    (∃ declarator ∈ declarators, ∃ pattern ∈ declarator.parts, ∃ p ∈ pattern.bareParts,
      r.edits = some (m.removal p.span)) ∨
    r.edits = some [.delete span] := by
  obtain ⟨declarator, hdeclarator, h⟩ := List.mem_flatMap.1 h
  unfold checkDeclarator at h
  split at h
  case h_1 => cases h
  case h_2 pattern hpattern =>
    rcases List.mem_append.1 h with h | h
    · obtain ⟨p, hp, rfl⟩ := List.mem_map.1 h
      exact .inl ⟨declarator, hdeclarator, pattern, mem_of_formPattern? hpattern, p,
        List.mem_of_mem_filter hp, rfl⟩
    · split at h
      · rw [List.mem_singleton] at h
        exact .inr (by rw [h])
      · cases h

end DecoratorBinding

/-! ### Decorated fields -/

namespace FieldDecorator

variable {opening : Node} {children : List Node} {decoration : Decoration}

theorem container_of_ofChild? {child : Node}
    (h : Decoration.ofChild? config child = some decoration) :
    decoration.container = child.span := by
  unfold Decoration.ofChild? at h
  split at h
  · split at h
    · split at h
      · split at h
        · cases h
          rfl
        · cases h
      · cases h
    · cases h
  · cases h

theorem edits_of_plan? (h : plan? m opening decoration = some edits) :
    ∃ attributes field,
      edits = [.replace ⟨opening.span.stop - 1, opening.span.stop⟩ attributes,
        .replace decoration.container field] ∧
      opening.span.stop ≠ 0 ∧ m.slice ⟨opening.span.stop - 1, opening.span.stop⟩ = ['>'] := by
  unfold plan? at h
  split at h
  case h_1 element _ =>
    dsimp only at h
    split at h
    · cases h
    · obtain ⟨attributes, -, h⟩ := Option.bind_eq_some_iff.1 h
      split at h
      · cases h
      · split at h
        · cases h
        case isFalse hlast =>
          cases h
          obtain ⟨hstop, hslice⟩ := by simpa using hlast
          exact ⟨_, _, rfl, hstop, hslice⟩
  case h_2 => cases h

/-- What is replaced are the `>` of the opening tag, and a child. -/
theorem mem_check (h : r ∈ check m config span opening children) (hedits : r.edits = some edits) :
    ∃ child ∈ children, ∃ attributes field,
      edits = [.replace ⟨opening.span.stop - 1, opening.span.stop⟩ attributes,
        .replace child.span field] ∧
      opening.span.stop ≠ 0 ∧ m.slice ⟨opening.span.stop - 1, opening.span.stop⟩ = ['>'] := by
  unfold check at h
  split at h
  case h_1 => cases h
  case h_2 decoration hdecorations =>
    rw [List.mem_singleton] at h
    subst h
    have hmem : decoration ∈ children.filterMap (Decoration.ofChild? config) :=
      hdecorations ▸ List.mem_singleton_self _
    obtain ⟨child, hchild, hof⟩ := List.mem_filterMap.1 hmem
    refine ⟨child, hchild, ?_⟩
    rw [← container_of_ofChild? hof]
    exact edits_of_plan? hedits
  case h_3 =>
    rw [List.mem_singleton] at h
    subst h
    cases hedits

end FieldDecorator

/-! ### Injected props -/

namespace FormProp

variable {c : Component} {p : Property} {props : List Property} {wrapper : Wrapper}

theorem span_of_ofNode? {n : Node} (h : Property.ofNode? config n = some p) : p.span = n.span := by
  unfold Property.ofNode? at h
  split at h
  · split at h
    · cases h
      rfl
    · cases h
  · split at h
    · split at h
      · split at h
        · cases h
          rfl
        · cases h
      · cases h
        rfl
      · cases h
    · cases h
  · cases h

theorem sublist_ofNode? (config : Config) (ns : List Node) :
    ((ns.filterMap (Property.ofNode? config)).map (·.span)).Sublist (ns.map (·.span)) := by
  induction ns with
  | nil => exact List.Sublist.slnil
  | cons n ns ih =>
    rw [List.filterMap_cons, List.map_cons]
    split
    case h_1 => exact ih.cons _
    case h_2 p hp =>
      rw [List.map_cons, span_of_ofNode? hp]
      exact ih.cons_cons _

theorem properties_of_objectPattern {parameter : Node} {others : List Node}
    (hparameters : c.parameters = parameter :: others)
    (hpattern : (Component.patternOf parameter).kind = .objectPattern) :
    properties config c =
      (Component.patternOf parameter).bareParts.filterMap (Property.ofNode? config) := by
  rw [properties, hparameters]
  exact if_pos hpattern

/-- The first parameter is a pattern, and the properties are those in it that take the form. -/
theorem exists_parameter (h : properties config c ≠ []) :
    ∃ parameter others, c.parameters = parameter :: others ∧
      (Component.patternOf parameter).kind = .objectPattern ∧
      properties config c =
        (Component.patternOf parameter).bareParts.filterMap (Property.ofNode? config) := by
  cases hparameters : c.parameters with
  | nil => exact absurd (by rw [properties, hparameters]) h
  | cons parameter others =>
    by_cases hpattern : (Component.patternOf parameter).kind = .objectPattern
    · exact ⟨parameter, others, rfl, hpattern, properties_of_objectPattern hparameters hpattern⟩
    · refine absurd ?_ h
      rw [properties, hparameters]
      exact if_neg hpattern

/-- The properties are some of those in the pattern of a parameter, and listed as there. -/
theorem exists_pattern (h : properties config c ≠ []) :
    ∃ parameter ∈ c.parameters, (Component.patternOf parameter).kind = .objectPattern ∧
      ((properties config c).map (·.span)).Sublist
        ((Component.patternOf parameter).bareParts.map (·.span)) := by
  obtain ⟨parameter, others, hparameters, hpattern, hprops⟩ := exists_parameter h
  refine ⟨parameter, hparameters ▸ List.mem_cons_self, hpattern, ?_⟩
  rw [hprops]
  exact sublist_ofNode? config _

theorem edits_of_plan? (h : plan? m config c props wrapper = some edits) :
    ∃ block brace text, c.body = .block block ∧ m.openingBrace? block = some brace ∧
      (∀ p ∈ props, ∀ e ∈ m.removal p.span, ¬e.span.overlaps wrapper.factory) ∧
      edits = props.flatMap (fun p => m.removal p.span) ++
        [.insertAfter brace.stop text, .delete wrapper.factory] := by
  unfold plan? at h
  split at h
  case h_1 block hbody =>
    obtain ⟨brace, hbrace, h⟩ := Option.bind_eq_some_iff.1 h
    dsimp only at h
    split at h
    case isTrue => cases h
    case isFalse hoverlaps =>
      cases h
      refine ⟨block, brace, _, hbody, hbrace, fun p hp e he hover => hoverlaps ?_, rfl⟩
      exact List.any_eq_true.2 ⟨e, List.mem_flatMap.2 ⟨p, hp, he⟩, hover⟩
  case h_2 => cases h
  case h_3 => cases h

theorem exists_wrapper (h : r ∈ check m config c) :
    ∃ name wrapper, c.name = some name ∧ Wrapper.find? config m.tree name = some wrapper := by
  unfold check at h
  split at h
  case h_1 name first rest hname hprops =>
    split at h
    case h_1 wrapper hwrapper => exact ⟨name, wrapper, hname, hwrapper⟩
    case h_2 => cases h
  case h_2 => cases h

/-- The fix removes properties of a parameter, inserts behind the brace of the body, and removes the
    factory, which none of the removals reaches. -/
theorem mem_check (h : r ∈ check m config c) (hedits : r.edits = some edits) :
    ∃ name wrapper block brace text, c.name = some name ∧ properties config c ≠ [] ∧
      Wrapper.find? config m.tree name = some wrapper ∧ c.body = .block block ∧
      m.openingBrace? block = some brace ∧
      (∀ p ∈ properties config c, ∀ e ∈ m.removal p.span, ¬e.span.overlaps wrapper.factory) ∧
      edits = (properties config c).flatMap (fun p => m.removal p.span) ++
        [.insertAfter brace.stop text, .delete wrapper.factory] := by
  unfold check at h
  split at h
  case h_1 name first rest hname hprops =>
    split at h
    case h_1 wrapper hwrapper =>
      rw [List.mem_singleton] at h
      subst h
      obtain ⟨block, brace, text, hbody, hbrace, hoverlaps, hedits⟩ := edits_of_plan? hedits
      rw [hprops]
      exact ⟨name, wrapper, block, brace, text, hname, List.cons_ne_nil _ _, hwrapper, hbody,
        hbrace, hoverlaps, hedits⟩
    case h_2 => cases h
  case h_2 => cases h

end FormProp

/-! ### Where the spans come from -/

section

variable {tree n parameter : Node} {path : List Nat} {c : Component} {w : Wrapper} {name : Name}

theorem mem_preorder_of_mem_bareParts {parent : Node} (h : parent ∈ tree.preorder)
    (hn : n ∈ parent.bareParts) : n ∈ tree.preorder :=
  Node.mem_preorder_of_mem_parts h (Node.mem_bareParts_iff.1 hn).1

/-- The parameters and the body of a component are parts of one function in the tree. -/
structure Component.IsIn (c : Component) (tree : Node) (function : Node) : Prop where
  mem : function ∈ tree.preorder
  parameters : ∀ p ∈ c.parameters, p ∈ function.parts ∧ p.kind = .parameter
  body : ∀ span, c.body = .block span → ∃ b ∈ function.parts, b.kind = .block ∧ b.span = span

theorem Component.exists_block {isArrow : Bool} {parts : List Node}
    (h : bodyOf isArrow parts = .block span) : ∃ b ∈ parts, b.kind = .block ∧ b.span = span := by
  unfold bodyOf at h
  split at h
  case h_1 hfind =>
    cases h
    exact ⟨_, List.mem_of_find?_eq_some hfind, rfl, rfl⟩
  case h_2 => split at h <;> cases h
  case h_3 => cases h

theorem Component.isIn_of_ofFunction? {name : Option Name} (hn : n ∈ tree.preorder)
    (h : ofFunction? name n = some c) : c.IsIn tree n := by
  have hparameters : ∀ {parts : List Node} {p}, p ∈ parts.filter (·.kind = .parameter) →
      p ∈ parts ∧ p.kind = .parameter :=
    fun hp => ⟨List.mem_of_mem_filter hp, of_decide_eq_true (List.mem_filter.1 hp).2⟩
  unfold ofFunction? at h
  split at h
  · cases h
    exact ⟨hn, fun _ => hparameters, fun _ => exists_block⟩
  · cases h
    exact ⟨hn, fun _ => hparameters, fun _ => exists_block⟩
  · cases h

/-- What a rule gets as a component or as a function is in the tree. -/
theorem Hands.exists_isIn (h : Hands tree path (.component c) ∨ Hands tree path (.function c)) :
    ∃ function, c.IsIn tree function := by
  have hpart : ∀ {n p}, n ∈ tree.preorder → p ∈ n.parts → p ∈ tree.preorder :=
    Node.mem_preorder_of_mem_parts
  rcases h with h | h
  · cases h with
    | functionDeclaration hat hc =>
      have hmem := Node.mem_preorder_of_at? hat
      have hfunction := hpart hmem (List.mem_cons_of_mem _ List.mem_cons_self)
      exact ⟨_, Component.isIn_of_ofFunction? hfunction hc⟩
    | arrow hat hc =>
      have hmem := Node.mem_preorder_of_at? hat
      have hvalue := hpart hmem (List.mem_cons_of_mem _ List.mem_cons_self)
      exact ⟨_, Component.isIn_of_ofFunction? hvalue hc⟩
    | functionExpression hat _ hlast hc =>
      have hmem := Node.mem_preorder_of_at? hat
      have hvalue := hpart hmem (List.mem_cons_of_mem _ List.mem_cons_self)
      exact ⟨_, Component.isIn_of_ofFunction? (hpart hvalue (List.mem_of_getLast? hlast)) hc⟩
  · cases h with
    | function hat =>
      exact ⟨_, Component.isIn_of_ofFunction? (Node.mem_preorder_of_at? hat) rfl⟩
    | arrowFunction hat =>
      exact ⟨_, Component.isIn_of_ofFunction? (Node.mem_preorder_of_at? hat) rfl⟩

theorem Component.patternOf_mem (h : parameter ∈ tree.preorder) :
    patternOf parameter ∈ tree.preorder := by
  unfold patternOf
  cases hhead : parameter.parts.head? with
  | none => exact h
  | some pattern => exact Node.mem_preorder_of_mem_parts h (List.mem_of_mem_head? hhead)

theorem mem_of_callee? {callee : Node} (h : n.callee? = some callee) : callee ∈ n.parts := by
  unfold Node.callee? at h
  split at h
  · split at h
    · cases h
    · cases h
      exact List.mem_cons_self
  · cases h

/-- The factory of a wrapper is a call in the tree. -/
theorem Wrapper.exists_factory (h : find? config tree name = some w) :
    ∃ factory ∈ tree.preorder, factory.kind = .call ∧ w.factory = factory.span := by
  obtain ⟨span, call, factory, hrs, hcallee, hfactory, rfl⟩ := ofReferences?_eq_some_iff.1 h
  have hmem : ⟨span, .argument call true⟩ ∈ tree.references name :=
    hrs ▸ List.mem_singleton_self _
  obtain ⟨hcall, -⟩ := Node.mem_preorder_of_argument tree (Node.mem_allReferences hmem) rfl
  refine ⟨factory, Node.mem_preorder_of_mem_parts hcall (mem_of_callee? hcallee), ?_, rfl⟩
  obtain ⟨_, _, _, _, _, _, _, _, rfl, -⟩ := hfactory
  rfl

end

/-! ### Edits that fit -/

section

variable {path : List Nat} {c : Component} {function : Node}

theorem EmptyPattern.fitsIn (hfit : m.tree.SpansFit m.text) (hin : c.IsIn m.tree function)
    (h : r ∈ check c) (hedits : r.edits = some edits) (he : e ∈ edits) : e.span.FitsIn m.text := by
  obtain ⟨parameter, hmem, heq⟩ := mem_check h
  cases heq.symm.trans hedits
  rw [List.mem_singleton.1 he, Edit.span, removed]
  have hparameter := Node.mem_preorder_of_mem_parts hin.mem (hin.parameters parameter hmem).1
  split
  case h_1 type htype =>
    have hpattern := Component.patternOf_mem hparameter
    have htype := Node.mem_preorder_of_mem_parts hpattern (List.mem_of_find?_eq_some htype)
    exact (hfit parameter hparameter).extend (hfit type htype)
  case h_2 => exact hfit parameter hparameter

theorem FormProp.fitsIn (hfit : m.tree.SpansFit m.text) (hin : c.IsIn m.tree function)
    (h : r ∈ check m config c) (hedits : r.edits = some edits) (he : e ∈ edits) :
    e.span.FitsIn m.text := by
  obtain ⟨name, wrapper, block, brace, text, -, hne, hwrapper, -, hbrace, -, rfl⟩ :=
    mem_check h hedits
  rw [List.mem_append] at he
  rcases he with he | he
  · obtain ⟨p, hp, he⟩ := List.mem_flatMap.1 he
    refine Module.fitsIn_of_mem_removal ?_ he
    obtain ⟨parameter, hparameter, -, hsub⟩ := exists_pattern hne
    obtain ⟨n, hn, hspan⟩ := List.mem_map.1 (hsub.subset (List.mem_map_of_mem hp))
    have hparameter := Node.mem_preorder_of_mem_parts hin.mem (hin.parameters _ hparameter).1
    exact hspan ▸ hfit n (mem_preorder_of_mem_bareParts (Component.patternOf_mem hparameter) hn)
  · rw [List.mem_cons, List.mem_singleton] at he
    rcases he with rfl | rfl
    · obtain ⟨hbrace, -⟩ := Option.filter_eq_some_iff.1 hbrace
      exact (Text.fitsIn_of_tokenAt? hbrace).stop.fitsIn_empty
    · obtain ⟨factory, hfactory, -, hspan⟩ := Wrapper.exists_factory hwrapper
      exact hspan ▸ hfit factory hfactory

theorem DecoratorBinding.fitsIn {keyword : VarKeyword} {declarators : List Node}
    {removable : Bool} (hfit : m.tree.SpansFit m.text)
    (hmem : .mk (.variableDeclaration keyword) span declarators ∈ m.tree.preorder)
    (h : r ∈ check m config span declarators removable) (hedits : r.edits = some edits)
    (he : e ∈ edits) : e.span.FitsIn m.text := by
  rcases mem_check h with ⟨d, hd, pattern, hpattern, p, hp, heq⟩ | heq
  · cases heq.symm.trans hedits
    have hdeclarator := Node.mem_preorder_of_mem_parts hmem hd
    have hpattern := Node.mem_preorder_of_mem_parts hdeclarator hpattern
    exact Module.fitsIn_of_mem_removal (hfit p (mem_preorder_of_mem_bareParts hpattern hp)) he
  · cases heq.symm.trans hedits
    rw [List.mem_singleton.1 he]
    exact hfit _ hmem

theorem FieldDecorator.fitsIn {opening : Node} {children : List Node}
    (hfit : m.tree.SpansFit m.text)
    (hmem : .mk .jsxElement span (opening :: children) ∈ m.tree.preorder)
    (h : r ∈ check m config span opening children) (hedits : r.edits = some edits)
    (he : e ∈ edits) : e.span.FitsIn m.text := by
  obtain ⟨child, hchild, attributes, field, rfl, -, hlast⟩ := mem_check h hedits
  rw [List.mem_cons, List.mem_singleton] at he
  rcases he with rfl | rfl
  · exact Text.fitsIn_of_slice fun hnil => List.cons_ne_nil _ _ (hlast.symm.trans hnil)
  · exact hfit child (Node.mem_preorder_of_mem_parts hmem (List.mem_cons_of_mem _ hchild))

/-- Where the spans of a tree fit in its text, so do those of all edits that the rules report. -/
theorem Module.fitsIn_of_mem_reports (hfit : m.tree.SpansFit m.text) (h : r ∈ m.reports config)
    (hedits : r.edits = some edits) (he : e ∈ edits) : e.span.FitsIn m.text := by
  cases (m.mem_reports_iff_reported config).1 h with
  | formProp hands h =>
    obtain ⟨function, hin⟩ := Hands.exists_isIn (.inl hands)
    exact FormProp.fitsIn hfit hin h hedits he
  | emptyPattern hands h =>
    obtain ⟨function, hin⟩ := Hands.exists_isIn (.inr hands)
    exact EmptyPattern.fitsIn hfit hin h hedits he
  | decoratorBinding hands h =>
    cases hands with
    | declaration hat =>
      exact DecoratorBinding.fitsIn hfit (Node.mem_preorder_of_at? hat) h hedits he
  | fieldDecorator hands h =>
    cases hands with
    | element hat =>
      exact FieldDecorator.fitsIn hfit (Node.mem_preorder_of_at? hat) h hedits he

end

end FormCodemod
