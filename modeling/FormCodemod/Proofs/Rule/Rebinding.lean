import FormCodemod.Proofs.Rule.Injected
import FormCodemod.Scope.Declared

/-!
# Names bound again

The fix for an injected prop takes properties out of a parameter and declares what they bound at the
start of the body: the form, and what the patterns bind that take the form apart
(`mem_declaredNames_iff`). No binding gets lost in this. Where the function keeps to the rules of
the language, by which parameters bind no name twice, and none that the body declares as a block
does, no name comes to be bound twice either, as far as the properties bound it
(`names_bound_again`).

Nothing beyond that is looked at. The form is declared also where only a pattern took it apart, so
that it may meet another parameter of its name, or a declaration in the body; and a name may be
declared by `var`, or for a function, in the body, as it may where it is a parameter, or be used in
what is left of the parameters (`names_bound_twice`).
-/

namespace FormCodemod

open FormCodemod.Syntax FormCodemod.Text

namespace Syntax.Node

/-- The names that a statement at the top of a function declares as in a block, which no parameter
    of the function may have. -/
def lexicallyDeclared : Node → List String
  | .mk (.variableDeclaration .var) _ _ => []
  | .mk (.variableDeclaration keyword) span parts =>
    boundNames (.mk (.variableDeclaration keyword) span parts)
  | .mk .classDeclaration _ parts => leadingName parts
  | _ => []

theorem allBoundNames_eq_flatMap (ns : List Node) : allBoundNames ns = ns.flatMap boundNames := by
  induction ns with
  | nil => rfl
  | cons n ns ih => rw [allBoundNames, List.flatMap_cons, ih]

theorem boundNames_of_objectPattern {n : Node} (h : n.kind = .objectPattern) :
    n.boundNames = n.parts.flatMap boundNames := by
  obtain ⟨kind, span, parts⟩ := n
  obtain rfl : kind = .objectPattern := h
  rw [boundNames, allBoundNames_eq_flatMap]
  rfl

/-- Where nodes bind no name twice, no two of them bind the same. -/
theorem not_mem_boundNames_of_nodup {ns : List Node} {n n' : Node} {x : String}
    (h : (ns.flatMap boundNames).Nodup) (hn : n ∈ ns) (hn' : n' ∈ ns) (hne : n ≠ n')
    (hx : x ∈ n.boundNames) : x ∉ n'.boundNames := by
  have hdisjoint : ns.Pairwise fun n n' => List.Disjoint n.boundNames n'.boundNames :=
    (List.nodup_flatMap.1 h).2
  have : Std.Symm fun n n' : Node => List.Disjoint n.boundNames n'.boundNames :=
    ⟨fun _ _ => List.Disjoint.symm⟩
  exact hdisjoint.forall hn hn' hne hx

end Syntax.Node

/-- A parameter that is a pattern binds what the pattern binds. -/
theorem Component.boundNames_patternOf {parameter : Node} (hkind : parameter.kind = .parameter)
    (hpattern : (patternOf parameter).kind = .objectPattern) :
    parameter.boundNames = (patternOf parameter).boundNames := by
  obtain ⟨kind, span, parts⟩ := parameter
  obtain rfl : kind = .parameter := hkind
  cases parts with
  | nil => cases hpattern
  | cons pattern rest => rfl

namespace FormProp

variable {m : Module} {config : Config} {c : Component} {n parameter : Node} {p : Property}
  {x : String} {edits : List Edit} {r : Report}

/-- The properties of a parameter that the fix removes. -/
def taken (config : Config) (parameter : Node) : List Node :=
  (Component.patternOf parameter).bareParts.filter fun n => (Property.ofNode? config n).isSome

/-- The properties of a parameter that stay. -/
def left (config : Config) (parameter : Node) : List Node :=
  (Component.patternOf parameter).bareParts.filter fun n => (Property.ofNode? config n).isNone

/-- The pattern that takes the value of a property apart, if one does. -/
def nestedPattern? : Node → Option Node
  | .mk .pairPattern _ [_, .mk .objectPattern span parts] => some (.mk .objectPattern span parts)
  | _ => none

/-- The names that are declared at the start of the body. -/
def declaredNames (config : Config) (parameter : Node) : List String :=
  config.formProp :: ((taken config parameter).filterMap nestedPattern?).flatMap Node.boundNames

/-! ### Properties that go -/

theorem nested_of_ofNode? (h : Property.ofNode? config n = some p) :
    p.nested = (nestedPattern? n).map (·.span) := by
  have htakes := (ofNode?_eq_some_iff.1 h).1
  obtain ⟨span, nested⟩ := p
  cases htakes <;> rfl

/-- A property that goes binds the form, or what a pattern binds that takes the form apart. -/
theorem boundNames_of_ofNode? (h : Property.ofNode? config n = some p) :
    n.boundNames = ((nestedPattern? n).map Node.boundNames).getD [config.formProp] := by
  have htakes := (ofNode?_eq_some_iff.1 h).1
  obtain ⟨span, nested⟩ := p
  cases htakes with
  | shorthand hname => exact congrArg ([·]) hname
  | named hname => exact congrArg ([·]) hname
  | nested => rfl

theorem filterMap_nested (config : Config) (ns : List Node) :
    (ns.filterMap (Property.ofNode? config)).filterMap (·.nested) =
      ((ns.filter fun n => (Property.ofNode? config n).isSome).filterMap nestedPattern?).map
        (·.span) := by
  rw [List.filterMap_filterMap, List.filterMap_filter, List.map_filterMap]
  refine List.filterMap_congr fun n _ => ?_
  cases hof : Property.ofNode? config n with
  | none => rfl
  | some p => exact nested_of_ofNode? hof

/-- What is declared at the start of the body is the form, and what the properties bound that go. -/
theorem mem_declaredNames_iff : x ∈ declaredNames config parameter ↔
    x = config.formProp ∨ ∃ n ∈ taken config parameter, x ∈ n.boundNames := by
  rw [declaredNames, List.mem_cons, List.mem_flatMap]
  constructor
  · rintro (rfl | ⟨q, hq, hx⟩)
    · exact .inl rfl
    · obtain ⟨n, hn, hnested⟩ := List.mem_filterMap.1 hq
      obtain ⟨p, hp⟩ := Option.isSome_iff_exists.1 (List.mem_filter.1 hn).2
      refine .inr ⟨n, hn, ?_⟩
      rw [boundNames_of_ofNode? hp, hnested]
      exact hx
  · rintro (rfl | ⟨n, hn, hx⟩)
    · exact .inl rfl
    · obtain ⟨p, hp⟩ := Option.isSome_iff_exists.1 (List.mem_filter.1 hn).2
      rw [boundNames_of_ofNode? hp] at hx
      cases hnested : nestedPattern? n with
      | none =>
        rw [hnested] at hx
        exact .inl (List.mem_singleton.1 hx)
      | some q =>
        rw [hnested] at hx
        exact .inr ⟨q, List.mem_filterMap.2 ⟨n, hn, hnested⟩, hx⟩

/-! ### Names that stay -/

/-- Where the parameters bind no name twice, what the properties bound that go is bound neither by
    those that stay nor by other parameters. -/
theorem not_mem_of_taken {others : List Node} (hkind : parameter.kind = .parameter)
    (hpattern : (Component.patternOf parameter).kind = .objectPattern)
    (hnodup : ((parameter :: others).flatMap Node.boundNames).Nodup)
    (hn : n ∈ taken config parameter) (hx : x ∈ n.boundNames) :
    (∀ n' ∈ left config parameter, x ∉ n'.boundNames) ∧ ∀ p ∈ others, x ∉ p.boundNames := by
  obtain ⟨hn, htaken⟩ := List.mem_filter.1 hn
  rw [List.flatMap_cons, Component.boundNames_patternOf hkind hpattern] at hnodup
  obtain ⟨hown, -, hother⟩ := List.nodup_append.1 hnodup
  constructor
  · intro n' hn' hx'
    obtain ⟨hn', hleft⟩ := List.mem_filter.1 hn'
    -- One of the two goes and the other stays.
    have hne : n ≠ n' := by
      rintro rfl
      rw [Option.isNone_iff_eq_none] at hleft
      rw [hleft] at htaken
      cases htaken
    rw [Node.boundNames_of_objectPattern hpattern] at hown
    exact Node.not_mem_boundNames_of_nodup hown (Node.mem_bareParts_iff.1 hn).1
      (Node.mem_bareParts_iff.1 hn').1 hne hx hx'
  · intro p hp hx'
    have hxp : x ∈ (Component.patternOf parameter).boundNames := by
      rw [Node.boundNames_of_objectPattern hpattern]
      exact List.mem_flatMap.2 ⟨n, (Node.mem_bareParts_iff.1 hn).1, hx⟩
    exact hother x hxp x (List.mem_flatMap.2 ⟨p, hp, hx'⟩) rfl

/-! ### What the fix does -/

theorem map_span_properties (config : Config) (ns : List Node) :
    (ns.filterMap (Property.ofNode? config)).map (·.span) =
      (ns.filter fun n => (Property.ofNode? config n).isSome).map (·.span) := by
  rw [List.map_filterMap, ← List.filterMap_eq_map, List.filterMap_filter]
  refine List.filterMap_congr fun n _ => ?_
  cases hof : Property.ofNode? config n with
  | none => rfl
  | some p => exact congrArg some (span_of_ofNode? hof)

/-- The edits of the fix, by the nodes that they are about. -/
theorem exists_edits (hr : r ∈ check m config c) (hedits : r.edits = some edits) :
    ∃ parameter others block, ∃ wrapper : Wrapper, c.parameters = parameter :: others ∧
      (Component.patternOf parameter).kind = .objectPattern ∧ c.body = .block block ∧
      (properties config c).map (·.span) = (taken config parameter).map (·.span) ∧
      edits = (removed m (properties config c)).map .delete ++
        [.insertAfter (block.start + 1) (hookDeclaration config ++
          ((taken config parameter).filterMap nestedPattern?).flatMap fun p =>
            rebinding config (m.slice p.span)), .delete wrapper.factory] := by
  obtain ⟨-, wrapper, -, -, hne, hplan⟩ := exists_plan hr hedits
  obtain ⟨block, hbody, -, -, rfl⟩ := plan?_eq_some_iff.1 hplan
  obtain ⟨parameter, others, hparameters, hpattern, hproperties⟩ := exists_parameter hne
  refine ⟨parameter, others, block, wrapper, hparameters, hpattern, hbody, ?_, ?_⟩
  · rw [hproperties, map_span_properties, taken]
  · rw [declarations, hproperties, filterMap_nested, taken, List.flatMap_map]

end FormProp

/-! ### The main result -/

/-- The fix for an injected prop takes properties out of the first parameter, and declares at the
    start of the body the form and what these properties bound. If the parameters bind no name
    twice, and none that the body declares as a block does, then what the properties bound is bound
    neither by what is left of the parameters nor, as in a block, by the body. -/
theorem names_bound_again (m : Module) (config : Config) (path : List Nat) (c : Component)
    (r : Report) (edits : List Edit) (hands : Hands m.tree path (.component c))
    (hr : r ∈ FormProp.check m config c) (hedits : r.edits = some edits) :
    ∃ parameter others function body, ∃ wrapper : Wrapper, c.parameters = parameter :: others ∧
      c.IsIn m.tree function ∧ body ∈ function.parts ∧ body.kind = .block ∧
      c.body = .block body.span ∧
      edits = (FormProp.removed m (FormProp.properties config c)).map .delete ++
        [.insertAfter (body.span.start + 1) (FormProp.hookDeclaration config ++
          ((FormProp.taken config parameter).filterMap FormProp.nestedPattern?).flatMap fun p =>
            FormProp.rebinding config (m.slice p.span)), .delete wrapper.factory] ∧
      (FormProp.properties config c).map (·.span) =
        (FormProp.taken config parameter).map (·.span) ∧
      (∀ x, x ∈ FormProp.declaredNames config parameter ↔
        x = config.formProp ∨ ∃ n ∈ FormProp.taken config parameter, x ∈ n.boundNames) ∧
      ((c.parameters.flatMap Node.boundNames).Nodup →
        (∀ x ∈ c.parameters.flatMap Node.boundNames,
          x ∉ body.parts.flatMap Node.lexicallyDeclared) →
        ∀ x ∈ FormProp.declaredNames config parameter,
          (∃ n ∈ FormProp.taken config parameter, x ∈ n.boundNames) →
            (∀ n ∈ FormProp.left config parameter, x ∉ n.boundNames) ∧
            (∀ p ∈ others, x ∉ p.boundNames) ∧
            x ∉ body.parts.flatMap Node.lexicallyDeclared) := by
  obtain ⟨parameter, others, block, wrapper, hparameters, hpattern, hbody, hspans, heq⟩ :=
    FormProp.exists_edits hr hedits
  obtain ⟨function, hin⟩ := Hands.exists_isIn (.inl hands)
  obtain ⟨body, hmem, hblock, rfl⟩ := hin.body block hbody
  have hkind := (hin.parameters parameter (hparameters ▸ List.mem_cons_self)).2
  refine ⟨parameter, others, function, body, wrapper, hparameters, hin, hmem, hblock, hbody, heq,
    hspans, fun _ => FormProp.mem_declaredNames_iff, fun hnodup hlexical x _ ⟨n, hn, hx⟩ => ?_⟩
  rw [hparameters] at hnodup hlexical
  obtain ⟨hleft, hothers⟩ := FormProp.not_mem_of_taken hkind hpattern hnodup hn hx
  refine ⟨hleft, hothers, hlexical x ?_⟩
  rw [List.flatMap_cons, Component.boundNames_patternOf hkind hpattern,
    Node.boundNames_of_objectPattern hpattern]
  have hpart := (Node.mem_bareParts_iff.1 (List.mem_filter.1 hn).1).1
  exact List.mem_append_left _ (List.mem_flatMap.2 ⟨n, hpart, hx⟩)

/-- The pattern that takes the form apart binds `a`, which is bound nowhere else. -/
theorem names_bound_again_pattern :
    ∃ m c parameter others, Module.read "a.jsx"
        "function Foo(\x7bform:\x7ba\x7d,b\x7d,c)\x7blet d\x7dForm.create()(Foo)".toList = .ok m ∧
      Hands m.tree [0] (.component c) ∧ c.parameters = parameter :: others ∧
      "a" ∈ FormProp.declaredNames {} parameter ∧
      (∀ n ∈ FormProp.left {} parameter, "a" ∉ n.boundNames) ∧
      ∀ p ∈ others, "a" ∉ p.boundNames := by
  have hread : ∃ m, Module.read "a.jsx"
        "function Foo(\x7bform:\x7ba\x7d,b\x7d,c)\x7blet d\x7dForm.create()(Foo)".toList = .ok m ∧
      ((m.tree.subjectAt? [0]).bind Subject.component?).any (fun c => decide
        ((∃ r ∈ FormProp.check m {} c, r.edits.isSome) ∧
          (c.parameters.flatMap Node.boundNames).Nodup ∧
          (∀ body ∈ m.tree.preorder, body.kind = .block →
            ∀ x ∈ c.parameters.flatMap Node.boundNames,
              x ∉ body.parts.flatMap Node.lexicallyDeclared) ∧
          ∀ parameter ∈ c.parameters.head?,
            ∃ n ∈ FormProp.taken {} parameter, "a" ∈ n.boundNames)) = true :=
    exists_ok (by decide +kernel)
  obtain ⟨m, hm, hany⟩ := hread
  obtain ⟨c, hands, ⟨r, hr, hedits⟩, hnodup, hlexical, htaken⟩ := exists_component hany
  obtain ⟨edits, hedits⟩ := Option.isSome_iff_exists.1 hedits
  obtain ⟨parameter, others, function, body, -, hparameters, hin, hbody, hblock, -, -, -, hdeclared,
    hkeeps⟩ := names_bound_again m {} [0] c r edits hands hr hedits
  have htaken := htaken parameter (by rw [hparameters]; rfl)
  have ha := (hdeclared "a").2 (.inr htaken)
  obtain ⟨hleft, hothers, -⟩ := hkeeps hnodup
    (hlexical body (Node.mem_preorder_of_mem_parts hin.mem hbody) hblock) "a" ha htaken
  exact ⟨m, c, parameter, others, hm, hands, hparameters, ha, hleft, hothers⟩

/-- What is declared at the start of the body is bound by the other parameter and by a `var`, and
    used by a value in the same parameter; in the second function, it is declared by a `let` and
    for a function. -/
theorem names_bound_twice :
    ∃ m c c', Module.read "a.jsx"
        ("function Foo(\x7bform:\x7ba\x7d,b=a\x7d,form)\x7bvar a\x7d" ++
          "function Bar(\x7bform:\x7ba\x7d\x7d)\x7blet form;function a()\x7b\x7d\x7d" ++
          "Form.create()(Foo);Form.create()(Bar)").toList = .ok m ∧
      (Hands m.tree [0] (.component c) ∧
        (∃ r ∈ FormProp.check m {} c, (m.violation r).fix.isSome) ∧
        (∃ parameter ∈ c.parameters.head?,
          FormProp.declaredNames {} parameter = ["form", "a"] ∧
          (∃ n ∈ FormProp.taken {} parameter, ∃ b ∈ n.preorder,
            b.kind = .binder ⟨"a", .scope 1⟩) ∧
          ∃ n ∈ FormProp.left {} parameter, ∃ e ∈ n.preorder,
            e.kind = .reference ⟨"a", .scope 1⟩) ∧
        c.parameters.tail.flatMap Node.boundNames = ["form"] ∧
        ∃ body ∈ m.tree.at? [0, 1, 2], c.body = .block body.span ∧
          Node.allVarNames [] body.parts = ["a"]) ∧
      (Hands m.tree [1] (.component c') ∧
        (∃ r ∈ FormProp.check m {} c', (m.violation r).fix.isSome) ∧
        (∃ parameter ∈ c'.parameters.head?,
          FormProp.declaredNames {} parameter = ["form", "a"]) ∧
        ∃ body ∈ m.tree.at? [1, 1, 1], c'.body = .block body.span ∧
          body.parts.flatMap Node.lexicallyDeclared = ["form"] ∧
          body.parts.flatMap Node.lexicalNames = ["form", "a"]) := by
  have hread : ∃ m, Module.read "a.jsx"
        ("function Foo(\x7bform:\x7ba\x7d,b=a\x7d,form)\x7bvar a\x7d" ++
          "function Bar(\x7bform:\x7ba\x7d\x7d)\x7blet form;function a()\x7b\x7d\x7d" ++
          "Form.create()(Foo);Form.create()(Bar)").toList = .ok m ∧
      ((m.tree.subjectAt? [0]).bind Subject.component?).any (fun c => decide
        ((∃ r ∈ FormProp.check m {} c, (m.violation r).fix.isSome) ∧
          (∃ parameter ∈ c.parameters.head?,
            FormProp.declaredNames {} parameter = ["form", "a"] ∧
            (∃ n ∈ FormProp.taken {} parameter, ∃ b ∈ n.preorder,
              b.kind = .binder ⟨"a", .scope 1⟩) ∧
            ∃ n ∈ FormProp.left {} parameter, ∃ e ∈ n.preorder,
              e.kind = .reference ⟨"a", .scope 1⟩) ∧
          c.parameters.tail.flatMap Node.boundNames = ["form"] ∧
          ∃ body ∈ m.tree.at? [0, 1, 2], c.body = .block body.span ∧
            Node.allVarNames [] body.parts = ["a"])) = true ∧
      ((m.tree.subjectAt? [1]).bind Subject.component?).any (fun c => decide
        ((∃ r ∈ FormProp.check m {} c, (m.violation r).fix.isSome) ∧
          (∃ parameter ∈ c.parameters.head?,
            FormProp.declaredNames {} parameter = ["form", "a"]) ∧
          ∃ body ∈ m.tree.at? [1, 1, 1], c.body = .block body.span ∧
            body.parts.flatMap Node.lexicallyDeclared = ["form"] ∧
            body.parts.flatMap Node.lexicalNames = ["form", "a"])) = true :=
    exists_ok (by decide +kernel)
  obtain ⟨m, hm, hfirst, hsecond⟩ := hread
  obtain ⟨c, hands, hfirst⟩ := exists_component hfirst
  obtain ⟨c', hands', hsecond⟩ := exists_component hsecond
  exact ⟨m, c, c', hm, ⟨hands, hfirst⟩, hands', hsecond⟩

end FormCodemod
