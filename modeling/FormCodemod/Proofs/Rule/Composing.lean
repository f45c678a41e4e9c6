import FormCodemod.Proofs.Edit.Layout
import FormCodemod.Proofs.Rule.Edits
import FormCodemod.Proofs.Syntax.Layout

/-!
# Edits that go together

No two edits of a fix should be in conflict, since it is lost then. Where a tree is laid out in its
text, this is so for three of the rules (`edits_accepted`). The fix for an injected prop depends on
more: commas are looked for by a scan that ends a line comment at `\n` only, while the grammar ends
it at any line terminator. So the scan can pass over a comma and all that follows it on the line,
and find one that belongs to a later property (`CommasApart`).
-/

namespace FormCodemod

open FormCodemod.Syntax

variable {m : Module} {config : Config} {span : Span} {edits : List Edit} {r : Report}

/-! ### Spans that do not overlap -/

theorem Edit.accepted_iff_pairwise (h : ∀ e ∈ edits, e.span.FitsIn m.text) :
    (∃ set, EditSet.ofList edits = .ok set) ↔
      edits.Pairwise fun e f => ¬e.span.overlaps f.span :=
  (EditSet.exists_ofList_eq_ok_iff fun e he => (h e he).forward).trans Edit.compatible_iff_pairwise

/-- A comma stands behind the span that it was found behind. -/
theorem Module.pairwise_removal (m : Module) (span : Span) :
    (m.removal span).Pairwise fun e f => ¬e.span.overlaps f.span := by
  rw [removal]
  cases h : m.commaAfter? span with
  | none => exact List.pairwise_singleton _ _
  | some comma => exact List.pairwise_pair.2 (Span.not_overlaps_of_le (commaAfter?_spec h).1)

/-- A comma overlaps another one only if they are the same. -/
theorem Module.eq_of_commas_overlap {s t comma comma' : Span} (h : m.commaAfter? s = some comma)
    (h' : m.commaAfter? t = some comma') (hover : comma.overlaps comma') : comma = comma' := by
  obtain ⟨-, hwidth, -⟩ := commaAfter?_spec h
  obtain ⟨-, hwidth', -⟩ := commaAfter?_spec h'
  obtain ⟨hlt, hlt'⟩ := Span.overlaps_iff.1 hover
  obtain ⟨start, stop⟩ := comma
  obtain ⟨start', stop'⟩ := comma'
  rw [Span.mk.injEq]
  dsimp only at *
  omega

/-- The removals of two spans, one behind the other, go together just if the comma behind the first
    is no part of the second, and not the comma behind that. -/
theorem Module.removals_apart_iff {s t : Span} (hle : s.stop ≤ t.start) (ht : t.start ≤ t.stop) :
    (∀ e ∈ m.removal s, ∀ f ∈ m.removal t, ¬e.span.overlaps f.span) ↔
      ∀ comma, m.commaAfter? s = some comma → ¬comma.overlaps t ∧ m.commaAfter? t ≠ some comma := by
  constructor
  · intro h comma hcomma
    have hmem : .delete comma ∈ m.removal s := mem_removal_iff.2 (.inr ⟨comma, hcomma, rfl⟩)
    refine ⟨h _ hmem _ (mem_removal_iff.2 (.inl rfl)), fun hcomma' => ?_⟩
    have hwidth := (commaAfter?_spec hcomma).2.1
    refine h _ hmem _ (mem_removal_iff.2 (.inr ⟨comma, hcomma', rfl⟩)) (Span.overlaps_iff.2 ?_)
    dsimp only [Edit.span]
    omega
  · intro h e he f hf
    rcases mem_removal_iff.1 he with rfl | ⟨comma, hcomma, rfl⟩
    · -- All that is removed with the second span starts behind the first.
      refine Span.not_overlaps_of_le ?_
      rcases mem_removal_iff.1 hf with rfl | ⟨comma', hcomma', rfl⟩
      · exact hle
      · have := (commaAfter?_spec hcomma').1
        dsimp only [Edit.span]
        omega
    · obtain ⟨hover, hne⟩ := h comma hcomma
      rcases mem_removal_iff.1 hf with rfl | ⟨comma', hcomma', rfl⟩
      · exact hover
      · exact fun hover => hne (eq_of_commas_overlap hcomma hcomma' hover ▸ hcomma')

/-! ### Injected props -/

/-- A pattern lies inside its parameter. -/
theorem Component.patternOf_within {parameter : Node} (hlaid : m.tree.LaidOut m.text)
    (hmem : parameter ∈ m.tree.preorder) (hkind : (patternOf parameter).kind = .objectPattern) :
    (patternOf parameter).span.Within parameter.span := by
  unfold patternOf at hkind ⊢
  cases hhead : parameter.parts.head? with
  | none => exact Span.within_refl _
  | some pattern =>
    rw [hhead, Option.getD_some] at hkind
    rw [Option.getD_some]
    refine hlaid.inside parameter hmem pattern
      (Node.mem_bareParts_iff.2 ⟨List.mem_of_mem_head? hhead, ?_⟩)
    rw [hkind]
    exact nofun

namespace FormProp

/-- The comma behind a property is no part of a later one, and not the comma behind it. -/
def CommasApart (m : Module) (props : List Property) : Prop :=
  props.Pairwise fun p q => ∀ comma, m.commaAfter? p.span = some comma →
    ¬comma.overlaps q.span ∧ m.commaAfter? q.span ≠ some comma

variable {c : Component} {function : Node} {props : List Property}

theorem brace_stop {block : Span} {brace : Text.PlainToken}
    (h : m.openingBrace? block = some brace) : brace.stop = block.start + 1 := by
  obtain ⟨htoken, hchar⟩ := Option.filter_eq_some_iff.1 h
  obtain ⟨-, -, -, -, hstart⟩ := Text.exists_of_tokenAt? htoken
  have hchars : brace.chars = ['\x7b'] := of_decide_eq_true hchar
  rw [Text.PlainToken.stop, hchars, hstart]
  rfl

/-- The removals of properties that follow each other go together just if their commas are apart. -/
theorem pairwise_removals_iff (hfits : ∀ p ∈ props, p.span.FitsIn m.text)
    (happart : props.Pairwise fun p q => p.span.stop ≤ q.span.start) :
    (props.flatMap fun p => m.removal p.span).Pairwise (fun e f => ¬e.span.overlaps f.span) ↔
      CommasApart m props := by
  have hown : ∀ p ∈ props, (m.removal p.span).Pairwise fun e f => ¬e.span.overlaps f.span :=
    fun p _ => m.pairwise_removal p.span
  rw [List.pairwise_flatMap, and_iff_right hown]
  constructor
  · intro h
    exact (h.and happart).imp_of_mem fun _ hq ⟨h, hle⟩ =>
      (Module.removals_apart_iff hle (hfits _ hq).forward).1 h
  · intro h
    exact (List.Pairwise.and h happart).imp_of_mem fun _ hq ⟨h, hle⟩ =>
      (Module.removals_apart_iff hle (hfits _ hq).forward).2 h

/-- The properties that take the form follow each other in the function, ahead of its body. -/
structure PropertiesLaidOut (m : Module) (c : Component) (function : Node) (props : List Property) :
    Prop where
  fit : ∀ p ∈ props, p.span.FitsIn m.text
  solid : ∀ p ∈ props, p.span.start < p.span.stop
  apart : props.Pairwise fun p q => p.span.stop ≤ q.span.start
  within : ∀ p ∈ props, p.span.Within function.span
  body : ∀ block, c.body = .block block → ∀ p ∈ props, p.span.stop ≤ block.start

theorem propertiesLaidOut (hlaid : m.tree.LaidOut m.text) (hin : c.IsIn m.tree function)
    (hne : properties config c ≠ []) : PropertiesLaidOut m c function (properties config c) := by
  obtain ⟨parameter, hparameter, hkind, hsub⟩ := exists_pattern hne
  obtain ⟨hpart, hiskind⟩ := hin.parameters parameter hparameter
  have hmem := Node.mem_preorder_of_mem_parts hin.mem hpart
  have hpattern := Component.patternOf_mem hmem
  obtain ⟨hsolid, happart⟩ := hlaid.properties _ hpattern hkind
  have hwithin := Component.patternOf_within hlaid hmem hkind
  -- Each property is, by its span, one of the pattern.
  have heach : ∀ p ∈ properties config c, p.span.FitsIn m.text ∧ p.span.start < p.span.stop ∧
      p.span.Within parameter.span := by
    intro p hp
    obtain ⟨n, hn, hspan⟩ := List.mem_map.1 (hsub.subset (List.mem_map_of_mem hp))
    rw [← hspan]
    exact ⟨hlaid.fit n (mem_preorder_of_mem_bareParts hpattern hn), hsolid n hn,
      (hlaid.inside _ hpattern n hn).trans hwithin⟩
  have hparameter := hlaid.inside function hin.mem parameter
    (Node.mem_bareParts_iff.2 ⟨hpart, by rw [hiskind]; exact nofun⟩)
  exact
    { fit := fun p hp => (heach p hp).1
      solid := fun p hp => (heach p hp).2.1
      apart := by
        rw [← List.pairwise_map (R := fun s t : Span => s.stop ≤ t.start)] at happart ⊢
        exact happart.sublist hsub
      within := fun p hp => (heach p hp).2.2.trans hparameter
      body := fun block hblock p hp => by
        obtain ⟨b, hb, hbkind, rfl⟩ := hin.body block hblock
        have hahead := hlaid.body _ hin.mem parameter hpart b hb hiskind hbkind
        exact Nat.le_trans (heach p hp).2.2.2 hahead }

/-- The brace of the body is no part of the factory: the properties would lie in there, too, and the
    plan does not remove them from there. -/
theorem not_covers_brace {name : Name} {wrapper : Wrapper} {block : Span}
    (hlaid : m.tree.LaidOut m.text) (hin : c.IsIn m.tree function)
    (hprops : PropertiesLaidOut m c function props) (hne : props ≠ [])
    (hwrapper : Wrapper.find? config m.tree name = some wrapper) (hbody : c.body = .block block)
    (hfactory : ∀ p ∈ props, ¬p.span.overlaps wrapper.factory) :
    ¬(wrapper.factory.start ≤ block.start ∧ block.start < wrapper.factory.stop) := by
  rintro ⟨hlt, hlt'⟩
  obtain ⟨p, hp⟩ := List.exists_mem_of_ne_nil props hne
  obtain ⟨factory, hmem, hcall, hspan⟩ := Wrapper.exists_factory hwrapper
  obtain ⟨b, hb, hblock, rfl⟩ := hin.body block hbody
  rw [hspan] at hlt hlt'
  have haround := hlaid.function_within hin.mem hb hblock hmem hcall hlt hlt'
  obtain ⟨hstart, hstop⟩ := (hprops.within p hp).trans haround
  have hsolid := hprops.solid p hp
  refine hfactory p hp (Span.overlaps_iff.2 ?_)
  rw [hspan]
  omega

/-- The edits of the fix go together just if the commas are apart. -/
theorem accepted_iff (hlaid : m.tree.LaidOut m.text) (hin : c.IsIn m.tree function)
    (h : r ∈ check m config c) (hedits : r.edits = some edits) :
    (∃ set, EditSet.ofList edits = .ok set) ↔ CommasApart m (properties config c) := by
  rw [Edit.accepted_iff_pairwise fun e he => fitsIn hlaid.fit hin h hedits he]
  obtain ⟨name, wrapper, block, brace, text, -, hne, hwrapper, hbody, hbrace, hfactory, rfl⟩ :=
    mem_check h hedits
  have hprops := propertiesLaidOut hlaid hin hne
  have hstop := brace_stop hbrace
  have hinsertion : ¬(Span.empty brace.stop).overlaps wrapper.factory := by
    have hcovers := not_covers_brace hlaid hin hprops hne hwrapper hbody fun p hp =>
      hfactory p hp _ (Module.mem_removal_iff.2 (.inl rfl))
    rw [hstop, Span.overlaps_iff]
    dsimp only [Span.empty]
    omega
  have hcross : ∀ e ∈ (properties config c).flatMap (fun p => m.removal p.span),
      ∀ f ∈ [Edit.insertAfter brace.stop text, .delete wrapper.factory],
        ¬e.span.overlaps f.span := by
    intro e he f hf
    obtain ⟨p, hp, he⟩ := List.mem_flatMap.1 he
    rw [List.mem_cons, List.mem_singleton] at hf
    rcases hf with rfl | rfl
    · have := hprops.body block hbody p hp
      rw [Span.overlaps_iff]
      rcases Module.mem_removal_iff.1 he with rfl | ⟨comma, hcomma, rfl⟩
      · dsimp only [Edit.span, Span.empty]
        omega
      · -- No place lies inside a comma.
        have := (Module.commaAfter?_spec hcomma).2.1
        dsimp only [Edit.span, Span.empty]
        omega
    · exact hfactory p hp e he
  rw [List.pairwise_append, pairwise_removals_iff hprops.fit hprops.apart, List.pairwise_pair]
  exact and_iff_left ⟨hinsertion, hcross⟩

end FormProp

/-! ### The other rules -/

theorem EmptyPattern.accepted {c : Component} {function : Node} (hfit : m.tree.SpansFit m.text)
    (hin : c.IsIn m.tree function) (h : r ∈ check c) (hedits : r.edits = some edits) :
    ∃ set, EditSet.ofList edits = .ok set := by
  refine (Edit.accepted_iff_pairwise fun e he => fitsIn hfit hin h hedits he).2 ?_
  obtain ⟨parameter, -, heq⟩ := mem_check h
  cases heq.symm.trans hedits
  exact List.pairwise_singleton _ _

theorem DecoratorBinding.accepted {keyword : VarKeyword} {declarators : List Node}
    {removable : Bool} (hfit : m.tree.SpansFit m.text)
    (hmem : .mk (.variableDeclaration keyword) span declarators ∈ m.tree.preorder)
    (h : r ∈ check m config span declarators removable) (hedits : r.edits = some edits) :
    ∃ set, EditSet.ofList edits = .ok set := by
  refine (Edit.accepted_iff_pairwise fun e he => fitsIn hfit hmem h hedits he).2 ?_
  rcases mem_check h with ⟨d, -, pattern, -, p, -, heq⟩ | heq
  · cases heq.symm.trans hedits
    exact m.pairwise_removal p.span
  · cases heq.symm.trans hedits
    exact List.pairwise_singleton _ _

/-- The end of the opening tag and a child stand apart, whichever text the tree is laid out in. -/
theorem FieldDecorator.accepted {text : List Char} {opening : Node} {children : List Node}
    (hlaid : m.tree.LaidOut text)
    (hmem : .mk .jsxElement span (opening :: children) ∈ m.tree.preorder)
    (h : r ∈ check m config span opening children) (hedits : r.edits = some edits) :
    ∃ set, EditSet.ofList edits = .ok set := by
  obtain ⟨child, hchild, attributes, field, rfl, -, -⟩ := mem_check h hedits
  have hfit := hlaid.fit child (Node.mem_preorder_of_mem_parts hmem (List.mem_cons_of_mem _ hchild))
  have hforward : Edit.AllForward [.replace ⟨opening.span.stop - 1, opening.span.stop⟩ attributes,
      .replace child.span field] :=
    List.forall_mem_cons.2 ⟨Nat.sub_le _ _, List.forall_mem_singleton.2 hfit.forward⟩
  rw [EditSet.exists_ofList_eq_ok_iff hforward, Edit.compatible_iff_pairwise]
  refine List.pairwise_pair.2 (Span.not_overlaps_of_le ?_)
  exact (List.pairwise_cons.1 (hlaid.elements _ hmem rfl)).1 child hchild

/-! ### All rules -/

/-- Where the tree of a module is laid out in its text, the edits that a rule reports are in
    conflict for injected props only, and only if the comma behind one property is found in a later
    one, or behind it. -/
theorem edits_accepted (m : Module) (config : Config) (hlaid : m.tree.LaidOut m.text) :
    ∀ path s, Hands m.tree path s → ∀ r ∈ s.reports m config, ∀ edits, r.edits = some edits →
      ((∃ set, EditSet.ofList edits = .ok set) ↔
        ∀ c, s = .component c → FormProp.CommasApart m (FormProp.properties config c)) := by
  intro path s hands r hr edits hedits
  cases s with
  | component c =>
    obtain ⟨function, hin⟩ := Hands.exists_isIn (.inl hands)
    rw [FormProp.accepted_iff hlaid hin hr hedits]
    exact ⟨fun h c' hc => Subject.component.inj hc ▸ h, fun h => h c rfl⟩
  | function c =>
    refine ⟨fun _ _ => nofun, fun _ => ?_⟩
    obtain ⟨function, hin⟩ := Hands.exists_isIn (.inr hands)
    exact EmptyPattern.accepted hlaid.fit hin hr hedits
  | declaration span declarators removable =>
    refine ⟨fun _ _ => nofun, fun _ => ?_⟩
    cases hands with
    | declaration hat =>
      exact DecoratorBinding.accepted hlaid.fit (Node.mem_preorder_of_at? hat) hr hedits
  | element span opening children =>
    refine ⟨fun _ _ => nofun, fun _ => ?_⟩
    cases hands with
    | element hat =>
      exact FieldDecorator.accepted hlaid (Node.mem_preorder_of_at? hat) hr hedits

/-- A line comment that ends at `\n` does no harm: two properties go, each with a comma of its
    own. -/
theorem edits_accepted_newline :
    ∃ m c, Module.read "a.jsx"
        "function Foo(\x7bform//\n,form:\x7bb\x7d\n,\x7d)\x7b\x7dForm.create()(Foo)".toList =
          .ok m ∧
      m.tree.LaidOut m.text ∧ Hands m.tree [0] (.component c) ∧
      (FormProp.properties {} c).length = 2 ∧
      FormProp.CommasApart m (FormProp.properties {} c) := by
  have hread : ∃ m, Module.read "a.jsx"
      "function Foo(\x7bform//\n,form:\x7bb\x7d\n,\x7d)\x7b\x7dForm.create()(Foo)".toList =
          .ok m ∧
        m.tree.LaidOut m.text ∧ (m.tree.subjectAt? [0]).any (fun s => match s with
          | .component c => (FormProp.properties {} c).length = 2 &&
            (FormProp.check m {} c).any fun r =>
              r.edits.any fun edits => (EditSet.ofList edits).toOption.isSome
          | _ => false) = true :=
    exists_ok (by decide +kernel)
  obtain ⟨m, hm, hlaid, h⟩ := hread
  obtain ⟨s, hs, h⟩ := (Option.any_eq_true _ _).1 h
  have hands := subjectAt?_eq_some_iff.1 hs
  cases s with
  | component c =>
    obtain ⟨hlength, h⟩ := Bool.and_eq_true_iff.1 h
    obtain ⟨r, hr, h⟩ := List.any_eq_true.1 h
    obtain ⟨edits, hedits, h⟩ := (Option.any_eq_true _ _).1 h
    cases hset : EditSet.ofList edits with
    | error _ =>
      rw [hset] at h
      cases h
    | ok set =>
      have hcommas :=
        (edits_accepted m {} hlaid [0] (.component c) hands r hr edits hedits).1 ⟨set, hset⟩ c rfl
      exact ⟨m, c, hm, hlaid, hands, of_decide_eq_true hlength, hcommas⟩
  | function => cases h
  | declaration => cases h
  | element => cases h

/-- A line comment that ends at `\r` does harm: both properties take the comma behind the second. -/
theorem not_edits_accepted :
    ¬∀ (filename : String) (source : List Char) (config : Config) (m : Module),
      Module.read filename source = .ok m → source.head? ≠ some '\ufeff' → m.tree.LaidOut m.text →
        ∀ r ∈ m.reports config, ∀ edits, r.edits = some edits →
          ∃ set, EditSet.ofList edits = .ok set := by
  intro h
  have hread : ∃ m, Module.read "a.jsx"
      "function Foo(\x7bform//\r,form:\x7bb\x7d\n,\x7d)\x7b\x7dForm.create()(Foo)".toList =
          .ok m ∧
        m.tree.LaidOut m.text ∧ (m.reports {}).any (fun r =>
          r.edits.any fun edits => (EditSet.ofList edits).toOption.isNone) = true :=
    exists_ok (by decide +kernel)
  obtain ⟨m, hm, hlaid, hany⟩ := hread
  obtain ⟨r, hr, hany⟩ := List.any_eq_true.1 hany
  obtain ⟨edits, hedits, hnone⟩ := (Option.any_eq_true _ _).1 hany
  obtain ⟨set, hset⟩ := h _ _ {} m hm (by decide) hlaid r hr edits hedits
  rw [hset] at hnone
  cases hnone

end FormCodemod
