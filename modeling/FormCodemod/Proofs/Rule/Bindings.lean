import FormCodemod.Proofs.Fix.Settled
import FormCodemod.Proofs.Rule.Composing
import Mathlib.Data.List.Pairwise

/-!
# Bindings that go

Of a declaration that takes the form apart, the rule reports each property that binds the decorator
under its own name, one after another, and behind them the declaration as a whole if nothing else is
in it and it is a statement of its own (`check_eq`). So the same property is reported twice, and
both fixes would remove it. They touch each other, so a pass carries out one of them at most, among
whatever other fixes (`bindings_exclusive`).

* `BindsDecorator`, `TakesApart`: the properties and the declarators that the rule is about;
* `apart_of_mem_chosenFixes`: the fixes of a pass stand apart, whichever they are.
-/

namespace FormCodemod

open FormCodemod.Syntax

/-- The span runs forward, and begins behind the start of the other one and ahead of its end. -/
def Span.BeginsInside (s t : Span) : Prop :=
  t.start < s.start ∧ s.start < t.stop ∧ s.start ≤ s.stop

/-- The property of a pattern binds the decorator under its own name, with no value for when it is
    missing. -/
inductive BindsDecorator (config : Config) : Node → Prop
  | shorthand {span binder : Span} {name : Name} {parts : List Node} :
      name.text = config.decorator →
      BindsDecorator config (.mk .shorthandPattern span [.mk (.binder name) binder parts])
  | pair {span key binder : Span} {name : Name} {parts parts' : List Node} :
      name.text = config.decorator →
      BindsDecorator config (.mk .pairPattern span
        [.mk (.word config.decorator) key parts, .mk (.binder name) binder parts'])

/-- The declarator takes the form apart by an object pattern. -/
inductive TakesApart (config : Config) : Node → Node → Prop
  | mk {span pattern reference : Span} {name : Name} {parts inner : List Node} :
      name.text = config.formProp →
      TakesApart config
        (.mk .declarator span
          [.mk .objectPattern pattern parts, .mk (.reference name) reference inner])
        (.mk .objectPattern pattern parts)

namespace DecoratorBinding

variable {m : Module} {config : Config} {span : Span} {n declarator pattern p : Node}
  {declarators : List Node} {removable : Bool}

/-! ### Properties and declarators -/

theorem bindsDecorator_iff : bindsDecorator config n ↔ BindsDecorator config n := by
  constructor
  · intro h
    unfold bindsDecorator at h
    split at h
    · exact .shorthand (of_decide_eq_true h)
    · obtain ⟨rfl, hname⟩ := by simpa using h
      exact .pair hname
    · cases h
  · rintro (hname | hname)
    · exact decide_eq_true hname
    · simpa [bindsDecorator] using hname

instance : Decidable (BindsDecorator config n) :=
  decidable_of_iff _ bindsDecorator_iff

theorem formPattern?_eq_some_iff :
    formPattern? config declarator = some pattern ↔ TakesApart config declarator pattern := by
  constructor
  · intro h
    unfold formPattern? at h
    split at h
    · split at h
      case isTrue hname =>
        cases h
        exact .mk hname
      case isFalse => cases h
    · cases h
  · rintro ⟨hname⟩
    exact if_pos hname

/-! ### Reports -/

/-- The report of a property that binds the decorator. -/
def propertyReport (m : Module) (p : Node) : Report :=
  ⟨.decoratorBinding, p.span, some (m.removal p.span)⟩

/-- The report of a declaration that declares nothing else. -/
def wholeReport (declaration : Span) : Report :=
  ⟨.emptyFormDestructuring, declaration, some [.delete declaration]⟩

/-- The declaration has a single declarator, which binds nothing but the decorator, and nothing
    around it needs it. -/
def IsDead (config : Config) (declarators : List Node) (removable : Bool) (pattern : Node) : Prop :=
  removable ∧ declarators.length = 1 ∧ ∀ p ∈ pattern.bareParts, BindsDecorator config p

instance : Decidable (IsDead config declarators removable pattern) :=
  inferInstanceAs (Decidable (_ ∧ _ ∧ ∀ p ∈ _, _))

theorem checkDeclarator_of_takesApart (h : TakesApart config declarator pattern) :
    checkDeclarator m config span (removable && declarators.length = 1) declarator =
      (pattern.bareParts.filter (BindsDecorator config ·)).map (propertyReport m) ++
        if IsDead config declarators removable pattern then [wholeReport span] else [] := by
  have hbinds : bindsDecorator config = fun p => decide (BindsDecorator config p) :=
    funext fun p => Bool.eq_iff_iff.2 (by rw [bindsDecorator_iff, decide_eq_true_iff])
  rw [checkDeclarator, formPattern?_eq_some_iff.2 h, hbinds]
  simp only [IsDead, Bool.and_eq_true, decide_eq_true_iff, List.all_eq_true, and_assoc]
  rfl

theorem checkDeclarator_of_not_takesApart (h : ∀ pattern, ¬TakesApart config declarator pattern)
    (removable : Bool) : checkDeclarator m config span removable declarator = [] := by
  have hnone : formPattern? config declarator = none :=
    Option.eq_none_iff_forall_ne_some.2 fun pattern hsome =>
      h pattern (formPattern?_eq_some_iff.1 hsome)
  rw [checkDeclarator, hnone]

/-! ### Fixes -/

/-- The edits of a removal stand in order, so the fix has them as they are. -/
theorem exists_fix_propertyReport (h : p.span.start ≤ p.span.stop) :
    ∃ set, (m.violation (propertyReport m p)).fix = some set ∧ set.edits = m.removal p.span := by
  have hforward : Edit.AllForward (m.removal p.span) := by
    intro e he
    rcases Module.mem_removal_iff.1 he with rfl | ⟨comma, hcomma, rfl⟩
    · exact h
    · exact (Module.commaAfter?_spec hcomma).2.2.forward
  -- The comma stands behind the property, so the set keeps their order.
  have hsorted : (m.removal p.span).Pairwise fun e f => e.span.precedes f.span := by
    rw [Module.removal]
    cases hcomma : m.commaAfter? p.span with
    | none => exact List.pairwise_singleton _ _
    | some comma =>
      obtain ⟨hbehind, hstop, -⟩ := Module.commaAfter?_spec hcomma
      refine List.pairwise_pair.2 (Span.precedes_iff.2 ?_)
      dsimp only [Edit.span]
      omega
  have hcompatible := Edit.compatible_iff_pairwise.2 (m.pairwise_removal p.span)
  obtain ⟨set, hset⟩ := (EditSet.exists_ofList_eq_ok_iff hforward).2 hcompatible
  have hedits : set.edits = m.removal p.span :=
    (EditSet.edits_of_ofList hset).trans (Span.sortOn_eq_self hsorted)
  refine ⟨set, EditSet.compose?_eq_some_iff.2 ⟨hset, ?_⟩, hedits⟩
  rw [hedits]
  exact List.cons_ne_nil _ _

theorem exists_fix_wholeReport (m : Module) (span : Span) :
    ∃ set, (m.violation (wholeReport span)).fix = some set ∧ set.edits = [.delete span] :=
  ⟨⟨[.delete span], List.pairwise_singleton _ _, List.pairwise_singleton _ _⟩, rfl, rfl⟩

end DecoratorBinding

/-! ### The fixes of a pass -/

/-- Two fixes that a pass carries out do not touch. -/
theorem apart_of_mem_chosenFixes {source : List Char} {fixes : List (Option EditSet)}
    {a b : Candidate} (ha : a ∈ chosenFixes source fixes) (hb : b ∈ chosenFixes source fixes)
    (hne : a ≠ b) : a.span.stop < b.span.start ∨ b.span.stop < a.span.start := by
  have hapart : (chosenFixes source fixes).Pairwise fun a b =>
      a.span.stop < b.span.start ∨ b.span.stop < a.span.start :=
    (Span.pairwise_apartOn none (Span.pairwise_precedes_sortOn _)).imp .inl
  have : Std.Symm fun a b : Candidate =>
      a.span.stop < b.span.start ∨ b.span.stop < a.span.start := ⟨fun _ _ => Or.symm⟩
  exact hapart.forall ha hb hne

/-- What a removal replaces reaches from where it begins to the end of what is removed, at least. -/
theorem DecoratorBinding.span_of_removal {m : Module} {s : Span} {a : Candidate}
    (h : a.fix.edits = m.removal s) : a.span.start = s.start ∧ s.stop ≤ a.span.stop := by
  rw [Candidate.span, EditSet.span?, h, Module.removal]
  cases m.commaAfter? s with
  | none => exact ⟨rfl, Nat.le_refl _⟩
  | some comma => exact ⟨rfl, Nat.le_max_left _ _⟩

/-- A pass does not remove a property on its own and with the declaration around it. -/
theorem DecoratorBinding.not_both_chosen {m : Module} {span s : Span} {source : List Char}
    {fixes : List (Option EditSet)} {a b : Candidate} (ha : a ∈ chosenFixes source fixes)
    (hb : b ∈ chosenFixes source fixes) (hs : s.BeginsInside span)
    (hwhole : a.fix.edits = [.delete span]) : b.fix.edits ≠ m.removal s := by
  intro hremoval
  obtain ⟨hstart, hstop, hforward⟩ := hs
  have hspan : a.span = span := by
    rw [Candidate.span, EditSet.span?, hwhole]
    rfl
  obtain ⟨hbegin, hend⟩ := span_of_removal hremoval
  have hne : a ≠ b := by
    rintro rfl
    rw [hspan] at hbegin
    omega
  -- What the removal replaces begins inside the declaration, so neither ends ahead of the other.
  have := apart_of_mem_chosenFixes ha hb hne
  rw [hspan] at this
  omega

/-! ### Where properties stand -/

namespace Syntax.Node

/-- The node declares variables. -/
def declaresVariables (n : Node) : Bool :=
  match n.kind with
  | .variableDeclaration _ => true
  | _ => false

/-- Declarations of variables begin ahead of what they declare, with a keyword. -/
def KeywordsAhead (tree : Node) : Prop :=
  ∀ n ∈ tree.preorder, n.declaresVariables → ∀ d ∈ n.parts, n.span.start < d.span.start

instance (tree : Node) : Decidable tree.KeywordsAhead :=
  inferInstanceAs (Decidable (∀ n ∈ _, _ → ∀ d ∈ _, _))

end Syntax.Node

/-- A property begins inside its declaration, behind the keyword. -/
theorem TakesApart.beginsInside {m : Module} {config : Config} {path : List Nat} {span : Span}
    {declarators : List Node} {removable : Bool} {d pattern p : Node}
    (htakes : TakesApart config d pattern) (hlaid : m.tree.LaidOut m.text)
    (hkeywords : m.tree.KeywordsAhead)
    (hands : Hands m.tree path (.declaration span declarators removable)) (hd : d ∈ declarators)
    (hp : p ∈ pattern.bareParts) : p.span.BeginsInside span := by
  cases hands with
  | declaration hat =>
    have hdeclaration := Node.mem_preorder_of_at? hat
    have hahead := hkeywords _ hdeclaration rfl d hd
    have hdeclarator := Node.mem_preorder_of_mem_parts hdeclaration hd
    obtain ⟨hname⟩ := htakes
    have hpattern := Node.mem_preorder_of_mem_parts hdeclarator List.mem_cons_self
    -- Each of the nodes on the way down lies inside the one around it.
    obtain ⟨-, hstop⟩ := hlaid.inside _ hdeclaration _ (Node.mem_bareParts_iff.2 ⟨hd, nofun⟩)
    obtain ⟨hstart', hstop'⟩ := hlaid.inside _ hdeclarator _
      (Node.mem_bareParts_iff.2 ⟨List.mem_cons_self, nofun⟩)
    obtain ⟨hstart'', hstop''⟩ := hlaid.inside _ hpattern p hp
    have hsolid := (hlaid.properties _ hpattern rfl).1 p hp
    unfold Span.BeginsInside
    dsimp only [Node.span] at *
    omega

/-! ### The main result -/

/-- What is reported of a declaration is what is reported of its declarators, one after another. Of
    one that takes the form apart these are the properties that bind the decorator, in their order,
    and behind them the declaration, if it is dead; of any other one it is nothing. Each report has
    its edits as its fix. A property begins inside its declaration; and whatever the fixes of a pass
    are, it does not carry out both the one of such a property and the one of the declaration. -/
theorem bindings_exclusive (m : Module) (config : Config) (span : Span) (declarators : List Node)
    (removable : Bool) :
    (∃ reportsOf : Node → List Report,
      DecoratorBinding.check m config span declarators removable =
        declarators.flatMap reportsOf ∧
      ∀ d, (∀ pattern, TakesApart config d pattern →
          reportsOf d =
            (pattern.bareParts.filter (BindsDecorator config ·)).map
                (DecoratorBinding.propertyReport m) ++
              if DecoratorBinding.IsDead config declarators removable pattern then
                [DecoratorBinding.wholeReport span]
              else []) ∧
        ((∀ pattern, ¬TakesApart config d pattern) → reportsOf d = [])) ∧
    (∃ set, (m.violation (DecoratorBinding.wholeReport span)).fix = some set ∧
      set.edits = [.delete span]) ∧
    (∀ path, Hands m.tree path (.declaration span declarators removable) →
      (removable ↔ ¬m.tree.IsAttached path) ∧
      (m.tree.LaidOut m.text → m.tree.KeywordsAhead →
        ∀ d ∈ declarators, ∀ pattern, TakesApart config d pattern →
          ∀ p ∈ pattern.bareParts, p.span.BeginsInside span)) ∧
    ∀ p : Node, p.span.BeginsInside span →
      (∃ set, (m.violation (DecoratorBinding.propertyReport m p)).fix = some set ∧
        set.edits = m.removal p.span) ∧
      ∀ source fixes,
        applyFixes source fixes =
          ⟨Patch.weave source ((chosenFixes source fixes).map (Candidate.patch source)) 0,
            (chosenFixes source fixes).length⟩ ∧
        ∀ a ∈ chosenFixes source fixes, ∀ b ∈ chosenFixes source fixes,
          a.fix.edits = [.delete span] → b.fix.edits ≠ m.removal p.span := by
  refine ⟨⟨_, rfl, fun d => ⟨fun pattern => DecoratorBinding.checkDeclarator_of_takesApart, fun h =>
    DecoratorBinding.checkDeclarator_of_not_takesApart h _⟩⟩,
    DecoratorBinding.exists_fix_wholeReport m span, fun path hands => ⟨?_, ?_⟩,
    fun p hp => ⟨?_, ?_⟩⟩
  · cases hands with
    | declaration _ _ hremovable => exact hremovable
  · exact fun hlaid hkeywords d hd pattern htakes p hp =>
      htakes.beginsInside hlaid hkeywords hands hd hp
  · exact DecoratorBinding.exists_fix_propertyReport hp.2.2
  · exact fun source fixes => ⟨applyFixes_eq, fun a ha b hb =>
      DecoratorBinding.not_both_chosen ha hb hp⟩

/-- The only property of a declaration is reported ahead of the whole, and no pass carries out both
    fixes. -/
theorem bindings_exclusive_sole :
    ∃ m span d pattern p,
      Module.read "a.jsx" "const\x7bgetFieldDecorator\x7d=form;".toList = .ok m ∧
      Hands m.tree [0] (.declaration span [d] true) ∧ TakesApart {} d pattern ∧
      pattern.bareParts = [p] ∧
      DecoratorBinding.check m {} span [d] true =
        [DecoratorBinding.propertyReport m p, DecoratorBinding.wholeReport span] ∧
      p.span.BeginsInside span ∧
      ∀ fixes, ∀ a ∈ chosenFixes m.text fixes, ∀ b ∈ chosenFixes m.text fixes,
        a.fix.edits = [.delete span] → b.fix.edits ≠ m.removal p.span := by
  have hread : ∃ m, Module.read "a.jsx" "const\x7bgetFieldDecorator\x7d=form;".toList = .ok m ∧
      m.tree.LaidOut m.text ∧ m.tree.KeywordsAhead ∧
      ((m.tree.subjectAt? [0]).bind Subject.declaration?).any (fun x => decide (x.2.2 = true ∧
        x.2.1.length = 1 ∧ ∀ d ∈ x.2.1, (DecoratorBinding.formPattern? {} d).any (fun pattern =>
          decide (pattern.bareParts.length = 1 ∧
            ∀ p ∈ pattern.bareParts, BindsDecorator {} p)) = true)) = true :=
    exists_ok (by decide +kernel)
  obtain ⟨m, hm, hlaid, hkeywords, hany⟩ := hread
  obtain ⟨span, declarators, removable, hands, hremovable, hlength, hd⟩ := exists_declaration hany
  obtain ⟨d, rfl⟩ := List.length_eq_one_iff.1 hlength
  obtain rfl : removable = true := hremovable
  obtain ⟨pattern, hpattern, hdead⟩ := (Option.any_eq_true _ _).1 (hd d List.mem_cons_self)
  obtain ⟨hlength, hbinds⟩ := of_decide_eq_true hdead
  obtain ⟨p, hp⟩ := List.length_eq_one_iff.1 hlength
  have htakes := DecoratorBinding.formPattern?_eq_some_iff.1 hpattern
  obtain ⟨⟨reportsOf, hcheck, hreports⟩, -, hstands, hfixes⟩ :=
    bindings_exclusive m {} span [d] true
  have hinside := (hstands [0] hands).2 hlaid hkeywords d List.mem_cons_self pattern htakes p
    (hp ▸ List.mem_cons_self)
  refine ⟨m, span, d, pattern, p, hm, hands, htakes, hp, ?_, hinside, fun fixes =>
    ((hfixes p hinside).2 m.text fixes).2⟩
  rw [hcheck, List.flatMap_singleton, (hreports d).1 pattern htakes, if_pos ⟨rfl, rfl, hbinds⟩,
    List.filter_eq_self.2 fun q hq => decide_eq_true (hbinds q hq), hp]
  rfl

end FormCodemod
