import FormCodemod.Proofs.Rule.Edits

/-!
# The sole use of a component

The prop of a component is only reported if its name has a single use, the argument of the factory.
An assignment to the name, and an update of it, is a use as well. So what the factory gets is not
what such a write has put there, wherever in the module it stands (`reported_is_sole_use`).

Only uses count. A second declaration of the name is none, and neither is what a destructuring
assignment or the head of a loop writes to (`not_sole_value`).
-/

namespace FormCodemod

open FormCodemod.Syntax

/-- The expression is the name, perhaps in parentheses or with a type. -/
inductive Denotes (name : Name) : Node → Prop
  | reference {span : Span} {parts : List Node} : Denotes name (.mk (.reference name) span parts)
  | parenthesized {span : Span} {n : Node} {rest : List Node} :
      Denotes name n → Denotes name (.mk .parenthesized span (n :: rest))
  | typed {form : TypeForm} {span : Span} {n : Node} {rest : List Node} :
      Denotes name n → Denotes name (.mk (.typed form) span (n :: rest))

/-- The node is an assignment to the name, with any operator, or an update of it. -/
inductive Writes (name : Name) : Node → Prop
  | assignment {operator : String} {span : Span} {target : Node} {rest : List Node} :
      Denotes name target → Writes name (.mk (.assignment operator) span (target :: rest))
  | update {operator : String} {before : Bool} {span : Span} {target : Node} {rest : List Node} :
      Denotes name target → Writes name (.mk (.update operator before) span (target :: rest))

/-- The paths to where a name is bound. -/
def Syntax.Node.binders (tree : Node) (name : Name) : List (List Nat) :=
  tree.paths.filter fun path => (tree.at? path).any (·.kind = .binder name)

variable {m : Module} {config : Config} {tree n : Node} {name : Name} {path : List Nat}
  {c : Component} {r : Report} {w : Wrapper}

/-! ### Uses that a write makes -/

/-- The name that an expression denotes is found along its first parts. -/
theorem Denotes.exists_at? (h : Denotes name n) :
    ∃ rest u, n.at? rest = some u ∧ u.kind = .reference name ∧ ∀ i ∈ rest, i = 0 := by
  induction h with
  | reference => exact ⟨[], _, Node.at?_nil _, rfl, nofun⟩
  | parenthesized _ ih =>
    obtain ⟨rest, u, hat, hkind, hzero⟩ := ih
    exact ⟨0 :: rest, u, hat, hkind, List.forall_mem_cons.2 ⟨rfl, hzero⟩⟩
  | typed _ ih =>
    obtain ⟨rest, u, hat, hkind, hzero⟩ := ih
    exact ⟨0 :: rest, u, hat, hkind, List.forall_mem_cons.2 ⟨rfl, hzero⟩⟩

theorem Writes.exists_at? (h : Writes name n) :
    ∃ rest u, n.at? (0 :: rest) = some u ∧ u.kind = .reference name ∧ ∀ i ∈ rest, i = 0 := by
  cases h with
  | assignment h => exact h.exists_at?
  | update h => exact h.exists_at?

/-- An argument is no first part, so a name whose only occurrence is one is not written to. -/
theorem Writes.not_of_occurrences {i : Nat} (h : tree.occurrences name = [path ++ [i + 1]])
    (hn : n ∈ tree.preorder) : ¬Writes name n := by
  intro hwrites
  obtain ⟨rest, u, hat, hkind, hzero⟩ := hwrites.exists_at?
  obtain ⟨upto, hupto⟩ := Node.mem_preorder_iff.1 hn
  have hmem : upto ++ 0 :: rest ∈ tree.occurrences name := by
    rw [Node.mem_occurrences_iff, Node.at?_append, hupto]
    exact ⟨u, hat, hkind⟩
  rw [h, List.mem_singleton] at hmem
  -- The path of what is written to ends with a first part, that of the argument does not.
  have hlast := congrArg List.getLast? hmem
  rw [List.getLast?_append_of_ne_nil _ (List.cons_ne_nil 0 rest), List.getLast?_concat] at hlast
  rcases List.mem_cons.1 (List.mem_of_getLast? hlast) with h | h
  · exact Nat.succ_ne_zero i h
  · exact Nat.succ_ne_zero i (hzero _ h)

/-! ### Uses that the search finds -/

namespace Syntax.Node

mutual

/-- The search meets every occurrence of a name. -/
theorem mem_allReferences_of_mem_preorder : ∀ tree : Node, n ∈ tree.preorder →
    n.kind = .reference name → ⟨n.span, .other⟩ ∈ allReferences name tree
  | mk kind span parts, h, hkind => by
    rw [allReferences_mk, List.mem_append]
    rw [preorder, List.mem_cons] at h
    rcases h with rfl | h
    · rw [usesMet_of_isReferenceTo (decide_eq_true hkind)]
      exact .inl (List.mem_singleton_self _)
    · exact .inr (mem_referencesIn_of_mem_preorderAll parts h hkind)

theorem mem_referencesIn_of_mem_preorderAll : ∀ ns : List Node, n ∈ preorderAll ns →
    n.kind = .reference name → ⟨n.span, .other⟩ ∈ referencesIn name ns
  | [], h, _ => by cases h
  | n :: ns, h, hkind => by
    rw [preorderAll, List.mem_append] at h
    rw [referencesIn, List.mem_append]
    exact h.imp (mem_allReferences_of_mem_preorder n · hkind)
      (mem_referencesIn_of_mem_preorderAll ns · hkind)

end

/-- Wherever a name occurs, a use of it is found. -/
theorem exists_mem_references (h : n ∈ tree.preorder) (hkind : n.kind = .reference name) :
    ∃ r ∈ tree.references name, r.span = n.span := by
  have hmem := mem_allReferences_of_mem_preorder tree h hkind
  cases hfind : (allReferences name tree).find? (·.span = n.span) with
  | none => exact absurd (decide_eq_true rfl) (List.find?_eq_none.1 hfind _ hmem)
  | some r =>
    have hspan := (Reference.mem_of_find? hfind).2
    refine ⟨r, Reference.mem_firstAtEach_iff.2 ⟨List.not_mem_nil, ?_⟩, hspan⟩
    rwa [Reference.IsFirstIn, hspan]

end Syntax.Node

/-- All occurrences of the name of a wrapped component are where the argument of the factory is. -/
theorem Wrapper.exists_argument (h : find? config tree name = some w) :
    ∃ call ∈ tree.preorder, ∃ factory argument, call.kind = .call ∧
      call.parts[0]? = some factory ∧ call.arguments = [argument] ∧ IsFactory config factory ∧
      w = ⟨call.span, factory.span⟩ ∧ argument.kind = .reference name ∧
      ∀ n ∈ tree.preorder, n.kind = .reference name → n.span = argument.span := by
  obtain ⟨span, call, factory, hrs, hcallee, hfactory, rfl⟩ := ofReferences?_eq_some_iff.1 h
  -- The only use found is an argument, so it stands in a call of the tree.
  have hmem : ⟨span, .argument call true⟩ ∈ tree.references name :=
    hrs ▸ List.mem_singleton_self _
  obtain ⟨htree, hcall, hat⟩ :=
    Node.mem_preorder_of_argument tree (Node.mem_allReferences hmem) rfl
  obtain ⟨i, argument, hpart, href, heq⟩ := (Node.mem_directReferences_iff hcall).1 hat
  obtain ⟨rfl, hrole⟩ := Reference.mk.inj heq
  obtain ⟨j, hunder, -, hsole⟩ := Role.under_eq_argument_iff.1 hrole.symm
  cases hunder
  have hkind := Node.kind_of_isReferenceTo href
  have hargument : argument ∈ call.arguments :=
    (Node.mem_arguments_iff hcall).2 ⟨j, hpart, by rw [hkind]; exact nofun⟩
  obtain ⟨a, ha⟩ := List.length_eq_one_iff.1 (of_decide_eq_true hsole.symm)
  rw [ha, List.mem_singleton] at hargument
  subst hargument
  refine ⟨call, htree, factory, argument, hcall, ((Node.callee?_eq_some_iff hcall).1 hcallee).1,
    ha, hfactory, rfl, hkind, fun n hn hn' => ?_⟩
  obtain ⟨r, hr, hspan⟩ := Node.exists_mem_references hn hn'
  rw [hrs, List.mem_singleton] at hr
  rw [← hspan, hr]

/-! ### The main result -/

/-- Where the prop of a component is reported, all uses of its name are in one place, where it is
    the only argument of what the factory gives. If the uses are told apart by their spans, this is
    a single one, and nothing in the module assigns to the name or updates it. -/
theorem reported_is_sole_use (m : Module) (config : Config) (path : List Nat) (c : Component)
    (r : Report) (hands : Hands m.tree path (.component c)) (h : r ∈ FormProp.check m config c) :
    ∃ name w binder, c.name = some name ∧ m.tree.at? (path ++ [0]) = some binder ∧
      binder.kind = .binder name ∧ Wrapper.find? config m.tree name = some w ∧
      (∃ call ∈ m.tree.preorder, ∃ factory argument, call.kind = .call ∧
        call.parts[0]? = some factory ∧ call.arguments = [argument] ∧ IsFactory config factory ∧
        w = ⟨call.span, factory.span⟩ ∧ argument.kind = .reference name ∧
        ∀ n ∈ m.tree.preorder, n.kind = .reference name → n.span = argument.span) ∧
      (m.tree.ToldApart name →
        Wraps config m.tree name w ∧ ∀ n ∈ m.tree.preorder, ¬Writes name n) := by
  obtain ⟨name, w, hname, hfind⟩ := FormProp.exists_wrapper h
  obtain ⟨binder, hat, hbinder⟩ := hands.exists_binder hname
  refine ⟨name, w, binder, hname, hat, hbinder, hfind, Wrapper.exists_argument hfind,
    fun htold => ?_⟩
  have hwraps := (Wrapper.find?_eq_some_iff htold).1 hfind
  refine ⟨hwraps, fun n hn => ?_⟩
  obtain ⟨upto, i, call, factory, hpath, -⟩ := hwraps
  exact Writes.not_of_occurrences hpath hn

/-- A variable of the same name in another function is no other use. -/
theorem reported_is_sole_use_shadowed :
    ∃ m c r,
      Module.read "a.jsx"
          "let Foo=(\x7bform\x7d)=>\x7b\x7d;()=>\x7blet Foo;Foo=1\x7d;Form.create()(Foo)".toList =
        .ok m ∧
      Hands m.tree [0, 0] (.component c) ∧ r ∈ FormProp.check m {} c ∧
      m.tree.ToldApart ⟨"Foo", .scope 0⟩ ∧
      ∀ n ∈ m.tree.preorder, ¬Writes ⟨"Foo", .scope 0⟩ n := by
  have hread : ∃ m,
      Module.read "a.jsx"
          "let Foo=(\x7bform\x7d)=>\x7b\x7d;()=>\x7blet Foo;Foo=1\x7d;Form.create()(Foo)".toList =
        .ok m ∧
        m.tree.ToldApart ⟨"Foo", .scope 0⟩ ∧
        ((m.tree.subjectAt? [0, 0]).bind Subject.component?).any (fun c => decide
          (c.name = some ⟨"Foo", .scope 0⟩ ∧ FormProp.check m {} c ≠ [])) = true :=
    exists_ok (by decide +kernel)
  obtain ⟨m, hm, htold, hany⟩ := hread
  obtain ⟨c, hands, hname, hne⟩ := exists_component hany
  obtain ⟨r, hr⟩ := List.exists_mem_of_ne_nil _ hne
  obtain ⟨name, w, binder, hname', -, -, -, -, hwrites⟩ :=
    reported_is_sole_use m {} [0, 0] c r hands hr
  cases hname.symm.trans hname'
  exact ⟨m, c, r, hm, hands, hr, htold, (hwrites htold).2⟩

/-- The prop is reported where the name is declared once more, and where a destructuring assignment
    writes to it. -/
theorem not_sole_value :
    (¬∀ (filename : String) (source : List Char) (config : Config) (m : Module) (path : List Nat)
        (c : Component) (name : Name), Module.read filename source = .ok m →
        Hands m.tree path (.component c) → c.name = some name → FormProp.check m config c ≠ [] →
        (m.tree.binders name).length ≤ 1) ∧
      ¬∀ (filename : String) (source : List Char) (config : Config) (m : Module) (path : List Nat)
        (c : Component) (name : Name), Module.read filename source = .ok m →
        Hands m.tree path (.component c) → c.name = some name → FormProp.check m config c ≠ [] →
        ∀ n ∈ m.tree.preorder, n.kind ≠ .target name := by
  constructor
  · intro h
    have hread : ∃ m,
        Module.read "a.jsx"
            ("function g()\x7bfunction Foo(\x7bform\x7d)\x7b\x7dvar Foo=1;" ++
              "Form.create()(Foo)\x7d").toList = .ok m ∧
          (m.tree.binders ⟨"Foo", .scope 1⟩).length = 2 ∧
          ((m.tree.subjectAt? [0, 1, 0, 0]).bind Subject.component?).any (fun c => decide
            (c.name = some ⟨"Foo", .scope 1⟩ ∧ FormProp.check m {} c ≠ [])) = true :=
      exists_ok (by decide +kernel)
    obtain ⟨m, hm, hbinders, hany⟩ := hread
    obtain ⟨c, hands, hname, hne⟩ := exists_component hany
    have hle := h _ _ {} m _ c _ hm hands hname hne
    omega
  · intro h
    have hread : ∃ m,
        Module.read "a.jsx"
            "let Foo=(\x7bform\x7d)=>\x7b\x7d;[Foo]=[x];Form.create()(Foo)".toList = .ok m ∧
          (∃ n ∈ m.tree.preorder, n.kind = .target ⟨"Foo", .scope 0⟩) ∧
          ((m.tree.subjectAt? [0, 0]).bind Subject.component?).any (fun c => decide
            (c.name = some ⟨"Foo", .scope 0⟩ ∧ FormProp.check m {} c ≠ [])) = true :=
      exists_ok (by decide +kernel)
    obtain ⟨m, hm, ⟨n, hn, hkind⟩, hany⟩ := hread
    obtain ⟨c, hands, hname, hne⟩ := exists_component hany
    exact h _ _ {} m _ c _ hm hands hname hne n hn hkind

end FormCodemod
