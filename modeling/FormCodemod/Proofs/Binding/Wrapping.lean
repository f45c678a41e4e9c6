import FormCodemod.Proofs.Binding.References
import FormCodemod.Proofs.Module

/-!
# Wrapped components

A component is wrapped just if its name occurs once in the tree, as the only argument of a call of
`Form.create()` (`Wraps`). Together with what the search for its uses finds, this is all that the
rewriting of the component relies on (`references_classified`).
-/

namespace FormCodemod

open FormCodemod.Syntax

/-- The node is a call `owner.factory()` without arguments, though perhaps with types. -/
def IsFactory (config : Config) (n : Node) : Prop :=
  ∃ (span member ownerSpan methodSpan : Span) (owner : Name) (types inner inner' : List Node),
    n = .mk .call span
      (.mk .member member [.mk (.reference owner) ownerSpan inner,
        .mk (.word config.factory) methodSpan inner'] :: types) ∧
    owner.text = config.owner ∧ ∀ t ∈ types, t.kind = .types

/-- The name occurs once in the tree, as the only argument of a call of what the factory gives. -/
def Wraps (config : Config) (tree : Node) (name : Name) (w : Wrapper) : Prop :=
  ∃ path i call factory, tree.occurrences name = [path ++ [i + 1]] ∧
    tree.at? path = some call ∧ call.kind = .call ∧ call.arguments.length = 1 ∧
    call.parts[0]? = some factory ∧ IsFactory config factory ∧ w = ⟨call.span, factory.span⟩

variable {config : Config} {tree n call : Node} {name : Name} {w : Wrapper}

theorem arguments_eq_nil_iff {span : Span} {callee : Node} {rest : List Node} :
    (Node.mk .call span (callee :: rest)).arguments = [] ↔ ∀ t ∈ rest, t.kind = .types := by
  rw [Node.arguments, List.filter_eq_nil_iff]
  refine forall₂_congr fun t _ => ?_
  rw [decide_eq_true_iff, not_not]

theorem isFactoryCall_iff : isFactoryCall config n ↔ IsFactory config n := by
  constructor
  · intro h
    rw [isFactoryCall, Bool.and_eq_true, Bool.and_eq_true, List.isEmpty_iff] at h
    obtain ⟨⟨hcall, harguments⟩, hmember⟩ := h
    split at hmember
    case h_1 member owner ownerSpan inner method methodSpan inner' hcallee =>
      obtain ⟨howner, hmethod⟩ := by simpa using hmember
      obtain ⟨kind, span, parts⟩ := n
      obtain rfl : kind = .call := of_decide_eq_true hcall
      obtain ⟨hfirst, -, -⟩ := (Node.callee?_eq_some_iff rfl).1 hcallee
      cases parts with
      | nil => cases hfirst
      | cons callee rest =>
        cases hfirst
        subst hmethod
        exact ⟨span, member, ownerSpan, methodSpan, owner, rest, inner, inner', rfl, howner,
          arguments_eq_nil_iff.1 harguments⟩
    case h_2 => cases hmember
  · rintro ⟨span, member, ownerSpan, methodSpan, owner, types, inner, inner', rfl, howner, htypes⟩
    rw [isFactoryCall, arguments_eq_nil_iff.2 htypes]
    simp [Node.kind, Node.callee?, howner]

/-- Where a name has one use, it has one occurrence. -/
theorem exists_occurrence {r : Reference}
    (h : (tree.occurrences name).filterMap tree.useAt? = [r]) :
    ∃ path, tree.occurrences name = [path] ∧ Role.under (tree.above? path) = r.role := by
  have hsome : ∀ path ∈ tree.occurrences name, _ := fun _ => Node.exists_useAt?
  cases hpaths : tree.occurrences name with
  | nil =>
    rw [hpaths] at h
    cases h
  | cons path rest =>
    rw [hpaths] at h hsome
    obtain ⟨n, -, hs⟩ := hsome path List.mem_cons_self
    rw [List.filterMap_cons_some hs, List.cons.injEq] at h
    obtain ⟨rfl, hrest⟩ := h
    refine ⟨path, ?_, rfl⟩
    -- Another path would make for another use.
    rw [List.filterMap_eq_nil_iff] at hrest
    cases rest with
    | nil => rfl
    | cons path' rest =>
      obtain ⟨n', -, hs'⟩ := hsome path' (List.mem_cons_of_mem _ List.mem_cons_self)
      exact absurd (hrest path' List.mem_cons_self) (by rw [hs']; exact nofun)

namespace Wrapper

theorem ofReferences?_eq_some_iff {rs : List Reference} :
    ofReferences? config rs = some w ↔
      ∃ span call factory, rs = [⟨span, .argument call true⟩] ∧ call.callee? = some factory ∧
        IsFactory config factory ∧ w = ⟨call.span, factory.span⟩ := by
  constructor
  · intro h
    unfold ofReferences? at h
    split at h
    case h_1 span call =>
      split at h
      case h_1 factory hcallee =>
        split at h
        case isTrue hfactory =>
          cases h
          exact ⟨span, call, factory, rfl, hcallee, isFactoryCall_iff.1 hfactory, rfl⟩
        case isFalse => cases h
      case h_2 => cases h
    case h_2 => cases h
  · rintro ⟨span, call, factory, rfl, hcallee, hfactory, rfl⟩
    simp only [ofReferences?, hcallee, isFactoryCall_iff.2 hfactory, if_pos]

/-- A wrapped component is recognised as such, and no other one is. -/
theorem find?_eq_some_iff (h : tree.ToldApart name) :
    find? config tree name = some w ↔ Wraps config tree name w := by
  have hperm := Node.perm_references h
  rw [find?, ofReferences?_eq_some_iff]
  constructor
  · rintro ⟨span, call, factory, hrs, hcallee, hfactory, rfl⟩
    rw [hrs, List.singleton_perm] at hperm
    obtain ⟨path, hpath, hrole⟩ := exists_occurrence hperm.symm
    obtain ⟨i, habove, hcall, hsole⟩ := Role.under_eq_argument_iff.1 hrole
    obtain ⟨init, rfl, hat⟩ := Node.above?_eq_some_iff.1 habove
    exact ⟨init, i, call, factory, hpath, hat, hcall, of_decide_eq_true hsole.symm,
      ((Node.callee?_eq_some_iff hcall).1 hcallee).1, hfactory, rfl⟩
  · rintro ⟨path, i, call, factory, hpath, hat, hcall, hsole, hcallee, hfactory, rfl⟩
    obtain ⟨n, -, hs⟩ := Node.exists_useAt? (hpath ▸ List.mem_singleton_self _)
    rw [hpath, List.filterMap_cons_some hs, List.filterMap_nil, List.perm_singleton] at hperm
    rw [Node.above?_append_singleton, hat, Option.map_some,
      Role.under_eq_argument_iff.2 ⟨i, rfl, hcall, (decide_eq_true hsole).symm⟩] at hperm
    refine ⟨n.span, call, factory, hperm, (Node.callee?_eq_some_iff hcall).2 ⟨hcallee, ?_⟩,
      hfactory, rfl⟩
    obtain ⟨_, _, _, _, _, _, _, _, rfl, -⟩ := hfactory
    exact ⟨nofun, nofun⟩

end Wrapper

/-- Where the occurrences of a name are told apart by their spans, the search for its uses finds
    each of them once and nothing else, as what the node around it makes of it. A component is thus
    taken for wrapped just if its name occurs once, as the only argument of what the factory
    gives. -/
theorem references_classified (config : Config) (tree : Node) (name : Name)
    (h : tree.ToldApart name) :
    (tree.occurrences name).Nodup ∧
      (∀ path, path ∈ tree.occurrences name ↔
        ∃ n, tree.at? path = some n ∧ n.kind = .reference name) ∧
      (tree.references name).Perm ((tree.occurrences name).filterMap tree.useAt?) ∧
      (∀ path ∈ tree.occurrences name, ∃ n, tree.at? path = some n ∧
        tree.useAt? path = some ⟨n.span, Role.under (tree.above? path)⟩) ∧
      ∀ w, Wrapper.find? config tree name = some w ↔ Wraps config tree name w := by
  refine ⟨(Node.nodup_paths tree).filter _, fun _ => Node.mem_occurrences_iff,
    Node.perm_references h, fun path hpath => ?_, fun _ => Wrapper.find?_eq_some_iff h⟩
  exact Node.exists_useAt? hpath

/-- The argument of the factory is met twice, at the call and as an expression, and found once. -/
theorem references_classified_wrapped :
    ∃ m,
      Module.read "a.jsx" "export default Form.create()(Foo);\nfunction Foo() {}".toList = .ok m ∧
      m.tree.ToldApart ⟨"Foo", .scope 0⟩ ∧
      (m.tree.references ⟨"Foo", .scope 0⟩).Perm
        ([[0, 0, 1]].filterMap m.tree.useAt?) ∧
      Wraps {} m.tree ⟨"Foo", .scope 0⟩ ⟨⟨15, 33⟩, ⟨15, 28⟩⟩ := by
  have hread : ∃ m,
      Module.read "a.jsx" "export default Form.create()(Foo);\nfunction Foo() {}".toList = .ok m ∧
        m.tree.ToldApart ⟨"Foo", .scope 0⟩ ∧
        m.tree.occurrences ⟨"Foo", .scope 0⟩ = [[0, 0, 1]] ∧
        Wrapper.find? {} m.tree ⟨"Foo", .scope 0⟩ = some ⟨⟨15, 33⟩, ⟨15, 28⟩⟩ :=
    exists_ok (by decide +kernel)
  obtain ⟨m, hm, htold, hpaths, hfind⟩ := hread
  obtain ⟨-, -, hperm, -, hwraps⟩ := references_classified {} m.tree ⟨"Foo", .scope 0⟩ htold
  exact ⟨m, hm, htold, hpaths ▸ hperm, (hwraps _).1 hfind⟩

/-- What counts as a use, one of each: callee, argument, target, property, value, element with its
    closing tag, owner of an element, and export; and what does not: property name, pattern. -/
example : ((Module.read "a.jsx"
    ("function Foo() {}\nFoo(Foo);\nFoo = { Foo, Foo: Foo };\n<Foo><Foo.Bar/></Foo>;\n" ++
      "({ Foo } = {});\nexport { Foo as Bar };").toList).toOption.map fun m =>
        (m.tree.references ⟨"Foo", .scope 0⟩).length) = some 9 := by
  decide +kernel

end FormCodemod
