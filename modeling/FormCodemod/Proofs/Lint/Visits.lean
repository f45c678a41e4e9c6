import FormCodemod.Lint
import FormCodemod.Proofs.Syntax.Path
import Mathlib.Data.List.Basic

/-!
# What the rules look at

Linting goes through a tree once, in the order of its paths, and every rule gets each of its
subjects exactly once, however deep it stands (`lint_visits`). Which node is the subject of which
rule is said by `Hands`, without the walk: a node and the one it is a part of are all it takes. The
rule that gets the subject is said by `Reported`.

* `Node.subjects`: the subjects of a tree, each with the path to it;
* `mem_subjects_iff`: they are what `Hands` says;
* `mem_reports_iff_reported`: what is reported of a module is what each of the four rules reports of
  the subjects handed to it;
* `lint_eq`: what is found in a module is what the rules report of the subjects, one after another.
-/

namespace FormCodemod

open FormCodemod.Syntax

variable {tree n : Node} {path : List Nat} {s : Subject}

namespace Syntax.Node

/-- Where the node stands that hangs there. -/
def standingUnder : Option (Node × Nat) → Standing
  | some (parent, i) => parent.kind.standing i
  | none => .statement

/-- The subject that the node at the end of a path is. -/
def subjectAt? (tree : Node) (path : List Nat) : Option Subject :=
  (tree.at? path).bind (Subject.ofNode? (standingUnder (tree.above? path)))

/-- The subjects of a tree, with the paths to them. -/
def subjects (tree : Node) : List (List Nat × Subject) :=
  tree.paths.filterMap fun path => (tree.subjectAt? path).map (path, ·)

/-- The node at the end of a path is the declaration behind an `export`, or the one in the head of a
    loop. -/
def IsAttached (tree : Node) (path : List Nat) : Prop :=
  ∃ init i parent, path = init ++ [i] ∧ tree.at? init = some parent ∧
    (parent.kind = .exportDeclaration ∨
      i = 0 ∧ (parent.kind = .forStatement ∨ parent.kind = .forIn ∨
        ∃ isAwait, parent.kind = .forOf isAwait))

end Syntax.Node

/-- The component that a subject is. -/
def Subject.component? : Subject → Option Component
  | component c => some c
  | function _ | declaration _ _ _ | element _ _ _ => none

/-- The element that a subject is: its span, its opening tag and its children. -/
def Subject.element? : Subject → Option (Span × Node × List Node)
  | element span opening children => some (span, opening, children)
  | _ => none

/-- The declaration that a subject is: its span, its declarators, and whether it can be removed. -/
def Subject.declaration? : Subject → Option (Span × List Node × Bool)
  | declaration span declarators removable => some (span, declarators, removable)
  | _ => none

/-- The node at the end of a path is the subject of a rule. -/
inductive Hands (tree : Node) (path : List Nat) : Subject → Prop
  /-- A function that is declared, or exported by default, under a name. -/
  | functionDeclaration {span binder : Span} {name : Name} {parts : List Node} {function : Node}
      {c : Component} :
      tree.at? path =
        some (.mk .functionDeclaration span [.mk (.binder name) binder parts, function]) →
      Component.ofFunction? (some name) function = some c →
      Hands tree path (.component c)
  /-- A variable that starts with an arrow function. -/
  | arrow {span binder value : Span} {name : Name} {parts inner : List Node} {isAsync : Bool}
      {c : Component} :
      tree.at? path = some (.mk .declarator span
        [.mk (.binder name) binder parts, .mk (.arrow isAsync) value inner]) →
      Component.ofFunction? (some name) (.mk (.arrow isAsync) value inner) = some c →
      Hands tree path (.component c)
  /-- A variable that starts with a function, which may have a name of its own. -/
  | functionExpression {span binder value : Span} {name : Name} {parts inner : List Node}
      {function : Node} {c : Component} :
      tree.at? path = some (.mk .declarator span
        [.mk (.binder name) binder parts, .mk .functionExpression value inner]) →
      inner.length ≤ 2 → inner.getLast? = some function →
      Component.ofFunction? (some name) function = some c →
      Hands tree path (.component c)
  /-- Any function that is no arrow function, whatever it belongs to. -/
  | function {span : Span} {parts : List Node} {isAsync isGenerator : Bool} :
      tree.at? path = some (.mk (.function isAsync isGenerator) span parts) →
      Hands tree path
        (.function ⟨none, parts.filter (·.kind = .parameter), Component.bodyOf false parts⟩)
  | arrowFunction {span : Span} {parts : List Node} {isAsync : Bool} :
      tree.at? path = some (.mk (.arrow isAsync) span parts) →
      Hands tree path
        (.function ⟨none, parts.filter (·.kind = .parameter), Component.bodyOf true parts⟩)
  /-- A declaration of plain variables, removable just if it is a statement of its own. -/
  | declaration {keyword : VarKeyword} {span : Span} {declarators : List Node} {removable : Bool} :
      tree.at? path = some (.mk (.variableDeclaration keyword) span declarators) →
      keyword.isPlain →
      (removable ↔ ¬tree.IsAttached path) →
      Hands tree path (.declaration span declarators removable)
  /-- An element of markup. -/
  | element {span : Span} {opening : Node} {children : List Node} :
      tree.at? path = some (.mk .jsxElement span (opening :: children)) →
      Hands tree path (.element span opening children)

/-! ### Rules -/

section

variable (m : Module) (config : Config)

@[simp] theorem Subject.reports_component (c : Component) :
    (component c).reports m config = FormProp.check m config c :=
  rfl

@[simp] theorem Subject.reports_function (f : Component) :
    (function f).reports m config = EmptyPattern.check f :=
  rfl

@[simp] theorem Subject.reports_declaration (span : Span) (declarators : List Node)
    (removable : Bool) :
    (declaration span declarators removable).reports m config =
      DecoratorBinding.check m config span declarators removable :=
  rfl

@[simp] theorem Subject.reports_element (span : Span) (opening : Node) (children : List Node) :
    (element span opening children).reports m config =
      FieldDecorator.check m config span opening children :=
  rfl

/-- One of the four rules reports this, of a subject that is handed to it. -/
inductive Reported (r : Report) : Prop
  /-- Components with a name may take the form from their props. -/
  | formProp {path : List Nat} {c : Component} :
      Hands m.tree path (.component c) → r ∈ FormProp.check m config c → Reported r
  /-- Functions may have an empty parameter. -/
  | emptyPattern {path : List Nat} {f : Component} :
      Hands m.tree path (.function f) → r ∈ EmptyPattern.check f → Reported r
  /-- Declarations of plain variables may take the decorator from the form. -/
  | decoratorBinding {path : List Nat} {span : Span} {declarators : List Node} {removable : Bool} :
      Hands m.tree path (.declaration span declarators removable) →
      r ∈ DecoratorBinding.check m config span declarators removable → Reported r
  /-- Elements of markup may have a decorated child. -/
  | fieldDecorator {path : List Nat} {span : Span} {opening : Node} {children : List Node} :
      Hands m.tree path (.element span opening children) →
      r ∈ FieldDecorator.check m config span opening children → Reported r

end

/-! ### Components -/

namespace Component

variable {name : Option Name} {c : Component}

theorem name_of_ofFunction? (h : ofFunction? name n = some c) : c.name = name := by
  unfold ofFunction? at h
  split at h <;> cases h <;> rfl

/-- The components with a name are functions declared under it, and variables that start with a
    function. -/
theorem hands_of_ofNode? (hat : tree.at? path = some n) (h : ofNode? n = some c)
    (hname : c.name.isSome) : Hands tree path (.component c) := by
  unfold ofNode? at h
  split at h
  · exact .functionDeclaration hat h
  · rw [name_of_ofFunction? h] at hname
    cases hname
  · split at h
    · exact .arrow hat h
    · exact .functionExpression hat (Nat.le_succ 1) rfl h
    · exact .functionExpression hat (Nat.le_refl 2) rfl h
    · cases h
  · cases h

theorem hands_of_ofFunction? (hat : tree.at? path = some n) (h : ofFunction? none n = some c) :
    Hands tree path (.function c) := by
  unfold ofFunction? at h
  split at h
  · cases h
    exact .function hat
  · cases h
    exact .arrowFunction hat
  · cases h

end Component

theorem isSome_name {name : Name} {c : Component}
    (h : Component.ofFunction? (some name) n = some c) : c.name.isSome := by
  rw [Component.name_of_ofFunction? h, Option.isSome_some]

/-- What is handed on as a component is a node that declares one under a name. -/
theorem Hands.exists_ofNode? {c : Component} (h : Hands tree path (.component c)) :
    ∃ n, tree.at? path = some n ∧ Component.ofNode? n = some c ∧ c.name.isSome := by
  cases h with
  | functionDeclaration hat hc => exact ⟨_, hat, hc, isSome_name hc⟩
  | arrow hat hc => exact ⟨_, hat, hc, isSome_name hc⟩
  | @functionExpression _ _ _ _ _ inner _ _ hat hlen hlast hc =>
    refine ⟨_, hat, ?_, isSome_name hc⟩
    match inner, hlen, hlast with
    | [_], _, rfl => exact hc
    | [_, _], _, rfl => exact hc

/-- The name of a component is bound by the first part of the node that is handed on. -/
theorem Hands.exists_binder {c : Component} {name : Name} (h : Hands tree path (.component c))
    (hname : c.name = some name) :
    ∃ n, tree.at? (path ++ [0]) = some n ∧ n.kind = .binder name := by
  cases h with
  | functionDeclaration hat hc =>
    cases (Component.name_of_ofFunction? hc).symm.trans hname
    exact ⟨_, Node.at?_append_singleton hat rfl, rfl⟩
  | arrow hat hc =>
    cases (Component.name_of_ofFunction? hc).symm.trans hname
    exact ⟨_, Node.at?_append_singleton hat rfl, rfl⟩
  | functionExpression hat _ _ hc =>
    cases (Component.name_of_ofFunction? hc).symm.trans hname
    exact ⟨_, Node.at?_append_singleton hat rfl, rfl⟩

/-! ### Subjects -/

theorem Subject.ofNode?_of_ofNode? {standing : Standing} {c : Component}
    (h : Component.ofNode? n = some c) (hname : c.name.isSome) :
    Subject.ofNode? standing n = some (.component c) := by
  unfold Subject.ofNode?
  split
  · cases h
  · cases h
  · rw [h, Option.filter_some, if_pos hname]
    rfl

theorem standing_eq_statement_iff {kind : Kind} {i : Nat} :
    kind.standing i = .statement ↔
      ¬(kind = .exportDeclaration ∨
        i = 0 ∧ (kind = .forStatement ∨ kind = .forIn ∨ ∃ isAwait, kind = .forOf isAwait)) := by
  constructor
  · rintro h (rfl | ⟨rfl, rfl | rfl | ⟨isAwait, rfl⟩⟩) <;> cases h
  · intro h
    unfold Kind.standing
    split <;> simp at h ⊢

theorem standingUnder_eq_statement_iff (h : tree.at? path = some n) :
    Node.standingUnder (tree.above? path) = .statement ↔ ¬tree.IsAttached path := by
  rcases List.eq_nil_or_concat path with rfl | ⟨init, i, rfl⟩
  · refine ⟨fun _ => ?_, fun _ => rfl⟩
    rintro ⟨init, i, parent, hpath, -⟩
    cases init <;> cases hpath
  · rw [List.concat_eq_append] at h ⊢
    obtain ⟨parent, hparent, -⟩ := Option.bind_eq_some_iff.1 ((Node.at?_append ..).symm.trans h)
    rw [Node.above?_append_singleton, hparent, Option.map_some, Node.standingUnder,
      standing_eq_statement_iff, Node.IsAttached]
    refine not_congr ⟨fun hkind => ⟨init, i, parent, rfl, hparent, hkind⟩, ?_⟩
    rintro ⟨init', i', parent', hpath, hparent', hkind⟩
    obtain ⟨rfl, hi⟩ := List.append_inj' hpath rfl
    cases hi
    rw [hparent] at hparent'
    cases hparent'
    exact hkind

theorem subjectAt?_eq_some_iff : tree.subjectAt? path = some s ↔ Hands tree path s := by
  rw [Node.subjectAt?, Option.bind_eq_some_iff]
  constructor
  · rintro ⟨n, hat, h⟩
    unfold Subject.ofNode? at h
    split at h
    · split at h
      case isTrue hplain =>
        cases h
        refine .declaration hat hplain ?_
        rw [decide_eq_true_iff, standingUnder_eq_statement_iff hat]
      case isFalse => cases h
    · cases h
      exact .element hat
    · rw [Option.or_eq_some_iff] at h
      rcases h with h | ⟨-, h⟩
      · obtain ⟨c, hnamed, rfl⟩ := Option.map_eq_some_iff.1 h
        obtain ⟨hc, hname⟩ := Option.filter_eq_some_iff.1 hnamed
        exact Component.hands_of_ofNode? hat hc hname
      · obtain ⟨c, hc, rfl⟩ := Option.map_eq_some_iff.1 h
        exact Component.hands_of_ofFunction? hat hc
  · intro h
    cases s with
    | component c =>
      obtain ⟨n, hat, hc, hname⟩ := h.exists_ofNode?
      exact ⟨n, hat, Subject.ofNode?_of_ofNode? hc hname⟩
    | function f =>
      cases h with
      | function hat => exact ⟨_, hat, rfl⟩
      | arrowFunction hat => exact ⟨_, hat, rfl⟩
    | declaration span declarators removable =>
      cases h with
      | declaration hat hplain hremovable =>
        refine ⟨_, hat, ?_⟩
        rw [Subject.ofNode?, if_pos hplain, Option.some_inj, Subject.declaration.injEq]
        refine ⟨rfl, rfl, Bool.eq_iff_iff.2 ?_⟩
        rw [decide_eq_true_iff, standingUnder_eq_statement_iff hat, hremovable]
    | element span opening children =>
      cases h with
      | element hat => exact ⟨_, hat, rfl⟩

/-- A subject of some kind with a property, found by computing it. -/
theorem exists_hands {α : Type} {f : Subject → Option α} {p : α → Prop} [DecidablePred p]
    (h : ((tree.subjectAt? path).bind f).any (decide <| p ·) = true) :
    ∃ s a, Hands tree path s ∧ f s = some a ∧ p a := by
  obtain ⟨a, ha, hp⟩ := (Option.any_eq_true _ _).1 h
  obtain ⟨s, hs, ha⟩ := Option.bind_eq_some_iff.1 ha
  exact ⟨s, a, subjectAt?_eq_some_iff.1 hs, ha, of_decide_eq_true hp⟩

/-- A component with a property, found by computing it. -/
theorem exists_component {p : Component → Prop} [DecidablePred p]
    (h : ((tree.subjectAt? path).bind Subject.component?).any (decide <| p ·) = true) :
    ∃ c, Hands tree path (.component c) ∧ p c := by
  obtain ⟨s, c, hands, hc, hp⟩ := exists_hands h
  cases s with
  | component => cases hc; exact ⟨c, hands, hp⟩
  | function => cases hc
  | declaration => cases hc
  | element => cases hc

/-- A declaration with a property, found by computing it. -/
theorem exists_declaration {p : Span × List Node × Bool → Prop} [DecidablePred p]
    (h : ((tree.subjectAt? path).bind Subject.declaration?).any (decide <| p ·) = true) :
    ∃ span declarators removable, Hands tree path (.declaration span declarators removable) ∧
      p (span, declarators, removable) := by
  obtain ⟨s, d, hands, hd, hp⟩ := exists_hands h
  cases s with
  | declaration => cases hd; exact ⟨_, _, _, hands, hp⟩
  | component => cases hd
  | function => cases hd
  | element => cases hd

/-- An element with a property, found by computing it. -/
theorem exists_element {p : Span × Node × List Node → Prop} [DecidablePred p]
    (h : ((tree.subjectAt? path).bind Subject.element?).any (decide <| p ·) = true) :
    ∃ span opening children, Hands tree path (.element span opening children) ∧
      p (span, opening, children) := by
  obtain ⟨s, e, hands, he, hp⟩ := exists_hands h
  cases s with
  | element => cases he; exact ⟨_, _, _, hands, hp⟩
  | component => cases he
  | function => cases he
  | declaration => cases he

/-- The subjects listed are those that the tree hands to a rule. -/
theorem mem_subjects_iff : (path, s) ∈ tree.subjects ↔ Hands tree path s := by
  rw [← subjectAt?_eq_some_iff, Node.subjects, List.mem_filterMap]
  constructor
  · rintro ⟨path', -, h⟩
    obtain ⟨s', h, heq⟩ := Option.map_eq_some_iff.1 h
    cases heq
    exact h
  · intro h
    obtain ⟨n, hat, -⟩ := Option.bind_eq_some_iff.1 h
    exact ⟨path, Node.mem_paths_of_at? hat, by rw [h, Option.map_some]⟩

/-- The subjects are listed in the order of a walk, and no node twice. -/
theorem pairwise_subjects (tree : Node) : (tree.subjects.map (·.1)).Pairwise (· < ·) := by
  rw [List.pairwise_map, Node.subjects, List.pairwise_filterMap]
  refine (Node.pairwise_paths tree).imp fun {path path'} hlt v hv v' hv' => ?_
  obtain ⟨s, -, rfl⟩ := Option.map_eq_some_iff.1 hv
  obtain ⟨s', -, rfl⟩ := Option.map_eq_some_iff.1 hv'
  exact hlt

/-! ### The walk -/

namespace Module

variable (m : Module) (config : Config)

mutual

theorem reportsIn_eq_gather : ∀ (above : Option (Node × Nat)) (n : Node),
    m.reportsIn config (Node.standingUnder above) n =
      n.gather (fun above n => m.reportsAt config (Node.standingUnder above) n) above
  | above, .mk kind span parts => by
    rw [reportsIn, Node.gather, ← reportsInParts_eq_gatherParts (.mk kind span parts) 0 parts]
    rfl

theorem reportsInParts_eq_gatherParts : ∀ (parent : Node) (i : Nat) (ns : List Node),
    m.reportsInParts config parent.kind i ns =
      Node.gatherParts (fun above n => m.reportsAt config (Node.standingUnder above) n) parent i ns
  | _, _, [] => rfl
  | parent, i, n :: ns => by
    rw [reportsInParts, Node.gatherParts, ← reportsIn_eq_gather (some (parent, i)) n,
      reportsInParts_eq_gatherParts parent (i + 1) ns]
    rfl

end

/-- What the rules report of a module is what they report of its subjects, one after another. -/
theorem reports_eq_flatMap :
    m.reports config = m.tree.subjects.flatMap fun v => v.2.reports m config := by
  rw [reports, show Standing.statement = Node.standingUnder none from rfl, reportsIn_eq_gather,
    Node.gather_eq_flatMap, Node.subjects, List.filterMap_eq_flatMap_toList, List.flatMap_assoc]
  congr 1
  funext path
  rw [Option.or_none, Node.subjectAt?]
  cases m.tree.at? path with
  | none => rfl
  | some n =>
    rw [Option.bind_some, Option.toList_some, List.flatMap_singleton, reportsAt]
    cases Subject.ofNode? (Node.standingUnder (m.tree.above? path)) n with
    | none => rfl
    | some s => simp

theorem mem_reports_iff {r : Report} :
    r ∈ m.reports config ↔ ∃ path s, Hands m.tree path s ∧ r ∈ s.reports m config := by
  rw [reports_eq_flatMap, List.mem_flatMap]
  constructor
  · rintro ⟨⟨path, s⟩, hs, hr⟩
    exact ⟨path, s, mem_subjects_iff.1 hs, hr⟩
  · rintro ⟨path, s, hands, hr⟩
    exact ⟨⟨path, s⟩, mem_subjects_iff.2 hands, hr⟩

/-- What is reported of a module is what one of the four rules reports of its own subjects. -/
theorem mem_reports_iff_reported {r : Report} :
    r ∈ m.reports config ↔ Reported m config r := by
  rw [mem_reports_iff]
  constructor
  · rintro ⟨path, s, hands, hr⟩
    cases s with
    | component c =>
      rw [Subject.reports_component] at hr
      exact .formProp hands hr
    | function f =>
      rw [Subject.reports_function] at hr
      exact .emptyPattern hands hr
    | declaration span declarators removable =>
      rw [Subject.reports_declaration] at hr
      exact .decoratorBinding hands hr
    | element span opening children =>
      rw [Subject.reports_element] at hr
      exact .fieldDecorator hands hr
  · intro h
    cases h with
    | formProp hands hr => exact ⟨_, _, hands, hr⟩
    | emptyPattern hands hr => exact ⟨_, _, hands, hr⟩
    | decoratorBinding hands hr => exact ⟨_, _, hands, hr⟩
    | fieldDecorator hands hr => exact ⟨_, _, hands, hr⟩

/-- What is found in a module is what the rules report of its subjects, one after another. -/
theorem lint_eq : m.lint config =
    (m.tree.subjects.flatMap fun v => v.2.reports m config).map m.violation := by
  rw [lint, reports_eq_flatMap]

end Module

/-! ### The main result -/

/-- The parameter is an object pattern without properties, and without a value for when there is no
    argument. -/
def TakesNothing (parameter : Node) : Prop :=
  (Component.patternOf parameter).kind = .objectPattern ∧
    ∀ p ∈ (Component.patternOf parameter).parts, p.kind = .types

theorem EmptyPattern.check_ne_nil_iff (f : Component) :
    check f ≠ [] ↔ ∃ parameter, f.parameters = [parameter] ∧ TakesNothing parameter := by
  rw [check]
  split
  case h_1 parameter hp =>
    have hiff : ((Component.patternOf parameter).kind = .objectPattern &&
        (Component.patternOf parameter).bareParts.isEmpty) = true ↔ TakesNothing parameter := by
      simp [TakesNothing, Node.bareParts]
    simp [hp, ← hiff]
  case h_2 hp =>
    refine ⟨fun h => absurd rfl h, ?_⟩
    rintro ⟨parameter, h, -⟩
    exact absurd h (hp parameter)

/-- Linting a module goes through the tree in the order of its paths and reports what each rule has
    to say of each of its subjects, once: the rule for injected props of components, the one for
    empty parameters of functions, the one for bindings of the decorator of declarations, and the
    one for its uses of elements. The rule for empty parameters has something to say of just the
    functions with a single parameter that takes nothing. -/
theorem lint_visits (m : Module) (config : Config) :
    (m.tree.subjects.map (·.1)).Pairwise (· < ·) ∧
      (∀ path s, (path, s) ∈ m.tree.subjects ↔ Hands m.tree path s) ∧
      m.lint config = (m.tree.subjects.flatMap fun v => v.2.reports m config).map m.violation ∧
      (∀ r, r ∈ m.reports config ↔ Reported m config r) ∧
      ∀ f, EmptyPattern.check f ≠ [] ↔
        ∃ parameter, f.parameters = [parameter] ∧ TakesNothing parameter :=
  ⟨pairwise_subjects m.tree, fun _ _ => mem_subjects_iff, m.lint_eq config,
    fun _ => m.mem_reports_iff_reported config, EmptyPattern.check_ne_nil_iff⟩

end FormCodemod
