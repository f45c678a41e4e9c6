import FormCodemod.Binding.Reference
import FormCodemod.Proofs.Syntax.Reads
import FormCodemod.Syntax.Grammar.Module

/-!
# Which identifiers count

An identifier counts as a use of its name if the node read for it is a reference
(`Node.isReferenceTo`), which is decided where it is read (`reference_positions`). It counts

* in the place of an expression, unless it is the parameter of an arrow function;
* as a property of an object that has no value of its own;
* as the name of an element, unless it begins with a small letter, and as what such a name begins
  with ahead of a dot;
* behind `export`, unless another module is named;
* as what an assignment writes to as a whole.

Where names do not count is the subject of `FormCodemod.Proofs.Syntax.Names`.
-/

namespace FormCodemod.Syntax

open Grammar Reader

/-- An identifier that counts as a use of its name. -/
def Node.IsUse (n : Node) : Prop :=
  ∃ name, n.isReferenceTo name

variable {n item name : Node} {start : Nat}

theorem isUse_mk (name : Name) (span : Span) (parts : List Node) :
    (Node.mk (.reference name) span parts).IsUse :=
  ⟨name, decide_eq_true rfl⟩

theorem not_isUse_of_kind_ne (h : ∀ name, n.kind ≠ .reference name) : ¬n.IsUse :=
  fun ⟨name, hn⟩ => h name (of_decide_eq_true hn)

/-! ### Expressions -/

theorem isUse_of_reads_reference (h : reference.Reads n) : n.IsUse := by
  obtain ⟨start, -, h⟩ := h.exists_of_bind
  obtain ⟨text, -, h⟩ := h.exists_of_bind
  obtain ⟨span, rfl⟩ := h.exists_of_node
  exact isUse_mk ..

theorem kind_of_reads_arrowTail {isAsync : Bool} {params types : List Node}
    (h : (arrowTail start isAsync params types).Reads n) : n.kind = .arrow isAsync := by
  obtain ⟨brace, -, h⟩ := h.exists_of_bind
  obtain ⟨body, h⟩ := h.of_either
  obtain ⟨span, -, h⟩ := h.exists_of_bind
  rw [h.eq_of_pure]
  rfl

/-- An identifier is an expression, or the parameter of an arrow function. -/
theorem isUse_or_of_reads_namedPrimary {canBeArrow : Bool} (h : (namedPrimary canBeArrow).Reads n) :
    n.IsUse ∨ ∃ isAsync, n.kind = .arrow isAsync := by
  obtain ⟨start, -, h⟩ := h.exists_of_bind
  obtain ⟨name, hname, h⟩ := h.exists_of_bind
  obtain ⟨newline, -, h⟩ := h.exists_of_bind
  obtain ⟨identifier, -, h⟩ := h.exists_of_bind
  rcases h.of_if with ⟨-, h⟩ | ⟨-, h⟩
  · obtain ⟨param, -, h⟩ := h.exists_of_bind
    obtain ⟨_, -, h⟩ := h.exists_of_bind
    exact .inr ⟨true, kind_of_reads_arrowTail h⟩
  · obtain ⟨_, -, h⟩ := h.exists_of_bind
    obtain ⟨arrow, -, h⟩ := h.exists_of_bind
    rcases h.of_if with ⟨-, h⟩ | ⟨-, h⟩
    · split at h
      · obtain ⟨_, -, h⟩ := h.exists_of_bind
        exact .inr ⟨false, kind_of_reads_arrowTail h⟩
      · rw [h.eq_of_pure]
        exact .inl (isUse_of_reads_reference hname)
    · rw [h.eq_of_pure]
      exact .inl (isUse_of_reads_reference hname)

/-! ### Properties -/

/-- A property without a value of its own. -/
def Node.IsShorthand (n : Node) : Prop :=
  n.kind = .shorthand ∨ n.kind = .assignedShorthand

theorem not_isShorthand_of_reads_node {kind : Kind} {parts : List Node}
    (h : (node kind start parts).Reads n) (hshort : kind ≠ .shorthand)
    (hassigned : kind ≠ .assignedShorthand) : ¬n.IsShorthand := by
  obtain ⟨span, rfl⟩ := h.exists_of_node
  exact not_or.2 ⟨hshort, hassigned⟩

theorem not_isShorthand_of_reads_wordedProperty {word : String}
    (h : (wordedProperty start word).Reads n) : ¬n.IsShorthand := by
  obtain ⟨isGenerator, h⟩ := h.of_either
  obtain ⟨key, -, h⟩ := h.exists_of_bind
  split at h
  · obtain ⟨tail, -, h⟩ := h.exists_of_bind
    exact not_isShorthand_of_reads_node h nofun nofun
  · obtain ⟨tail, -, h⟩ := h.exists_of_bind
    exact not_isShorthand_of_reads_node h nofun nofun
  · obtain ⟨tail, -, h⟩ := h.exists_of_bind
    exact not_isShorthand_of_reads_node h nofun nofun

theorem isUse_of_reads_shorthandProperty {key : Node} {modified : Option Nat}
    (h : (shorthandProperty start key modified).Reads n) (hshort : n.IsShorthand) :
    ∃ name rest, n.parts = name :: rest ∧ name.IsUse := by
  unfold shorthandProperty at h
  split at h
  case h_1 => exact absurd h not_reads_unexpected
  case h_2 text _ =>
    obtain ⟨mark, -, h⟩ := h.exists_of_bind
    obtain ⟨optional, -, h⟩ := h.exists_of_bind
    replace h := h.of_when
    obtain ⟨assigned, -, h⟩ := h.exists_of_bind
    obtain ⟨comma, -, h⟩ := h.exists_of_bind
    obtain ⟨brace, -, h⟩ := h.exists_of_bind
    rcases h.of_if with ⟨-, h⟩ | ⟨-, h⟩
    · replace h := h.of_when
      obtain ⟨assigned, -, h⟩ := h.exists_of_bind
      rcases h.of_if with ⟨-, h⟩ | ⟨-, h⟩
      · obtain ⟨value, -, h⟩ := h.exists_of_bind
        obtain ⟨span, rfl⟩ := h.exists_of_node
        exact ⟨_, _, rfl, isUse_mk ..⟩
      · rw [h.eq_of_pure]
        exact ⟨_, _, rfl, isUse_mk ..⟩
    · rcases h.of_if with ⟨-, h⟩ | ⟨-, h⟩
      · have h : (wordedProperty start text).Reads n := by
          dsimp only at h
          split at h
          · obtain ⟨_, -, h⟩ := h.exists_of_bind
            exact h
          · exact h
        exact absurd hshort (not_isShorthand_of_reads_wordedProperty h)
      · obtain ⟨context, -, h⟩ := h.exists_of_bind
        rcases h.of_if with ⟨-, h⟩ | ⟨-, h⟩
        · exact absurd h not_reads_unexpected
        · exact absurd h not_reads_unexpected

theorem isUse_of_reads_property (h : property.Reads n) (hshort : n.IsShorthand) :
    ∃ name rest, n.parts = name :: rest ∧ name.IsUse := by
  obtain ⟨start, -, h⟩ := h.exists_of_bind
  obtain ⟨spreads, -, h⟩ := h.exists_of_bind
  rcases h.of_if with ⟨-, h⟩ | ⟨-, h⟩
  · obtain ⟨value, -, h⟩ := h.exists_of_bind
    exact absurd hshort (not_isShorthand_of_reads_node h nofun nofun)
  obtain ⟨star, -, h⟩ := h.exists_of_bind
  rcases h.of_if with ⟨-, h⟩ | ⟨-, h⟩
  · obtain ⟨key, -, h⟩ := h.exists_of_bind
    obtain ⟨tail, -, h⟩ := h.exists_of_bind
    exact absurd hshort (not_isShorthand_of_reads_node h nofun nofun)
  obtain ⟨modifierStart, -, h⟩ := h.exists_of_bind
  obtain ⟨modified, -, h⟩ := h.exists_of_bind
  obtain ⟨key, -, h⟩ := h.exists_of_bind
  obtain ⟨context, -, h⟩ := h.exists_of_bind
  obtain ⟨next, -, h⟩ := h.exists_of_bind
  obtain ⟨brace, -, h⟩ := h.exists_of_bind
  rcases h.of_if with ⟨-, h⟩ | ⟨-, h⟩
  · obtain ⟨_, -, h⟩ := h.exists_of_bind
    exact absurd hshort (not_isShorthand_of_reads_node h nofun nofun)
  obtain ⟨colon, -, h⟩ := h.exists_of_bind
  rcases h.of_if with ⟨-, h⟩ | ⟨-, h⟩
  · obtain ⟨value, -, h⟩ := h.exists_of_bind
    rw [h.eq_of_pure] at hshort
    exact absurd hshort (not_or.2 ⟨nofun, nofun⟩)
  obtain ⟨paren, -, h⟩ := h.exists_of_bind
  obtain ⟨less, -, h⟩ := h.exists_of_bind
  rcases h.of_if with ⟨-, h⟩ | ⟨-, h⟩
  · obtain ⟨tail, -, h⟩ := h.exists_of_bind
    exact absurd hshort (not_isShorthand_of_reads_node h nofun nofun)
  · exact isUse_of_reads_shorthandProperty h hshort

/-! ### Names of elements -/

/-- What stands ahead of a dot in the name of an element. -/
inductive IsOwner : Node → Prop
  | name (text : String) (span : Span) : IsOwner (.mk (.reference (openName text)) span [])
  | member {owner : Node} (text : String) (whole span : Span) :
      IsOwner owner → IsOwner (.mk .jsxMemberName whole [owner, .mk (.word text) span []])

/-- The name of an element. It is a use, or begins with one, unless it is that of an element of the
    host or has a namespace. -/
inductive IsElementName : Node → Prop
  | host (text : String) (span : Span) :
      isIntrinsic text → IsElementName (.mk (.jsxIntrinsic text) span [])
  | namespaced (space text : String) (span : Span) :
      IsElementName (.mk (.jsxNamespacedName space text) span [])
  | component (text : String) (span : Span) :
      ¬isIntrinsic text → IsElementName (.mk (.reference (openName text)) span [])
  | member {owner : Node} (text : String) (whole span : Span) :
      IsOwner owner → IsElementName (.mk .jsxMemberName whole [owner, .mk (.word text) span []])

theorem isElementName_of_reads (h : elementName.Reads n) : IsElementName n := by
  obtain ⟨start, -, h⟩ := h.exists_of_bind
  obtain ⟨⟨text, span⟩, -, h⟩ := h.exists_of_bind
  obtain ⟨colon, -, h⟩ := h.exists_of_bind
  rcases h.of_if with ⟨-, h⟩ | ⟨-, h⟩
  · obtain ⟨⟨inner, _⟩, -, h⟩ := h.exists_of_bind
    obtain ⟨whole, rfl⟩ := h.exists_of_node
    exact .namespaced ..
  obtain ⟨phrases, s, t, h⟩ := h
  obtain ⟨isMember, u, hdot, h⟩ := bind_eq_done_iff.1 h
  cases (isPunct_eq _).symm.trans hdot
  -- Ahead of a dot there is an owner, and where no dot follows the name is complete.
  refine of_iterate (p := fun v s => (s.token.kind = .punct .dot → IsOwner v) ∧
    (s.token.kind ≠ .punct .dot → IsElementName v)) h ⟨fun hdot => ?_, fun hdot => ?_⟩ ?_ ?_
  · rw [if_neg (by simp [hdot])]
    exact .name ..
  · split
    case isTrue hhost => exact .host _ _ (Bool.and_eq_true_iff.1 hhost).1
    case isFalse hhost => exact .component _ _ (by simpa [hdot] using hhost)
  · intro v w s t hv h
    obtain ⟨eaten, u, heat, h⟩ := bind_eq_done_iff.1 h
    have hdot := eq_decide_of_eat heat
    rcases Reads.of_if ⟨phrases, u, t, h⟩ with ⟨heaten, h⟩ | ⟨-, h⟩
    · have howner := hv.1 (of_decide_eq_true (hdot ▸ heaten))
      obtain ⟨⟨property, span⟩, -, h⟩ := h.exists_of_bind
      obtain ⟨whole, -, h⟩ := h.exists_of_bind
      cases h.eq_of_pure
      exact ⟨fun _ => .member _ _ _ howner, fun _ => .member _ _ _ howner⟩
    · cases h.eq_of_pure
  · intro v a s t hv h
    obtain ⟨eaten, u, heat, h⟩ := bind_eq_done_iff.1 h
    have hdot := eq_decide_of_eat heat
    rcases Reads.of_if ⟨phrases, u, t, h⟩ with ⟨-, h⟩ | ⟨heaten, h⟩
    · obtain ⟨⟨property, span⟩, -, h⟩ := h.exists_of_bind
      obtain ⟨whole, -, h⟩ := h.exists_of_bind
      cases h.eq_of_pure
    · cases h.eq_of_pure
      exact hv.2 (of_decide_eq_false (hdot ▸ (Bool.not_eq_true _).mp heaten))

/-! ### Exports -/

/-- A word or a string. -/
def Node.IsExchanged (n : Node) : Prop :=
  ∃ text, n.kind = .word text ∨ n.kind = .string text

/-- A specifier of an export that has a name of this module, or a string, which is a fault. -/
def Node.IsOwnExport (item : Node) : Prop :=
  ∃ exported span name, item = .mk (.exportSpecifier exported) span [name] ∧
    (name.IsUse ∨ ∃ text, name.kind = .string text)

theorem isExchanged_of_reads_word (h : word.Reads n) : n.IsExchanged := by
  obtain ⟨start, -, h⟩ := h.exists_of_bind
  obtain ⟨kind, -, h⟩ := h.exists_of_bind
  split at h
  · obtain ⟨_, -, h⟩ := h.exists_of_bind
    obtain ⟨span, rfl⟩ := h.exists_of_node
    exact ⟨_, .inl rfl⟩
  · exact absurd h not_reads_fail

theorem isExchanged_of_reads (h : exchangedName.Reads n) : n.IsExchanged := by
  obtain ⟨kind, -, h⟩ := h.exists_of_bind
  split at h
  · obtain ⟨start, -, h⟩ := h.exists_of_bind
    obtain ⟨_, -, h⟩ := h.exists_of_bind
    obtain ⟨span, rfl⟩ := h.exists_of_node
    exact ⟨_, .inr rfl⟩
  · exact isExchanged_of_reads_word h
  · exact absurd h not_reads_unexpected

theorem isOwnExport_of_reads_exportSpecifier {exported : Node} (hname : name.IsExchanged)
    (h : (exportSpecifier start name exported).Reads item) : item.IsOwnExport := by
  obtain ⟨span, rfl⟩ := h.exists_of_node
  refine ⟨_, _, _, rfl, ?_⟩
  obtain ⟨kind, inner, parts⟩ := name
  obtain ⟨text, rfl | rfl⟩ := hname
  · exact .inl (isUse_mk ..)
  · exact .inr ⟨text, rfl⟩

theorem isOwnExport_of_reads_some {exported : Node} (hname : name.IsExchanged)
    (h : (exportSpecifier start name exported >>= fun item => pure (some item)).Reads (some item)) :
    item.IsOwnExport := by
  obtain ⟨item, hitem, h⟩ := h.exists_of_bind
  cases h.eq_of_pure
  exact isOwnExport_of_reads_exportSpecifier hname hitem

theorem isOwnExport_of_reads_exportedType? {typeWord : Node} (hword : typeWord.IsExchanged)
    (h : (exportedType? start typeWord).Reads (some item)) : item.IsOwnExport := by
  obtain ⟨context, -, h⟩ := h.exists_of_bind
  obtain ⟨next, -, h⟩ := h.exists_of_bind
  rcases h.of_if with ⟨-, h⟩ | ⟨-, h⟩
  case inr => cases h.eq_of_pure
  obtain ⟨second, hsecond, h⟩ := h.exists_of_bind
  have hsecond := isExchanged_of_reads_word hsecond
  rcases h.of_if with ⟨-, h⟩ | ⟨-, h⟩
  · obtain ⟨renamed, -, h⟩ := h.exists_of_bind
    obtain ⟨exported, h⟩ := h.of_either
    exact isOwnExport_of_reads_some hsecond h
  obtain ⟨next, -, h⟩ := h.exists_of_bind
  rcases h.of_if with ⟨-, h⟩ | ⟨-, h⟩
  · obtain ⟨third, -, h⟩ := h.exists_of_bind
    obtain ⟨next, -, h⟩ := h.exists_of_bind
    rcases h.of_if with ⟨-, h⟩ | ⟨-, h⟩
    · obtain ⟨exported, -, h⟩ := h.exists_of_bind
      exact isOwnExport_of_reads_some hsecond h
    · exact isOwnExport_of_reads_some hword h
  · exact isOwnExport_of_reads_some hsecond h

theorem isOwnExport_of_reads_namedExport (h : namedExport.Reads item) : item.IsOwnExport := by
  obtain ⟨start, -, h⟩ := h.exists_of_bind
  obtain ⟨name, hname, h⟩ := h.exists_of_bind
  have hname := isExchanged_of_reads hname
  obtain ⟨whole, hwhole, h⟩ := h.exists_of_bind
  cases whole with
  | some whole =>
    cases h.eq_of_pure
    exact isOwnExport_of_reads_exportedType? hname hwhole
  | none =>
    obtain ⟨renamed, -, h⟩ := h.exists_of_bind
    obtain ⟨exported, h⟩ := h.of_either
    exact isOwnExport_of_reads_exportSpecifier hname h

theorem reads_of_reads_braced {r : Reader Node} {items : List Node} (h : (braced r).Reads items) :
    ∀ item ∈ items, r.Reads item := by
  obtain ⟨found, hfound, h⟩ := h.exists_of_bind
  obtain ⟨_, -, h⟩ := h.exists_of_bind
  cases h.eq_of_pure
  intro item hitem
  obtain ⟨next, -, h⟩ := (hfound.of_collect item hitem).exists_of_bind
  obtain ⟨brace, -, h⟩ := h.exists_of_bind
  rcases h.of_if with ⟨-, h⟩ | ⟨-, h⟩
  · cases h.eq_of_pure
  · obtain ⟨item, hitem, h⟩ := h.exists_of_bind
    obtain ⟨brace, -, h⟩ := h.exists_of_bind
    cases h.of_unless.eq_of_pure
    exact hitem

theorem not_isUse_of_mem_foreignSpecifier (h : item.IsOwnExport)
    (hname : name ∈ (foreignSpecifier item).parts) : ¬name.IsUse := by
  obtain ⟨exported, span, own, rfl, huse | ⟨text, hstring⟩⟩ := h
  · obtain ⟨kind, inner, parts⟩ := own
    obtain ⟨use, hkind⟩ := huse
    cases of_decide_eq_true hkind
    cases List.mem_singleton.1 hname
    exact not_isUse_of_kind_ne nofun
  · have hforeign : foreignSpecifier (.mk (.exportSpecifier exported) span [own]) =
        .mk (.exportSpecifier exported) span [own] := by
      obtain ⟨kind, inner, parts⟩ := own
      cases hstring
      rfl
    rw [hforeign] at hname
    cases List.mem_singleton.1 hname
    exact not_isUse_of_kind_ne (hstring ▸ nofun)

/-- An export that names no other module has names of this one, and no other export has. -/
theorem isOwnExport_of_reads_exportNames (h : (exportNames start).Reads n) :
    (n.kind = .exportNamed none ∧ ∀ item ∈ n.parts, item.IsOwnExport) ∨
      n.kind ≠ .exportNamed none ∧ ∀ item ∈ n.parts, ∀ name ∈ item.parts, ¬name.IsUse := by
  obtain ⟨behind, -, h⟩ := h.exists_of_bind
  obtain ⟨star, -, h⟩ := h.exists_of_bind
  rcases h.of_if with ⟨-, h⟩ | ⟨-, h⟩
  · obtain ⟨named, -, h⟩ := h.exists_of_bind
    rcases h.of_if with ⟨-, h⟩ | ⟨-, h⟩
    · obtain ⟨source, -, h⟩ := h.exists_of_bind
      obtain ⟨span, rfl⟩ := h.exists_of_node
      exact .inr ⟨nofun, nofun⟩
    · obtain ⟨_, -, h⟩ := h.exists_of_bind
      obtain ⟨name, -, h⟩ := h.exists_of_bind
      obtain ⟨item, hitem, h⟩ := h.exists_of_bind
      obtain ⟨inner, rfl⟩ := hitem.exists_of_node
      obtain ⟨found, -, h⟩ := h.exists_of_bind
      obtain ⟨source, -, h⟩ := h.of_unless.exists_of_bind
      obtain ⟨span, rfl⟩ := h.exists_of_node
      exact .inr ⟨nofun, List.forall_mem_singleton.2 nofun⟩
  · obtain ⟨_, -, h⟩ := h.exists_of_bind
    obtain ⟨items, hitems, h⟩ := h.exists_of_bind
    have hown : ∀ item ∈ items, item.IsOwnExport := fun item hitem =>
      isOwnExport_of_reads_namedExport (reads_of_reads_braced hitems item hitem)
    obtain ⟨foreign, -, h⟩ := h.exists_of_bind
    rcases h.of_if with ⟨-, h⟩ | ⟨-, h⟩
    · obtain ⟨source, -, h⟩ := h.exists_of_bind
      obtain ⟨span, rfl⟩ := h.exists_of_node
      refine .inr ⟨nofun, List.forall_mem_map.2 fun item hitem name hname => ?_⟩
      exact not_isUse_of_mem_foreignSpecifier (hown item hitem) hname
    · obtain ⟨_, -, h⟩ := h.exists_of_bind
      obtain ⟨_, -, h⟩ := h.exists_of_bind
      obtain ⟨span, rfl⟩ := h.exists_of_node
      exact .inl ⟨rfl, hown⟩

/-! ### Targets -/

theorem eq_of_reads_recast_target {span : Span} {parts : List Node} {use : Name}
    (h : (recast .target (.mk (.reference use) span parts)).Reads n) :
    n = .mk (.reference use) span parts := by
  unfold recast at h
  obtain ⟨_, -, h⟩ := h.exists_of_bind
  exact h.eq_of_pure

/-- What an assignment writes to as a whole stays what it is. -/
theorem eq_of_reads_assignmentTarget {operator : Punct} (huse : name.IsUse)
    (h : (assignmentTarget operator name).Reads n) : n = name := by
  obtain ⟨kind, span, parts⟩ := name
  obtain ⟨use, hkind⟩ := huse
  cases of_decide_eq_true hkind
  rcases h.of_if with ⟨-, h⟩ | ⟨-, h⟩
  · obtain ⟨target, htarget, h⟩ := h.exists_of_bind
    cases eq_of_reads_recast_target htarget
    exact h.eq_of_pure
  · rcases Reads.of_if h with ⟨-, h⟩ | ⟨-, h⟩
    · obtain ⟨target, htarget, h⟩ := h.exists_of_bind
      cases htarget.eq_of_pure
      exact h.eq_of_pure
    · obtain ⟨context, -, h⟩ := h.exists_of_bind
      obtain ⟨_, -, h⟩ := h.exists_of_bind
      obtain ⟨target, htarget, h⟩ := h.exists_of_bind
      cases htarget.eq_of_pure
      exact h.eq_of_pure

/-! ### The main result -/

/-- What counts: an identifier in the place of an expression that is no parameter, a property that
    has no value of its own, the name of an element or what it begins with, the names of an export
    that names no other module, and what an assignment writes to as a whole. -/
theorem reference_positions :
    (∀ canBeArrow n, (namedPrimary canBeArrow).Reads n →
      n.IsUse ∨ ∃ isAsync, n.kind = .arrow isAsync) ∧
    (∀ n, property.Reads n → n.IsShorthand → ∃ name rest, n.parts = name :: rest ∧ name.IsUse) ∧
    (∀ n, elementName.Reads n → IsElementName n) ∧
    (∀ start n, (exportNames start).Reads n → n.kind = .exportNamed none →
      ∀ item ∈ n.parts, item.IsOwnExport) ∧
    ∀ operator left n, left.IsUse → (assignmentTarget operator left).Reads n → n = left := by
  refine ⟨fun _ _ => isUse_or_of_reads_namedPrimary, fun _ => isUse_of_reads_property,
    fun _ => isElementName_of_reads, fun start n h hkind => ?_,
    fun _ _ _ => eq_of_reads_assignmentTarget⟩
  rcases isOwnExport_of_reads_exportNames h with ⟨-, hown⟩ | ⟨hne, -⟩
  · exact hown
  · exact absurd hkind hne

end FormCodemod.Syntax
