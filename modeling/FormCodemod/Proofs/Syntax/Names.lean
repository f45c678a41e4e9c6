import FormCodemod.Proofs.Syntax.Uses

/-!
# Which names do not count

A name does not count as a use where it is introduced, where it is the name of a property or one of
another module, and where it is only a part of what an assignment or a loop writes to
(`name_positions`). The parts of a pattern are patterns in their turn, so it is enough to know of
each what it writes to directly (`Node.WritesNoUse`).
-/

namespace FormCodemod.Syntax

open Grammar Reader

variable {n item : Node} {start : Nat}

/-! ### Parts of patterns -/

theorem not_isUse_of_reads_node {kind : Kind} {parts : List Node}
    (h : (node kind start parts).Reads n) (hkind : ∀ name, kind ≠ .reference name) : ¬n.IsUse := by
  obtain ⟨span, rfl⟩ := h.exists_of_node
  exact not_isUse_of_kind_ne hkind

theorem inner_ne_target {use : PatternUse} (h : use ≠ .target) : use.inner ≠ .target := by
  cases use <;> trivial

/-- The part of a pattern that is written to, where it is no list of items. -/
def Node.written? : Node → Option Node
  | .mk .shorthandPattern _ (name :: _) => some name
  | .mk .pairPattern _ [_, value] => some value
  | .mk .restPattern _ (arg :: _) => some arg
  | .mk .defaultPattern _ (left :: _) => some left
  | _ => none

/-- Nothing that counts is written to by the node. -/
def Node.WritesNoUse (n : Node) : Prop :=
  ¬n.IsUse ∧ ∀ written, n.written? = some written → ¬written.IsUse

theorem writesNoUse_of_written?_eq_none (hkind : ∀ name, n.kind ≠ .reference name)
    (h : n.written? = none) : n.WritesNoUse :=
  ⟨not_isUse_of_kind_ne hkind, fun _ hwritten => nomatch h.symm.trans hwritten⟩

theorem writesNoUse_of_written?_eq_some {written : Node} (h : n.written? = some written)
    (hkind : ∀ name, n.kind ≠ .reference name) (hwritten : ¬written.IsUse) : n.WritesNoUse :=
  ⟨not_isUse_of_kind_ne hkind, fun _ hsome => Option.some.inj (h.symm.trans hsome) ▸ hwritten⟩

theorem written?_of_isPlainElement (h : isPlainElement n.kind) : n.written? = none := by
  unfold Node.written?
  split <;> first | rfl | cases h

theorem writesNoUse_named {use : PatternUse} {name : Name} {span : Span} {parts : List Node} :
    (Node.mk (use.named name) span parts).WritesNoUse := by
  cases use <;> exact writesNoUse_of_written?_eq_none nofun rfl

/-- A pattern that is read again for names that it introduces is no use either. -/
theorem not_isUse_rebind {left : Node} {binds : Bool}
    (h : left.kind = .objectPattern ∨ left.kind = .arrayPattern ∨ left.kind = .invalidPattern) :
    ¬(if binds then rebind left else left).IsUse := by
  obtain ⟨kind, span, parts⟩ := left
  refine not_isUse_of_kind_ne fun name hname => ?_
  cases binds with
  | false => rcases h with h | h | h <;> cases h.symm.trans hname
  | true => rcases h with h | h | h <;> cases h <;> rw [if_pos rfl, rebind] at hname <;> cases hname

/-- A pattern with a value writes to what is read again, or to what already was a pattern. -/
theorem reads_recast_cases {use : PatternUse} (huse : use ≠ .target)
    (h : (recast use item).Reads n) :
    n.WritesNoUse ∨ ∃ span pat right, n = .mk .defaultPattern span [pat, right] ∧
      (¬pat.IsUse ∨ ∃ left, (recast use left).Reads pat) := by
  unfold recast at h
  split at h
  case h_1 =>
    obtain ⟨comma, -, h⟩ := h.exists_of_bind
    obtain ⟨items, -, h⟩ := h.exists_of_bind
    cases h.eq_of_pure
    exact .inl (writesNoUse_of_written?_eq_none nofun rfl)
  case h_2 =>
    obtain ⟨comma, -, h⟩ := h.exists_of_bind
    obtain ⟨items, -, h⟩ := h.exists_of_bind
    cases h.eq_of_pure
    exact .inl (writesNoUse_of_written?_eq_none nofun rfl)
  case h_3 =>
    cases h.eq_of_pure
    exact .inl (writesNoUse_of_written?_eq_none nofun rfl)
  case h_4 =>
    rw [if_neg huse] at h
    cases h.eq_of_pure
    exact .inl writesNoUse_named
  case h_5 =>
    rw [if_neg huse] at h
    dsimp only at h
    split at h
    case h_1 hkind => exact .inr ⟨_, _, _, h.eq_of_pure, .inl (not_isUse_rebind (.inl hkind))⟩
    case h_2 hkind =>
      exact .inr ⟨_, _, _, h.eq_of_pure, .inl (not_isUse_rebind (.inr (.inl hkind)))⟩
    case h_3 hkind =>
      exact .inr ⟨_, _, _, h.eq_of_pure, .inl (not_isUse_rebind (.inr (.inr hkind)))⟩
    case h_4 =>
      obtain ⟨pat, hpat, h⟩ := h.exists_of_bind
      exact .inr ⟨_, _, _, h.eq_of_pure, .inr ⟨_, hpat⟩⟩
  case h_6 hname _ =>
    rw [if_neg huse] at h
    rcases h.of_if with ⟨hplain, h⟩ | ⟨-, h⟩
    · rw [h.of_unless.eq_of_pure]
      exact .inl (writesNoUse_of_written?_eq_none hname
        (written?_of_isPlainElement (Bool.and_eq_true_iff.1 hplain).2))
    · obtain ⟨_, -, h⟩ := h.exists_of_bind
      cases h.eq_of_pure
      exact .inl (writesNoUse_of_written?_eq_none nofun rfl)

theorem not_isUse_of_reads_recast {use : PatternUse} (huse : use ≠ .target)
    (h : (recast use item).Reads n) : ¬n.IsUse := by
  rcases reads_recast_cases huse h with h | ⟨_, _, _, rfl, -⟩
  · exact h.1
  · exact not_isUse_of_kind_ne nofun

theorem writesNoUse_of_reads_recast {use : PatternUse} (huse : use ≠ .target)
    (h : (recast use item).Reads n) : n.WritesNoUse := by
  rcases reads_recast_cases huse h with h | ⟨_, pat, _, rfl, hpat | ⟨left, hpat⟩⟩
  · exact h
  · exact writesNoUse_of_written?_eq_some rfl nofun hpat
  · exact writesNoUse_of_written?_eq_some rfl nofun (not_isUse_of_reads_recast huse hpat)

theorem writesNoUse_of_reads_cons {more : Reader (List Node)} {items : List Node}
    (hitem : item.WritesNoUse)
    (hmore : ∀ {items}, more.Reads items → ∀ item ∈ items, item.WritesNoUse)
    (h : (more >>= fun items => pure (item :: items)).Reads items) :
    ∀ item ∈ items, item.WritesNoUse := by
  obtain ⟨items, hitems, h⟩ := h.exists_of_bind
  cases h.eq_of_pure
  exact List.forall_mem_cons.2 ⟨hitem, hmore hitems⟩

theorem writesNoUse_of_mem_recastProperties {use : PatternUse} {comma : Option Nat}
    {props items : List Node} (huse : use ≠ .target)
    (h : (recastProperties use comma props).Reads items) : ∀ item ∈ items, item.WritesNoUse := by
  induction props generalizing items with
  | nil =>
    unfold recastProperties at h
    cases h.eq_of_pure
    exact fun _ h => absurd h List.not_mem_nil
  | cons prop rest ih =>
    unfold recastProperties at h
    split at h
    case h_1 heq => cases heq
    case h_2 heq =>
      cases heq
      refine writesNoUse_of_reads_cons ?_ ih h
      exact writesNoUse_of_written?_eq_some rfl nofun writesNoUse_named.1
    case h_3 heq =>
      cases heq
      refine writesNoUse_of_reads_cons ?_ ih h
      exact writesNoUse_of_written?_eq_some rfl nofun writesNoUse_named.1
    case h_4 heq =>
      cases heq
      obtain ⟨value, hvalue, h⟩ := h.exists_of_bind
      have hvalue := not_isUse_of_reads_recast (inner_ne_target huse) hvalue
      refine writesNoUse_of_reads_cons ?_ ih h
      exact writesNoUse_of_written?_eq_some rfl nofun hvalue
    case h_5 span arg _ heq =>
      cases heq
      have h : ∃ pat, ¬pat.IsUse ∧
          (recastProperties use comma rest >>= fun items =>
            pure (.mk .restPattern span [pat] :: items)).Reads items := by
        have h := h.of_unless.of_if.elim (fun h => by
          obtain ⟨-, h⟩ := h
          cases comma with
          | none => exact h
          | some offset =>
            obtain ⟨_, -, h⟩ := h.exists_of_bind
            exact h) (·.2)
        rcases h.of_if with ⟨-, h⟩ | ⟨-, h⟩
        · split at h
          · obtain ⟨pat, hpat, h⟩ := h.exists_of_bind
            cases hpat.eq_of_pure
            refine ⟨_, ?_, h.of_when⟩
            exact not_isUse_of_kind_ne nofun
          · obtain ⟨_, -, h⟩ := h.exists_of_bind
            obtain ⟨pat, hpat, h⟩ := h.exists_of_bind
            cases hpat.eq_of_pure
            refine ⟨_, ?_, h.of_when⟩
            exact not_isUse_of_kind_ne nofun
        · obtain ⟨pat, hpat, h⟩ := h.exists_of_bind
          exact ⟨pat, not_isUse_of_reads_recast (inner_ne_target huse) hpat, h.of_when⟩
      obtain ⟨pat, hpat, h⟩ := h
      refine writesNoUse_of_reads_cons ?_ ih h
      exact writesNoUse_of_written?_eq_some rfl nofun hpat
    case h_6 heq => exact absurd h not_reads_failAt

theorem writesNoUse_of_mem_recastElements {use : PatternUse} {lastIsHole : Bool}
    {comma : Option Nat} {elements items : List Node} (huse : use ≠ .target)
    (h : (recastElements use lastIsHole comma elements).Reads items) :
    ∀ item ∈ items, item.WritesNoUse := by
  induction elements generalizing items with
  | nil =>
    unfold recastElements at h
    cases h.eq_of_pure
    exact fun _ h => absurd h List.not_mem_nil
  | cons element rest ih =>
    unfold recastElements at h
    split at h
    case h_1 heq => cases heq
    case h_2 span parts _ heq =>
      cases heq
      refine writesNoUse_of_reads_cons ?_ ih h
      exact writesNoUse_of_written?_eq_none nofun rfl
    case h_3 span arg _ heq =>
      cases heq
      rcases h.of_if with ⟨-, h⟩ | ⟨-, h⟩
      · obtain ⟨_, -, h⟩ := h.exists_of_bind
        exact ih h
      · have h : ∃ pat, (recast use.inner arg).Reads pat ∧
            items = [.mk .restPattern arg.span [pat]] := by
          replace h := h.of_when
          cases comma with
          | none =>
            obtain ⟨pat, hpat, h⟩ := h.exists_of_bind
            exact ⟨pat, hpat, h.eq_of_pure⟩
          | some offset =>
            obtain ⟨_, -, h⟩ := h.exists_of_bind
            obtain ⟨pat, hpat, h⟩ := h.exists_of_bind
            exact ⟨pat, hpat, h.eq_of_pure⟩
        obtain ⟨pat, hpat, rfl⟩ := h
        have hpat := not_isUse_of_reads_recast (inner_ne_target huse) hpat
        exact List.forall_mem_singleton.2 (writesNoUse_of_written?_eq_some rfl nofun hpat)
    case h_4 heq =>
      cases heq
      obtain ⟨item, hitem, h⟩ := h.exists_of_bind
      have hitem := writesNoUse_of_reads_recast (inner_ne_target huse) hitem
      exact writesNoUse_of_reads_cons hitem ih h

/-! ### Names that are introduced -/

theorem not_isUse_of_reads_binder (h : binder.Reads n) : ¬n.IsUse := by
  obtain ⟨start, -, h⟩ := h.exists_of_bind
  obtain ⟨text, -, h⟩ := h.exists_of_bind
  exact not_isUse_of_reads_node h.of_when nofun

theorem not_isUse_of_reads_propertyName (h : propertyName.Reads n) : ¬n.IsUse := by
  obtain ⟨_, -, h⟩ := h.exists_of_bind
  obtain ⟨start, -, h⟩ := h.exists_of_bind
  obtain ⟨kind, -, h⟩ := h.exists_of_bind
  split at h
  · obtain ⟨_, -, h⟩ := h.exists_of_bind
    exact not_isUse_of_reads_node h nofun
  · obtain ⟨_, -, h⟩ := h.exists_of_bind
    exact not_isUse_of_reads_node h nofun
  · obtain ⟨_, -, h⟩ := h.exists_of_bind
    exact not_isUse_of_reads_node h nofun
  · obtain ⟨_, -, h⟩ := h.exists_of_bind
    obtain ⟨inner, -, h⟩ := h.exists_of_bind
    obtain ⟨first, -, h⟩ := h.exists_of_bind
    obtain ⟨context, -, h⟩ := h.exists_of_bind
    obtain ⟨rest, h⟩ := h.of_either
    have h : ∃ value, (node .computedName start [value]).Reads n := by
      rcases h.of_if with ⟨-, h⟩ | ⟨-, h⟩
      · obtain ⟨value, -, h⟩ := h.exists_of_bind
        obtain ⟨_, -, h⟩ := h.exists_of_bind
        exact ⟨value, h⟩
      · obtain ⟨_, -, h⟩ := h.exists_of_bind
        obtain ⟨value, -, h⟩ := h.exists_of_bind
        obtain ⟨_, -, h⟩ := h.exists_of_bind
        exact ⟨value, h⟩
    obtain ⟨value, h⟩ := h
    exact not_isUse_of_reads_node h nofun
  · exact absurd h not_reads_unexpected

theorem not_isUse_of_reads_pattern (h : pattern.Reads n) : ¬n.IsUse := by
  obtain ⟨_, -, h⟩ := h.exists_of_bind
  obtain ⟨start, -, h⟩ := h.exists_of_bind
  obtain ⟨kind, -, h⟩ := h.exists_of_bind
  split at h
  · exact not_isUse_of_reads_binder h
  · obtain ⟨_, -, h⟩ := h.exists_of_bind
    obtain ⟨items, -, h⟩ := h.exists_of_bind
    obtain ⟨_, -, h⟩ := h.exists_of_bind
    obtain ⟨context, -, h⟩ := h.exists_of_bind
    rcases h.of_if with ⟨-, h⟩ | ⟨-, h⟩
    · obtain ⟨_, -, h⟩ := h.exists_of_bind
      exact not_isUse_of_reads_node h nofun
    · exact not_isUse_of_reads_node h nofun
  · obtain ⟨_, -, h⟩ := h.of_within.exists_of_bind
    obtain ⟨⟨items, trailing⟩, -, h⟩ := h.exists_of_bind
    obtain ⟨span, -, h⟩ := h.exists_of_bind
    obtain ⟨_, -, h⟩ := h.exists_of_bind
    obtain ⟨context, -, h⟩ := h.exists_of_bind
    have h : n = .mk .objectPattern span items := by
      rcases h.of_if with ⟨-, h⟩ | ⟨-, h⟩
      · obtain ⟨_, -, h⟩ := h.exists_of_bind
        exact h.eq_of_pure
      · exact h.eq_of_pure
    rw [h]
    exact not_isUse_of_kind_ne nofun
  · exact absurd h not_reads_unexpected

theorem writesNoUse_of_reads_patternProperty (h : patternProperty.Reads item)
    (hshort : item.kind = .shorthandPattern) : item.WritesNoUse := by
  obtain ⟨start, -, h⟩ := h.exists_of_bind
  obtain ⟨dots, -, h⟩ := h.exists_of_bind
  rcases h.of_if with ⟨-, h⟩ | ⟨-, h⟩
  · obtain ⟨rest, -, h⟩ := h.exists_of_bind
    obtain ⟨span, rfl⟩ := h.exists_of_node
    cases hshort
  obtain ⟨key, -, h⟩ := h.exists_of_bind
  obtain ⟨colon, -, h⟩ := h.exists_of_bind
  rcases h.of_if with ⟨-, h⟩ | ⟨-, h⟩
  · obtain ⟨value, -, h⟩ := h.exists_of_bind
    cases h.eq_of_pure
    cases hshort
  split at h
  · exact absurd h not_reads_unexpected
  · obtain ⟨assigned, -, h⟩ := h.exists_of_bind
    rcases h.of_if with ⟨-, h⟩ | ⟨-, h⟩
    · obtain ⟨value, -, h⟩ := h.exists_of_bind
      obtain ⟨span, rfl⟩ := h.exists_of_node
      exact writesNoUse_of_written?_eq_some rfl nofun (not_isUse_of_kind_ne nofun)
    · obtain ⟨span, rfl⟩ := h.of_when.exists_of_node
      exact writesNoUse_of_written?_eq_some rfl nofun (not_isUse_of_kind_ne nofun)

theorem not_isUse_of_reads_eachHead {isAwait : Bool} {left : Node} {head : Kind × List Node}
    (hleft : ¬left.IsUse) (h : (eachHead isAwait left).Reads head) :
    ∀ first ∈ head.2.head?, ¬first.IsUse := by
  obtain ⟨isOf, -, h⟩ := h.exists_of_bind
  rcases h.of_if with ⟨-, h⟩ | ⟨-, h⟩
  · obtain ⟨right, -, h⟩ := h.exists_of_bind
    cases h.eq_of_pure
    rintro _ ⟨⟩
    exact hleft
  · obtain ⟨_, -, h⟩ := h.exists_of_bind
    obtain ⟨right, -, h⟩ := h.exists_of_bind
    cases h.eq_of_pure
    rintro _ ⟨⟩
    exact hleft

theorem not_isUse_of_reads_usingHead? {declaration : Node}
    (h : (usingHead? start n).Reads (some declaration)) : ¬declaration.IsUse := by
  unfold usingHead? at h
  dsimp only at h
  split at h
  · cases h.eq_of_pure
  · obtain ⟨next, -, h⟩ := h.exists_of_bind
    obtain ⟨context, -, h⟩ := h.exists_of_bind
    obtain ⟨isOf, -, h⟩ := h.exists_of_bind
    rcases h.of_if with ⟨-, h⟩ | ⟨-, h⟩
    · obtain ⟨name, -, h⟩ := h.exists_of_bind
      obtain ⟨item, -, h⟩ := h.exists_of_bind
      obtain ⟨declaration, hdeclaration, h⟩ := h.exists_of_bind
      cases h.eq_of_pure
      exact not_isUse_of_reads_node hdeclaration nofun
    · cases h.eq_of_pure

theorem not_isUse_of_reads_expressionHead {isAwait : Bool} {head : Kind × List Node}
    (h : (expressionHead isAwait).Reads head) (hkind : head.1 ≠ .forStatement) :
    ∀ first ∈ head.2.head?, ¬first.IsUse := by
  obtain ⟨start, -, h⟩ := h.exists_of_bind
  obtain ⟨first, -, h⟩ := h.exists_of_bind
  obtain ⟨declaration, hdeclaration, h⟩ := h.exists_of_bind
  cases declaration with
  | some declaration =>
    obtain ⟨isIn, -, h⟩ := h.exists_of_bind
    exact not_isUse_of_reads_eachHead (not_isUse_of_reads_usingHead? hdeclaration) h.of_when
  | none =>
    obtain ⟨each, -, h⟩ := h.exists_of_bind
    rcases h.of_if with ⟨-, h⟩ | ⟨-, h⟩
    · obtain ⟨isIn, -, h⟩ := h.exists_of_bind
      obtain ⟨pat, -, h⟩ := h.of_when.exists_of_bind
      obtain ⟨context, -, h⟩ := h.exists_of_bind
      refine not_isUse_of_reads_eachHead ?_ h.of_when
      split
      · exact not_isUse_of_kind_ne nofun
      case h_2 hpat =>
        obtain ⟨kind, span, parts⟩ := pat
        refine not_isUse_of_kind_ne fun name hkind => ?_
        exact hpat name span parts (hkind ▸ rfl)
    · obtain ⟨_, -, h⟩ := h.exists_of_bind
      obtain ⟨_, -, h⟩ := h.exists_of_bind
      obtain ⟨test, -, h⟩ := h.exists_of_bind
      obtain ⟨_, -, h⟩ := h.exists_of_bind
      obtain ⟨step, -, h⟩ := h.exists_of_bind
      rw [h.eq_of_pure] at hkind
      exact absurd rfl hkind

/-! ### The main result -/

/-- What does not count: a name that is introduced, the name of a property, a part of a pattern that
    is written to, the names of an export that names another module, and what a loop writes to. -/
theorem name_positions :
    (∀ n, pattern.Reads n → ¬n.IsUse) ∧
    (∀ item, patternProperty.Reads item → item.kind = .shorthandPattern → item.WritesNoUse) ∧
    (∀ n, propertyName.Reads n → ¬n.IsUse) ∧
    (∀ use, use ≠ .target →
      (∀ e n, (recast use e).Reads n → n.WritesNoUse) ∧
      (∀ comma props items, (recastProperties use comma props).Reads items →
        ∀ item ∈ items, item.WritesNoUse) ∧
      ∀ lastIsHole comma elements items,
        (recastElements use lastIsHole comma elements).Reads items →
          ∀ item ∈ items, item.WritesNoUse) ∧
    (∀ start n, (exportNames start).Reads n → n.kind ≠ .exportNamed none →
      ∀ item ∈ n.parts, ∀ name ∈ item.parts, ¬name.IsUse) ∧
    ∀ isAwait head, (expressionHead isAwait).Reads head → head.1 ≠ .forStatement →
      ∀ first ∈ head.2.head?, ¬first.IsUse := by
  refine ⟨fun _ => not_isUse_of_reads_pattern, fun _ => writesNoUse_of_reads_patternProperty,
    fun _ => not_isUse_of_reads_propertyName, fun use huse => ⟨?_, ?_, ?_⟩,
    fun start n h hkind => ?_, fun _ _ => not_isUse_of_reads_expressionHead⟩
  · exact fun _ _ => writesNoUse_of_reads_recast huse
  · exact fun _ _ _ => writesNoUse_of_mem_recastProperties huse
  · exact fun _ _ _ _ => writesNoUse_of_mem_recastElements huse
  · rcases isOwnExport_of_reads_exportNames h with ⟨heq, -⟩ | ⟨-, hforeign⟩
    · exact absurd heq hkind
    · exact hforeign

end FormCodemod.Syntax
