import FormCodemod.Binding.Wrapper
import FormCodemod.Proofs.Syntax.Path
import Mathlib.Data.List.Basic
import Mathlib.Data.List.Nodup

/-!
# The uses of a name

The search for the uses of a name meets some of them twice: at the call that they directly belong
to, and again where it gets to the identifier. It keeps the first one at each place. That works
because a call is met ahead of what is in it, and the outcome can be said without the search: every
occurrence of the name in the tree is found once, with the role that the node around it gives to it
(`Node.perm_references`). All that this takes is that no two occurrences have the same span
(`Node.ToldApart`). Which identifiers are occurrences at all is decided where they are read, and said
in `FormCodemod.Proofs.Syntax.Uses`.

* `Role.under`: the role of an identifier that hangs there;
* `Node.occurrences`: the paths to the occurrences of a name;
* `isFirstIn_allReferences`: the search finds what a single walk gathers, by induction on the tree.
-/

namespace FormCodemod.Syntax

/-- The role of an identifier that is such a part of such a node. -/
def Role.under : Option (Node × Nat) → Role
  | some (parent, i) =>
    if parent.kind = .call then
      if i = 0 then .callee else .argument parent (parent.arguments.length = 1)
    else .other
  | none => .other

namespace Node

/-- The paths to the occurrences of a name. -/
def occurrences (tree : Node) (name : Name) : List (List Nat) :=
  tree.paths.filter fun path => (tree.at? path).any (·.isReferenceTo name)

/-- The span at the end of a path. -/
def spanAt? (tree : Node) (path : List Nat) : Option Span :=
  (tree.at? path).map (·.span)

/-- The identifier at the end of a path as a use of its name. -/
def useAt? (tree : Node) (path : List Nat) : Option Reference :=
  (tree.spanAt? path).map (⟨·, Role.under (tree.above? path)⟩)

/-- No two occurrences of the name have the same span. -/
def ToldApart (tree : Node) (name : Name) : Prop :=
  (tree.occurrences name).Pairwise fun p q => tree.spanAt? p ≠ tree.spanAt? q

instance (tree : Node) (name : Name) : Decidable (tree.ToldApart name) :=
  inferInstanceAs (Decidable (List.Pairwise _ _))

/-- A node as a use of the name, if it is one, where it hangs there. -/
def asUse (name : Name) (above : Option (Node × Nat)) (n : Node) : List Reference :=
  if n.isReferenceTo name then [⟨n.span, Role.under above⟩] else []

/-- The uses of a name that the search meets at a node itself, ahead of its parts. -/
def usesMet (name : Name) (n : Node) : List Reference :=
  if n.kind = .call then n.directReferences name
  else if n.isReferenceTo name then [⟨n.span, .other⟩]
  else []

end Node

theorem Role.under_eq_other_or (above : Option (Node × Nat)) :
    Role.under above = .other ∨ ∃ parent i, above = some (parent, i) ∧ parent.kind = .call := by
  cases above with
  | none => exact .inl rfl
  | some p =>
    rw [Role.under]
    split
    case isTrue hcall => exact .inr ⟨p.1, p.2, rfl, hcall⟩
    case isFalse => exact .inl rfl

theorem Role.under_eq_argument_iff {above : Option (Node × Nat)} {call : Node} {isSole : Bool} :
    Role.under above = .argument call isSole ↔
      ∃ i, above = some (call, i + 1) ∧ call.kind = .call ∧
        isSole = decide (call.arguments.length = 1) := by
  constructor
  · intro h
    rcases above with _ | ⟨parent, i⟩
    · cases h
    · rw [Role.under] at h
      split at h
      case isTrue hcall =>
        cases i with
        | zero => cases h
        | succ i =>
          rw [if_neg (Nat.succ_ne_zero i)] at h
          cases h
          exact ⟨i, rfl, hcall, rfl⟩
      case isFalse => cases h
  · rintro ⟨i, rfl, hcall, rfl⟩
    rw [Role.under, if_pos hcall, if_neg (Nat.succ_ne_zero i)]

variable {name : Name} {tree n parent part : Node} {above : Option (Node × Nat)}
  {kind : Kind} {span : Span} {parts ns : List Node} {i : Nat} {r u : Reference}
  {rs rs' : List Reference}

/-! ### The first reference at a place -/

namespace Reference

/-- No reference in the list stands ahead of this one at its place. -/
def IsFirstIn (u : Reference) (rs : List Reference) : Prop :=
  rs.find? (·.span = u.span) = some u

theorem mem_of_find? {s : Span} (h : rs.find? (·.span = s) = some r) : r ∈ rs ∧ r.span = s :=
  ⟨List.mem_of_find?_eq_some h, by simpa using List.find?_some h⟩

theorem IsFirstIn.append_right (h : u.IsFirstIn rs) : u.IsFirstIn (rs ++ rs') := by
  rw [IsFirstIn, List.find?_append, h, Option.some_or]

/-- References ahead of others do no harm if those at the same place are the same. -/
theorem IsFirstIn.append_left (hsame : ∀ r ∈ rs, r.span = u.span → r = u) (h : u.IsFirstIn rs') :
    u.IsFirstIn (rs ++ rs') := by
  rw [IsFirstIn, List.find?_append]
  cases hfind : rs.find? (·.span = u.span) with
  | none => exact h
  | some r =>
    obtain ⟨hr, hspan⟩ := mem_of_find? hfind
    rw [hsame r hr hspan, Option.some_or]

theorem isFirstIn_of_mem (hsame : ∀ r ∈ rs, r.span = u.span → r = u) (hu : u ∈ rs) :
    u.IsFirstIn rs := by
  cases hfind : rs.find? (·.span = u.span) with
  | none => exact absurd (decide_eq_true rfl) (List.find?_eq_none.1 hfind u hu)
  | some r =>
    obtain ⟨hr, hspan⟩ := mem_of_find? hfind
    rw [IsFirstIn, hfind, hsame r hr hspan]

theorem mem_firstAtEach_iff {seen : List Span} :
    r ∈ firstAtEach seen rs ↔ r.span ∉ seen ∧ r.IsFirstIn rs := by
  induction rs generalizing seen with
  | nil => simp [firstAtEach, IsFirstIn]
  | cons s rs ih =>
    rw [firstAtEach, IsFirstIn, List.find?_cons]
    by_cases hspan : s.span = r.span
    · -- The reference in front is the one that is kept at this place, or none is.
      rw [decide_eq_true hspan, Option.some_inj]
      split
      case isTrue hseen =>
        rw [ih, ← hspan]
        exact ⟨fun h => absurd (List.contains_iff_mem.1 hseen) h.1,
          fun h => absurd (List.contains_iff_mem.1 hseen) h.1⟩
      case isFalse hseen =>
        rw [List.mem_cons, ih, List.mem_cons, ← hspan]
        constructor
        · rintro (rfl | ⟨h, -⟩)
          · exact ⟨fun h => hseen (List.contains_iff_mem.2 h), rfl⟩
          · exact absurd (.inl rfl) h
        · exact fun h => .inl h.2.symm
    · rw [decide_eq_false hspan]
      split
      case isTrue => exact ih
      case isFalse =>
        rw [List.mem_cons, ih, List.mem_cons, not_or]
        constructor
        · rintro (rfl | ⟨⟨-, h⟩, hfirst⟩)
          · exact absurd rfl hspan
          · exact ⟨h, hfirst⟩
        · exact fun ⟨h, hfirst⟩ => .inr ⟨⟨fun heq => hspan heq.symm, h⟩, hfirst⟩

theorem nodup_firstAtEach (seen : List Span) (rs : List Reference) :
    (firstAtEach seen rs).Nodup := by
  induction rs generalizing seen with
  | nil => exact .nil
  | cons s rs ih =>
    rw [firstAtEach]
    split
    case isTrue => exact ih seen
    case isFalse =>
      refine List.nodup_cons.2 ⟨fun h => ?_, ih (s.span :: seen)⟩
      exact (mem_firstAtEach_iff.1 h).1 List.mem_cons_self

end Reference

/-! ### What the search meets -/

namespace Node

open Reference

theorem kind_of_isReferenceTo (h : n.isReferenceTo name) : n.kind = .reference name :=
  of_decide_eq_true h

theorem mem_arguments_iff {a : Node} (h : n.kind = .call) :
    a ∈ n.arguments ↔ ∃ i, n.parts[i + 1]? = some a ∧ a.kind ≠ .types := by
  obtain ⟨kind, span, parts⟩ := n
  obtain rfl : kind = .call := h
  cases parts with
  | nil => simp [arguments, Node.parts]
  | cons callee rest =>
    rw [arguments, List.mem_filter, decide_eq_true_iff, List.mem_iff_getElem?, exists_and_right]
    rfl

theorem callee?_eq_some_iff {callee : Node} (h : n.kind = .call) :
    n.callee? = some callee ↔
      n.parts[0]? = some callee ∧ callee.kind ≠ .importCallee ∧ callee.kind ≠ .super := by
  obtain ⟨kind, span, parts⟩ := n
  obtain rfl : kind = .call := h
  cases parts with
  | nil => simp [callee?, Node.parts]
  | cons first rest =>
    rw [callee?]
    simp only [Node.parts, List.getElem?_cons_zero, Option.some_inj]
    constructor
    · intro h
      split at h
      · cases h
      · cases h
        simp_all
    · rintro ⟨rfl, himport, hsuper⟩
      simp [himport, hsuper]

/-- At a call, the search meets the uses that are parts of the call. -/
theorem mem_directReferences_iff (h : n.kind = .call) :
    r ∈ n.directReferences name ↔
      ∃ i part, n.parts[i]? = some part ∧ part.isReferenceTo name ∧
        r = ⟨part.span, Role.under (some (n, i))⟩ := by
  simp only [directReferences, List.mem_append, List.mem_map, List.mem_filter, Option.mem_toList,
    callee?_eq_some_iff h, mem_arguments_iff h]
  constructor
  · rintro (⟨part, ⟨⟨hpart, -⟩, href⟩, rfl⟩ | ⟨part, ⟨⟨i, hpart, -⟩, href⟩, rfl⟩)
    · exact ⟨0, part, hpart, href, by rw [Role.under, if_pos h, if_pos rfl]⟩
    · exact ⟨i + 1, part, hpart, href, by rw [Role.under, if_pos h, if_neg (Nat.succ_ne_zero i)]⟩
  · rintro ⟨i, part, hpart, href, rfl⟩
    -- An identifier is none of the parts that are no expressions.
    have hkind : ∀ {k}, k ≠ .reference name → part.kind ≠ k :=
      fun hk heq => hk (heq.symm.trans (kind_of_isReferenceTo href))
    rw [Role.under, if_pos h]
    cases i with
    | zero => exact .inl ⟨part, ⟨⟨hpart, hkind nofun, hkind nofun⟩, href⟩, rfl⟩
    | succ i => exact .inr ⟨part, ⟨⟨i, hpart, hkind nofun⟩, href⟩, rfl⟩

theorem allReferences_mk :
    allReferences name (mk kind span parts) =
      usesMet name (mk kind span parts) ++ referencesIn name parts := by
  unfold allReferences
  split
  case h_1 heq =>
    cases heq
    simp [usesMet, isReferenceTo, Node.kind, Node.span]
  case h_2 heq =>
    cases heq
    rfl
  case h_3 href hcall heq =>
    cases heq
    have hmet : usesMet name (mk kind span parts) = [] := by
      rw [usesMet, if_neg (show ¬(mk kind span parts).kind = .call from hcall),
        if_neg fun h => href name (kind_of_isReferenceTo (n := mk kind span parts) h)]
    rw [hmet, List.nil_append]

theorem usesMet_of_isReferenceTo (h : n.isReferenceTo name) :
    usesMet name n = [⟨n.span, .other⟩] := by
  rw [usesMet, kind_of_isReferenceTo h, if_neg nofun, if_pos h]

/-- The uses that the search meets at a node are at the places of the node itself, or of its parts
    as the walk gathers them. -/
theorem mem_usesMet (h : r ∈ usesMet name n) :
    (n.isReferenceTo name ∧ n.kind ≠ .call ∧ r = ⟨n.span, .other⟩) ∨
      (n.kind = .call ∧ ∃ i part, n.parts[i]? = some part ∧ part.isReferenceTo name ∧
        r = ⟨part.span, Role.under (some (n, i))⟩) := by
  rw [usesMet] at h
  split at h
  case isTrue hcall => exact .inr ⟨hcall, (mem_directReferences_iff hcall).1 h⟩
  case isFalse hcall =>
    split at h
    case isTrue href => exact .inl ⟨href, hcall, List.mem_singleton.1 h⟩
    case isFalse => cases h

/-! ### The uses gathered in a walk -/

theorem mem_asUse_iff :
    u ∈ asUse name above n ↔ n.isReferenceTo name ∧ u = ⟨n.span, Role.under above⟩ := by
  rw [asUse]
  split
  case isTrue h => rw [List.mem_singleton, and_iff_right h]
  case isFalse h => exact ⟨fun hu => absurd hu List.not_mem_nil, fun hu => absurd hu.1 h⟩

theorem mem_gather_asUse (h : n.isReferenceTo name) :
    ⟨n.span, Role.under above⟩ ∈ n.gather (asUse name) above := by
  cases n
  rw [gather]
  exact List.mem_append_left _ (mem_asUse_iff.2 ⟨h, rfl⟩)

theorem mem_gatherParts_asUse (parent : Node) {j : Nat} (hpart : ns[j]? = some part)
    (h : part.isReferenceTo name) :
    ⟨part.span, Role.under (some (parent, i + j))⟩ ∈ gatherParts (asUse name) parent i ns := by
  induction ns generalizing i j with
  | nil => cases hpart
  | cons m ns ih =>
    rw [gatherParts]
    cases j with
    | zero =>
      cases hpart
      exact List.mem_append_left _ (mem_gather_asUse h)
    | succ j =>
      rw [show i + (j + 1) = i + 1 + j by omega]
      exact List.mem_append_right _ (ih hpart)

mutual

/-- Where the search finds a use, there is one that the walk gathers. -/
theorem exists_gathered : ∀ (above : Option (Node × Nat)) (n : Node), r ∈ allReferences name n →
    ∃ u ∈ n.gather (asUse name) above, u.span = r.span
  | above, mk kind span parts, h => by
    rw [allReferences_mk, List.mem_append] at h
    rcases h with h | h
    · rcases mem_usesMet h with ⟨href, -, rfl⟩ | ⟨-, i, part, hpart, href, rfl⟩
      · exact ⟨_, mem_gather_asUse href, rfl⟩
      · have := mem_gatherParts_asUse (i := 0) (mk kind span parts) hpart href
        exact ⟨_, List.mem_append_right _ this, rfl⟩
    · obtain ⟨u, hu, hspan⟩ := exists_gatheredIn (mk kind span parts) 0 parts h
      exact ⟨u, List.mem_append_right _ hu, hspan⟩

theorem exists_gatheredIn : ∀ (parent : Node) (i : Nat) (ns : List Node),
    r ∈ referencesIn name ns → ∃ u ∈ gatherParts (asUse name) parent i ns, u.span = r.span
  | _, _, [], h => by cases h
  | parent, i, n :: ns, h => by
    rw [referencesIn, List.mem_append] at h
    rcases h with h | h
    · obtain ⟨u, hu, hspan⟩ := exists_gathered (some (parent, i)) n h
      exact ⟨u, List.mem_append_left _ hu, hspan⟩
    · obtain ⟨u, hu, hspan⟩ := exists_gatheredIn parent (i + 1) ns h
      exact ⟨u, List.mem_append_right _ hu, hspan⟩

end

/-- The part of a call that a use is: the search meets such a use at the call. -/
def IsPartUse (name : Name) (parent : Node) (i : Nat) (ns : List Node) (u : Reference) : Prop :=
  parent.kind = .call ∧ ∃ j part, ns[j]? = some part ∧ part.isReferenceTo name ∧
    u = ⟨part.span, Role.under (some (parent, i + j))⟩

mutual

/-- Of the references at the place of a use, the search finds the use itself first. At a part of a
    call it does not do so by itself, since the call has been met before. -/
theorem isFirstIn_allReferences : ∀ (above : Option (Node × Nat)) (n : Node),
    ((n.gather (asUse name) above).map (·.span)).Nodup → u ∈ n.gather (asUse name) above →
    u.IsFirstIn (allReferences name n) ∨
      ∃ parent i, above = some (parent, i) ∧ IsPartUse name parent i [n] u
  | above, mk kind span parts, hnodup, hu => by
    rw [allReferences_mk]
    rw [gather, List.map_append, List.nodup_append] at hnodup
    obtain ⟨-, hparts, hapart⟩ := hnodup
    rw [gather, List.mem_append] at hu
    rcases hu with hu | hu
    · obtain ⟨href, rfl⟩ := mem_asUse_iff.1 hu
      rcases Role.under_eq_other_or above with hother | ⟨parent, i, rfl, hcall⟩
      · rw [hother, usesMet_of_isReferenceTo href]
        exact .inl (IsFirstIn.append_right (List.find?_cons_of_pos (decide_eq_true rfl)))
      · exact .inr ⟨parent, i, rfl, hcall, 0, _, rfl, href, rfl⟩
    · refine .inl ?_
      -- What the search meets at the node itself is at another place, or it is this very use.
      have hsame : ∀ r ∈ usesMet name (mk kind span parts), r.span = u.span → r = u := by
        intro r hr hspan
        rcases mem_usesMet hr with ⟨href, -, rfl⟩ | ⟨-, i, part, hpart, href, rfl⟩
        · exact absurd hspan (hapart _ (List.mem_map_of_mem (mem_asUse_iff.2 ⟨href, rfl⟩)) _
            (List.mem_map_of_mem hu))
        · have hr' := mem_gatherParts_asUse (i := 0) (mk kind span parts) hpart href
          rw [Nat.zero_add] at hr'
          exact List.inj_on_of_nodup_map hparts hr' hu hspan
      rcases isFirstIn_referencesIn (mk kind span parts) 0 parts hparts hu with
        hfirst | ⟨hcall, i, part, hpart, href, rfl⟩
      · exact hfirst.append_left hsame
      · refine (isFirstIn_of_mem hsame ?_).append_right
        rw [usesMet, if_pos hcall, Nat.zero_add]
        exact (mem_directReferences_iff hcall).2 ⟨i, part, hpart, href, rfl⟩

theorem isFirstIn_referencesIn : ∀ (parent : Node) (i : Nat) (ns : List Node),
    ((gatherParts (asUse name) parent i ns).map (·.span)).Nodup →
    u ∈ gatherParts (asUse name) parent i ns →
    u.IsFirstIn (referencesIn name ns) ∨ IsPartUse name parent i ns u
  | _, _, [], _, hu => by cases hu
  | parent, i, n :: ns, hnodup, hu => by
    rw [gatherParts, List.map_append, List.nodup_append] at hnodup
    obtain ⟨hn, hns, hapart⟩ := hnodup
    rw [gatherParts, List.mem_append] at hu
    rw [referencesIn]
    rcases hu with hu | hu
    · rcases isFirstIn_allReferences (some (parent, i)) n hn hu with
        hfirst | ⟨_, _, heq, hcall, j, part, hpart, h⟩
      · exact .inl hfirst.append_right
      · cases heq
        cases j with
        | zero => exact .inr ⟨hcall, 0, part, hpart, h⟩
        | succ j => cases hpart
    · rcases isFirstIn_referencesIn parent (i + 1) ns hns hu with
        hfirst | ⟨hcall, j, part, hpart, href, rfl⟩
      · refine .inl (hfirst.append_left fun r hr hspan => ?_)
        -- The place of a use in a later part is none of those in this one.
        obtain ⟨u', hu', hspan'⟩ := exists_gathered (some (parent, i)) n hr
        exact absurd (hspan'.trans hspan)
          (hapart _ (List.mem_map_of_mem hu') _ (List.mem_map_of_mem hu))
      · exact .inr ⟨hcall, j + 1, part, hpart, href, by rw [show i + (j + 1) = i + 1 + j by omega]⟩

end

/-- The walk gathers the occurrences. -/
theorem gather_asUse_eq :
    tree.gather (asUse name) none = (tree.occurrences name).filterMap tree.useAt? := by
  rw [gather_eq_flatMap, occurrences, List.filterMap_filter, List.filterMap_eq_flatMap_toList]
  congr 1
  funext path
  rw [Option.or_none, useAt?, spanAt?]
  cases tree.at? path with
  | none => rfl
  | some n =>
    rw [Option.toList_some, List.flatMap_singleton, asUse, Option.any_some, Option.map_some,
      Option.map_some]
    split
    · rfl
    · rfl

theorem mem_occurrences_iff {path : List Nat} :
    path ∈ tree.occurrences name ↔ ∃ n, tree.at? path = some n ∧ n.kind = .reference name := by
  rw [occurrences, List.mem_filter, Option.any_eq_true]
  constructor
  · rintro ⟨-, n, hn, href⟩
    exact ⟨n, hn, kind_of_isReferenceTo href⟩
  · rintro ⟨n, hn, hkind⟩
    exact ⟨mem_paths_of_at? hn, n, hn, decide_eq_true hkind⟩

/-- Every occurrence is a use, in the role that the node around it gives to it. -/
theorem exists_useAt? {path : List Nat} (h : path ∈ tree.occurrences name) :
    ∃ n, tree.at? path = some n ∧
      tree.useAt? path = some ⟨n.span, Role.under (tree.above? path)⟩ := by
  obtain ⟨n, hn, -⟩ := mem_occurrences_iff.1 h
  exact ⟨n, hn, by rw [useAt?, spanAt?, hn, Option.map_some, Option.map_some]⟩

theorem span_of_useAt? {path : List Nat} (h : tree.useAt? path = some u) :
    tree.spanAt? path = some u.span := by
  obtain ⟨s, hs, rfl⟩ := Option.map_eq_some_iff.1 h
  exact hs

theorem nodup_spans (h : tree.ToldApart name) :
    (((tree.occurrences name).filterMap tree.useAt?).map (·.span)).Nodup := by
  rw [List.Nodup, List.pairwise_map, List.pairwise_filterMap]
  refine List.Pairwise.imp (fun {p q} hne u hu v hv heq => hne ?_) h
  rw [span_of_useAt? hu, span_of_useAt? hv, heq]

/-- The search finds every occurrence of a name once, with the role that the node around it gives
    to it. -/
theorem perm_references (h : tree.ToldApart name) :
    (tree.references name).Perm ((tree.occurrences name).filterMap tree.useAt?) := by
  have hnodup := nodup_spans h
  refine (List.perm_ext_iff_of_nodup (nodup_firstAtEach _ _) hnodup.of_map).2 fun r => ?_
  rw [← gather_asUse_eq] at hnodup ⊢
  -- No call has been met before the root.
  have hfirst : ∀ u ∈ tree.gather (asUse name) none, u.IsFirstIn (allReferences name tree) :=
    fun u hu => (isFirstIn_allReferences none tree hnodup hu).resolve_right
      fun ⟨_, _, heq, _⟩ => nomatch heq
  rw [mem_firstAtEach_iff, and_iff_right List.not_mem_nil]
  constructor
  · intro hr
    obtain ⟨u, hu, hspan⟩ := exists_gathered none tree (mem_of_find? hr).1
    have heq := hfirst u hu
    rw [IsFirstIn, hspan] at heq
    rwa [Option.some_inj.1 (hr.symm.trans heq)]
  · exact hfirst r

mutual

/-- The call whose argument a use is stands in the tree, and the use is found at it. -/
theorem mem_preorder_of_argument : ∀ (n : Node) {call : Node} {isSole : Bool} {r : Reference},
    r ∈ allReferences name n → r.role = .argument call isSole →
    call ∈ n.preorder ∧ call.kind = .call ∧ r ∈ call.directReferences name
  | mk kind span parts, call, isSole, r, h, hrole => by
    rw [allReferences_mk, List.mem_append] at h
    rw [preorder]
    rcases h with h | h
    · rcases mem_usesMet h with ⟨-, -, rfl⟩ | ⟨hcall, i, part, hpart, href, rfl⟩
      · cases hrole
      · have hunder : Role.under (some (mk kind span parts, i)) = .argument call isSole := hrole
        obtain ⟨j, heq, -⟩ := Role.under_eq_argument_iff.1 hunder
        cases heq
        exact ⟨List.mem_cons_self, hcall,
          (mem_directReferences_iff hcall).2 ⟨_, part, hpart, href, rfl⟩⟩
    · exact (mem_preorderAll_of_argument parts h hrole).imp_left (List.mem_cons_of_mem _)

theorem mem_preorderAll_of_argument : ∀ (ns : List Node) {call : Node} {isSole : Bool}
    {r : Reference}, r ∈ referencesIn name ns → r.role = .argument call isSole →
    call ∈ preorderAll ns ∧ call.kind = .call ∧ r ∈ call.directReferences name
  | [], _, _, _, h, _ => by cases h
  | n :: ns, _, _, _, h, hrole => by
    rw [referencesIn, List.mem_append] at h
    rw [preorderAll, List.mem_append]
    rcases h with h | h
    · exact (mem_preorder_of_argument n h hrole).imp_left .inl
    · exact (mem_preorderAll_of_argument ns h hrole).imp_left .inr

end

theorem mem_allReferences (h : r ∈ tree.references name) : r ∈ allReferences name tree :=
  (mem_of_find? (mem_firstAtEach_iff.1 h).2).1

end Node

end FormCodemod.Syntax
