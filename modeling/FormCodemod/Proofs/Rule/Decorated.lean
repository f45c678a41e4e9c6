import FormCodemod.Proofs.Fix.Settled
import FormCodemod.Proofs.Rule.Composing
import Mathlib.Data.List.Forall2

/-!
# What becomes of a decorated field

An element with a decorated child is reported once. Whether there is a fix hangs on many things: on
how many children are decorated, on what is decorated, on what names the field, on the options and
on the attributes that the element has already. They are all conditions on the tree, but for one on
the text (`Rewritable`), and no others matter (`FieldDecorator.plan?_eq_some_iff`). The fix puts the
name and the options behind the other attributes, in their order, and the decorated element in the
place of the child (`decorated_replaced`).

The condition on the text is that the opening tag ends with `>`. It is looked up in the text as it
is, by a span of the text without a byte order mark, so that it is something else that stands there
in a text with the mark (`decorated_kept_marked`).
-/

namespace FormCodemod

open FormCodemod.Syntax FormCodemod.Text

namespace FieldDecorator

/-- The child is `{decorator(…)(…)}`. -/
inductive Decorates (config : Config) : Node → Decoration → Prop
  | call {span inner : Span} {outer callee : Node} {name : Name} {parts : List Node} :
      outer.callee? = some callee →
      callee.callee? = some (.mk (.reference name) inner parts) →
      name.text = config.decorator →
      Decorates config (.mk .jsxContainer span [outer]) ⟨span, callee.arguments, outer.arguments⟩

/-- What the attribute `name` is set to. -/
inductive NameValue (m : Module) (name : Node) : List Char → Prop
  | string {text : String} : name.kind = .string text → '\\' ∉ m.slice name.span →
      NameValue m name (m.slice name.span)
  | escaped {text : String} : name.kind = .string text → '\\' ∈ m.slice name.span →
      NameValue m name (braced (m.slice name.span))
  | expression : name.kind ≠ .spread → (∀ text, name.kind ≠ .string text) →
      NameValue m name (braced (m.slice name.span))

/-- What a property of the options sets. -/
inductive SetsOption (m : Module) : Node → Attribute → Prop
  | pair {span inner : Span} {key : String} {parts : List Node} {value : Node} :
      SetsOption m (.mk .pair span [.mk (.word key) inner parts, value])
        ⟨key, braced (m.slice value.span)⟩
  | shorthand {span inner : Span} {name : Name} {parts : List Node} :
      SetsOption m (.mk .shorthand span [.mk (.reference name) inner parts])
        ⟨name.text, braced name.text.toList⟩

/-- What the name of a field and its options, if there are any, set. -/
inductive Settings (m : Module) : List Node → List Attribute → Prop
  | name {name : Node} {value : List Char} :
      NameValue m name value → Settings m [name] [⟨"name", value⟩]
  | options {name options : Node} {value : List Char} {span : Span} {props : List Node}
      {attributes : List Attribute} :
      NameValue m name value → bare options = .mk .object span props →
      List.Forall₂ (SetsOption m) props attributes →
      Settings m [name, options] (⟨"name", value⟩ :: attributes)

/-- The opening tag has a plain attribute of this name. -/
def HasAttribute (opening : Node) (key : String) : Prop :=
  ∃ span inner parts value,
    .mk .jsxAttribute span (.mk (.word key) inner parts :: value) ∈ opening.parts

/-- The decoration can be made into attributes of the element. -/
structure Rewritable (m : Module) (opening : Node) (decoration : Decoration) (element : Node)
    (attributes : List Attribute) : Prop where
  single : decoration.elements = [element]
  /-- What is decorated is an element, perhaps in parentheses. -/
  isElement : (bare element).kind = .jsxElement
  settings : Settings m decoration.settings attributes
  distinct : (attributes.map (·.key)).Nodup
  free : ∀ a ∈ attributes, ¬HasAttribute opening a.key
  closed : slice? m.text (opening.span.stop - 1) opening.span.stop = some ['>']

/-- One child of an element is decorated, and no other one is. -/
def IsOnly (config : Config) (children : List Node) (decoration : Decoration) : Prop :=
  ∃ ahead child behind, children = ahead ++ child :: behind ∧ Decorates config child decoration ∧
    ∀ n ∈ ahead ++ behind, ∀ d, ¬Decorates config n d

variable {m : Module} {config : Config} {n opening element name : Node} {children : List Node}
  {decoration d : Decoration} {a : Attribute} {attributes : List Attribute} {edits : List Edit}
  {value : List Char} {span : Span}

/-! ### Decorations -/

theorem ofChild?_eq_some_iff :
    Decoration.ofChild? config n = some d ↔ Decorates config n d := by
  constructor
  · intro h
    unfold Decoration.ofChild? at h
    split at h
    case h_1 span outer =>
      split at h
      case h_1 callee hcallee =>
        split at h
        case h_1 name inner parts hname =>
          split at h
          case isTrue htext =>
            cases h
            exact .call hcallee hname htext
          case isFalse => cases h
        case h_2 => cases h
      case h_2 => cases h
    case h_2 => cases h
  · intro h
    cases h with
    | call hcallee hname htext =>
      simp only [Decoration.ofChild?, hcallee, hname, htext, if_pos]

theorem ofChild?_eq_none_iff :
    Decoration.ofChild? config n = none ↔ ∀ d, ¬Decorates config n d := by
  rw [Option.eq_none_iff_forall_ne_some]
  simp only [ne_eq, ofChild?_eq_some_iff]

theorem filterMap_ofChild?_eq_singleton_iff :
    children.filterMap (Decoration.ofChild? config) = [decoration] ↔
      IsOnly config children decoration := by
  rw [List.filterMap_eq_cons_iff]
  simp only [List.filterMap_eq_nil_iff, ofChild?_eq_some_iff, ofChild?_eq_none_iff, IsOnly,
    List.forall_mem_append]
  constructor
  · rintro ⟨ahead, child, behind, rfl, hahead, hchild, hbehind⟩
    exact ⟨ahead, child, behind, rfl, hchild, hahead, hbehind⟩
  · rintro ⟨ahead, child, behind, rfl, hchild, hahead, hbehind⟩
    exact ⟨ahead, child, behind, rfl, hahead, hchild, hbehind⟩

/-! ### Attributes -/

theorem nameValue?_eq_some_iff : nameValue? m name = some value ↔ NameValue m name value := by
  constructor
  · intro h
    unfold nameValue? at h
    dsimp only at h
    split at h
    case h_1 => cases h
    case h_2 text hkind =>
      rw [Option.some_inj] at h
      subst h
      split
      case isTrue hmem => exact .escaped hkind (List.contains_iff_mem.1 hmem)
      case isFalse hmem => exact .string hkind fun h => hmem (List.contains_iff_mem.2 h)
    case h_3 hspread hstring =>
      cases h
      exact .expression hspread hstring
  · intro h
    unfold nameValue?
    cases h with
    | string hkind hmem =>
      rw [hkind]
      exact congrArg some (if_neg fun h => hmem (List.contains_iff_mem.1 h))
    | escaped hkind hmem =>
      rw [hkind]
      exact congrArg some (if_pos (List.contains_iff_mem.2 hmem))
    | expression hspread hstring =>
      dsimp only
      split
      case h_1 hkind => exact absurd hkind hspread
      case h_2 text hkind => exact absurd hkind (hstring text)
      case h_3 => rfl

theorem ofProperty?_eq_some_iff : Attribute.ofProperty? m n = some a ↔ SetsOption m n a := by
  constructor
  · intro h
    unfold Attribute.ofProperty? at h
    split at h
    case h_1 =>
      cases h
      exact .pair
    case h_2 =>
      cases h
      exact .shorthand
    case h_3 => cases h
  · intro h
    cases h with
    | pair => rfl
    | shorthand => rfl

theorem mapM_ofProperty?_eq_some_iff {props : List Node} :
    props.mapM (Attribute.ofProperty? m) = some attributes ↔
      List.Forall₂ (SetsOption m) props attributes := by
  induction props generalizing attributes with
  | nil => simp [eq_comm]
  | cons prop props ih =>
    simp only [List.mapM_cons, Option.bind_eq_bind, Option.bind_eq_some_iff, Option.pure_def,
      Option.some_inj, ofProperty?_eq_some_iff, ih, List.forall₂_cons_left_iff]
    constructor
    · rintro ⟨a, ha, rest, hrest, rfl⟩
      exact ⟨a, rest, ha, hrest, rfl⟩
    · rintro ⟨a, rest, ha, hrest, rfl⟩
      exact ⟨a, ha, rest, hrest, rfl⟩

theorem ofSettings?_eq_some_iff {settings : List Node} :
    Attribute.ofSettings? m settings = some attributes ↔ Settings m settings attributes := by
  constructor
  · intro h
    unfold Attribute.ofSettings? at h
    split at h
    case h_1 name =>
      obtain ⟨value, hvalue, h⟩ := Option.bind_eq_some_iff.1 h
      cases h
      exact .name (nameValue?_eq_some_iff.1 hvalue)
    case h_2 name options =>
      obtain ⟨value, hvalue, h⟩ := Option.bind_eq_some_iff.1 h
      split at h
      case h_1 span props hoptions =>
        obtain ⟨rest, hrest, h⟩ := Option.bind_eq_some_iff.1 h
        cases h
        exact .options (nameValue?_eq_some_iff.1 hvalue) hoptions
          (mapM_ofProperty?_eq_some_iff.1 hrest)
      case h_2 => cases h
    case h_3 => cases h
  · intro h
    unfold Attribute.ofSettings?
    cases h with
    | name hvalue =>
      dsimp only
      rw [nameValue?_eq_some_iff.2 hvalue]
      rfl
    | options hvalue hoptions hprops =>
      dsimp only
      rw [nameValue?_eq_some_iff.2 hvalue, hoptions]
      dsimp only [Option.bind_eq_bind, Option.bind_some]
      rw [mapM_ofProperty?_eq_some_iff.2 hprops]
      rfl

theorem mem_attributeNames_iff {key : String} :
    key ∈ attributeNames opening ↔ HasAttribute opening key := by
  rw [attributeNames, List.mem_filterMap]
  constructor
  · rintro ⟨part, hpart, h⟩
    split at h
    case h_1 =>
      cases h
      exact ⟨_, _, _, _, hpart⟩
    case h_2 => cases h
  · rintro ⟨span, inner, parts, value, hpart⟩
    exact ⟨_, hpart, rfl⟩

theorem allDistinct_iff {keys : List String} : allDistinct keys ↔ keys.Nodup := by
  induction keys with
  | nil => simp [allDistinct]
  | cons key keys ih => simp [allDistinct, ih]

/-- The names are not taken, neither by each other nor by attributes that are there. -/
theorem keys_free_iff :
    ¬(!allDistinct (attributes.map (·.key)) ||
        (attributes.map (·.key)).any (attributeNames opening).contains) = true ↔
      (attributes.map (·.key)).Nodup ∧ ∀ a ∈ attributes, ¬HasAttribute opening a.key := by
  simp only [Bool.or_eq_true, Bool.not_eq_true', not_or, Bool.not_eq_false, allDistinct_iff,
    List.any_eq_true, List.contains_iff_mem, mem_attributeNames_iff, List.mem_map]
  simp

/-! ### The plan -/

theorem slice_last_iff : m.slice ⟨opening.span.stop - 1, opening.span.stop⟩ = ['>'] ↔
    slice? m.text (opening.span.stop - 1) opening.span.stop = some ['>'] := by
  rw [Module.slice, slice]
  cases slice? m.text (opening.span.stop - 1) opening.span.stop with
  | none => simp
  | some text => rw [Option.getD_some, Option.some_inj]

theorem stop_ne_zero
    (h : slice? m.text (opening.span.stop - 1) opening.span.stop = some ['>']) :
    opening.span.stop ≠ 0 := by
  obtain ⟨before, behind, -, -, hstop⟩ := slice?_eq_some_iff.1 h
  have : width ['>'] = 1 := rfl
  omega

/-- The attributes go ahead of the `>` of the opening tag, and the decorated element in the place of
    the child. -/
def rewriting (m : Module) (opening : Node) (decoration : Decoration) (element : Node)
    (attributes : List Attribute) : List Edit :=
  [.replace ⟨opening.span.stop - 1, opening.span.stop⟩
      (attributes.flatMap Attribute.written ++ ['>']),
    .replace decoration.container (m.slice (bare element).span)]

/-- There are edits if the decoration can be rewritten, and only then. -/
theorem plan?_eq_some_iff :
    plan? m opening decoration = some edits ↔
      ∃ element attributes, Rewritable m opening decoration element attributes ∧
        edits = rewriting m opening decoration element attributes := by
  constructor
  · intro h
    unfold plan? at h
    split at h
    case h_1 element hsingle =>
      dsimp only at h
      split at h
      case isTrue => cases h
      case isFalse hkind =>
        obtain ⟨attributes, hsettings, h⟩ := Option.bind_eq_some_iff.1 h
        split at h
        case isTrue => cases h
        case isFalse hkeys =>
          split at h
          case isTrue => cases h
          case isFalse hlast =>
            cases h
            obtain ⟨hdistinct, hfree⟩ := keys_free_iff.1 hkeys
            obtain ⟨-, hslice⟩ := by simpa using hlast
            exact ⟨element, attributes, ⟨hsingle, of_not_not hkind,
              ofSettings?_eq_some_iff.1 hsettings, hdistinct, hfree, slice_last_iff.1 hslice⟩, rfl⟩
    case h_2 => cases h
  · rintro ⟨element, attributes, h, rfl⟩
    have hslice := slice_last_iff.2 h.closed
    have hstop := stop_ne_zero h.closed
    unfold plan?
    rw [h.single]
    dsimp only
    rw [if_neg (not_not_intro h.isElement), ofSettings?_eq_some_iff.2 h.settings]
    dsimp only [Option.bind_eq_bind, Option.bind_some]
    rw [if_neg (keys_free_iff.2 ⟨h.distinct, h.free⟩), if_neg (by simp [hstop, hslice])]
    rfl

/-! ### The report -/

theorem check_eq_nil (h : ∀ child ∈ children, ∀ d, ¬Decorates config child d) :
    check m config span opening children = [] := by
  have hnone : children.filterMap (Decoration.ofChild? config) = [] :=
    List.filterMap_eq_nil_iff.2 fun child hchild => ofChild?_eq_none_iff.2 (h child hchild)
  rw [check, hnone]

/-- There is one report, with the edits for the only decoration. -/
theorem exists_check (m : Module) (span : Span) (opening : Node)
    (h : ∃ child ∈ children, ∃ d, Decorates config child d) :
    ∃ edits, check m config span opening children = [⟨.fieldDecorator, span, edits⟩] ∧
      ∀ es, edits = some es ↔
        ∃ decoration, IsOnly config children decoration ∧ plan? m opening decoration = some es := by
  simp only [← filterMap_ofChild?_eq_singleton_iff]
  obtain ⟨child, hchild, d, hd⟩ := h
  have hmem : d ∈ children.filterMap (Decoration.ofChild? config) :=
    List.mem_filterMap.2 ⟨child, hchild, ofChild?_eq_some_iff.2 hd⟩
  rw [check]
  cases hall : children.filterMap (Decoration.ofChild? config) with
  | nil =>
    rw [hall] at hmem
    cases hmem
  | cons first others =>
    cases others with
    | nil =>
      refine ⟨_, rfl, fun es => ⟨fun h => ⟨first, rfl, h⟩, ?_⟩⟩
      rintro ⟨_, heq, h⟩
      cases heq
      exact h
    | cons second others => exact ⟨none, rfl, fun es => ⟨nofun, fun ⟨_, heq, _⟩ => nomatch heq⟩⟩

/-- A fix rewrites the only decoration. -/
theorem exists_rewritable {r : Report} {set : EditSet}
    (hr : r ∈ check m config span opening children) (hfix : (m.violation r).fix = some set) :
    ∃ d element attributes, IsOnly config children d ∧ Rewritable m opening d element attributes ∧
      EditSet.ofList (rewriting m opening d element attributes) = .ok set := by
  have hsome : ∃ child ∈ children, ∃ d, Decorates config child d := by
    by_contra hnone
    rw [check_eq_nil fun child hchild d hd => hnone ⟨child, hchild, d, hd⟩] at hr
    cases hr
  obtain ⟨edits, hcheck, hedits⟩ := exists_check m span opening hsome
  obtain rfl := List.mem_singleton.1 (hcheck ▸ hr)
  obtain ⟨es, hes, hcompose⟩ := Option.bind_eq_some_iff.1 hfix
  obtain ⟨d, honly, hplan⟩ := (hedits es).1 hes
  obtain ⟨element, attributes, hrewritable, rfl⟩ := plan?_eq_some_iff.1 hplan
  exact ⟨d, element, attributes, honly, hrewritable, (EditSet.compose?_eq_some_iff.1 hcompose).1⟩

/-! ### The element as it becomes -/

theorem bare_mem {tree : Node} (h : n ∈ tree.preorder) : bare n ∈ tree.preorder := by
  fun_induction bare n with
  | case1 span e ih =>
    exact ih (Node.mem_preorder_of_mem_parts h List.mem_cons_self)
  | case2 => exact h

theorem mem_parts_of_mem_arguments {call argument : Node} (h : argument ∈ call.arguments) :
    argument ∈ call.parts := by
  unfold Node.arguments at h
  split at h
  · exact List.mem_cons_of_mem _ (List.mem_of_mem_filter h)
  · cases h

/-- The decorated element is in the tree. -/
theorem IsOnly.bare_mem {tree : Node} (h : IsOnly config children decoration)
    (hchildren : ∀ child ∈ children, child ∈ tree.preorder)
    (helement : element ∈ decoration.elements) : bare element ∈ tree.preorder := by
  obtain ⟨ahead, child, behind, rfl, hdecorates, -⟩ := h
  have hchild := hchildren child (List.mem_append_right _ List.mem_cons_self)
  cases hdecorates with
  | call =>
    have houter := Node.mem_preorder_of_mem_parts hchild List.mem_cons_self
    exact FieldDecorator.bare_mem
      (Node.mem_preorder_of_mem_parts houter (mem_parts_of_mem_arguments helement))

/-- The decorated child stands behind the opening tag. -/
theorem IsOnly.apart {text : List Char} (h : IsOnly config children decoration)
    (hlaid : m.tree.LaidOut text)
    (hmem : .mk .jsxElement span (opening :: children) ∈ m.tree.preorder) :
    opening.span.stop ≤ decoration.container.start := by
  obtain ⟨ahead, child, behind, rfl, hdecorates, -⟩ := h
  rw [container_of_ofChild? (ofChild?_eq_some_iff.2 hdecorates)]
  exact (List.pairwise_cons.1 (hlaid.elements _ hmem rfl)).1 child
    (List.mem_append_right _ List.mem_cons_self)

/-- The edits, carried out, put the attributes ahead of the `>` of the opening tag, and the element
    in the place of the child. -/
theorem exists_output {set : EditSet} {out : List Char}
    (h : Rewritable m opening decoration element attributes)
    (hapart : opening.span.stop ≤ decoration.container.start)
    (hset : EditSet.ofList (rewriting m opening decoration element attributes) = .ok set)
    (hrewrites : Edit.Rewrites 0 set.edits m.text out) :
    ∃ front between child behind, m.text = front ++ '>' :: (between ++ (child ++ behind)) ∧
      width front + 1 = opening.span.stop ∧
      opening.span.stop + width between = decoration.container.start ∧
      decoration.container.start + width child = decoration.container.stop ∧
      out = front ++ (attributes.flatMap Attribute.written ++ '>' ::
        (between ++ (m.slice (bare element).span ++ behind))) := by
  have hstop := stop_ne_zero h.closed
  have hsorted : set.edits = rewriting m opening decoration element attributes := by
    rw [EditSet.edits_of_ofList hset]
    refine if_pos (Span.precedes_iff.2 (.inl ?_))
    dsimp only [Edit.span]
    omega
  rw [hsorted] at hrewrites
  obtain ⟨front, last, rest, out, htext, rfl, hfront, hlast, hrewrites⟩ := hrewrites.exists_of_cons
  obtain ⟨between, child, rest, behind, rfl, rfl, hbetween, hchild, hrewrites⟩ :=
    hrewrites.exists_of_cons
  obtain rfl := hrewrites.eq_of_nil
  dsimp only [Edit.span] at hfront hlast hbetween hchild
  -- What the first edit consumes is the end of the tag.
  have hslice : slice? m.text (opening.span.stop - 1) opening.span.stop = some last :=
    slice?_eq_some_iff.2 ⟨front, _, htext, by omega, hlast.symm⟩
  obtain rfl : last = ['>'] := Option.some_inj.1 (hslice.symm.trans h.closed)
  refine ⟨front, between, child, behind, htext, by omega, hbetween.symm, hchild.symm, ?_⟩
  simp only [Edit.text, List.append_assoc, List.singleton_append]

end FieldDecorator

open FieldDecorator

/-- An element is reported once if a child of it is decorated, and not otherwise. There is a fix
    just if one child is decorated and can be rewritten. It puts the attributes for the name and
    the options ahead of the `>` of the opening tag, in this order, and the decorated element in the
    place of the child; all else stays. -/
theorem decorated_replaced (m : Module) (config : Config) (path : List Nat) (span : Span)
    (opening : Node) (children : List Node)
    (hands : Hands m.tree path (.element span opening children)) :
    ((∀ child ∈ children, ∀ d, ¬Decorates config child d) →
      FieldDecorator.check m config span opening children = []) ∧
    ((∃ child ∈ children, ∃ d, Decorates config child d) → ∃ edits,
      FieldDecorator.check m config span opening children = [⟨.fieldDecorator, span, edits⟩] ∧
      (m.tree.LaidOut (withoutMark m.text) →
        ((m.violation ⟨.fieldDecorator, span, edits⟩).fix.isSome ↔
          ∃ d element attributes, IsOnly config children d ∧
            Rewritable m opening d element attributes) ∧
        (m.text.head? ≠ some '\ufeff' →
          ∀ set, (m.violation ⟨.fieldDecorator, span, edits⟩).fix = some set →
            ∃ d element attributes front between child behind, IsOnly config children d ∧
              Rewritable m opening d element attributes ∧
              m.text = front ++ '>' :: (between ++ (child ++ behind)) ∧
              width front + 1 = opening.span.stop ∧
              opening.span.stop + width between = d.container.start ∧
              d.container.start + width child = d.container.stop ∧
              slice? m.text (bare element).span.start (bare element).span.stop =
                some (m.slice (bare element).span) ∧
              applyFixes m.text [some set] =
                ⟨front ++ (attributes.flatMap Attribute.written ++ '>' ::
                  (between ++ (m.slice (bare element).span ++ behind))), 1⟩))) := by
  refine ⟨check_eq_nil, fun hsome => ?_⟩
  obtain ⟨edits, hcheck, hedits⟩ := exists_check m span opening hsome
  refine ⟨edits, hcheck, fun hlaid => ?_⟩
  have hr : ⟨.fieldDecorator, span, edits⟩ ∈
      FieldDecorator.check m config span opening children :=
    hcheck ▸ List.mem_singleton_self _
  have hmem : .mk .jsxElement span (opening :: children) ∈ m.tree.preorder := by
    cases hands with
    | element hat => exact Node.mem_preorder_of_at? hat
  refine ⟨⟨fun hfix => ?_, ?_⟩, fun hmark set hset => ?_⟩
  · obtain ⟨set, hset⟩ := Option.isSome_iff_exists.1 hfix
    obtain ⟨d, element, attributes, honly, hrewritable, -⟩ := exists_rewritable hr hset
    exact ⟨d, element, attributes, honly, hrewritable⟩
  · rintro ⟨d, element, attributes, honly, hrewritable⟩
    obtain rfl := (hedits _).2 ⟨d, honly, plan?_eq_some_iff.2 ⟨_, _, hrewritable, rfl⟩⟩
    exact EditSet.isSome_compose? (List.cons_ne_nil _ _)
      (FieldDecorator.accepted hlaid hmem hr rfl)
  · rw [withoutMark_eq hmark] at hlaid
    obtain ⟨out, happlied, hrewrites⟩ := exists_applyFixes_of_fix hlaid.fit hands hr hset
    obtain ⟨d, element, attributes, honly, hrewritable, hlist⟩ := exists_rewritable hr hset
    have hfield := honly.bare_mem
      (fun child hchild => Node.mem_preorder_of_mem_parts hmem (List.mem_cons_of_mem _ hchild))
      (hrewritable.single ▸ List.mem_singleton_self _)
    obtain ⟨front, between, child, behind, htext, hfront, hbetween, hchild, rfl⟩ :=
      exists_output hrewritable (honly.apart hlaid hmem) hlist hrewrites
    exact ⟨d, element, attributes, front, between, child, behind, honly, hrewritable, htext, hfront,
      hbetween, hchild, (hlaid.fit _ hfield).slice?_eq, happlied⟩

/-- A string as the name, two options, and an element in parentheses. -/
theorem decorated_replaced_options :
    ∃ m span opening children edits set d element attributes,
      Module.read "a.jsx"
          "<I>\x7bgetFieldDecorator('x',\x7brules:[1],a\x7d)((<b/>))\x7d</I>".toList = .ok m ∧
        Hands m.tree [0, 0] (.element span opening children) ∧
        FieldDecorator.check m {} span opening children = [⟨.fieldDecorator, span, edits⟩] ∧
        (m.violation ⟨.fieldDecorator, span, edits⟩).fix = some set ∧
        IsOnly {} children d ∧ Rewritable m opening d element attributes ∧
        applyFixes m.text [some set] =
          ⟨"<I name='x' rules=\x7b[1]\x7d a=\x7ba\x7d><b/></I>".toList, 1⟩ := by
  have hread : ∃ m,
      Module.read "a.jsx"
          "<I>\x7bgetFieldDecorator('x',\x7brules:[1],a\x7d)((<b/>))\x7d</I>".toList = .ok m ∧
        m.text.head? ≠ some '\ufeff' ∧ m.tree.LaidOut (withoutMark m.text) ∧
        ((m.tree.subjectAt? [0, 0]).bind Subject.element?).any (fun e => decide (
          (∃ child ∈ e.2.2, (Decoration.ofChild? {} child).isSome) ∧
          ∀ r ∈ FieldDecorator.check m {} e.1 e.2.1 e.2.2,
            (m.violation r).fix.any (fun set => decide ((applyFixes m.text [some set]).output =
              "<I name='x' rules=\x7b[1]\x7d a=\x7ba\x7d><b/></I>".toList)) = true)) = true :=
    exists_ok (by decide +kernel)
  obtain ⟨m, hm, hmark, hlaid, hany⟩ := hread
  obtain ⟨span, opening, children, hands, ⟨child, hchild, hsome⟩, hout⟩ := exists_element hany
  obtain ⟨d, hd⟩ := Option.isSome_iff_exists.1 hsome
  obtain ⟨edits, hcheck, hfix⟩ := (decorated_replaced m {} [0, 0] span opening children hands).2
    ⟨child, hchild, d, ofChild?_eq_some_iff.1 hd⟩
  obtain ⟨set, hset, houtput⟩ := (Option.any_eq_true _ _).1
    (hout _ (hcheck ▸ List.mem_singleton_self _))
  obtain ⟨d, element, attributes, _, _, _, _, honly, hrewritable, -, -, -, -, -, happlied⟩ :=
    (hfix hlaid).2 hmark set hset
  have houtput := of_decide_eq_true houtput
  refine ⟨m, span, opening, children, edits, set, d, element, attributes, hm, hands, hcheck, hset,
    honly, hrewritable, ?_⟩
  rw [happlied] at houtput ⊢
  exact congrArg (FixPass.mk · 1) houtput

/-- In a text with a byte order mark there is no fix, though nothing is against one in the text
    without it. -/
theorem decorated_kept_marked :
    ∃ m span opening children d element attributes,
      Module.read "a.jsx" "\ufeff<I>\x7bgetFieldDecorator(1)(<b/>)\x7d</I>".toList = .ok m ∧
        m.tree.LaidOut (withoutMark m.text) ∧
        Hands m.tree [0, 0] (.element span opening children) ∧
        IsOnly {} children d ∧
        Rewritable ⟨withoutMark m.text, m.tree⟩ opening d element attributes ∧
        ∀ r ∈ FieldDecorator.check m {} span opening children, (m.violation r).fix = none := by
  have hread : ∃ m,
      Module.read "a.jsx" "\ufeff<I>\x7bgetFieldDecorator(1)(<b/>)\x7d</I>".toList = .ok m ∧
        m.tree.LaidOut (withoutMark m.text) ∧
        ((m.tree.subjectAt? [0, 0]).bind Subject.element?).any (fun e => decide (
          (∃ child ∈ e.2.2, (Decoration.ofChild? {} child).isSome) ∧
          (∀ r ∈ FieldDecorator.check ⟨withoutMark m.text, m.tree⟩ {} e.1 e.2.1 e.2.2,
            r.edits.isSome) ∧
          ∀ r ∈ FieldDecorator.check m {} e.1 e.2.1 e.2.2, (m.violation r).fix = none)) = true :=
    exists_ok (by decide +kernel)
  obtain ⟨m, hm, hlaid, hany⟩ := hread
  obtain ⟨span, opening, children, hands, ⟨child, hchild, hsome⟩, hedits, hnone⟩ :=
    exists_element hany
  obtain ⟨d, hd⟩ := Option.isSome_iff_exists.1 hsome
  obtain ⟨edits, hcheck, hes⟩ := exists_check ⟨withoutMark m.text, m.tree⟩ span opening
    ⟨child, hchild, d, ofChild?_eq_some_iff.1 hd⟩
  obtain ⟨es, rfl⟩ := Option.isSome_iff_exists.1 (hedits _ (hcheck ▸ List.mem_singleton_self _))
  obtain ⟨d, honly, hplan⟩ := (hes es).1 rfl
  obtain ⟨element, attributes, hrewritable, -⟩ := plan?_eq_some_iff.1 hplan
  exact ⟨m, span, opening, children, d, element, attributes, hm, hlaid, hands, honly, hrewritable,
    hnone⟩

end FormCodemod
