import FormCodemod.Proofs.Edit.Deleting
import FormCodemod.Proofs.Fix.Settled
import FormCodemod.Proofs.Rule.Composing

/-!
# What becomes of an injected prop

For a wrapped component whose first parameter takes the form from the props, there is one report,
however many properties take it (`FormProp.check_eq`). The fix leaves the text without these
properties and without the factory, and with the declarations that stand in for them right behind
the brace of the body (`injected_removed`). Where the factory stands makes no difference: it may be
ahead of the component or behind it, in its body, or around all of it.

* `TakesForm`: the properties that take the form;
* `FormProp.removed`: what goes with them;
* `hookDeclaration_eq`, `rebinding_eq`: the text that is inserted;
* `plan?_eq_some_iff`: when there are edits, and which ones.
-/

namespace FormCodemod

open FormCodemod.Syntax FormCodemod.Text

/-- The property of a pattern takes the form from the props: by its own name, under this name once
    more, or to take it apart by a pattern with the given span. -/
inductive TakesForm (config : Config) : Node → Option Span → Prop
  | shorthand {span binder : Span} {name : Name} {parts : List Node} :
      name.text = config.formProp →
      TakesForm config (.mk .shorthandPattern span [.mk (.binder name) binder parts]) none
  | named {span key binder : Span} {name : Name} {parts parts' : List Node} :
      name.text = config.formProp →
      TakesForm config (.mk .pairPattern span
        [.mk (.word config.formProp) key parts, .mk (.binder name) binder parts']) none
  | nested {span key pattern : Span} {parts parts' : List Node} :
      TakesForm config (.mk .pairPattern span
        [.mk (.word config.formProp) key parts, .mk .objectPattern pattern parts']) (some pattern)

variable {m : Module} {config : Config} {c : Component} {name : Name} {wrapper : Wrapper}
  {n : Node} {block : Span} {edits : List Edit}

/-- The block starts with its brace. -/
theorem Module.openingBrace?_eq_some_iff {brace : PlainToken} :
    m.openingBrace? block = some brace ↔
      slice? m.text block.start (block.start + 1) = some ['\x7b'] ∧
        brace = ⟨block.start, ['\x7b']⟩ := by
  rw [openingBrace?, Option.filter_eq_some_iff, PlainToken.isChar, decide_eq_true_iff,
    slice?_eq_some_iff]
  constructor
  · rintro ⟨htoken, hchars⟩
    obtain ⟨before, behind, htext, hwidth, hstart⟩ := exists_of_tokenAt? htoken
    obtain ⟨start, chars⟩ := brace
    obtain rfl : chars = ['\x7b'] := hchars
    exact ⟨⟨before, behind, htext, hwidth, rfl⟩, by rw [← hstart]⟩
  · rintro ⟨⟨before, behind, htext, hwidth, -⟩, rfl⟩
    refine ⟨?_, rfl⟩
    rw [tokenAt?, htext, ← hwidth, dropBytes?_width]
    rfl

namespace FormProp

variable {p : Property} {props : List Property}

/-! ### Properties -/

theorem ofNode?_eq_some_iff :
    Property.ofNode? config n = some p ↔ TakesForm config n p.nested ∧ p.span = n.span := by
  constructor
  · intro h
    refine ⟨?_, span_of_ofNode? h⟩
    unfold Property.ofNode? at h
    split at h
    case h_1 name _ _ =>
      split at h
      case isTrue hname =>
        cases h
        exact .shorthand hname
      case isFalse => cases h
    case h_2 =>
      split at h
      case isTrue hkey =>
        subst hkey
        split at h
        case h_1 name =>
          split at h
          case isTrue hname =>
            cases h
            exact .named hname
          case isFalse => cases h
        case h_2 =>
          cases h
          exact .nested
        case h_3 => cases h
      case isFalse => cases h
    case h_3 => cases h
  · obtain ⟨span, nested⟩ := p
    rintro ⟨htakes, rfl⟩
    cases htakes with
    | shorthand hname => exact if_pos hname
    | named hname => exact (if_pos rfl).trans (if_pos hname)
    | nested => exact if_pos rfl

/-- What the fix removes with the properties. -/
def removed (m : Module) (props : List Property) : List Span :=
  props.flatMap fun p => p.span :: (m.commaAfter? p.span).toList

/-- All that the fix removes. -/
def gone (m : Module) (props : List Property) (wrapper : Wrapper) : List Span :=
  removed m props ++ [wrapper.factory]

theorem flatMap_removal (m : Module) (props : List Property) :
    (props.flatMap fun p => m.removal p.span) = (removed m props).map .delete := by
  rw [removed, List.map_flatMap]
  rfl

/-! ### The declarations -/

/-- The form is declared on a line of its own, by the names of the configuration. -/
theorem hookDeclaration_eq (config : Config) :
    hookDeclaration config =
      "\nconst [".toList ++ config.formProp.toList ++ "] = ".toList ++ config.owner.toList ++
        ".".toList ++ config.hook.toList ++ "();".toList := by
  unfold hookDeclaration
  simp only [String.toList_append]

/-- What a pattern takes from the form is declared on a line of its own, the pattern as it was. -/
theorem rebinding_eq (config : Config) (pattern : List Char) :
    rebinding config pattern =
      "\nconst ".toList ++ pattern ++ " = ".toList ++ config.formProp.toList ++ ";".toList := by
  unfold rebinding
  simp only [String.toList_append, ← List.append_assoc]

/-! ### The plan -/

/-- There are edits if the body is a block, and nothing that is removed reaches into the factory. -/
theorem plan?_eq_some_iff :
    plan? m config c props wrapper = some edits ↔
      ∃ block, c.body = .block block ∧
        slice? m.text block.start (block.start + 1) = some ['\x7b'] ∧
        (∀ s ∈ removed m props, ¬s.overlaps wrapper.factory) ∧
        edits = (removed m props).map .delete ++
          [.insertAfter (block.start + 1) (declarations m config props),
            .delete wrapper.factory] := by
  have hany : ((removed m props).map Edit.delete).any (·.span.overlaps wrapper.factory) ↔
      ¬∀ s ∈ removed m props, ¬s.overlaps wrapper.factory := by
    simp [Edit.span]
  unfold plan?
  cases hbody : c.body with
  | block block =>
    dsimp only
    rw [flatMap_removal, Option.bind_eq_bind, Option.bind_eq_some_iff]
    constructor
    · rintro ⟨brace, hbrace, h⟩
      obtain ⟨hslice, rfl⟩ := Module.openingBrace?_eq_some_iff.1 hbrace
      split at h
      case isTrue => cases h
      case isFalse hnone =>
        cases h
        exact ⟨block, rfl, hslice, of_not_not fun h => hnone (hany.2 h), rfl⟩
    · rintro ⟨_, heq, hslice, hapart, rfl⟩
      cases heq
      exact ⟨_, Module.openingBrace?_eq_some_iff.2 ⟨hslice, rfl⟩,
        if_neg fun h => hany.1 h hapart⟩
  | expression => simp
  | missing => simp

theorem isSome_plan?_iff :
    (plan? m config c props wrapper).isSome ↔
      ∃ block, c.body = .block block ∧
        slice? m.text block.start (block.start + 1) = some ['\x7b'] ∧
        ∀ s ∈ removed m props, ¬s.overlaps wrapper.factory := by
  simp only [Option.isSome_iff_exists, plan?_eq_some_iff]
  constructor
  · rintro ⟨edits, block, hbody, hbrace, hapart, -⟩
    exact ⟨block, hbody, hbrace, hapart⟩
  · rintro ⟨block, hbody, hbrace, hapart⟩
    exact ⟨_, block, hbody, hbrace, hapart, rfl⟩

/-- There is one report, at the first property. -/
theorem check_eq {ps : List Property} (hname : c.name = some name)
    (hwrapper : Wrapper.find? config m.tree name = some wrapper)
    (hprops : properties config c = p :: ps) :
    check m config c = [⟨.formProp, p.span, plan? m config c (p :: ps) wrapper⟩] := by
  rw [check, hname, hprops]
  dsimp only
  rw [hwrapper]

/-- The edits of a report are those of the plan for all properties that take the form. -/
theorem exists_plan {r : Report} (hr : r ∈ check m config c) (hedits : r.edits = some edits) :
    ∃ name wrapper, c.name = some name ∧ Wrapper.find? config m.tree name = some wrapper ∧
      properties config c ≠ [] ∧ plan? m config c (properties config c) wrapper = some edits := by
  obtain ⟨name, wrapper, -, -, -, hname, hne, hwrapper, -⟩ := mem_check hr hedits
  obtain ⟨p, ps, hprops⟩ := List.exists_cons_of_ne_nil hne
  rw [check_eq hname hwrapper hprops, List.mem_singleton] at hr
  subst hr
  exact ⟨name, wrapper, hname, hwrapper, hne, hprops ▸ hedits⟩

/-! ### The text without the prop -/

/-- The fix removes what goes, and inserts the declarations behind the brace of the body. -/
theorem perm_edits {set : EditSet} (hplan : plan? m config c props wrapper = some edits)
    (hset : EditSet.ofList edits = .ok set) :
    ∃ block, c.body = .block block ∧
      slice? m.text block.start (block.start + 1) = some ['\x7b'] ∧
      set.edits.Perm (.insertAfter (block.start + 1) (declarations m config props) ::
        (gone m props wrapper).map .delete) := by
  obtain ⟨block, hbody, hslice, -, rfl⟩ := plan?_eq_some_iff.1 hplan
  refine ⟨block, hbody, hslice, ?_⟩
  rw [gone, List.map_append]
  exact (EditSet.laysOut_of_ofList hset).perm.trans List.perm_middle

/-- The patterns that take the form apart are parts of the text. -/
theorem slice?_nested {tree : Node} {parent : Node} {s : Span} (hfit : tree.SpansFit m.text)
    (hparent : parent ∈ tree.preorder)
    (hs : s ∈ (parent.bareParts.filterMap (Property.ofNode? config)).filterMap (·.nested)) :
    slice? m.text s.start s.stop = some (m.slice s) := by
  obtain ⟨p, hp, hnested⟩ := List.mem_filterMap.1 hs
  obtain ⟨n, hn, hof⟩ := List.mem_filterMap.1 hp
  have htakes := (ofNode?_eq_some_iff.1 hof).1
  rw [hnested] at htakes
  have hmem := mem_preorder_of_mem_bareParts hparent hn
  cases htakes with
  | nested =>
    exact (hfit _ (Node.mem_preorder_of_mem_parts hmem
      (List.mem_cons_of_mem _ List.mem_cons_self))).slice?_eq

/-- The brace of the body stays. -/
theorem not_covers_start {function : Node} (hlaid : m.tree.LaidOut m.text)
    (hin : c.IsIn m.tree function) (hne : properties config c ≠ [])
    (hwrapper : Wrapper.find? config m.tree name = some wrapper) (hbody : c.body = .block block)
    (hbrace : slice? m.text block.start (block.start + 1) = some ['\x7b'])
    (hapart : ∀ s ∈ removed m (properties config c), ¬s.overlaps wrapper.factory) :
    ¬Span.Covers (gone m (properties config c) wrapper) block.start := by
  have hprops := propertiesLaidOut hlaid hin hne
  rintro ⟨s, hs, hle, hlt⟩
  rw [gone, List.mem_append, List.mem_singleton] at hs
  rcases hs with hs | rfl
  · obtain ⟨p, hp, hs⟩ := List.mem_flatMap.1 hs
    rcases List.mem_cons.1 hs with rfl | hs
    · have := hprops.body block hbody p hp
      omega
    · -- A comma is no brace.
      have hcomma := Module.slice?_commaAfter? (Option.mem_toList.1 hs)
      obtain ⟨-, hstop, -⟩ := Module.commaAfter?_spec (Option.mem_toList.1 hs)
      obtain hstart : s.start = block.start := by omega
      rw [hstop, hstart, hbrace] at hcomma
      cases hcomma
  · refine not_covers_brace hlaid hin hprops hne hwrapper hbody (fun p hp => ?_) ⟨hle, hlt⟩
    exact hapart _ (List.mem_flatMap.2 ⟨p, hp, List.mem_cons_self⟩)

/-- The edits, carried out, leave the text without what they remove, and with the declarations
    behind the brace of the body. -/
theorem exists_output {set : EditSet} {out : List Char}
    (hplan : plan? m config c props wrapper = some edits) (hset : EditSet.ofList edits = .ok set)
    (hrewrites : Edit.Rewrites 0 set.edits m.text out) :
    ∃ block before behind, c.body = .block block ∧ m.text = before ++ '\x7b' :: behind ∧
      width before = block.start ∧
      out = mended (gone m props wrapper) (before ++ ['\x7b']) (declarations m config props)
        behind := by
  obtain ⟨block, hbody, hslice, hperm⟩ := perm_edits hplan hset
  obtain ⟨before, behind, htext, hwidth, -⟩ := slice?_eq_some_iff.1 hslice
  obtain ⟨front, behind', hcut, hfront, rfl⟩ := hrewrites.eq_mended hperm
  -- Both cuts are where the brace ends.
  rw [← List.append_assoc] at htext
  have hbrace : width (before ++ ['\x7b']) = block.start + 1 := by
    rw [width_append, hwidth]
    rfl
  obtain ⟨rest, rfl, rfl⟩ := exists_between (htext.symm.trans hcut) (by omega)
  rw [width_append] at hfront
  obtain rfl : rest = [] := eq_nil_of_width_eq_zero (by omega)
  refine ⟨block, before, behind', hbody, ?_, hwidth, by rw [List.append_nil]⟩
  rw [htext, List.append_assoc]
  rfl

end FormProp

/-- For a wrapped component whose first parameter takes the form from the props, there is one
    report, at the first property that does. It has edits if the body is a block with its brace, and
    nothing that is removed reaches into the factory. The fix, if there is one, leaves the text
    without the properties, the commas behind them and the factory, with the form declared by the
    hook behind the brace, and behind that what each further pattern takes from the form. Both are
    given as they are written. -/
theorem injected_removed (m : Module) (config : Config) (path : List Nat) (c : Component)
    (name : Name) (wrapper : Wrapper) (parameter : Node) (others : List Node)
    (hands : Hands m.tree path (.component c)) (hname : c.name = some name)
    (hwrapper : Wrapper.find? config m.tree name = some wrapper)
    (hparameters : c.parameters = parameter :: others)
    (hpattern : (Component.patternOf parameter).kind = .objectPattern)
    (htakes : ∃ n ∈ (Component.patternOf parameter).bareParts, ∃ nested,
      TakesForm config n nested) :
    ∃ p ps edits,
      (∀ n q, FormProp.Property.ofNode? config n = some q ↔
        TakesForm config n q.nested ∧ q.span = n.span) ∧
      FormProp.hookDeclaration config =
        "\nconst [".toList ++ config.formProp.toList ++ "] = ".toList ++ config.owner.toList ++
          ".".toList ++ config.hook.toList ++ "();".toList ∧
      (∀ pattern, FormProp.rebinding config pattern =
        "\nconst ".toList ++ pattern ++ " = ".toList ++ config.formProp.toList ++ ";".toList) ∧
      (Component.patternOf parameter).bareParts.filterMap (FormProp.Property.ofNode? config) =
        p :: ps ∧
      FormProp.check m config c = [⟨.formProp, p.span, edits⟩] ∧
      (edits.isSome ↔ ∃ block, c.body = .block block ∧
        slice? m.text block.start (block.start + 1) = some ['\x7b'] ∧
        ∀ s ∈ FormProp.removed m (p :: ps), ¬s.overlaps wrapper.factory) ∧
      (m.text.head? ≠ some '\ufeff' → m.tree.SpansFit (withoutMark m.text) →
        ∀ set, (m.violation ⟨.formProp, p.span, edits⟩).fix = some set →
          ∃ block before behind, c.body = .block block ∧
            m.text = before ++ '\x7b' :: behind ∧ width before = block.start ∧
            applyFixes m.text [some set] =
              ⟨mended (FormProp.gone m (p :: ps) wrapper) (before ++ ['\x7b'])
                (FormProp.hookDeclaration config ++
                  ((p :: ps).filterMap (·.nested)).flatMap fun s =>
                    FormProp.rebinding config (m.slice s)) behind, 1⟩ ∧
            (∀ s ∈ (p :: ps).filterMap (·.nested),
              slice? m.text s.start s.stop = some (m.slice s)) ∧
            (m.tree.LaidOut m.text →
              ¬Span.Covers (FormProp.gone m (p :: ps) wrapper) block.start)) := by
  have hprops : FormProp.properties config c = _ :=
    FormProp.properties_of_objectPattern hparameters hpattern
  obtain ⟨p, ps, hcons⟩ : ∃ p ps, FormProp.properties config c = p :: ps := by
    obtain ⟨n, hn, nested, htakes⟩ := htakes
    have hof : FormProp.Property.ofNode? config n = some ⟨n.span, nested⟩ :=
      FormProp.ofNode?_eq_some_iff.2 ⟨htakes, rfl⟩
    rw [hprops]
    exact List.exists_cons_of_ne_nil (List.ne_nil_of_mem (List.mem_filterMap.2 ⟨n, hn, hof⟩))
  have hcheck := FormProp.check_eq (m := m) hname hwrapper hcons
  refine ⟨p, ps, _, fun _ _ => FormProp.ofNode?_eq_some_iff, FormProp.hookDeclaration_eq config,
    FormProp.rebinding_eq config, hprops.symm.trans hcons, hcheck, FormProp.isSome_plan?_iff,
    fun hmark hfit set hset => ?_⟩
  rw [withoutMark_eq hmark] at hfit
  obtain ⟨out, happlied, hrewrites⟩ :=
    exists_applyFixes_of_fix hfit hands (hcheck ▸ List.mem_singleton_self _) hset
  obtain ⟨edits, hedits, hcompose⟩ := Option.bind_eq_some_iff.1 hset
  obtain ⟨block, before, behind, hbody, htext, hwidth, rfl⟩ :=
    FormProp.exists_output hedits (EditSet.compose?_eq_some_iff.1 hcompose).1 hrewrites
  obtain ⟨function, hin⟩ := Hands.exists_isIn (.inl hands)
  have hparameter : parameter ∈ m.tree.preorder :=
    Node.mem_preorder_of_mem_parts hin.mem
      (hin.parameters parameter (hparameters ▸ List.mem_cons_self)).1
  refine ⟨block, before, behind, hbody, htext, hwidth, happlied, fun s hs => ?_, fun hlaid => ?_⟩
  · rw [← hcons, hprops] at hs
    exact FormProp.slice?_nested hfit (Component.patternOf_mem hparameter) hs
  · obtain ⟨block', hbody', hbrace, hapart, -⟩ := FormProp.plan?_eq_some_iff.1 hedits
    cases hbody.symm.trans hbody'
    rw [← hcons] at hapart ⊢
    exact FormProp.not_covers_start hlaid hin (hcons ▸ List.cons_ne_nil p ps) hwrapper hbody
      hbrace hapart

/-- The form is taken by its name and taken apart, with another property in between. -/
theorem injected_removed_between :
    ∃ m c p edits set,
      Module.read "a.jsx"
          "function Foo(\x7bform,a,form:\x7bb\x7d\x7d)\x7b\x7dForm.create()(Foo)".toList = .ok m ∧
        Hands m.tree [0] (.component c) ∧
        FormProp.check m {} c = [⟨.formProp, p, some edits⟩] ∧
        (m.violation ⟨.formProp, p, some edits⟩).fix = some set ∧
        applyFixes m.text [some set] =
          ⟨("function Foo(\x7ba,\x7d)\x7b\nconst [form] = Form.useForm();" ++
            "\nconst \x7bb\x7d = form;\x7d(Foo)").toList, 1⟩ := by
  have hread : ∃ m,
      Module.read "a.jsx"
          "function Foo(\x7bform,a,form:\x7bb\x7d\x7d)\x7b\x7dForm.create()(Foo)".toList = .ok m ∧
        m.text.head? ≠ some '\ufeff' ∧ m.tree.SpansFit (withoutMark m.text) ∧
        ((m.tree.subjectAt? [0]).bind Subject.component?).any (fun c => decide (
          c.name = some ⟨"Foo", .scope 0⟩ ∧
          (Wrapper.find? {} m.tree ⟨"Foo", .scope 0⟩).isSome ∧
          c.parameters.length = 1 ∧
          (∀ parameter ∈ c.parameters, (Component.patternOf parameter).kind = .objectPattern ∧
            ∃ n ∈ (Component.patternOf parameter).bareParts,
              (FormProp.Property.ofNode? {} n).isSome) ∧
          ∀ r ∈ FormProp.check m {} c, (m.violation r).fix.any (fun set => decide (
            (applyFixes m.text [some set]).output =
              ("function Foo(\x7ba,\x7d)\x7b\nconst [form] = Form.useForm();" ++
                "\nconst \x7bb\x7d = form;\x7d(Foo)").toList)) = true)) = true :=
    exists_ok (by decide +kernel)
  obtain ⟨m, hm, hmark, hfit, hany⟩ := hread
  obtain ⟨c, hands, hname, hwrapper, hlength, hparameters, hout⟩ := exists_component hany
  obtain ⟨wrapper, hwrapper⟩ := Option.isSome_iff_exists.1 hwrapper
  obtain ⟨parameter, hparameter⟩ := List.length_eq_one_iff.1 hlength
  obtain ⟨hkind, n, hn, hsome⟩ := hparameters parameter (hparameter ▸ List.mem_singleton_self _)
  obtain ⟨q, hq⟩ := Option.isSome_iff_exists.1 hsome
  have htakes := (FormProp.ofNode?_eq_some_iff.1 hq).1
  obtain ⟨p, ps, edits, -, -, -, -, hcheck, -, hfix⟩ :=
    injected_removed m {} [0] c _ wrapper parameter [] hands hname hwrapper hparameter hkind
      ⟨n, hn, q.nested, htakes⟩
  obtain ⟨set, hset, houtput⟩ := (Option.any_eq_true _ _).1
    (hout _ (hcheck ▸ List.mem_singleton_self _))
  obtain ⟨block, before, behind, -, -, -, happlied, -⟩ := hfix hmark hfit set hset
  obtain ⟨edits, rfl, -⟩ := Option.bind_eq_some_iff.1 hset
  refine ⟨m, c, p.span, edits, set, hm, hands, hcheck, hset, ?_⟩
  have houtput := of_decide_eq_true houtput
  rw [happlied] at houtput ⊢
  exact congrArg (FixPass.mk · 1) houtput

end FormCodemod
