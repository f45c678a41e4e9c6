import FormCodemod.Proofs.Binding.SoleUse
import FormCodemod.Proofs.Edit.Parts
import FormCodemod.Proofs.Rule.Rebinding

/-!
# What the fix of an injected prop leaves

The fix takes the properties out of the first parameter and the factory out of the call, and puts
declarations into the body. Most nodes have nothing to do with these places and keep their text; of
those around one of them, all but what is deleted is left (`injected_unwrapped`). All this is said
of the text that nodes had before. Whether the text they have now is read as the same nodes depends
on what stands around the call: `(Foo)` alone may continue the statement ahead of it, and with a
type argument it may not be read at all (`unwrapped_misread`).

* `FormProp.Stands`: the places that the fix has to do with;
* `FormProp.Stays`, `FormProp.Apart`: which nodes are in nothing that is deleted, and around it;
* `FormProp.Leaves`: what becomes of a node that stays.
-/

namespace FormCodemod

open FormCodemod.Syntax FormCodemod.Text

variable {m : Module} {config : Config} {c : Component} {r : Report} {edits : List Edit}
  {set : EditSet} {out : List Char} {patternPath callPath path : List Nat}
  {parameter call factory n : Node} {block : Span}

namespace FormProp

/-- Where the fix of an injected prop has to do with the tree: the pattern of the first parameter,
    the call that wraps the component, what it calls, and the body of the component. -/
structure Stands (m : Module) (config : Config) (c : Component) (patternPath callPath : List Nat)
    (parameter call factory : Node) (block : Span) : Prop where
  head : c.parameters.head? = some parameter
  pattern_at : m.tree.at? patternPath = some (Component.patternOf parameter)
  pattern_kind : (Component.patternOf parameter).kind = .objectPattern
  call_at : m.tree.at? callPath = some call
  call_kind : call.kind = .call
  callee : call.parts[0]? = some factory
  isFactory : IsFactory config factory
  argument : ∃ name a, c.name = some name ∧ call.arguments = [a] ∧ a.kind = .reference name
  body : c.body = .block block

/-- The node at the end of a path is in nothing that the fix removes. -/
def Stays (config : Config) (patternPath callPath : List Nat) (parameter : Node)
    (path : List Nat) : Prop :=
  ¬callPath ++ [0] <+: path ∧
    ∀ i p, (Component.patternOf parameter).parts[i]? = some p → p ∈ taken config parameter →
      ¬patternPath ++ [i] <+: path

/-- What the fix deletes, where the call and its callee are these. -/
def deleted (m : Module) (config : Config) (c : Component) (call factory : Node) : List Span :=
  gone m (properties config c) ⟨call.span, factory.span⟩

/-- The edits of the fix, where the call, its callee and the body are these. -/
def planned (m : Module) (config : Config) (c : Component) (call factory : Node) (block : Span) :
    List Edit :=
  .insertAfter (block.start + 1) (declarations m config (properties config c)) ::
    (deleted m config c call factory).map .delete

/-! ### The edits -/

theorem exists_stands (hands : Hands m.tree path (.component c)) (hr : r ∈ check m config c)
    (hedits : r.edits = some edits) (hset : EditSet.ofList edits = .ok set) :
    ∃ patternPath callPath parameter call factory block,
      Stands m config c patternPath callPath parameter call factory block ∧
      properties config c ≠ [] ∧
      (∃ name, Wrapper.find? config m.tree name = some ⟨call.span, factory.span⟩) ∧
      (∀ s ∈ removed m (properties config c), ¬s.overlaps factory.span) ∧
      slice? m.text block.start (block.start + 1) = some ['\x7b'] ∧
      set.edits.Perm (planned m config c call factory block) := by
  obtain ⟨name, wrapper, hname, hwrapper, hne, hplan⟩ := exists_plan hr hedits
  obtain ⟨block, hbody, hbrace, hperm⟩ := perm_edits hplan hset
  obtain ⟨_, -, -, hapart, -⟩ := plan?_eq_some_iff.1 hplan
  obtain ⟨parameter, others, hparameters, hpattern, -⟩ := exists_parameter hne
  obtain ⟨call, hcall, factory, a, hkind, hcallee, hargument, hfactory, rfl, href, -⟩ :=
    Wrapper.exists_argument hwrapper
  obtain ⟨function, hin⟩ := Hands.exists_isIn (.inl hands)
  have hparameter := (hin.parameters parameter (hparameters ▸ List.mem_cons_self)).1
  obtain ⟨patternPath, hpatternPath⟩ := Node.mem_preorder_iff.1
    (Component.patternOf_mem (Node.mem_preorder_of_mem_parts hin.mem hparameter))
  obtain ⟨callPath, hcallPath⟩ := Node.mem_preorder_iff.1 hcall
  exact ⟨patternPath, callPath, parameter, call, factory, block,
    { head := by rw [hparameters]; rfl
      pattern_at := hpatternPath
      pattern_kind := hpattern
      call_at := hcallPath
      call_kind := hkind
      callee := hcallee
      isFactory := hfactory
      argument := ⟨name, a, hname, hargument, href⟩
      body := hbody },
    hne, ⟨name, hwrapper⟩, hapart, hbrace, hperm⟩

theorem Stands.coversName_factory
    (h : Stands m config c patternPath callPath parameter call factory block) :
    factory.coversName = false := by
  obtain ⟨_, _, _, _, _, _, _, _, rfl, -⟩ := h.isFactory
  rfl

theorem coversName_of_taken (h : n ∈ taken config parameter) : n.coversName = false := by
  obtain ⟨p, hp⟩ := Option.isSome_iff_exists.1 (List.mem_filter.1 h).2
  have htakes := (ofNode?_eq_some_iff.1 hp).1
  generalize p.nested = nested at htakes
  cases htakes <;> rfl

/-- A property that goes is, by its span, a part of the pattern. -/
theorem Stands.exists_part {p : Property}
    (h : Stands m config c patternPath callPath parameter call factory block)
    (hp : p ∈ properties config c) :
    ∃ (i : Nat) (q : Node), (Component.patternOf parameter).parts[i]? = some q ∧
      q ∈ taken config parameter ∧ q.span = p.span := by
  obtain ⟨parameter', others, hparameters, -, hprops⟩ := exists_parameter (List.ne_nil_of_mem hp)
  have hhead := h.head
  rw [hparameters] at hhead
  obtain rfl := Option.some.inj hhead
  rw [hprops] at hp
  obtain ⟨q, hq, hof⟩ := List.mem_filterMap.1 hp
  obtain ⟨i, hi⟩ := List.mem_iff_getElem?.1 (Node.mem_bareParts_iff.1 hq).1
  exact ⟨i, q, hi, List.mem_filter.2 ⟨hq, by rw [hof]; rfl⟩, (span_of_ofNode? hof).symm⟩

/-- Properties are deleted, commas behind them, and the factory. -/
theorem mem_deleted_iff {s : Span} : s ∈ deleted m config c call factory ↔
    (∃ p ∈ properties config c, s = p.span) ∨
      (∃ p ∈ properties config c, m.commaAfter? p.span = some s) ∨ s = factory.span := by
  simp only [deleted, gone, removed, List.mem_append, List.mem_flatMap, List.mem_cons,
    Option.mem_toList, List.not_mem_nil, or_false, and_or_left, exists_or, or_assoc]

/-- A comma takes a byte, and no place is inside it. -/
theorem spares_comma {s t : Span} (h : m.commaAfter? t = some s) (place : Nat) :
    (Edit.delete s).Spares place := by
  obtain ⟨-, hstop, -⟩ := Module.commaAfter?_spec h
  have hle : (Edit.delete s).span.stop ≤ (Edit.delete s).span.start + 1 := Nat.le_of_eq hstop
  exact Edit.spares_of_stop_le hle place

/-- No edit of the fix reaches over the bounds of a node that stays. -/
theorem spares_of_stays (hlaid : m.tree.LaidOut m.text)
    (hstands : Stands m config c patternPath callPath parameter call factory block)
    (hstays : Stays config patternPath callPath parameter path) (hn : m.tree.at? path = some n)
    (hname : n.coversName = false) {s : Span} (hs : s ∈ deleted m config c call factory) :
    (Edit.delete s).Spares n.span.start ∧ (Edit.delete s).Spares n.span.stop := by
  obtain ⟨hcall, hproperties⟩ := hstays
  rcases mem_deleted_iff.1 hs with ⟨p, hp, rfl⟩ | ⟨p, hp, hcomma⟩ | rfl
  · obtain ⟨i, q, hi, hq, hspan⟩ := hstands.exists_part hp
    rw [← hspan]
    exact hlaid.spares hn (Node.at?_append_singleton hstands.pattern_at hi) hname
      (coversName_of_taken hq) fun _ => hproperties i q hi hq
  · exact ⟨spares_comma hcomma _, spares_comma hcomma _⟩
  · exact hlaid.spares hn (Node.at?_append_singleton hstands.call_at hstands.callee) hname
      hstands.coversName_factory fun _ => hcall

/-! ### What becomes of a node -/

/-- What the edits make of a part of the text over whose bounds none of them reaches: what is
    deleted is gone from it, and where the brace of the body is in it, the declarations stand behind
    the brace. -/
theorem turns_of_spares {s : Span} (hfit : s.FitsIn m.text)
    (hperm : set.edits.Perm (planned m config c call factory block))
    (hrewrites : Edit.Rewrites 0 set.edits m.text out)
    (hspares : ∀ t ∈ deleted m config c call factory,
      (Edit.delete t).Spares s.start ∧ (Edit.delete t).Spares s.stop) :
    (¬(s.start ≤ block.start ∧ block.start < s.stop) →
      Edit.Turns set.edits m.text out s
        (outside (deleted m config c call factory) s.start (m.slice s))) ∧
    (s.start ≤ block.start → block.start < s.stop →
      ∃ front behind, m.slice s = front ++ behind ∧ s.start + width front = block.start + 1 ∧
        Edit.Turns set.edits m.text out s
          (outside (deleted m config c call factory) s.start front ++
            (declarations m config (properties config c) ++
              outside (deleted m config c call factory) (block.start + 1) behind))) := by
  obtain ⟨part', hturns⟩ := hrewrites.exists_turns hfit fun e he => by
    rcases List.mem_cons.1 (hperm.mem_iff.1 he) with rfl | he
    · exact ⟨Edit.spares_of_stop_le (Nat.le_succ _) _, Edit.spares_of_stop_le (Nat.le_succ _) _⟩
    · obtain ⟨t, ht, rfl⟩ := List.mem_map.1 he
      exact hspares t ht
  constructor
  · intro hplace
    rwa [hturns.eq_outside_of_perm hperm (by omega)] at hturns
  · intro hstart hstop
    obtain ⟨front, behind, hcut, hfront, rfl⟩ := hturns.eq_inserted hperm (by omega)
    exact ⟨front, behind, hcut, hfront, hturns⟩

/-- No path into one of the properties that go, or into what the call calls, leads on from the path,
    and it does not lead on from one of these. -/
def Apart (config : Config) (patternPath callPath : List Nat) (parameter : Node)
    (path : List Nat) : Prop :=
  ¬path <+: callPath ++ [0] ∧
    ∀ i p, (Component.patternOf parameter).parts[i]? = some p → p ∈ taken config parameter →
      ¬path <+: patternPath ++ [i]

theorem not_overlaps_of_apart (hlaid : m.tree.LaidOut m.text)
    (hstands : Stands m config c patternPath callPath parameter call factory block)
    (hstays : Stays config patternPath callPath parameter path)
    (hapart : Apart config patternPath callPath parameter path) (hn : m.tree.at? path = some n)
    (hname : n.coversName = false)
    (hcommas : ∀ p ∈ properties config c, ∀ comma, m.commaAfter? p.span = some comma →
      ¬comma.overlaps n.span) :
    ∀ s ∈ deleted m config c call factory, ¬s.overlaps n.span := by
  intro s hs
  rw [Span.overlaps_comm]
  rcases mem_deleted_iff.1 hs with ⟨p, hp, rfl⟩ | ⟨p, hp, hcomma⟩ | rfl
  · obtain ⟨i, q, hi, hq, hspan⟩ := hstands.exists_part hp
    rw [← hspan]
    exact hlaid.not_overlaps hn (Node.at?_append_singleton hstands.pattern_at hi) hname
      (coversName_of_taken hq) (hapart.2 i q hi hq) (hstays.2 i q hi hq)
  · rw [Span.overlaps_comm]
    exact hcommas p hp s hcomma
  · exact hlaid.not_overlaps hn (Node.at?_append_singleton hstands.call_at hstands.callee) hname
      hstands.coversName_factory hapart.1 hstays.1

/-- The brace of the body does not stand in the call, unless a property does that goes. -/
theorem not_brace_in_call (hlaid : m.tree.LaidOut m.text)
    (hands : Hands m.tree path (.component c))
    (hstands : Stands m config c patternPath callPath parameter call factory block)
    (hne : properties config c ≠ [])
    (hremoved : ∀ s ∈ removed m (properties config c), ¬s.overlaps call.span) :
    ¬(call.span.start ≤ block.start ∧ block.start < call.span.stop) := by
  rintro ⟨hstart, hstop⟩
  obtain ⟨function, hin⟩ := Hands.exists_isIn (.inl hands)
  obtain ⟨body, hbody, hblock, rfl⟩ := hin.body block hstands.body
  -- A call around the brace lies around the function, and so around the properties.
  have haround := hlaid.function_within hin.mem hbody hblock
    (Node.mem_preorder_of_at? hstands.call_at) hstands.call_kind hstart hstop
  obtain ⟨p, hp⟩ := List.exists_mem_of_ne_nil _ hne
  have hprops := propertiesLaidOut hlaid hin hne
  obtain ⟨hstart', hstop'⟩ := (hprops.within p hp).trans haround
  have hsolid := hprops.solid p hp
  refine hremoved p.span (List.mem_flatMap.2 ⟨p, hp, List.mem_cons_self⟩) (Span.overlaps_iff.2 ?_)
  omega

/-- With the factory deleted, what stood behind it in the call is left of the call. -/
theorem outside_call (hlaid : m.tree.LaidOut m.text)
    (hstands : Stands m config c patternPath callPath parameter call factory block)
    (hremoved : ∀ s ∈ removed m (properties config c), ¬s.overlaps call.span) :
    outside (deleted m config c call factory) call.span.start (m.slice call.span) =
      m.slice ⟨call.span.start, factory.span.start⟩ ++
        m.slice ⟨factory.span.stop, call.span.stop⟩ := by
  have hcall := Node.mem_preorder_of_at? hstands.call_at
  have hpart : factory ∈ call.parts := List.mem_of_getElem? hstands.callee
  have hwithin := hlaid.inside call hcall factory (Node.mem_bareParts_iff.2 ⟨hpart, by
    obtain ⟨_, _, _, _, _, _, _, _, rfl, -⟩ := hstands.isFactory
    exact nofun⟩)
  -- Of all that is deleted, only the factory is in the call.
  refine outside_of_within (hlaid.fit factory (Node.mem_preorder_of_mem_parts hcall hpart))
    (hlaid.fit call hcall) hwithin fun k hle hlt => ⟨?_, ?_⟩
  · rintro ⟨s, hs, hstart, hstop⟩
    rcases List.mem_append.1 hs with hs | hs
    · exact absurd (Span.overlaps_iff.2 (by omega)) (hremoved s hs)
    · obtain rfl := List.mem_singleton.1 hs
      exact ⟨hstart, hstop⟩
  · exact fun hin => ⟨factory.span, List.mem_append_right _ List.mem_cons_self, hin⟩

/-- No edit of the fix reaches over the bounds of the body. -/
theorem spares_body (hlaid : m.tree.LaidOut m.text) (hands : Hands m.tree path (.component c))
    (hstands : Stands m config c patternPath callPath parameter call factory block)
    (hne : properties config c ≠ [])
    (hkept : ¬Span.Covers (deleted m config c call factory) block.start) {s : Span}
    (hs : s ∈ deleted m config c call factory) :
    (Edit.delete s).Spares block.start ∧ (Edit.delete s).Spares block.stop := by
  obtain ⟨function, hin⟩ := Hands.exists_isIn (.inl hands)
  obtain ⟨body, hbody, hblock, rfl⟩ := hin.body block hstands.body
  have hmem := Node.mem_preorder_of_mem_parts hin.mem hbody
  have hsolid := (hlaid.braces body hmem hblock).1
  rcases mem_deleted_iff.1 hs with ⟨p, hp, rfl⟩ | ⟨p, hp, hcomma⟩ | rfl
  · have hahead := (propertiesLaidOut hlaid hin hne).body _ hstands.body p hp
    exact ⟨.inl hahead, .inl (by dsimp only [Edit.span]; omega)⟩
  · exact ⟨spares_comma hcomma _, spares_comma hcomma _⟩
  · obtain ⟨bodyPath, hat⟩ := Node.mem_preorder_iff.1 hmem
    have hfactory := Node.at?_append_singleton hstands.call_at hstands.callee
    have hname : body.coversName = false := by rw [Node.coversName, hblock]
    refine hlaid.spares hat hfactory hname hstands.coversName_factory fun hover hle => hkept ?_
    -- A body inside the factory would be gone, with its brace.
    rw [Span.overlaps_comm] at hover
    obtain ⟨hstart, hstop⟩ := hlaid.within_of_overlaps hfactory hat hle hover
    exact ⟨factory.span, List.mem_append_right _ List.mem_cons_self, hstart, by omega⟩

/-- What becomes of the body: the declarations stand behind its brace. -/
theorem turns_body (hfit : block.FitsIn m.text) (hsolid : block.start < block.stop)
    (hbrace : slice? m.text block.start (block.start + 1) = some ['\x7b'])
    (hperm : set.edits.Perm (planned m config c call factory block))
    (hrewrites : Edit.Rewrites 0 set.edits m.text out)
    (hkept : ¬Span.Covers (deleted m config c call factory) block.start)
    (hspares : ∀ t ∈ deleted m config c call factory,
      (Edit.delete t).Spares block.start ∧ (Edit.delete t).Spares block.stop) :
    ∃ behind, m.slice block = '\x7b' :: behind ∧
      Edit.Turns set.edits m.text out block
        ('\x7b' :: (declarations m config (properties config c) ++
          outside (deleted m config c call factory) (block.start + 1) behind)) := by
  obtain ⟨front, behind, hcut, hfront, hturns⟩ :=
    (turns_of_spares hfit hperm hrewrites hspares).2 (Nat.le_refl _) hsolid
  -- What is ahead of the declarations is one byte wide, so it is the brace.
  obtain ⟨before, after, htext, hbefore, -⟩ := slice?_eq_some_iff.1 hfit.slice?_eq
  rw [← Module.slice, hcut, List.append_assoc] at htext
  obtain rfl : front = ['\x7b'] := Option.some.inj <|
    (slice?_eq_some_iff.2 ⟨before, behind ++ after, htext, hbefore, hfront⟩).symm.trans hbrace
  rw [outside_eq_self fun k hle hlt => by
    obtain rfl : k = block.start := by omega
    exact hkept, List.singleton_append] at hturns
  exact ⟨behind, hcut, hturns⟩

/-- What the fix leaves of a node that stays. -/
structure Leaves (m : Module) (config : Config) (c : Component) (set : EditSet) (out : List Char)
    (patternPath callPath : List Nat) (parameter call factory : Node) (block : Span)
    (path : List Nat) (n : Node) : Prop where
  /-- All but what is deleted is left of a node that the brace of the body does not stand in. -/
  around : ¬(n.span.start ≤ block.start ∧ block.start < n.span.stop) →
    Edit.Turns set.edits m.text out n.span
      (outside (deleted m config c call factory) n.span.start (m.slice n.span))
  /-- Where the brace stands in the node, the declarations come behind it. -/
  braced : n.span.start ≤ block.start → block.start < n.span.stop →
    ∃ front behind, m.slice n.span = front ++ behind ∧
      n.span.start + width front = block.start + 1 ∧
      Edit.Turns set.edits m.text out n.span
        (outside (deleted m config c call factory) n.span.start front ++
          (declarations m config (properties config c) ++
            outside (deleted m config c call factory) (block.start + 1) behind))
  /-- A node around nothing that changes keeps its text. -/
  whole : Apart config patternPath callPath parameter path →
    (∀ p ∈ properties config c, ∀ comma, m.commaAfter? p.span = some comma →
      ¬comma.overlaps n.span) →
    ¬(n.span.start ≤ block.start ∧ block.start < n.span.stop) →
    Edit.Turns set.edits m.text out n.span (m.slice n.span)
  /-- Of the call, what stands behind the callee is left, as is what stands ahead of it. -/
  unwrapped : path = callPath →
    (∀ s ∈ removed m (properties config c), ¬s.overlaps call.span) →
    Edit.Turns set.edits m.text out call.span
      (m.slice ⟨call.span.start, factory.span.start⟩ ++
        m.slice ⟨factory.span.stop, call.span.stop⟩)

end FormProp

/-- The fix of an injected prop, on its own, deletes the properties that take the form, the commas
    behind them and what the call around the component calls, and puts the declarations behind the
    brace of the body. What becomes of the nodes that stay follows from where they stand to these:
    those apart keep their text, the body begins with the declarations, and of the call there is
    left what stands around the callee. -/
theorem injected_unwrapped (m : Module) (config : Config) (path : List Nat) (c : Component)
    (r : Report) (set : EditSet) (hands : Hands m.tree path (.component c))
    (hr : r ∈ FormProp.check m config c) (hfix : (m.violation r).fix = some set)
    (hlaid : m.tree.LaidOut m.text) :
    ∃ patternPath callPath parameter call factory block out,
      FormProp.Stands m config c patternPath callPath parameter call factory block ∧
      applyFixes m.text [some set] = ⟨out, 1⟩ ∧
      (∃ behind, m.slice block = '\x7b' :: behind ∧
        Edit.Turns set.edits m.text out block
          ('\x7b' :: (FormProp.declarations m config (FormProp.properties config c) ++
            outside (FormProp.deleted m config c call factory) (block.start + 1) behind))) ∧
      ∀ path n, m.tree.at? path = some n → n.coversName = false →
        FormProp.Stays config patternPath callPath parameter path →
        FormProp.Leaves m config c set out patternPath callPath parameter call factory block
          path n := by
  obtain ⟨out, happlied, hrewrites⟩ := exists_applyFixes_of_fix hlaid.fit hands hr hfix
  obtain ⟨edits, hedits, hcompose⟩ := Option.bind_eq_some_iff.1 hfix
  obtain ⟨patternPath, callPath, parameter, call, factory, block, hstands, hne, ⟨name, hwrapper⟩,
      hapart, hbrace, hperm⟩ :=
    FormProp.exists_stands hands hr hedits (EditSet.compose?_eq_some_iff.1 hcompose).1
  obtain ⟨function, hin⟩ := Hands.exists_isIn (.inl hands)
  have hkept := FormProp.not_covers_start hlaid hin hne hwrapper hstands.body hbrace hapart
  refine ⟨patternPath, callPath, parameter, call, factory, block, out, hstands, happlied, ?_,
    fun path n hn hname hstays => ?_⟩
  · obtain ⟨body, hbody, hblock, rfl⟩ := hin.body block hstands.body
    have hmem := Node.mem_preorder_of_mem_parts hin.mem hbody
    exact FormProp.turns_body (hlaid.fit body hmem) (hlaid.braces body hmem hblock).1 hbrace hperm
      hrewrites hkept fun t => FormProp.spares_body hlaid hands hstands hne hkept
  have hturns := FormProp.turns_of_spares (hlaid.fit n (Node.mem_preorder_of_at? hn)) hperm
    hrewrites fun t => FormProp.spares_of_stays hlaid hstands hstays hn hname
  refine
    { around := hturns.1
      braced := hturns.2
      whole := fun hnone hcommas hplace => ?_
      unwrapped := ?_ }
  · have hnone := FormProp.not_overlaps_of_apart hlaid hstands hstays hnone hn hname hcommas
    have hkept := hturns.1 hplace
    have hwidth : n.span.start + width (m.slice n.span) = n.span.stop := hkept.rewrites.1
    rwa [outside_eq_self fun k hle hlt => ?_] at hkept
    rintro ⟨s, hs, hstart, hstop⟩
    exact hnone s hs (Span.overlaps_iff.2 (by omega))
  · rintro rfl hremoved
    obtain rfl : n = call := Option.some.inj (hn.symm.trans hstands.call_at)
    rw [← FormProp.outside_call hlaid hstands hremoved]
    exact hturns.1 (FormProp.not_brace_in_call hlaid hands hstands hne hremoved)

/-- The call is left as the component in parentheses, and what is in the body stays as it is. -/
theorem injected_unwrapped_statement :
    ∃ m c r set out call n,
      Module.read "a.jsx" "function Foo(\x7bform\x7d)\x7bb\x7dForm.create()(Foo)".toList = .ok m ∧
      Hands m.tree [0] (.component c) ∧ r ∈ FormProp.check m {} c ∧
      (m.violation r).fix = some set ∧ applyFixes m.text [some set] = ⟨out, 1⟩ ∧
      m.tree.at? [1, 0] = some call ∧ call.kind = .call ∧
      Edit.Turns set.edits m.text out call.span "(Foo)".toList ∧
      m.tree.at? [0, 1, 1, 0] = some n ∧ n.kind = .expressionStatement ∧
      m.slice n.span = "b".toList ∧ Edit.Turns set.edits m.text out n.span "b".toList := by
  have hread : ∃ m,
      Module.read "a.jsx" "function Foo(\x7bform\x7d)\x7bb\x7dForm.create()(Foo)".toList = .ok m ∧
      m.tree.LaidOut m.text ∧
      (∀ p ∈ m.tree.paths, ∀ n ∈ m.tree.at? p,
        (n.kind = .objectPattern → p = [0, 1, 0, 0]) ∧
        (n.kind = .call → n.arguments.length = 1 → p = [1, 0])) ∧
      ((m.tree.subjectAt? [0]).bind Subject.component?).any (fun c => decide (
        (∃ r ∈ FormProp.check m {} c, (m.violation r).fix.isSome) ∧
        (m.tree.at? [1, 0]).any (fun call => decide (call.kind = .call ∧
          (∀ s ∈ FormProp.removed m (FormProp.properties {} c), ¬s.overlaps call.span) ∧
          ∀ f ∈ call.parts[0]?, m.slice ⟨call.span.start, f.span.start⟩ ++
            m.slice ⟨f.span.stop, call.span.stop⟩ = "(Foo)".toList)) = true ∧
        (m.tree.at? [0, 1, 1, 0]).any (fun n => decide (n.kind = .expressionStatement ∧
          m.slice n.span = "b".toList ∧ c.body = .block ⟨20, 23⟩ ∧ n.span = ⟨21, 22⟩ ∧
          ∀ p ∈ FormProp.properties {} c, ∀ comma ∈ m.commaAfter? p.span,
            ¬comma.overlaps n.span)) = true)) = true :=
    exists_ok (by decide +kernel)
  obtain ⟨m, hm, hlaid, hpaths, hany⟩ := hread
  obtain ⟨c, hands, ⟨r, hr, hsome⟩, hcall, hn⟩ := exists_component hany
  obtain ⟨set, hset⟩ := Option.isSome_iff_exists.1 hsome
  obtain ⟨patternPath, callPath, parameter, call, factory, block, out, hstands, happlied, -,
      hleaves⟩ :=
    injected_unwrapped m {} [0] c r set hands hr hset hlaid
  -- There is one pattern in the module, and one call with an argument.
  obtain rfl := (hpaths patternPath (Node.mem_paths_of_at? hstands.pattern_at) _
    hstands.pattern_at).1 hstands.pattern_kind
  obtain rfl := (hpaths callPath (Node.mem_paths_of_at? hstands.call_at) _
    hstands.call_at).2 hstands.call_kind (by
      obtain ⟨_, a, -, harguments, -⟩ := hstands.argument
      rw [harguments]
      rfl)
  obtain ⟨call', hat, hcall⟩ := (Option.any_eq_true _ _).1 hcall
  obtain rfl : call' = call := Option.some.inj (hat.symm.trans hstands.call_at)
  obtain ⟨hkind, hremoved, hslices⟩ := of_decide_eq_true hcall
  obtain ⟨n, hat', hn⟩ := (Option.any_eq_true _ _).1 hn
  obtain ⟨hkind', hslice, hbody, hspan, hcommas⟩ := of_decide_eq_true hn
  obtain rfl : block = ⟨20, 23⟩ := by
    cases hstands.body.symm.trans hbody
    rfl
  have hunwrapped := (hleaves [1, 0] _ hat (by rw [Node.coversName, hkind])
    ⟨by decide, fun i _ _ _ => by simp⟩).unwrapped rfl hremoved
  rw [hslices factory hstands.callee] at hunwrapped
  have hwhole := (hleaves [0, 1, 1, 0] n hat' (by rw [Node.coversName, hkind'])
    ⟨by decide, fun i _ _ _ => by simp⟩).whole ⟨by decide, fun i _ _ _ => by simp⟩ hcommas
    (by rw [hspan]; decide)
  rw [hslice] at hwhole
  exact ⟨m, c, r, set, out, _, n, hm, hands, hr, hset, happlied, hat, hkind, hunwrapped, hat',
    hkind', hslice, hwhole⟩

/-- Behind a type argument, what the fix leaves of the call cannot be read. Behind a declaration
    that a line break ends, it is read as the arguments of a call of the value. -/
theorem unwrapped_misread :
    (∃ m c r set out,
      Module.read "a.tsx" "function Foo(\x7bform\x7d)\x7b\x7dForm.create()<T>(Foo)".toList = .ok m ∧
      Hands m.tree [0] (.component c) ∧ r ∈ FormProp.check m {} c ∧
      (m.violation r).fix = some set ∧ applyFixes m.text [some set] = ⟨out, 1⟩ ∧
      out = "function Foo(\x7b\x7d)\x7b\nconst [form] = Form.useForm();\x7d<T>(Foo)".toList ∧
      (Module.read "a.tsx" out).toOption = none) ∧
    ∃ m c r set out m',
      Module.read "a.jsx"
        "function Foo(\x7bform\x7d)\x7b\x7d\nvar a=b\nForm.create()(Foo)".toList = .ok m ∧
      Hands m.tree [0] (.component c) ∧ r ∈ FormProp.check m {} c ∧
      (m.violation r).fix = some set ∧ applyFixes m.text [some set] = ⟨out, 1⟩ ∧
      out = ("function Foo(\x7b\x7d)\x7b\nconst [form] = Form.useForm();\x7d" ++
        "\nvar a=b\n(Foo)").toList ∧
      Module.read "a.jsx" out = .ok m' ∧
      (m.tree.at? [1, 0, 1]).map (·.kind) = some (.reference ⟨"b", .outside⟩) ∧
      (m'.tree.at? [1, 0, 1]).map (·.kind) = some .call ∧
      (m'.tree.at? [1, 0, 1, 0]).map (·.kind) = some (.reference ⟨"b", .outside⟩) ∧
      (m'.tree.at? [1, 0, 1, 1]).map (·.kind) = some (.reference ⟨"Foo", .scope 0⟩) := by
  have hread : ∃ m,
      Module.read "a.tsx" "function Foo(\x7bform\x7d)\x7b\x7dForm.create()<T>(Foo)".toList = .ok m ∧
      ((m.tree.subjectAt? [0]).bind Subject.component?).any (fun c => decide (
        ∃ r ∈ FormProp.check m {} c, (m.violation r).fix.any (fun set => decide (
          applyFixes m.text [some set] =
            ⟨"function Foo(\x7b\x7d)\x7b\nconst [form] = Form.useForm();\x7d<T>(Foo)".toList,
              1⟩)) = true)) = true :=
    exists_ok (by decide +kernel)
  have hfault : (Module.read "a.tsx"
      "function Foo(\x7b\x7d)\x7b\nconst [form] = Form.useForm();\x7d<T>(Foo)".toList).toOption =
        none := by decide +kernel
  have hjoined : ∃ m,
      Module.read "a.jsx"
        "function Foo(\x7bform\x7d)\x7b\x7d\nvar a=b\nForm.create()(Foo)".toList = .ok m ∧
      ((m.tree.subjectAt? [0]).bind Subject.component?).any (fun c => decide (
        ∃ r ∈ FormProp.check m {} c, (m.violation r).fix.any (fun set => decide (
          applyFixes m.text [some set] =
            ⟨("function Foo(\x7b\x7d)\x7b\nconst [form] = Form.useForm();\x7d" ++
              "\nvar a=b\n(Foo)").toList, 1⟩)) = true)) = true ∧
      (m.tree.at? [1, 0, 1]).map (·.kind) = some (.reference ⟨"b", .outside⟩) :=
    exists_ok (by decide +kernel)
  have hread' : ∃ m', Module.read "a.jsx"
      ("function Foo(\x7b\x7d)\x7b\nconst [form] = Form.useForm();\x7d" ++
        "\nvar a=b\n(Foo)").toList = .ok m' ∧
      (m'.tree.at? [1, 0, 1]).map (·.kind) = some .call ∧
      (m'.tree.at? [1, 0, 1, 0]).map (·.kind) = some (.reference ⟨"b", .outside⟩) ∧
      (m'.tree.at? [1, 0, 1, 1]).map (·.kind) = some (.reference ⟨"Foo", .scope 0⟩) :=
    exists_ok (by decide +kernel)
  constructor
  · obtain ⟨m, hm, hany⟩ := hread
    obtain ⟨c, hands, r, hr, hset⟩ := exists_component hany
    obtain ⟨set, hset, happlied⟩ := (Option.any_eq_true _ _).1 hset
    exact ⟨m, c, r, set, _, hm, hands, hr, hset, of_decide_eq_true happlied, rfl, hfault⟩
  · obtain ⟨m, hm, hany, hvalue⟩ := hjoined
    obtain ⟨m', hm', hrest⟩ := hread'
    obtain ⟨c, hands, r, hr, hset⟩ := exists_component hany
    obtain ⟨set, hset, happlied⟩ := (Option.any_eq_true _ _).1 hset
    exact ⟨m, c, r, set, _, m', hm, hands, hr, hset, of_decide_eq_true happlied, rfl, hm', hvalue,
      hrest⟩

end FormCodemod
