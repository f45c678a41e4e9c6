import FormCodemod.Proofs.Syntax.Spans

/-!
# Layout

A tree is *laid out* in a text if its nodes stand to each other there as they do in the tree
(`Node.LaidOut`): parts lie inside the node around them, and nodes in different parts of a node
share no text. There are two exceptions. The types of a pattern stand behind it, so that types need
not lie inside the node that they are a part of. And the span of a function or a class covers its
name, which is not a part of it.

Besides, some nodes stand in a certain order or behind something: the properties of a pattern, the
parts of an element, the parameters ahead of a body, and all that is in a block behind its brace.
-/

namespace FormCodemod

/-- The span lies inside another one. -/
def Span.Within (s t : Span) : Prop :=
  t.start ≤ s.start ∧ s.stop ≤ t.stop

instance (s t : Span) : Decidable (s.Within t) :=
  inferInstanceAs (Decidable (_ ∧ _))

theorem Span.within_refl (s : Span) : s.Within s :=
  ⟨Nat.le_refl _, Nat.le_refl _⟩

theorem Span.Within.trans {s t u : Span} (h : s.Within t) (h' : t.Within u) : s.Within u :=
  ⟨Nat.le_trans h'.1 h.1, Nat.le_trans h.2 h'.2⟩

namespace Syntax.Node

/-- The span of the node covers its name, though that stands ahead of the node in the tree. -/
def coversName (n : Node) : Bool :=
  match n.kind with
  | .function _ _ | .classDefinition => true
  | _ => false

/-- Two nodes share text only if one of them is inside the other, in the tree and in the text, but
    for what is covered as the name of one. -/
def Nested (tree : Node) : Prop :=
  ∀ path ∈ tree.paths, ∀ path' ∈ tree.paths, ∀ n ∈ tree.at? path, ∀ n' ∈ tree.at? path',
    n.span.overlaps n'.span →
      path <+: path' ∧ n'.span.Within n.span ∨ path' <+: path ∧ n.span.Within n'.span ∨
        ¬path <+: path' ∧ ¬path' <+: path ∧ (n.coversName ∨ n'.coversName)

instance (tree : Node) : Decidable tree.Nested :=
  inferInstanceAs (Decidable (∀ path ∈ _, ∀ path' ∈ _, ∀ n ∈ tree.at? path, ∀ n' ∈ _, _))

/-- The nodes stand to each other in the text as they do in the tree. -/
structure LaidOut (text : List Char) (tree : Node) : Prop where
  fit : tree.SpansFit text
  nested : tree.Nested
  /-- Parts lie inside the node around them. -/
  inside : ∀ n ∈ tree.preorder, ∀ p ∈ n.bareParts, p.span.Within n.span
  /-- The properties of a pattern take up text, and none begins before one ahead of it ends. -/
  properties : ∀ n ∈ tree.preorder, n.kind = .objectPattern →
    (∀ p ∈ n.bareParts, p.span.start < p.span.stop) ∧
      n.bareParts.Pairwise fun p q => p.span.stop ≤ q.span.start
  /-- No part of an element begins before one ahead of it ends. -/
  elements : ∀ n ∈ tree.preorder, n.kind = .jsxElement →
    n.parts.Pairwise fun p q => p.span.stop ≤ q.span.start
  /-- A body stands behind all parameters. -/
  body : ∀ n ∈ tree.preorder, ∀ p ∈ n.parts, ∀ b ∈ n.parts, p.kind = .parameter → b.kind = .block →
    p.span.stop ≤ b.span.start
  /-- A block takes up text, and all that is in it stands behind its brace. -/
  braces : ∀ b ∈ tree.preorder, b.kind = .block →
    b.span.start < b.span.stop ∧
      ∀ p ∈ b.parts, ∀ n ∈ p.preorder, b.span.start < n.span.start

instance (text : List Char) (tree : Node) : Decidable (tree.LaidOut text) :=
  decidable_of_iff
    (tree.SpansFit text ∧ tree.Nested ∧
      (∀ n ∈ tree.preorder, ∀ p ∈ n.bareParts, p.span.Within n.span) ∧
      (∀ n ∈ tree.preorder, n.kind = .objectPattern →
        (∀ p ∈ n.bareParts, p.span.start < p.span.stop) ∧
          n.bareParts.Pairwise fun p q => p.span.stop ≤ q.span.start) ∧
      (∀ n ∈ tree.preorder, n.kind = .jsxElement →
        n.parts.Pairwise fun p q => p.span.stop ≤ q.span.start) ∧
      (∀ n ∈ tree.preorder, ∀ p ∈ n.parts, ∀ b ∈ n.parts, p.kind = .parameter → b.kind = .block →
        p.span.stop ≤ b.span.start) ∧
      ∀ b ∈ tree.preorder, b.kind = .block →
        b.span.start < b.span.stop ∧
          ∀ p ∈ b.parts, ∀ n ∈ p.preorder, b.span.start < n.span.start)
    ⟨fun ⟨h₁, h₂, h₃, h₄, h₅, h₆, h₇⟩ => ⟨h₁, h₂, h₃, h₄, h₅, h₆, h₇⟩,
      fun ⟨h₁, h₂, h₃, h₄, h₅, h₆, h₇⟩ => ⟨h₁, h₂, h₃, h₄, h₅, h₆, h₇⟩⟩

namespace LaidOut

variable {text : List Char} {tree n n' function b : Node} {path path' : List Nat}

/-- What is inside a node in the tree is so in the text, if it shares text with it at all. -/
theorem within_of_overlaps (hlaid : tree.LaidOut text) (h : tree.at? path = some n)
    (h' : tree.at? path' = some n') (hle : path <+: path') (hover : n.span.overlaps n'.span) :
    n'.span.Within n.span := by
  rcases hlaid.nested path (mem_paths_of_at? h) path' (mem_paths_of_at? h') n h n' h' hover with
    ⟨-, hwithin⟩ | ⟨hge, hwithin⟩ | ⟨hnle, -⟩
  · exact hwithin
  · cases hle.eq_of_length_le hge.length_le
    cases h.symm.trans h'
    exact hwithin
  · exact absurd hle hnle

/-- A call that reaches over the brace of a function's body lies around the function. -/
theorem function_within (hlaid : tree.LaidOut text) (hfunction : function ∈ tree.preorder)
    (hb : b ∈ function.parts) (hblock : b.kind = .block) (hn : n ∈ tree.preorder)
    (hcall : n.kind = .call) (hstart : n.span.start ≤ b.span.start)
    (hstop : b.span.start < n.span.stop) : function.span.Within n.span := by
  have hmem := mem_preorder_of_mem_parts hfunction hb
  obtain ⟨hsolid, hbehind⟩ := hlaid.braces b hmem hblock
  obtain ⟨hinside, hinside'⟩ :=
    hlaid.inside function hfunction b (mem_bareParts_iff.2 ⟨hb, by rw [hblock]; exact nofun⟩)
  obtain ⟨path, hat⟩ := mem_preorder_iff.1 hfunction
  obtain ⟨path', hat'⟩ := mem_preorder_iff.1 hn
  obtain ⟨i, hi⟩ := List.mem_iff_getElem?.1 hb
  have hatb := at?_append_singleton hat hi
  have hne : n ≠ b := by
    rintro rfl
    cases hcall.symm.trans hblock
  have hover : n.span.overlaps b.span := Span.overlaps_iff.2 (by omega)
  rcases hlaid.nested _ (mem_paths_of_at? hat') _ (mem_paths_of_at? hatb) n hat' b hatb hover with
    ⟨hle, -⟩ | ⟨⟨rest, rfl⟩, -⟩ | ⟨-, -, hname⟩
  · -- The call lies around the body, and is not the body itself.
    rcases List.prefix_concat_iff.1 hle with rfl | hle
    · exact absurd (Option.some.inj (hat'.symm.trans hatb)) hne
    · exact hlaid.within_of_overlaps hat' hat hle (Span.overlaps_iff.2 (by omega))
  · -- What is in the body does not begin before its brace ends.
    rw [at?_append, hatb, Option.bind_some] at hat'
    cases rest with
    | nil => exact absurd (Option.some.inj hat').symm hne
    | cons j rest =>
      rw [at?_cons] at hat'
      obtain ⟨p, hp, hat'⟩ := Option.bind_eq_some_iff.1 hat'
      have := hbehind p (List.mem_of_getElem? hp) n (mem_preorder_of_at? hat')
      omega
  · simp [coversName, hcall, hblock] at hname

end LaidOut

end Syntax.Node

end FormCodemod
