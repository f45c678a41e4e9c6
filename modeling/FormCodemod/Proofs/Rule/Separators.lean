import FormCodemod.Proofs.Module
import FormCodemod.Proofs.Rule.Edits
import FormCodemod.Proofs.Syntax.Gap

/-!
# Separators

A property is removed together with the comma behind it, which is looked for in the text alone. Where
the gap behind the property is plain, this comma is the one that the lexer reads next, and there is
none if it reads something else (`removal_of_plainGap`). The gap may be other than plain where a text
has U+FEFF or lines that do not end with `\n`, and then a later comma may be taken
(`not_removal_separator`).
-/

namespace FormCodemod

open FormCodemod.Syntax FormCodemod.Text

variable {m : Module} {span : Span} {gap behind rest : List Char} {p : Nat}

theorem Text.head?_leadingToken (text : List Char) : (leadingToken text).head? = text.head? := by
  cases text with
  | nil => rfl
  | cons c cs =>
    rw [leadingToken]
    split <;> rfl

namespace Module

/-- What the scan for separators leaves tells whether there is a comma, and where. -/
theorem commaAfter?_of_skipTrivia (h : dropBytes? span.stop m.text = some (gap ++ rest))
    (hskip : skipTrivia (gap ++ rest) = rest) :
    m.commaAfter? span = if rest.head? = some ',' then
      some ⟨span.stop + width gap, span.stop + width gap + 1⟩ else none := by
  have hwidth : width (gap ++ rest) - width rest = width gap := by
    rw [width_append, Nat.add_sub_cancel_right]
  have hdrop : dropBytes? (span.stop + width gap) m.text = some rest := by
    obtain ⟨before, htext, hbefore⟩ := dropBytes?_eq_some_iff.1 h
    rw [htext, ← hbefore, dropBytes?_width_add, dropBytes?_width]
  rw [commaAfter?, tokenAfter?, Text.tokenAfter?, h]
  dsimp only
  rw [hskip, hwidth, tokenAt?, hdrop]
  cases rest with
  | nil => rfl
  | cons c cs =>
    have hhead := head?_leadingToken (c :: cs)
    by_cases hc : c = ','
    · subst hc
      rfl
    · have hchars : leadingToken (c :: cs) ≠ [','] := by
        intro heq
        rw [heq] at hhead
        exact hc (Option.some_inj.1 hhead).symm
      rw [List.head?_cons, if_neg (mt Option.some_inj.1 hc)]
      simp [PlainToken.isChar, hchars]

/-- Behind a plain gap, the comma that goes with a span is the one that the lexer reads next, if it
    reads one. -/
theorem removal_of_plainGap {t : Token} (h : dropBytes? span.stop m.text = some behind)
    (ht : Token.read ⟨behind, span.stop⟩ = t) (hleaves : Input.Leaves ⟨behind, span.stop⟩ gap t.here)
    (hplain : PlainGap gap) :
    m.removal span =
      .delete span :: if t.kind = .punct .comma then [.delete t.span] else [] := by
  subst ht
  have hchars : behind = gap ++ _ := hleaves.chars
  rw [removal, commaAfter?_of_skipTrivia (hchars ▸ h) (hchars ▸ hleaves.skipTrivia_eq hplain)]
  by_cases hcomma : (Token.read ⟨behind, span.stop⟩).kind = .punct .comma
  · rw [if_pos (Token.kind_read_eq_comma_iff.1 hcomma), if_pos hcomma,
      Token.span_read_of_comma hcomma, hleaves.offset]
    rfl
  · rw [if_neg (mt Token.kind_read_eq_comma_iff.2 hcomma), if_neg hcomma]
    rfl

end Module

/-- Wherever a property stops, the lexer reads a token behind a gap. If the gap is plain, the comma
    that goes with the property is that token, and there is none if that is something else. In an
    ordinary text, the gaps in which the lexer finds no fault are plain. -/
theorem removal_separator (m : Module) (property : Span) (behind : List Char)
    (h : dropBytes? property.stop m.text = some behind) :
    let t := Token.read ⟨behind, property.stop⟩
    ∃ gap, Input.Leaves ⟨behind, property.stop⟩ gap t.here ∧
      (PlainGap gap → m.removal property =
        .delete property :: if t.kind = .punct .comma then [.delete t.span] else []) ∧
      (OrdinaryText m.text → (skipGap ⟨behind, property.stop⟩).1.fault = none →
        t.here.chars ≠ [] → PlainGap gap) := by
  intro t
  have ht : t.here = (skipGap ⟨behind, property.stop⟩).2 := Token.here_read _
  obtain ⟨gap, hleaves⟩ := skipGap_leaves ⟨behind, property.stop⟩
  refine ⟨gap, ht ▸ hleaves, Module.removal_of_plainGap h rfl (ht ▸ hleaves), ?_⟩
  intro htext hfault hend
  obtain ⟨ahead, hahead, -⟩ := dropBytes?_eq_some_iff.1 h
  rw [hahead] at htext
  exact hleaves.plainGap (htext.of_append ahead) hfault (ht ▸ hend)

/-- A line comment that `\r\n` ends does no harm, and neither does a comma in a comment. -/
theorem removal_separator_comments :
    let m : Module := ⟨"a//,\r\n/*,*/,b".toList, .mk .module ⟨0, 14⟩ []⟩
    m.removal ⟨0, 1⟩ = [.delete ⟨0, 1⟩, .delete ⟨11, 12⟩] := by
  intro m
  have hdrop : dropBytes? 1 m.text = some "//,\r\n/*,*/,b".toList := by decide
  obtain ⟨gap, hleaves, hremoval, -⟩ := removal_separator m ⟨0, 1⟩ _ hdrop
  have hplain : PlainGap "//,\r\n/*,*/".toList :=
    @PlainGap.lineComment [','] ['\r'] _ (List.forall_mem_singleton.2 (by decide))
      (List.forall_mem_singleton.2 (by decide)) (@PlainGap.blockComment [','] _ (by decide) .nil)
  have hchars : "//,\r\n/*,*/".toList ++ ",b".toList = gap ++ ",b".toList := hleaves.chars
  obtain rfl := List.append_cancel_right hchars
  rw [hremoval hplain]
  decide +kernel

/-- A line comment that `\r` ends: a comma behind a later property is taken. -/
theorem not_removal_separator :
    ¬∀ (filename : String) (source : List Char) (m : Module),
      Module.read filename source = .ok m → source.head? ≠ some '\ufeff' →
        ∀ pattern ∈ m.tree.preorder, pattern.kind = .objectPattern →
          ∀ property ∈ pattern.bareParts, ∀ behind,
            dropBytes? property.span.stop source = some behind →
              m.removal property.span = .delete property.span ::
                if (Token.read ⟨behind, property.span.stop⟩).kind = .punct .comma then
                  [.delete (Token.read ⟨behind, property.span.stop⟩).span] else [] := by
  intro h
  have hread : ∃ m,
      Module.read "a.jsx" "const\x7bgetFieldDecorator//\r,a\n,b\x7d=form".toList = .ok m ∧
        (∃ pattern ∈ m.tree.preorder, pattern.kind = .objectPattern ∧
          ∃ property ∈ pattern.bareParts, property.span = ⟨6, 23⟩) ∧
        m.removal ⟨6, 23⟩ = [.delete ⟨6, 23⟩, .delete ⟨29, 30⟩] :=
    exists_ok (by decide +kernel)
  obtain ⟨m, hm, ⟨pattern, hpattern, hkind, property, hproperty, hspan⟩, hremoval⟩ := hread
  have hclaim := h _ _ m hm (by decide) pattern hpattern hkind property hproperty
  rw [hspan, hremoval] at hclaim
  exact absurd (hclaim "//\r,a\n,b\x7d=form".toList (by decide +kernel)) (by decide +kernel)

end FormCodemod
