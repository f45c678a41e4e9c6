import FormCodemod.Proofs.Rule.Decorated
import FormCodemod.Proofs.Syntax.StringScan

/-!
# What names a field

The name of a field becomes an attribute of the element around it. A string literal is written in
braces if there is a backslash in it, and as it stands if there is none. In braces it is an
expression as before. As it stands, it is a string of markup: it has no escapes there, which is why
backslashes are looked for, but a character may be named in it, which is not looked for. So the
field has the name that it had, unless its literal has no backslash and names a character
(`name_denotes`, `not_name_denotes`).
-/

namespace FormCodemod

open FormCodemod.Syntax FormCodemod.Text

namespace FieldDecorator

variable {m : Module} {name : Node} {settings : List Node} {attributes : List Attribute}
  {value text : List Char} {units : List Nat}

/-- The name comes first among the settings, and its attribute first among theirs. -/
theorem Settings.exists_name (h : Settings m settings attributes) :
    ∃ name more value rest, settings = name :: more ∧ NameValue m name value ∧
      attributes = ⟨"name", value⟩ :: rest := by
  cases h with
  | name hvalue => exact ⟨_, _, _, _, rfl, hvalue, rfl⟩
  | options hvalue => exact ⟨_, _, _, _, rfl, hvalue, rfl⟩

/-- A string literal is put in braces if there is a backslash in it. -/
theorem NameValue.eq_of_string {literal : String} (h : NameValue m name value)
    (hkind : name.kind = .string literal) :
    value = m.slice name.span ∧ '\\' ∉ m.slice name.span ∨
      value = braced (m.slice name.span) ∧ '\\' ∈ m.slice name.span := by
  cases h with
  | string _ hmem => exact .inl ⟨rfl, hmem⟩
  | escaped _ hmem => exact .inr ⟨rfl, hmem⟩
  | expression _ hstring => exact absurd hkind (hstring literal)

/-- What is written for a string literal stands for the same, unless the literal stays as it is and
    names a character. -/
theorem attributeValue?_written_iff {resolve : List Char → Option Char}
    (hresolve : resolve [] = none) (hunits : literalValue? text = some units)
    (h : value = text ∧ '\\' ∉ text ∨ value = braced text ∧ '\\' ∈ text) :
    attributeValue? resolve value = some units ↔ '\\' ∈ text ∨ ¬HasReference resolve text := by
  rcases h with ⟨rfl, hmem⟩ | ⟨rfl, hmem⟩
  · rw [attributeValue?_eq_iff hresolve hunits hmem, or_iff_right hmem]
  · rw [braced, attributeValue?_braces, hunits]
    exact iff_of_true rfl (.inl hmem)

end FieldDecorator

open FieldDecorator

/-- The fix puts the attribute `name` first among the new ones. For a string literal, this is the
    literal in braces if there is a backslash in it, and the literal as it stands otherwise. The
    attribute stands for the same string as the literal just if there is a backslash in it or no
    character named in it. Every literal that the lexer reads stands for some string. -/
theorem name_denotes (resolve : List Char → Option Char) (hresolve : resolve [] = none) (m : Module)
    (config : Config) (span : Span) (opening : Node) (children : List Node) (r : Report)
    (set : EditSet) (hr : r ∈ FieldDecorator.check m config span opening children)
    (hset : (m.violation r).fix = some set) :
    ∃ d name more value rest, IsOnly config children d ∧ d.settings = name :: more ∧
      .replace ⟨opening.span.stop - 1, opening.span.stop⟩
        ((⟨"name", value⟩ : Attribute).written ++ rest) ∈ set.edits ∧
      ∀ literal, name.kind = .string literal → m.slice name.span = literal.toList →
        (value = literal.toList ∧ '\\' ∉ literal.toList ∨
          value = braced literal.toList ∧ '\\' ∈ literal.toList) ∧
        (∀ units, literalValue? literal.toList = some units →
          (attributeValue? resolve value = some units ↔
            '\\' ∈ literal.toList ∨ ¬HasReference resolve literal.toList)) ∧
        (IsReadString literal → ∃ units, literalValue? literal.toList = some units ∧
          (attributeValue? resolve value = some units ↔
            '\\' ∈ literal.toList ∨ ¬HasReference resolve literal.toList)) := by
  obtain ⟨d, element, attributes, honly, hrewritable, hlist⟩ := exists_rewritable hr hset
  obtain ⟨name, more, value, rest, hsettings, hvalue, rfl⟩ := hrewritable.settings.exists_name
  have hmem := (EditSet.laysOut_of_ofList hlist).perm.mem_iff.2 List.mem_cons_self
  rw [List.flatMap_cons, List.append_assoc] at hmem
  refine ⟨d, name, more, value, _, honly, hsettings, hmem, fun literal hkind hslice => ?_⟩
  have hwritten := hvalue.eq_of_string hkind
  rw [hslice] at hwritten
  refine ⟨hwritten, fun units hunits => attributeValue?_written_iff hresolve hunits hwritten,
    fun hread => ?_⟩
  obtain ⟨units, hunits⟩ := Option.isSome_iff_exists.1 hread.isSome_literalValue?
  exact ⟨units, hunits, attributeValue?_written_iff hresolve hunits hwritten⟩

/-- A string with an ampersand that begins no name. -/
theorem name_denotes_ampersand :
    ∃ m span opening children r set value rest,
      Module.read "a.jsx" "<I>\x7bgetFieldDecorator('a&b;')(<b/>)\x7d</I>".toList = .ok m ∧
        Hands m.tree [0, 0] (.element span opening children) ∧
        r ∈ FieldDecorator.check m {} span opening children ∧ (m.violation r).fix = some set ∧
        .replace ⟨opening.span.stop - 1, opening.span.stop⟩
          ((⟨"name", value⟩ : Attribute).written ++ rest) ∈ set.edits ∧
        value = "'a&b;'".toList ∧
        attributeValue? ampersand? value = some (utf16 "a&b;".toList) := by
  have hread : ∃ m,
      Module.read "a.jsx" "<I>\x7bgetFieldDecorator('a&b;')(<b/>)\x7d</I>".toList = .ok m ∧
        ((m.tree.subjectAt? [0, 0]).bind Subject.element?).any
          (fun e : Span × Node × List Node => decide (
            (∃ r ∈ FieldDecorator.check m {} e.1 e.2.1 e.2.2, (m.violation r).fix.isSome) ∧
            ∀ d ∈ e.2.2.filterMap (Decoration.ofChild? {}), ∀ n ∈ d.settings,
              n.kind = .string "'a&b;'" ∧ m.slice n.span = "'a&b;'".toList)) = true :=
    exists_ok (by decide +kernel)
  obtain ⟨m, hm, hany⟩ := hread
  obtain ⟨span, opening, children, hands, ⟨r, hr, hsome⟩, hname⟩ := exists_element hany
  obtain ⟨set, hset⟩ := Option.isSome_iff_exists.1 hsome
  obtain ⟨d, name, more, value, rest, honly, hsettings, hmem, hdenotes⟩ :=
    name_denotes ampersand? rfl m {} span opening children r set hr hset
  obtain ⟨hkind, hslice⟩ := hname d
    (filterMap_ofChild?_eq_singleton_iff.2 honly ▸ List.mem_singleton_self d) name
    (hsettings ▸ List.mem_cons_self)
  obtain ⟨hwritten, -, hread⟩ := hdenotes _ hkind hslice
  obtain ⟨rfl, -⟩ := hwritten.resolve_right fun h => absurd h.2 (by decide)
  obtain ⟨units, hunits, hiff⟩ := hread ⟨⟨"'a&b;'".toList, 0⟩, by decide, by decide⟩
  cases hunits
  refine ⟨m, span, opening, children, r, set, _, rest, hm, hands, hr, hset, hmem, rfl, ?_⟩
  exact hiff.2 (.inr (by decide))

/-- A string in which the ampersand is named stays as it is, and stands for another one there. -/
theorem not_name_denotes :
    ∃ m span opening children r set d name,
      Module.read "a.jsx" "<I>\x7bgetFieldDecorator(\"a&amp;b\")(<b/>)\x7d</I>".toList = .ok m ∧
        Hands m.tree [0, 0] (.element span opening children) ∧
        r ∈ FieldDecorator.check m {} span opening children ∧ (m.violation r).fix = some set ∧
        IsOnly {} children d ∧ d.settings = [name] ∧ name.kind = .string "\"a&amp;b\"" ∧
        .replace ⟨2, 3⟩ " name=\"a&amp;b\">".toList ∈ set.edits ∧
        literalValue? "\"a&amp;b\"".toList = some (utf16 "a&amp;b".toList) ∧
        attributeValue? ampersand? "\"a&amp;b\"".toList = some (utf16 "a&b".toList) := by
  have hread : ∃ m,
      Module.read "a.jsx" "<I>\x7bgetFieldDecorator(\"a&amp;b\")(<b/>)\x7d</I>".toList = .ok m ∧
        ((m.tree.subjectAt? [0, 0]).bind Subject.element?).any
          (fun e : Span × Node × List Node => decide (
            (∃ r ∈ FieldDecorator.check m {} e.1 e.2.1 e.2.2,
              ((m.violation r).fix.any fun set =>
                set.edits.contains (.replace ⟨2, 3⟩ " name=\"a&amp;b\">".toList)) = true) ∧
            (e.2.2.filterMap (Decoration.ofChild? {})).length = 1 ∧
            ∀ d ∈ e.2.2.filterMap (Decoration.ofChild? {}),
              d.settings.map (·.kind) = [.string "\"a&amp;b\""])) = true :=
    exists_ok (by decide +kernel)
  obtain ⟨m, hm, hany⟩ := hread
  obtain ⟨span, opening, children, hands, ⟨r, hr, hfix⟩, hsole, hname⟩ := exists_element hany
  obtain ⟨set, hset, hedit⟩ := (Option.any_eq_true _ _).1 hfix
  obtain ⟨d, hd⟩ := List.length_eq_one_iff.1 hsole
  obtain ⟨name, hsettings, hkind⟩ :=
    List.map_eq_singleton_iff.1 (hname d (hd ▸ List.mem_singleton_self d))
  exact ⟨m, span, opening, children, r, set, d, name, hm, hands, hr, hset,
    filterMap_ofChild?_eq_singleton_iff.1 hd, hsettings, hkind, List.contains_iff_mem.1 hedit, rfl,
    rfl⟩

end FormCodemod
