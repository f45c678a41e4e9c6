import FormCodemod.Rule.FieldDecorator
import FormCodemod.Syntax.Lexer
import Mathlib.Data.List.Basic
import Mathlib.Data.List.TakeWhile

/-!
# What strings stand for

The same characters in quotes stand for one string in an expression and for another one in markup.
In an expression a backslash begins an escape, and all else stands for itself (`literalValue?`). In
markup, a backslash stands for itself, and a name between `&` and `;` may stand for another
character (`attributeValue?`). Which names do so is up to who reads the markup (`resolve`).

A character that is named takes fewer code units than its name with the `&` and the `;` does. So
without escapes, the two agree on a string just if there is no such name in it
(`attributeValue?_eq_iff`).
-/

namespace FormCodemod.Syntax

/-- The code units of UTF-16 for a code point. -/
def codeUnits (point : Nat) : List Nat :=
  if point < 0x10000 then [point]
  else [0xD800 + (point - 0x10000) / 0x400, 0xDC00 + (point - 0x10000) % 0x400]

/-- A text in UTF-16. -/
def utf16 (text : List Char) : List Nat :=
  text.flatMap fun c => codeUnits c.toNat

/-! ### Strings of expressions -/

/-- What stands behind a backslash: the code units that it stands for, and the number of characters
    that it takes. A line break stands for nothing. -/
def escapeValue? : List Char → Option (List Nat × Nat)
  | [] => none
  | 'b' :: _ => some ([8], 1)
  | 't' :: _ => some ([9], 1)
  | 'n' :: _ => some ([10], 1)
  | 'v' :: _ => some ([11], 1)
  | 'f' :: _ => some ([12], 1)
  | 'r' :: _ => some ([13], 1)
  | 'x' :: a :: b :: _ => (hexValue? [a, b]).map fun n => ([n], 3)
  | 'u' :: '{' :: cs =>
    let digits := cs.takeWhile (· ≠ '}')
    if digits.isEmpty || digits.length = cs.length then none
    else ((hexValue? digits).filter (· ≤ 0x10FFFF)).map fun n => (codeUnits n, digits.length + 3)
  | 'u' :: a :: b :: c :: d :: _ => (hexValue? [a, b, c, d]).map fun n => ([n], 5)
  | 'x' :: _ | 'u' :: _ => none
  | '\r' :: '\n' :: _ => some ([], 2)
  | c :: cs =>
    if c = '\n' || c = '\r' || c = '\u2028' || c = '\u2029' then some ([], 1)
    else if ('1' ≤ c && c ≤ '7') || (c = '0' && cs.head?.any Char.isDigit) then none
    else some (if c = '0' then [0] else codeUnits c.toNat, 1)

/-- What the rest of a string stands for, up to the quote that ends it, where so many characters
    belong to an escape that has been read. -/
def restValue? (quote : Char) : Nat → List Char → Option (List Nat)
  | _, [] => none
  | n + 1, _ :: cs => restValue? quote n cs
  | 0, c :: cs =>
    if c = quote then if cs.isEmpty then some [] else none
    else if c = '\\' then
      (escapeValue? cs).bind fun r => (restValue? quote r.2 cs).map (r.1 ++ ·)
    else if c = '\n' || c = '\r' then none
    else (restValue? quote 0 cs).map (codeUnits c.toNat ++ ·)

/-- What a string literal of an expression stands for, in UTF-16. -/
def literalValue? : List Char → Option (List Nat)
  | quote :: cs => if quote = '"' || quote = '\'' then restValue? quote 0 cs else none
  | [] => none

/-! ### Strings of markup -/

section

variable (resolve : List Char → Option Char)

/-- The character that a name stands for which a `;` ends, and the number of characters that this
    takes. -/
def referenceAt? (cs : List Char) : Option (Char × Nat) :=
  let name := cs.takeWhile (· ≠ ';')
  if name.length < cs.length then (resolve name).map (·, name.length + 1) else none

/-- The text with the characters that are named in it, where so many of the first characters belong
    to a name that has been read. -/
def decoded : Nat → List Char → List Char
  | _, [] => []
  | n + 1, _ :: cs => decoded n cs
  | 0, c :: cs =>
    if c = '&' then
      match referenceAt? resolve cs with
      | some r => r.1 :: decoded r.2 cs
      | none => c :: decoded 0 cs
    else c :: decoded 0 cs

/-- Somewhere in the text a character is named. -/
def HasReference (text : List Char) : Prop :=
  ∃ before name behind c, text = before ++ '&' :: (name ++ ';' :: behind) ∧ ';' ∉ name ∧
    resolve name = some c

/-- What the value of an attribute stands for, in UTF-16: a string, with the characters that are
    named in it, or a string literal in braces. -/
def attributeValue? : List Char → Option (List Nat)
  | '{' :: cs => if cs.getLast? = some '}' then literalValue? cs.dropLast else none
  | quote :: cs =>
    if (quote = '"' || quote = '\'') && cs.idxOf quote + 1 = cs.length then
      some (utf16 (decoded resolve 0 cs.dropLast))
    else none
  | [] => none

end

/-- The name of the ampersand, as the only one. -/
def ampersand? (name : List Char) : Option Char :=
  if name = ['a', 'm', 'p'] then some '&' else none

variable {resolve : List Char → Option Char} {cs text body front : List Char} {quote c : Char}
  {n : Nat} {value : List Nat}

theorem utf16_cons (c : Char) (cs : List Char) :
    utf16 (c :: cs) = codeUnits c.toNat ++ utf16 cs := by
  rw [utf16, List.flatMap_cons, utf16]

theorem length_codeUnits (point : Nat) :
    1 ≤ (codeUnits point).length ∧ (codeUnits point).length ≤ 2 := by
  rw [codeUnits]
  split
  · exact ⟨Nat.le_refl 1, Nat.le_succ 1⟩
  · exact ⟨Nat.le_succ 1, Nat.le_refl 2⟩

theorem utf16_append (s t : List Char) : utf16 (s ++ t) = utf16 s ++ utf16 t :=
  List.flatMap_append

theorem length_le_utf16 (text : List Char) : text.length ≤ (utf16 text).length := by
  induction text with
  | nil => exact Nat.le_refl 0
  | cons c cs ih =>
    have := (length_codeUnits c.toNat).1
    rw [utf16_cons, List.length_cons, List.length_append]
    omega

/-! ### Strings without escapes -/

/-- What stands in quotes without escapes stands for itself. -/
theorem exists_of_restValue? (h : restValue? quote 0 cs = some value) (hcs : '\\' ∉ cs) :
    ∃ body, cs = body ++ [quote] ∧ quote ∉ body ∧ value = utf16 body := by
  induction cs generalizing value with
  | nil => cases h
  | cons c cs ih =>
    rw [List.mem_cons, not_or] at hcs
    rw [restValue?] at h
    split at h
    case isTrue hquote =>
      split at h
      case isTrue hempty =>
        cases h
        rw [List.isEmpty_iff.1 hempty, hquote]
        exact ⟨[], rfl, List.not_mem_nil, rfl⟩
      case isFalse => cases h
    case isFalse hquote =>
      rw [if_neg fun heq => hcs.1 heq.symm] at h
      split at h
      case isTrue => cases h
      case isFalse =>
        obtain ⟨rest, hrest, rfl⟩ := Option.map_eq_some_iff.1 h
        obtain ⟨body, rfl, hbody, rfl⟩ := ih hrest hcs.2
        refine ⟨c :: body, rfl, ?_, by rw [utf16_cons]⟩
        rw [List.mem_cons, not_or]
        exact ⟨fun heq => hquote heq.symm, hbody⟩

/-- A string literal without escapes, its two readings side by side. -/
theorem exists_of_literalValue? (resolve : List Char → Option Char)
    (h : literalValue? text = some value) (htext : '\\' ∉ text) :
    ∃ quote body, (quote = '"' ∨ quote = '\'') ∧ text = quote :: (body ++ [quote]) ∧
      value = utf16 body ∧
      attributeValue? resolve text = some (utf16 (decoded resolve 0 body)) := by
  cases text with
  | nil => cases h
  | cons quote cs =>
    rw [literalValue?] at h
    split at h
    case isTrue hquote =>
      have hquote : quote = '"' ∨ quote = '\'' := by simpa using hquote
      obtain ⟨body, rfl, hbody, rfl⟩ :=
        exists_of_restValue? h fun hmem => htext (List.mem_cons_of_mem _ hmem)
      refine ⟨quote, body, hquote, rfl, rfl, ?_⟩
      rcases hquote with rfl | rfl
      · simp [attributeValue?, List.idxOf_append_of_notMem hbody]
      · simp [attributeValue?, List.idxOf_append_of_notMem hbody]
    case isFalse => cases h

/-- A string literal in braces stands for the same as without. -/
theorem attributeValue?_braces (resolve : List Char → Option Char) (text : List Char) :
    attributeValue? resolve ('{' :: text ++ ['}']) = literalValue? text := by
  rw [List.cons_append, attributeValue?, if_pos List.getLast?_concat, List.dropLast_concat]

/-! ### Named characters -/

theorem takeWhile_ne_append (h : c ∉ front) (behind : List Char) :
    (front ++ c :: behind).takeWhile (· ≠ c) = front := by
  rw [List.takeWhile_append_of_pos fun d hd => by simpa using ne_of_mem_of_not_mem hd h,
    List.takeWhile_cons_of_neg (by simp), List.append_nil]

/-- A text that is not all ahead of a character goes on with the character. -/
theorem exists_of_length_takeWhile_lt (h : (cs.takeWhile (· ≠ c)).length < cs.length) :
    c ∉ cs.takeWhile (· ≠ c) ∧ ∃ behind, cs = cs.takeWhile (· ≠ c) ++ c :: behind := by
  refine ⟨fun hmem => by simpa using List.mem_takeWhile_imp hmem, ?_⟩
  have hsplit := cs.takeWhile_append_dropWhile (p := (· ≠ c))
  cases hdrop : cs.dropWhile (· ≠ c) with
  | nil =>
    rw [hdrop, List.append_nil] at hsplit
    rw [hsplit] at h
    exact absurd h (Nat.lt_irrefl _)
  | cons d behind =>
    have hhead := cs.head?_dropWhile_not (· ≠ c)
    rw [hdrop] at hhead hsplit
    obtain rfl : d = c := by simpa using hhead
    exact ⟨behind, hsplit.symm⟩

theorem referenceAt?_eq_some_iff :
    referenceAt? resolve cs = some (c, n) ↔
      ∃ name behind, cs = name ++ ';' :: behind ∧ ';' ∉ name ∧ resolve name = some c ∧
        n = name.length + 1 := by
  constructor
  · intro h
    rw [referenceAt?] at h
    split at h
    case isTrue hlt =>
      obtain ⟨_, hc, heq⟩ := Option.map_eq_some_iff.1 h
      cases heq
      obtain ⟨hname, behind, hcs⟩ := exists_of_length_takeWhile_lt hlt
      exact ⟨_, behind, hcs, hname, hc, rfl⟩
    case isFalse => cases h
  · rintro ⟨name, behind, rfl, hname, hc, rfl⟩
    have hlt : name.length < (name ++ ';' :: behind).length := by simp
    rw [referenceAt?, takeWhile_ne_append hname, if_pos hlt, hc, Option.map_some]

/-- A named character takes fewer code units than its name with the `&` and the `;`. -/
theorem length_utf16_drop (hresolve : resolve [] = none)
    (h : referenceAt? resolve cs = some (c, n)) :
    (codeUnits c.toNat).length + (utf16 (cs.drop n)).length < 1 + (utf16 cs).length := by
  obtain ⟨name, behind, rfl, -, hc, rfl⟩ := referenceAt?_eq_some_iff.1 h
  have hname : 0 < name.length := by
    cases name with
    | nil => exact absurd hc (hresolve ▸ nofun)
    | cons => exact Nat.succ_pos _
  have hdrop : (name ++ ';' :: behind).drop (name.length + 1) = behind := by
    simp
  have hunits := (length_codeUnits c.toNat).2
  have hsemicolon := (length_codeUnits ';'.toNat).1
  have := length_le_utf16 name
  rw [hdrop, utf16_append, utf16_cons, List.length_append, List.length_append]
  omega

theorem length_decoded_le (hresolve : resolve [] = none) (n : Nat) (cs : List Char) :
    (utf16 (decoded resolve n cs)).length ≤ (utf16 (cs.drop n)).length := by
  induction cs generalizing n with
  | nil => rw [decoded, List.drop_nil]
  | cons c cs ih =>
    cases n with
    | succ n =>
      rw [decoded, List.drop_succ_cons]
      exact ih n
    | zero =>
      have hunits := (length_codeUnits c.toNat).1
      have hplain := ih 0
      rw [List.drop_zero] at hplain ⊢
      rw [decoded, utf16_cons, List.length_append]
      split
      case isTrue =>
        split
        case h_1 r hr =>
          -- Reading goes on behind the name, so the induction is used there.
          have hskipped := ih r.2
          have := length_utf16_drop hresolve hr
          rw [utf16_cons, List.length_append]
          omega
        case h_2 =>
          rw [utf16_cons, List.length_append]
          omega
      case isFalse =>
        rw [utf16_cons, List.length_append]
        omega

theorem hasReference_cons_iff :
    HasReference resolve (c :: cs) ↔
      c = '&' ∧ (referenceAt? resolve cs).isSome ∨ HasReference resolve cs := by
  constructor
  · rintro ⟨before, name, behind, d, htext, hname, hd⟩
    cases before with
    | nil =>
      obtain ⟨rfl, rfl⟩ := List.cons.inj htext
      rw [referenceAt?_eq_some_iff.2 ⟨name, behind, rfl, hname, hd, rfl⟩]
      exact .inl ⟨rfl, rfl⟩
    | cons b before =>
      obtain ⟨-, rfl⟩ := List.cons.inj htext
      exact .inr ⟨before, name, behind, d, rfl, hname, hd⟩
  · rintro (⟨rfl, hsome⟩ | ⟨before, name, behind, d, rfl, hname, hd⟩)
    · obtain ⟨⟨d, n⟩, h⟩ := Option.isSome_iff_exists.1 hsome
      obtain ⟨name, behind, rfl, hname, hd, -⟩ := referenceAt?_eq_some_iff.1 h
      exact ⟨[], name, behind, d, rfl, hname, hd⟩
    · exact ⟨c :: before, name, behind, d, rfl, hname, hd⟩

theorem not_hasReference_nil : ¬HasReference resolve [] := by
  rintro ⟨before, name, behind, c, htext, -⟩
  cases before with
  | nil => cases htext
  | cons => cases htext

instance HasReference.decidable (resolve : List Char → Option Char) :
    DecidablePred (HasReference resolve)
  | [] => isFalse not_hasReference_nil
  | _ :: cs =>
    haveI := HasReference.decidable resolve cs
    decidable_of_iff' _ hasReference_cons_iff

theorem length_decoded_lt (hresolve : resolve [] = none) (h : HasReference resolve cs) :
    (utf16 (decoded resolve 0 cs)).length < (utf16 cs).length := by
  induction cs with
  | nil => exact absurd h not_hasReference_nil
  | cons c cs ih =>
    have hunits := (length_codeUnits c.toNat).1
    rw [hasReference_cons_iff] at h
    rw [decoded, utf16_cons, List.length_append]
    split
    case isTrue =>
      split
      case h_1 r hr =>
        -- A name is read here: this makes it shorter, and nothing behind it makes up for that.
        have := length_decoded_le hresolve r.2 cs
        have := length_utf16_drop hresolve hr
        rw [utf16_cons, List.length_append]
        omega
      case h_2 hnone =>
        have := ih (h.resolve_left fun ⟨_, hsome⟩ => by rw [hnone] at hsome; cases hsome)
        rw [utf16_cons, List.length_append]
        omega
    case isFalse hne =>
      have := ih (h.resolve_left fun ⟨heq, _⟩ => hne heq)
      rw [utf16_cons, List.length_append]
      omega

theorem decoded_eq_self (h : ¬HasReference resolve cs) : decoded resolve 0 cs = cs := by
  induction cs with
  | nil => rfl
  | cons c cs ih =>
    rw [hasReference_cons_iff, not_or] at h
    rw [decoded, ih h.2]
    split
    case isTrue heq =>
      split
      case h_1 r hr => exact absurd ⟨heq, Option.isSome_of_eq_some hr⟩ h.1
      case h_2 => rfl
    case isFalse => rfl

/-- Quotes name nothing. -/
theorem hasReference_quoted_iff (hquote : quote = '"' ∨ quote = '\'') :
    HasReference resolve (quote :: (body ++ [quote])) ↔ HasReference resolve body := by
  have hamp : quote ≠ '&' := by rcases hquote with rfl | rfl <;> decide
  have hsemicolon : quote ≠ ';' := by rcases hquote with rfl | rfl <;> decide
  rw [hasReference_cons_iff, or_iff_right fun h => hamp h.1]
  constructor
  · rintro ⟨before, name, behind, c, htext, hname, hc⟩
    -- The `;` is ahead of the closing quote.
    rcases List.eq_nil_or_concat behind with rfl | ⟨behind, d, rfl⟩
    · have hlast : (body ++ [quote]).getLast? = ((before ++ '&' :: name) ++ [';']).getLast? := by
        simp [htext]
      rw [List.getLast?_concat, List.getLast?_concat] at hlast
      exact absurd (Option.some_inj.1 hlast) hsemicolon
    · have hbody : body ++ [quote] = before ++ '&' :: (name ++ ';' :: behind) ++ [d] := by
        simpa using htext
      exact ⟨before, name, behind, c, (List.append_inj' hbody rfl).1, hname, hc⟩
  · rintro ⟨before, name, behind, c, rfl, hname, hc⟩
    exact ⟨before, name, behind ++ [quote], c, by simp, hname, hc⟩

/-- As the value of an attribute, a string literal without escapes stands for the same as in an
    expression just if it names no character. -/
theorem attributeValue?_eq_iff (hresolve : resolve [] = none) (h : literalValue? text = some value)
    (htext : '\\' ∉ text) :
    attributeValue? resolve text = some value ↔ ¬HasReference resolve text := by
  obtain ⟨quote, body, hquote, rfl, rfl, hvalue⟩ := exists_of_literalValue? resolve h htext
  rw [hvalue, Option.some_inj, hasReference_quoted_iff hquote]
  constructor
  · intro heq href
    exact Nat.ne_of_lt (length_decoded_lt hresolve href) (congrArg List.length heq)
  · exact fun hnone => by rw [decoded_eq_self hnone]

end FormCodemod.Syntax
