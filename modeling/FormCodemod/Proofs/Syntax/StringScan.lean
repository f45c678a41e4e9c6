import FormCodemod.Proofs.Text.StringValue

/-!
# Strings that are read

Every string literal that the lexer reads without a flaw stands for something
(`IsReadString.isSome_literalValue?`). Reading it only looks for its end, and at escapes for what
makes them complete: behind `\x` and `\u` it goes on with the digits, which are characters like
others to it. What the string stands for takes them together with the escape. The two agree since no
digit can end a string.
-/

namespace FormCodemod.Syntax

variable {cs front digits : List Char} {quote c : Char} {units : List Nat} {start offset k : Nat}

/-- The character stands for itself in a string with these quotes, and does not end it. -/
structure IsPlain (quote c : Char) : Prop where
  ne_quote : c ≠ quote
  ne_backslash : c ≠ '\\'
  ne_newline : c ≠ '\n'
  ne_return : c ≠ '\r'

theorem restValue?_cons_of_isPlain (h : IsPlain quote c) (cs : List Char) :
    restValue? quote 0 (c :: cs) = (restValue? quote 0 cs).map (codeUnits c.toNat ++ ·) := by
  rw [restValue?, if_neg h.ne_quote, if_neg h.ne_backslash, if_neg]
  simp [h.ne_newline, h.ne_return]

theorem restValue?_length (quote : Char) (front cs : List Char) :
    restValue? quote front.length (front ++ cs) = restValue? quote 0 cs := by
  induction front with
  | nil => rfl
  | cons c front ih => exact ih

/-- A string does not end in characters that stand for themselves. -/
theorem exists_of_isSome_restValue?_take (hfront : ∀ c ∈ front, IsPlain quote c)
    (h : (restValue? quote 0 ((front ++ cs).take k)).isSome) :
    ∃ j, k = front.length + j ∧ (restValue? quote 0 (cs.take j)).isSome := by
  induction front generalizing k with
  | nil => exact ⟨k, (Nat.zero_add k).symm, h⟩
  | cons c front ih =>
    rw [List.forall_mem_cons] at hfront
    cases k with
    | zero => cases h
    | succ k =>
      rw [List.cons_append, List.take_succ_cons, restValue?_cons_of_isPlain hfront.1,
        Option.isSome_map] at h
      obtain ⟨j, rfl, hj⟩ := ih hfront.2 h
      exact ⟨j, by rw [List.length_cons]; omega, hj⟩

/-- An escape goes ahead of what can be read. -/
theorem isSome_restValue?_escape (escape : List Char) (hquote : quote ≠ '\\')
    (h : escapeValue? (escape ++ cs) = some (units, escape.length))
    (hcs : (restValue? quote 0 cs).isSome) :
    (restValue? quote 0 ('\\' :: (escape ++ cs))).isSome := by
  rw [restValue?, if_neg hquote.symm, if_pos rfl, h, Option.bind_some, restValue?_length,
    Option.isSome_map]
  exact hcs

theorem isSome_hexDigit?_of_foldl {acc : Option Nat} (h : (digits.foldl
    (fun n c => do return (← n) * 16 + (← hexDigit? c)) acc).isSome) :
    acc.isSome ∧ ∀ c ∈ digits, (hexDigit? c).isSome := by
  induction digits generalizing acc with
  | nil => exact ⟨h, nofun⟩
  | cons c digits ih =>
    obtain ⟨hacc, hdigits⟩ := ih h
    obtain ⟨_, hstep⟩ := Option.isSome_iff_exists.1 hacc
    obtain ⟨n, rfl, hbind⟩ := Option.bind_eq_some_iff.1 hstep
    obtain ⟨d, hd, -⟩ := Option.bind_eq_some_iff.1 hbind
    exact ⟨rfl, List.forall_mem_cons.2 ⟨Option.isSome_of_eq_some hd, hdigits⟩⟩

theorem isPlain_brace (hquote : quote = '"' ∨ quote = '\'') (hc : c = '{' ∨ c = '}') :
    IsPlain quote c := by
  rcases hquote with rfl | rfl <;> rcases hc with rfl | rfl <;>
    exact ⟨by decide, by decide, by decide, by decide⟩

theorem isPlain_of_hexDigit? (hquote : quote = '"' ∨ quote = '\'') (h : (hexDigit? c).isSome) :
    IsPlain quote c := by
  refine ⟨?_, ?_, ?_, ?_⟩
  · rintro rfl
    rcases hquote with rfl | rfl <;> cases h
  · rintro rfl
    cases h
  · rintro rfl
    cases h
  · rintro rfl
    cases h

theorem isPlain_of_hexValue? (hquote : quote = '"' ∨ quote = '\'') (h : (hexValue? digits).isSome) :
    ∀ c ∈ digits, IsPlain quote c :=
  fun c hc => isPlain_of_hexDigit? hquote ((isSome_hexDigit?_of_foldl h).2 c hc)

/-- A Unicode escape is made of characters that stand for themselves elsewhere. -/
theorem exists_of_unicodeEscape? (hquote : quote = '"' ∨ quote = '\'')
    (h : (unicodeEscape? cs).isSome) :
    ∃ front behind, cs = front ++ behind ∧ (∀ c ∈ front, IsPlain quote c) ∧
      ∀ rest, ∃ units, escapeValue? ('u' :: (front ++ rest)) = some (units, front.length + 1) := by
  unfold unicodeEscape? at h
  split at h
  case h_1 cs =>
    dsimp only at h
    split at h
    case h_1 n hn =>
      split at h
      case isTrue => cases h
      case isFalse hcond =>
        simp only [Bool.or_eq_true, decide_eq_true_eq, not_or, Nat.not_lt] at hcond
        obtain ⟨⟨hne, hlength⟩, hmax⟩ := hcond
        have hlt := lt_of_le_of_ne (cs.takeWhile_prefix (· ≠ '}')).length_le hlength
        obtain ⟨hmem, behind, hcs⟩ := exists_of_length_takeWhile_lt hlt
        generalize cs.takeWhile (· ≠ '}') = digits at *
        have hplain := isPlain_of_hexValue? hquote (Option.isSome_of_eq_some hn)
        refine ⟨'{' :: (digits ++ ['}']), behind, by rw [hcs]; simp, ?_, fun rest => ?_⟩
        · intro c hc
          rw [List.mem_cons, List.mem_append, List.mem_singleton] at hc
          rcases hc with hc | hc | hc
          · exact isPlain_brace hquote (.inl hc)
          · exact hplain c hc
          · exact isPlain_brace hquote (.inr hc)
        · refine ⟨codeUnits n, ?_⟩
          have hrest : '{' :: (digits ++ ['}']) ++ rest = '{' :: (digits ++ '}' :: rest) := by simp
          rw [hrest, escapeValue?, takeWhile_ne_append hmem]
          simp [hne, hn, hmax]
    case h_2 => cases h
  case h_2 a b c d behind hbrace =>
    rw [Option.isSome_map] at h
    obtain ⟨n, hn⟩ := Option.isSome_iff_exists.1 h
    refine ⟨[a, b, c, d], behind, rfl, isPlain_of_hexValue? hquote h, fun rest => ⟨[n], ?_⟩⟩
    simp [escapeValue?, hn]
  case h_3 => cases h

/-- Behind an escape that is made of such characters, the string goes on. -/
theorem isSome_restValue?_take_append {e : Char} (front : List Char) (hquote : quote ≠ '\\')
    (hfront : ∀ c ∈ front, IsPlain quote c)
    (hescape : ∀ rest, ∃ units,
      escapeValue? (e :: (front ++ rest)) = some (units, front.length + 1))
    (h : (restValue? quote 0 ((front ++ cs).take k)).isSome) :
    (restValue? quote 0 (('\\' :: e :: (front ++ cs)).take (k + 2))).isSome := by
  obtain ⟨j, rfl, hj⟩ := exists_of_isSome_restValue?_take hfront h
  obtain ⟨units, hunits⟩ := hescape (cs.take j)
  rw [List.take_succ_cons, List.take_succ_cons, List.take_length_add_append]
  exact isSome_restValue?_escape (e :: front) hquote hunits hj

/-- A character may be escaped on its own if no other escape begins with it. -/
theorem exists_escapeValue? (hx : c ≠ 'x') (hu : c ≠ 'u')
    (hreturn : ∀ rest, c = '\r' → cs ≠ '\n' :: rest)
    (hoctal : (('1' ≤ c && c ≤ '7') || (c = '0' && cs.head?.any Char.isDigit)) = false) :
    ∃ units, escapeValue? (c :: cs) = some (units, 1) := by
  unfold escapeValue?
  split
  case h_1 heq => cases heq
  case h_8 heq => exact absurd (List.cons.inj heq).1 hx
  case h_9 heq => exact absurd (List.cons.inj heq).1 hu
  case h_10 heq => exact absurd (List.cons.inj heq).1 hu
  case h_11 heq => exact absurd (List.cons.inj heq).1 hx
  case h_12 heq => exact absurd (List.cons.inj heq).1 hu
  case h_13 heq => exact absurd (List.cons.inj heq).2 (hreturn _ (List.cons.inj heq).1)
  case h_14 heq =>
    obtain ⟨rfl, rfl⟩ := List.cons.inj heq
    rw [hoctal]
    split
    · exact ⟨_, rfl⟩
    · exact ⟨_, rfl⟩
  all_goals exact ⟨_, rfl⟩

/-- Behind a character that is escaped on its own, the string goes on. -/
theorem isSome_restValue?_take_cons (hquote : quote ≠ '\\') (hx : c ≠ 'x') (hu : c ≠ 'u')
    (hreturn : ∀ rest, c = '\r' → cs ≠ '\n' :: rest)
    (hoctal : (('1' ≤ c && c ≤ '7') || (c = '0' && cs.head?.any Char.isDigit)) = false)
    (h : (restValue? quote 0 (cs.take k)).isSome) :
    (restValue? quote 0 (('\\' :: c :: cs).take (k + 2))).isSome := by
  -- The quote at the end is among what is taken, so the next character is.
  obtain ⟨d, rest, j, rfl, rfl⟩ : ∃ d rest j, cs = d :: rest ∧ k = j + 1 := by
    cases k with
    | zero => cases h
    | succ j =>
      cases cs with
      | nil => cases h
      | cons d rest => exact ⟨d, rest, j, rfl, rfl⟩
  rw [List.take_succ_cons] at h
  have hreturn' : ∀ rest', c = '\r' → d :: rest.take j ≠ '\n' :: rest' := fun _ hc heq =>
    hreturn rest hc (by rw [(List.cons.inj heq).1])
  obtain ⟨units, hunits⟩ := exists_escapeValue? hx hu hreturn' hoctal
  exact isSome_restValue?_escape [c] hquote hunits h

/-- A string that is scanned without a flaw stands for something. -/
theorem isSome_restValue?_scanString (hquote : quote = '"' ∨ quote = '\'')
    (hfatal : (scanString quote start offset cs).fatal = none)
    (hminor : (scanString quote start offset cs).minor = none) :
    (restValue? quote 0 (cs.take (scanString quote start offset cs).count)).isSome := by
  have hbackslash : quote ≠ '\\' := by rcases hquote with rfl | rfl <;> decide
  fun_induction scanString quote start offset cs with
  | case3 offset a b tail hhex ih =>
    obtain ⟨n, hn⟩ := Option.isSome_iff_exists.1 hhex
    exact isSome_restValue?_take_append [a, b] hbackslash (isPlain_of_hexValue? hquote hhex)
      (fun rest => ⟨[n], by simp [escapeValue?, hn]⟩) (ih hfatal hminor)
  | case6 offset cs hunicode ih =>
    obtain ⟨front, behind, rfl, hfront, hescape⟩ := exists_of_unicodeEscape? hquote hunicode
    exact isSome_restValue?_take_append front hbackslash hfront hescape (ih hfatal hminor)
  | case8 offset cs ih =>
    exact isSome_restValue?_escape ['\r', '\n'] hbackslash rfl (ih hfatal hminor)
  | case9 offset c cs hx hu hreturn octal ih =>
    -- An octal escape is a flaw.
    have hoctal : octal = false := by
      cases h : octal with
      | false => rfl
      | true =>
        rw [h] at hminor
        cases hminor
    rw [hoctal] at hfatal hminor
    exact isSome_restValue?_take_cons hbackslash hx hu hreturn hoctal (ih hfatal hminor)
  | case10 => simp [restValue?]
  | case12 offset c cs hend _ _ _ hescape hne hline ih =>
    have hplain : IsPlain quote c := by
      obtain ⟨hnewline, hreturn⟩ : c ≠ '\n' ∧ c ≠ '\r' := by simpa using hline
      refine ⟨hne, fun hc => ?_, hnewline, hreturn⟩
      cases cs with
      | nil => exact hend hc rfl
      | cons d cs => exact hescape d cs hc rfl
    refine (congrArg Option.isSome (restValue?_cons_of_isPlain hplain _)).trans ?_
    rw [Option.isSome_map]
    exact ih hfatal hminor
  | case1 => cases hminor
  | case11 => cases hminor
  | case2 => cases hfatal
  | case4 => cases hfatal
  | case5 => cases hfatal
  | case7 => cases hfatal

/-- A string token without a flaw stands for something. -/
theorem isSome_literalValue?_readString {here : Input} {newline : Bool} {fault : Option Fault}
    {literal : String} (hquote : quote = '"' ∨ quote = '\'') (hhere : here.chars = quote :: cs)
    (hkind : (Token.readString quote here newline fault).kind = .string literal)
    (hfault : (Token.readString quote here newline fault).fault = none) :
    (literalValue? literal.toList).isSome := by
  unfold Token.readString at hkind hfault
  rw [hhere] at hkind hfault
  dsimp only at hkind hfault
  split at hkind
  case h_1 => cases hkind
  case h_2 hfatal =>
    rw [hfatal] at hfault
    obtain rfl := TokenKind.string.inj hkind
    rw [hhere, String.toList_ofList, List.take_succ_cons, literalValue?,
      if_pos (by simpa using hquote)]
    refine isSome_restValue?_scanString hquote hfatal ?_
    cases fault with
    | none => exact hfault
    | some => cases hfault

/-! ### The lexer -/

theorem kind_readWord_ne_string {here : Input} {newline : Bool} {fault : Option Fault}
    (literal : String) : (Token.readWord here newline fault).kind ≠ .string literal := by
  unfold Token.readWord
  dsimp only
  split
  · exact nofun
  · split <;> exact nofun

theorem kind_readNumber_ne_string {here : Input} {newline : Bool} {fault : Option Fault}
    (literal : String) : (Token.readNumber here newline fault).kind ≠ .string literal := by
  unfold Token.readNumber
  dsimp only
  split
  · exact nofun
  · split <;> exact nofun

/-- Only a quote begins a string. -/
theorem exists_quote_of_readHere {here : Input} {newline : Bool} {fault : Option Fault}
    {literal : String} (h : (Token.readHere here newline fault).kind = .string literal) :
    ∃ quote cs, (quote = '"' ∨ quote = '\'') ∧ here.chars = quote :: cs ∧
      Token.readHere here newline fault = Token.readString quote here newline fault := by
  unfold Token.readHere at h ⊢
  split at h
  case h_1 => cases h
  case h_2 cs hchars => exact ⟨_, cs, .inl rfl, hchars, rfl⟩
  case h_3 cs hchars => exact ⟨_, cs, .inr rfl, hchars, rfl⟩
  case h_4 =>
    split at h
    · dsimp only at h
      split at h <;> cases h
    · cases h
  case h_5 =>
    split at h
    · exact absurd h (kind_readWord_ne_string literal)
    · split at h
      · exact absurd h (kind_readNumber_ne_string literal)
      · split at h <;> cases h

/-- The lexer reads the literal as a string somewhere, and finds no flaw in it. -/
def IsReadString (literal : String) : Prop :=
  ∃ i : Input, (Token.read i).kind = .string literal ∧ (Token.read i).fault = none

/-- Every string literal that the lexer reads stands for something. -/
theorem IsReadString.isSome_literalValue? {literal : String} (h : IsReadString literal) :
    (literalValue? literal.toList).isSome := by
  obtain ⟨i, hkind, hfault⟩ := h
  cases hgap : skipGap i with
  | mk finding here =>
    rw [Token.read, hgap] at hkind hfault
    dsimp only at hkind hfault
    obtain ⟨quote, cs, hquote, hchars, hread⟩ := exists_quote_of_readHere hkind
    rw [hread] at hkind hfault
    exact isSome_literalValue?_readString hquote hchars hkind hfault

end FormCodemod.Syntax
