import FormCodemod.Json.Writer

/-!
# Strings in JSON, written and read

A string that was written is read again (`readText_flatMap_escapedChar`): each character in it is one
that stands for itself, a backslash and a letter, or a backslash and four digits, and reading takes
either of them back. What stands behind a string makes no difference to it (`readText_append`).
-/

namespace FormCodemod.Json

variable {α β : Type} {outcome : Outcome α} {x : α} {y : β} {rest text tail chars : List Char}
  {state : TextState} {c : Char}

namespace Outcome

theorem andThen_eq_ok_iff {next : α → List Char → Outcome β} :
    outcome.andThen next = .ok (y, rest) ↔
      ∃ x text, outcome = .ok (x, text) ∧ next x text = .ok (y, rest) := by
  cases outcome with
  | error e => exact ⟨nofun, nofun⟩
  | ok r =>
    constructor
    · intro h
      exact ⟨r.1, r.2, rfl, h⟩
    · rintro ⟨x, text, h, hnext⟩
      cases h
      exact hnext

theorem mapResult_eq_ok_iff {f : α → β} :
    outcome.mapResult f = .ok (y, rest) ↔ ∃ x, outcome = .ok (x, rest) ∧ f x = y := by
  cases outcome with
  | error e => exact ⟨nofun, nofun⟩
  | ok r =>
    constructor
    · intro h
      cases h
      exact ⟨r.1, rfl, rfl⟩
    · rintro ⟨x, h, rfl⟩
      cases h
      rfl

end Outcome

/-- A character goes ahead of the same string in another text. -/
theorem withChar_congr {outcome outcome' : Outcome (List Char)} {rest' : List Char}
    (ih : ∀ {chars}, outcome = .ok (chars, rest) → outcome' = .ok (chars, rest'))
    (h : withChar c outcome = .ok (chars, rest)) : withChar c outcome' = .ok (chars, rest') := by
  obtain ⟨cs, hcs, rfl⟩ := Outcome.mapResult_eq_ok_iff.1 h
  rw [ih hcs]
  rfl

/-- A string ends where it ends, whatever stands behind it. -/
theorem readText_append (h : readText state text = .ok (chars, rest)) (tail : List Char) :
    readText state (text ++ tail) = .ok (chars, rest ++ tail) := by
  fun_induction readText state text generalizing chars with
  -- Characters of the string, and its end.
  | case2 =>
    cases h
    rfl
  | case3 cs _ ih => exact ih h
  | case5 c cs hquote hbackslash hcontrol ih =>
    rw [List.cons_append, readText, if_neg hquote, if_neg hbackslash, if_neg hcontrol]
    exact withChar_congr ih h
  -- Escapes of one letter.
  | case6 cs ih => exact ih h
  | case7 c cs hu d hd ih =>
    rw [List.cons_append, readText, if_neg hu, hd]
    exact withChar_congr ih h
  -- Escapes of four digits.
  | case11 lead count value c cs d hd code hcount =>
    rename_i ih
    rw [List.cons_append, readText, hd]
    dsimp only
    rw [if_pos hcount, ih h]
  | case12 count value c cs d hd code hcount lead htrail =>
    rename_i ih
    rw [List.cons_append, readText, hd]
    dsimp only
    rw [if_neg hcount, if_pos htrail]
    exact withChar_congr ih h
  | case15 count value c cs d hd code hcount htrail hlead =>
    rename_i ih
    rw [List.cons_append, readText, hd]
    dsimp only
    rw [if_neg hcount, if_neg htrail, if_pos hlead, ih h]
  | case16 count value c cs d hd code hcount htrail hlead =>
    rename_i ih
    rw [List.cons_append, readText, hd]
    dsimp only
    rw [if_neg hcount, if_neg htrail, if_neg hlead]
    exact withChar_congr ih h
  | case17 lead cs ih => exact ih h
  | case19 lead cs ih => exact ih h
  -- All others are faults.
  | _ => cases h

/-! ### Writing -/

/-- The value of a digit that was written. -/
theorem hexDigit?_hexDigit : ∀ n < 16, hexDigit? (hexDigit n) = some n := by
  decide

/-- A control character is written as an escape of four digits. -/
theorem readText_control {n : Nat} (h : n < 32) (rest : List Char) :
    readText .escape
        ('u' :: '0' :: '0' :: hexDigit (n / 16) :: hexDigit (n % 16) :: rest) =
      withChar (Char.ofNat n) (readText .plain rest) := by
  have hhigh := hexDigit?_hexDigit (n / 16) (by omega)
  have hlow := hexDigit?_hexDigit (n % 16) (by omega)
  have hcode : (0 * 16 + n / 16) * 16 + n % 16 = n := by omega
  have htrail : ¬isTrailing n := by
    rw [isTrailing, Bool.and_eq_true, decide_eq_true_iff]
    omega
  have hlead : ¬isLeading n := by
    rw [isLeading, Bool.and_eq_true, decide_eq_true_iff]
    omega
  change readText (.digits none 2 0) (hexDigit (n / 16) :: hexDigit (n % 16) :: rest) = _
  rw [readText, hhigh]
  dsimp only
  rw [if_pos (by decide), readText, hlow]
  dsimp only
  rw [if_neg (by decide), hcode, if_neg htrail, if_neg hlead]

theorem readText_escapedChar (c : Char) (rest : List Char) :
    readText .plain (escapedChar c ++ rest) = withChar c (readText .plain rest) := by
  unfold escapedChar
  split
  case h_8 hquote hbackslash _ _ _ _ _ =>
    split
    case isTrue hcontrol =>
      have hlt : c.toNat < 32 := hcontrol
      exact (readText_control hlt rest).trans (by rw [Char.ofNat_toNat])
    case isFalse hcontrol =>
      rw [List.singleton_append, readText, if_neg hquote, if_neg hbackslash, if_neg hcontrol]
  all_goals rfl

/-- A string that was written is read again. -/
theorem readText_flatMap_escapedChar (chars rest : List Char) :
    readText .plain (chars.flatMap escapedChar ++ '"' :: rest) = .ok (chars, rest) := by
  induction chars with
  | nil => rfl
  | cons c chars ih =>
    rw [List.flatMap_cons, List.append_assoc, readText_escapedChar, ih]
    rfl

end FormCodemod.Json
