import FormCodemod.Json.Number

/-!
# Where numbers in JSON end

A number goes on as long as there are digits, a point or an exponent. It is the same number with
another text behind it, if that does not begin with one of them (`EndsNumber`,
`readMagnitude_append`).
-/

namespace FormCodemod.Json

variable {text tail rest : List Char} {isNegative goesDown : Bool} {significand surplus : Nat}
  {exponent : Int} {n : Number} {c : Char}

/-- No number goes on with the text. -/
structure EndsNumber (tail : List Char) : Prop where
  digit : startsWithDigit tail = false
  point : tail.head? ≠ some '.'
  e : tail.head? ≠ some 'e'
  e' : tail.head? ≠ some 'E'

theorem EndsNumber.not_isDigit (h : EndsNumber (c :: tail)) : ¬c.isDigit = true :=
  Bool.eq_false_iff.1 h.digit

theorem head?_append_ne (htext : text.head? ≠ some c) (htail : tail.head? ≠ some c) :
    (text ++ tail).head? ≠ some c := by
  cases text with
  | nil => exact htail
  | cons => exact htext

/-! ### Digits -/

theorem startsWithDigit_append (h : EndsNumber tail) :
    startsWithDigit (text ++ tail) = startsWithDigit text := by
  cases text with
  | nil => exact h.digit
  | cons => rfl

theorem dropDigits_eq_self (h : EndsNumber tail) : dropDigits tail = tail := by
  cases tail with
  | nil => rfl
  | cons c cs => exact List.dropWhile_cons_of_neg h.not_isDigit

theorem dropDigits_append (h : EndsNumber tail) :
    dropDigits (text ++ tail) = dropDigits text ++ tail := by
  rw [dropDigits, List.dropWhile_append]
  split
  case isTrue hempty =>
    rw [dropDigits, List.isEmpty_iff.1 hempty, List.nil_append]
    exact dropDigits_eq_self h
  case isFalse => rfl

theorem countDigits_eq (text : List Char) :
    countDigits text = text.length - (dropDigits text).length := by
  have hlength := congrArg List.length
    (List.takeWhile_append_dropWhile (p := Char.isDigit) (l := text))
  rw [List.length_append] at hlength
  rw [countDigits, dropDigits]
  omega

theorem countDigits_append (h : EndsNumber tail) :
    countDigits (text ++ tail) = countDigits text := by
  rw [countDigits_eq, countDigits_eq, dropDigits_append h, List.length_append, List.length_append]
  omega

theorem gather_append (h : EndsNumber tail) (bound value : Nat) (text : List Char) :
    gather bound value (text ++ tail) =
      ((gather bound value text).1, (gather bound value text).2.1,
        (gather bound value text).2.2 ++ tail) := by
  fun_induction gather bound value text with
  | case1 value =>
    cases tail with
    | nil => rfl
    | cons c cs =>
      rw [List.nil_append, gather, digit?, if_neg h.not_isDigit]
  | case2 value c cs hc => rw [List.cons_append, gather, hc]
  | case3 value c cs d hd hlt value' count rest hgather =>
    rename_i ih
    rw [List.cons_append, gather, hd]
    dsimp only
    rw [if_pos hlt, ih, hgather]
  | case4 value c cs d hd hlt =>
    rw [List.cons_append, gather, hd]
    dsimp only
    rw [if_neg hlt]

theorem floatOf_append (h : floatOf isNegative significand exponent text = .ok (n, rest)) :
    floatOf isNegative significand exponent (text ++ tail) = .ok (n, rest ++ tail) := by
  unfold floatOf at h ⊢
  split at h
  · cases h
    rfl
  · cases h

/-! ### Exponents -/

theorem readExponent_of_ne (hplus : text.head? ≠ some '+') (hminus : text.head? ≠ some '-') :
    readExponent isNegative significand exponent text =
      readExponentDigits isNegative significand exponent false text := by
  rw [readExponent]
  · rintro cs rfl
    exact hplus rfl
  · rintro cs rfl
    exact hminus rfl

theorem readScale_of_ne (he : text.head? ≠ some 'e') (he' : text.head? ≠ some 'E') :
    readScale isNegative significand exponent text =
      floatOf isNegative significand exponent text := by
  rw [readScale]
  · rintro cs rfl
    exact he rfl
  · rintro cs rfl
    exact he' rfl

theorem readExponentDigits_append (htail : EndsNumber tail)
    (h : readExponentDigits isNegative significand exponent goesDown text = .ok (n, rest)) :
    readExponentDigits isNegative significand exponent goesDown (text ++ tail) =
      .ok (n, rest ++ tail) := by
  unfold readExponentDigits at h ⊢
  cases text with
  | nil => cases h
  | cons c cs =>
    rw [startsWithDigit_append htail, gather_append htail]
    dsimp only at h ⊢
    rw [startsWithDigit_append htail]
    split at h
    case isTrue hnil => cases hnil
    case isFalse hnil =>
      rw [if_neg (by exact nofun)]
      split at h
      case isFalse => cases h
      case isTrue hdigit =>
        rw [if_pos hdigit]
        split at h
        case isTrue hmore =>
          rw [if_pos hmore]
          split at h
          · cases h
          case isFalse hdown =>
            cases h
            rw [if_neg hdown, dropDigits_append htail]
        case isFalse hmore =>
          rw [if_neg hmore]
          exact floatOf_append h

theorem readExponent_append (htail : EndsNumber tail)
    (h : readExponent isNegative significand exponent text = .ok (n, rest)) :
    readExponent isNegative significand exponent (text ++ tail) = .ok (n, rest ++ tail) := by
  by_cases hplus : text.head? = some '+'
  · obtain ⟨cs, rfl⟩ := List.head?_eq_some_iff.1 hplus
    exact readExponentDigits_append htail h
  · by_cases hminus : text.head? = some '-'
    · obtain ⟨cs, rfl⟩ := List.head?_eq_some_iff.1 hminus
      exact readExponentDigits_append htail h
    · rw [readExponent_of_ne hplus hminus] at h
      have happend := readExponentDigits_append htail h
      cases text with
      | nil => cases h
      | cons c cs =>
        have hplus' : (c :: cs ++ tail).head? ≠ some '+' := hplus
        rw [readExponent_of_ne hplus' hminus]
        exact happend

theorem readScale_append (htail : EndsNumber tail)
    (h : readScale isNegative significand exponent text = .ok (n, rest)) :
    readScale isNegative significand exponent (text ++ tail) = .ok (n, rest ++ tail) := by
  by_cases he : text.head? = some 'e'
  · obtain ⟨cs, rfl⟩ := List.head?_eq_some_iff.1 he
    exact readExponent_append htail h
  · by_cases he' : text.head? = some 'E'
    · obtain ⟨cs, rfl⟩ := List.head?_eq_some_iff.1 he'
      exact readExponent_append htail h
    · rw [readScale_of_ne he he'] at h
      rw [readScale_of_ne (head?_append_ne he htail.e) (head?_append_ne he' htail.e')]
      exact floatOf_append h

/-! ### Whole numbers and fractions -/

theorem readFraction_append (htail : EndsNumber tail)
    (h : readFraction isNegative significand exponent text = .ok (n, rest)) :
    readFraction isNegative significand exponent (text ++ tail) = .ok (n, rest ++ tail) := by
  unfold readFraction at h ⊢
  cases text with
  | nil => cases h
  | cons c cs =>
    rw [startsWithDigit_append htail, gather_append htail]
    dsimp only at h ⊢
    rw [dropDigits_append htail]
    split at h
    case isTrue hnil => cases hnil
    case isFalse hnil =>
      rw [if_neg (by exact nofun)]
      split at h
      case isFalse => cases h
      case isTrue hdigit =>
        rw [if_pos hdigit]
        exact readScale_append htail h

theorem wholeNumber_append (h : wholeNumber isNegative significand text = .ok (n, rest)) :
    wholeNumber isNegative significand (text ++ tail) = .ok (n, rest ++ tail) := by
  unfold wholeNumber at h ⊢
  split at h
  case isTrue hpositive =>
    cases h
    rw [if_pos hpositive]
  case isFalse hpositive =>
    rw [if_neg hpositive]
    split at h
    case isTrue hsmall =>
      cases h
      rw [if_pos hsmall]
    case isFalse hsmall =>
      rw [if_neg hsmall]
      exact floatOf_append h

theorem readTail_of_ne (hpoint : text.head? ≠ some '.') (he : text.head? ≠ some 'e')
    (he' : text.head? ≠ some 'E') :
    readTail isNegative significand surplus text =
      if surplus = 0 then wholeNumber isNegative significand text
      else floatOf isNegative significand surplus text := by
  rw [readTail]
  · rintro cs rfl
    exact hpoint rfl
  · rintro cs rfl
    exact he rfl
  · rintro cs rfl
    exact he' rfl

theorem readTail_append (htail : EndsNumber tail)
    (h : readTail isNegative significand surplus text = .ok (n, rest)) :
    readTail isNegative significand surplus (text ++ tail) = .ok (n, rest ++ tail) := by
  by_cases hpoint : text.head? = some '.'
  · obtain ⟨cs, rfl⟩ := List.head?_eq_some_iff.1 hpoint
    exact readFraction_append htail h
  · by_cases he : text.head? = some 'e'
    · obtain ⟨cs, rfl⟩ := List.head?_eq_some_iff.1 he
      exact readExponent_append htail h
    · by_cases he' : text.head? = some 'E'
      · obtain ⟨cs, rfl⟩ := List.head?_eq_some_iff.1 he'
        exact readExponent_append htail h
      · rw [readTail_of_ne hpoint he he'] at h
        rw [readTail_of_ne (head?_append_ne hpoint htail.point) (head?_append_ne he htail.e)
          (head?_append_ne he' htail.e')]
        split at h
        case isTrue hsurplus =>
          rw [if_pos hsurplus]
          exact wholeNumber_append h
        case isFalse hsurplus =>
          rw [if_neg hsurplus]
          exact floatOf_append h

theorem readMagnitude_zero (text : List Char) :
    readMagnitude isNegative ('0' :: text) =
      if startsWithDigit text then .error (.upon .invalidNumber text)
      else readTail isNegative 0 0 text := rfl

theorem readMagnitude_of_ne (h : c ≠ '0') (text : List Char) :
    readMagnitude isNegative (c :: text) =
      if startsWithDigit (c :: text) then
        readTail isNegative (gather significandBound 0 (c :: text)).1
          (countDigits (gather significandBound 0 (c :: text)).2.2)
          (dropDigits (gather significandBound 0 (c :: text)).2.2)
      else .error (.upon .invalidNumber (c :: text)) := by
  rw [readMagnitude]
  · exact nofun
  · rintro cs heq
    exact h (List.cons.inj heq).1

/-- A number is the same with a text behind it that ends numbers. -/
theorem readMagnitude_append (htail : EndsNumber tail)
    (h : readMagnitude isNegative text = .ok (n, rest)) :
    readMagnitude isNegative (text ++ tail) = .ok (n, rest ++ tail) := by
  cases text with
  | nil => cases h
  | cons c cs =>
    by_cases hzero : c = '0'
    · subst hzero
      rw [readMagnitude_zero] at h
      rw [List.cons_append, readMagnitude_zero, startsWithDigit_append htail]
      split at h
      · cases h
      case isFalse hdigit =>
        rw [if_neg hdigit]
        exact readTail_append htail h
    · rw [readMagnitude_of_ne hzero] at h
      rw [List.cons_append, readMagnitude_of_ne hzero, ← List.cons_append,
        startsWithDigit_append htail, gather_append htail]
      split at h
      case isTrue hdigit =>
        rw [if_pos hdigit]
        dsimp only
        rw [countDigits_append htail, dropDigits_append htail]
        exact readTail_append htail h
      case isFalse => cases h

end FormCodemod.Json
