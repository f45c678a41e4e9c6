import FormCodemod.Module
import FormCodemod.Proofs.Text.Token
import FormCodemod.Proofs.Text.Trivia

/-!
# The next token of a plain text

Behind a place of a text, blanks and comments are skipped up to one further place (`SkippedTo`), and
the token behind that is a word or a single character (`TokenAt`). Unless the text ends there, there
is one (`tokenAfter?_skipped`).
-/

namespace FormCodemod

namespace Text

variable {text behind rest : List Char} {t : PlainToken} {p q stop : Nat}

/-- From a place of the text on, this is where nothing more can be skipped. -/
def SkippedTo (text : List Char) (stop p : Nat) : Prop :=
  ∃ skipped rest, dropBytes? stop text = some (skipped ++ rest) ∧ SkipsAll (skipped ++ rest) rest ∧
    p = stop + width skipped

/-- Where the first match of a pattern at a place ends. -/
def Pattern.stopFrom? (pattern : Pattern) (text : List Char) (start : Nat) : Option Nat :=
  (dropBytes? start text).bind fun behind =>
    (pattern.restOf? behind).map fun rest => start + (width behind - width rest)

/-- A word of letters, digits, `_` and `$` with nothing of the kind behind it, or one character of
    another kind. -/
inductive IsToken : List Char → List Char → Prop where
  | word {word behind : List Char} (hne : word ≠ []) (hword : LongestRun isWordChar word behind) :
      IsToken word behind
  | single {c : Char} {behind : List Char} (hc : ¬isWordChar c) : IsToken [c] behind

/-- The token stands at a place of the text and in it. -/
structure TokenAt (text : List Char) (p : Nat) (t : PlainToken) : Prop where
  start : t.start = p
  nonempty : t.start < t.stop
  le_width : t.stop ≤ width text
  chars : ∃ before behind, text = before ++ (t.chars ++ behind) ∧ width before = p ∧
    IsToken t.chars behind

/-- Every text but the empty one begins with a token. -/
theorem exists_isToken (h : rest ≠ []) :
    ∃ behind, rest = leadingToken rest ++ behind ∧ IsToken (leadingToken rest) behind := by
  obtain ⟨c, cs, rfl⟩ := List.exists_cons_of_ne_nil h
  by_cases hc : isWordChar c = true
  · have hlong := longestRun_takeWhile isWordChar (c :: cs)
    have htoken : leadingToken (c :: cs) = (c :: cs).takeWhile isWordChar := by
      rw [leadingToken, if_pos hc, List.takeWhile_cons_of_pos hc]
    rw [htoken]
    refine ⟨_, List.takeWhile_append_dropWhile.symm, .word ?_ hlong⟩
    rw [List.takeWhile_cons_of_pos hc]
    exact List.cons_ne_nil _ _
  · rw [leadingToken, if_neg hc]
    exact ⟨cs, rfl, .single hc⟩

theorem IsToken.ne_nil {token : List Char} (h : IsToken token behind) : token ≠ [] := by
  cases h with
  | word hne _ => exact hne
  | single _ => exact List.cons_ne_nil _ _

theorem width_pos (h : rest ≠ []) : 0 < width rest :=
  Nat.pos_of_ne_zero fun hwidth => h (eq_nil_of_width_eq_zero hwidth)

/-- At a place, a text has a token unless it ends there. -/
theorem tokenAt?_of_dropBytes? (h : dropBytes? p text = some rest) :
    (tokenAt? text p = none ↔ rest = []) ∧ ∀ t, tokenAt? text p = some t → TokenAt text p t := by
  obtain ⟨before, rfl, hwidth⟩ := dropBytes?_eq_some_iff.1 h
  rw [tokenAt?, h]
  cases rest with
  | nil =>
    refine ⟨⟨fun _ => rfl, fun _ => rfl⟩, fun t ht => ?_⟩
    cases ht
  | cons c cs =>
    refine ⟨iff_of_false (Option.some_ne_none _) (List.cons_ne_nil _ _), fun t ht => ?_⟩
    obtain rfl := Option.some_inj.1 ht
    obtain ⟨behind, hrest, htoken⟩ := exists_isToken (List.cons_ne_nil c cs)
    have hpos := width_pos htoken.ne_nil
    have hle : width (c :: cs) = width (leadingToken (c :: cs)) + width behind := by
      rw [← width_append, ← hrest]
    refine ⟨rfl, ?_, ?_, before, behind, by rw [← hrest], hwidth, htoken⟩
    · rw [PlainToken.stop]
      exact Nat.lt_add_of_pos_right hpos
    · rw [PlainToken.stop, width_append]
      dsimp only
      omega

theorem skippedTo_iff (h : dropBytes? stop text = some behind) :
    SkippedTo text stop p ↔ p = stop + (width behind - width (skipTrivia behind)) := by
  constructor
  · rintro ⟨skipped, rest, hdrop, hall, rfl⟩
    obtain rfl : skipped ++ rest = behind := Option.some_inj.1 (hdrop.symm.trans h)
    rw [skipsAll_iff.1 hall, width_append, Nat.add_sub_cancel_right]
  · rintro rfl
    have hall := skipsAll_skipTrivia behind
    obtain ⟨skipped, hskipped⟩ := hall.exists_eq_append
    have hwidth : width behind = width skipped + width (skipTrivia behind) := by
      rw [← width_append, ← hskipped]
    exact ⟨skipped, skipTrivia behind, hskipped ▸ h, hskipped ▸ hall, by omega⟩

/-- What is left behind a place to which all is skipped. -/
theorem SkippedTo.exists_dropBytes? (h : SkippedTo text stop p) :
    stop ≤ p ∧ ∃ rest, dropBytes? p text = some rest ∧ (rest = [] ↔ p = width text) := by
  obtain ⟨skipped, rest, hdrop, -, rfl⟩ := h
  obtain ⟨before, rfl, rfl⟩ := dropBytes?_eq_some_iff.1 hdrop
  refine ⟨Nat.le_add_right _ _, rest, ?_, ?_⟩
  · rw [dropBytes?_width_add, dropBytes?_width]
  · rw [width_append, width_append, Nat.add_left_cancel_iff, eq_comm (a := width skipped),
      Nat.add_eq_left]
    exact ⟨fun h => h ▸ rfl, eq_nil_of_width_eq_zero⟩

end Text

open Text

/-- Behind a place of its text, a module has the token behind the one place to which all blanks and
    comments are skipped, which is also where their pattern ends; there is none if the text ends
    there, nor behind what is no place. -/
theorem tokenAfter?_skipped (m : Module) (span : Span) :
    (IsPlace m.text span.stop → ∃ p, SkippedTo m.text span.stop p ∧
      (∀ q, SkippedTo m.text span.stop q → q = p) ∧ span.stop ≤ p ∧
      Pattern.trivia.stopFrom? m.text span.stop = some p ∧
      (m.tokenAfter? span = none ↔ p = width m.text) ∧
      ∀ t, m.tokenAfter? span = some t → TokenAt m.text p t) ∧
    (¬IsPlace m.text span.stop → m.tokenAfter? span = none) := by
  refine ⟨fun hplace => ?_, fun hplace => ?_⟩
  · obtain ⟨behind, hbehind⟩ := Option.isSome_iff_exists.1 (isPlace_iff.1 hplace)
    have hiff := fun p => skippedTo_iff (p := p) hbehind
    have htoken : m.tokenAfter? span =
        tokenAt? m.text (span.stop + (width behind - width (skipTrivia behind))) := by
      rw [Module.tokenAfter?, Text.tokenAfter?, hbehind]
    have hskipped := (hiff _).2 rfl
    obtain ⟨hle, rest, hrest, hend⟩ := hskipped.exists_dropBytes?
    obtain ⟨hnone, hsome⟩ := tokenAt?_of_dropBytes? hrest
    refine ⟨_, hskipped, fun q => (hiff q).1, hle, ?_, ?_, ?_⟩
    · rw [Pattern.stopFrom?, hbehind, Option.bind_some, Pattern.restOf?_trivia, Option.map_some]
    · rw [htoken, hnone, hend]
    · exact htoken ▸ hsome
  · have hdrop : dropBytes? span.stop m.text = none := by
      rwa [isPlace_iff, Option.not_isSome_iff_eq_none] at hplace
    rw [Module.tokenAfter?, Text.tokenAfter?, hdrop]

/-- A comment does not end with the star that it begins with, and one that is not closed is none. -/
theorem tokenAfter?_skipped_comments :
    let m : Module := ⟨"é/*/*/\u3000/*é".toList, .mk .module ⟨0, 14⟩ []⟩
    IsPlace m.text 2 ∧ SkippedTo m.text 2 10 ∧ m.tokenAfter? ⟨0, 2⟩ = some ⟨10, ['/']⟩ ∧
      TokenAt m.text 10 ⟨10, ['/']⟩ ∧ ¬IsPlace m.text 1 ∧ m.tokenAfter? ⟨0, 1⟩ = none := by
  intro m
  have hplace : IsPlace m.text 2 := by decide
  have hplace' : ¬IsPlace m.text 1 := by decide
  have htoken : m.tokenAfter? ⟨0, 2⟩ = some ⟨10, ['/']⟩ := by decide
  obtain ⟨p, hskipped, -, -, -, -, hat⟩ := (tokenAfter?_skipped m ⟨0, 2⟩).1 hplace
  have hat := hat _ htoken
  obtain rfl := hat.start
  exact ⟨hplace, hskipped, htoken, hat, hplace', (tokenAfter?_skipped m ⟨0, 1⟩).2 hplace'⟩

end FormCodemod
