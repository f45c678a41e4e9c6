import FormCodemod.Proofs.Text.Place
import FormCodemod.Text.Trivia

/-!
# Where tokens stand

A token is taken from the front of what is left of a text behind a place. So it stands in the text
there, or further on where something is skipped ahead of it (`exists_of_tokenAfter?`). Which token
it is does not depend on the text ahead of the place (`chars_tokenAfter?_width_add`).
-/

namespace FormCodemod.Text

variable {text : List Char} {offset : Nat} {t : PlainToken}

theorem leadingToken_prefix (text : List Char) : leadingToken text <+: text := by
  cases text with
  | nil => exact List.prefix_refl _
  | cons c cs =>
    rw [leadingToken]
    split
    · exact List.cons_prefix_cons.2 ⟨rfl, List.takeWhile_prefix _⟩
    · exact List.cons_prefix_cons.2 ⟨rfl, List.nil_prefix⟩

/-- A token at a place is what the text goes on with. -/
theorem exists_of_tokenAt? (h : tokenAt? text offset = some t) :
    ∃ before behind, text = before ++ (t.chars ++ behind) ∧ width before = offset ∧
      t.start = offset := by
  unfold tokenAt? at h
  split at h
  · cases h
  · cases h
  case h_3 rest _ hdrop =>
    cases h
    obtain ⟨before, rfl, hwidth⟩ := dropBytes?_eq_some_iff.1 hdrop
    obtain ⟨behind, hbehind⟩ := leadingToken_prefix rest
    exact ⟨before, behind, by rw [hbehind], hwidth, rfl⟩

/-- A token behind a place stands there, or further on. -/
theorem exists_of_tokenAfter? (h : tokenAfter? text offset = some t) :
    ∃ before behind, text = before ++ (t.chars ++ behind) ∧ width before = t.start ∧
      offset ≤ t.start := by
  unfold tokenAfter? at h
  split at h
  · cases h
  case h_2 rest hdrop =>
    obtain ⟨before, behind, htext, hwidth, hstart⟩ := exists_of_tokenAt? h
    exact ⟨before, behind, htext, by rw [hwidth, hstart], by omega⟩

theorem chars_tokenAt?_width_add (front text : List Char) (offset : Nat) :
    (tokenAt? (front ++ text) (width front + offset)).map (·.chars) =
      (tokenAt? text offset).map (·.chars) := by
  rw [tokenAt?, tokenAt?, dropBytes?_width_add]
  split <;> rfl

/-- The token behind a place is the same with another text in front. -/
theorem chars_tokenAfter?_width_add (front text : List Char) (offset : Nat) :
    (tokenAfter? (front ++ text) (width front + offset)).map (·.chars) =
      (tokenAfter? text offset).map (·.chars) := by
  rw [tokenAfter?, tokenAfter?, dropBytes?_width_add]
  cases dropBytes? offset text with
  | none => rfl
  | some rest =>
    dsimp only
    rw [Nat.add_assoc, chars_tokenAt?_width_add]

end FormCodemod.Text
