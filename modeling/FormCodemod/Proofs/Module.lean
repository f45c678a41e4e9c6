import FormCodemod.Module

/-!
# Reading a module

A module keeps the text that it was read from. What holds of the module in a given text, or of any
other result of a given input, can be found by computing it (`exists_ok`).
-/

namespace FormCodemod

/-- A result with a property, found by computing it. -/
theorem exists_ok {ε α : Type} {result : Except ε α} {p : α → Prop} [DecidablePred p]
    (h : result.toOption.any (decide <| p ·) = true) : ∃ a, result = .ok a ∧ p a := by
  cases result with
  | error fault => cases h
  | ok a => exact ⟨a, rfl, of_decide_eq_true h⟩

theorem Module.text_of_read {filename : String} {text : List Char} {m : Module}
    (h : read filename text = .ok m) : m.text = text := by
  unfold read at h
  cases hparse : Syntax.parse (.ofFilename filename) text with
  | error fault =>
    rw [hparse] at h
    cases h
  | ok tree =>
    rw [hparse] at h
    cases h
    rfl

theorem Syntax.withoutMark_eq {text : List Char} (h : text.head? ≠ some '\ufeff') :
    withoutMark text = text := by
  unfold withoutMark
  split
  · exact absurd rfl h
  · rfl

end FormCodemod
