/-!
# Texts and byte offsets

A text is a list of characters, and a place in it is the number of bytes that its UTF-8 form takes
up to there. Only some numbers are places: one that falls inside a character, or behind the end, is
none.

* `width`: the number of bytes of a text;
* `dropBytes?`, `takeBytes?`: what stands behind a place, and before it;
* `slice?`: what stands between two places.
-/

namespace FormCodemod.Text

/-- The number of bytes that a text takes in UTF-8. -/
def width : List Char → Nat
  | [] => 0
  | c :: cs => c.utf8Size + width cs

/-- What a text has behind its first `n` bytes, if a character ends there. -/
def dropBytes? : Nat → List Char → Option (List Char)
  | 0, cs => some cs
  | _ + 1, [] => none
  | n + 1, c :: cs =>
    if c.utf8Size ≤ n + 1 then dropBytes? (n + 1 - c.utf8Size) cs else none

/-- The first `n` bytes of a text, if a character ends there. -/
def takeBytes? : Nat → List Char → Option (List Char)
  | 0, _ => some []
  | _ + 1, [] => none
  | n + 1, c :: cs =>
    if c.utf8Size ≤ n + 1 then (takeBytes? (n + 1 - c.utf8Size) cs).map (c :: ·) else none

/-- The characters between two places of a text. There are none to speak of if a bound is no
    place, or if the bounds stand in the wrong order. -/
def slice? (text : List Char) (start stop : Nat) : Option (List Char) :=
  if start ≤ stop then (dropBytes? start text).bind (takeBytes? (stop - start)) else none

/-- The characters between two places of a text, and nothing if `slice?` has no answer. -/
def slice (text : List Char) (start stop : Nat) : List Char :=
  (slice? text start stop).getD []

@[simp] theorem width_nil : width [] = 0 := rfl

@[simp] theorem width_cons (c : Char) (cs : List Char) :
    width (c :: cs) = c.utf8Size + width cs := rfl

@[simp] theorem width_append (xs ys : List Char) : width (xs ++ ys) = width xs + width ys := by
  induction xs with
  | nil => simp [width]
  | cons x xs ih => simp [width, ih, Nat.add_assoc]

end FormCodemod.Text
