import FormCodemod.Text.Bytes

/-!
# Places of a text

A number is a *place* of a text (`IsPlace`) if a part of the text takes so many bytes. No character
is empty, so a text can be cut at a place in one way only, two places have one text between them
(`exists_between`), and what stands behind a place, before it, or between two of them can be said by
how the text is put together.

* `dropBytes?_eq_some_iff`, `takeBytes?_eq_some_iff`: cuts at one place;
* `slice?_eq_some_iff`: cuts at two places.
-/

namespace FormCodemod.Text

variable {a b c d text before mid behind : List Char} {n start stop : Nat}

/-- So many bytes of the text end with a character, or are none. -/
def IsPlace (text : List Char) (n : Nat) : Prop :=
  ∃ before behind, text = before ++ behind ∧ width before = n

theorem eq_nil_of_width_eq_zero (h : width a = 0) : a = [] := by
  cases a with
  | nil => rfl
  | cons c cs =>
    have := c.utf8Size_pos
    rw [width_cons] at h
    omega

/-- Of two cuts through a text, the earlier one is a cut through what ends at the later one. -/
theorem exists_between (h : a ++ b = c ++ d) (hw : width a ≤ width c) :
    ∃ m, c = a ++ m ∧ b = m ++ d := by
  rcases List.append_eq_append_iff.1 h with ⟨m, hc, hb⟩ | ⟨m, ha, hd⟩
  · exact ⟨m, hc, hb⟩
  · -- The later cut comes first, so there is nothing between them.
    rw [ha, width_append] at hw
    obtain rfl : m = [] := eq_nil_of_width_eq_zero (by omega)
    exact ⟨[], by rw [ha, List.append_nil, List.append_nil], hd.symm⟩

/-! ### One place -/

theorem dropBytes?_utf8Size_add (c : Char) (n : Nat) (cs : List Char) :
    dropBytes? (c.utf8Size + n) (c :: cs) = dropBytes? n cs := by
  obtain ⟨k, hk⟩ := Nat.exists_eq_add_one_of_ne_zero (Nat.ne_of_gt c.utf8Size_pos)
  rw [hk, show k + 1 + n = k + n + 1 by omega, dropBytes?, hk, if_pos (by omega)]
  congr 1
  omega

theorem takeBytes?_utf8Size_add (c : Char) (n : Nat) (cs : List Char) :
    takeBytes? (c.utf8Size + n) (c :: cs) = (takeBytes? n cs).map (c :: ·) := by
  obtain ⟨k, hk⟩ := Nat.exists_eq_add_one_of_ne_zero (Nat.ne_of_gt c.utf8Size_pos)
  rw [hk, show k + 1 + n = k + n + 1 by omega, takeBytes?, hk, if_pos (by omega)]
  congr 2
  omega

/-- What stands behind a part of a text. -/
theorem dropBytes?_width (before behind : List Char) :
    dropBytes? (width before) (before ++ behind) = some behind := by
  induction before with
  | nil => cases behind <;> rfl
  | cons c cs ih => rw [width_cons, List.cons_append, dropBytes?_utf8Size_add, ih]

theorem takeBytes?_width (before behind : List Char) :
    takeBytes? (width before) (before ++ behind) = some before := by
  induction before with
  | nil => cases behind <;> rfl
  | cons c cs ih => rw [width_cons, List.cons_append, takeBytes?_utf8Size_add, ih, Option.map_some]

theorem dropBytes?_eq_some_iff :
    dropBytes? n text = some behind ↔ ∃ before, text = before ++ behind ∧ width before = n := by
  constructor
  · intro h
    induction text generalizing n with
    | nil =>
      cases n with
      | zero => cases h; exact ⟨[], rfl, rfl⟩
      | succ n => cases h
    | cons c cs ih =>
      cases n with
      | zero => cases h; exact ⟨[], rfl, rfl⟩
      | succ n =>
        rw [dropBytes?] at h
        split at h
        · obtain ⟨before, rfl, hw⟩ := ih h
          exact ⟨c :: before, rfl, by rw [width_cons]; omega⟩
        · cases h
  · rintro ⟨before, rfl, rfl⟩
    exact dropBytes?_width before behind

/-- With another text in front, everything stands as much further on as that is wide. -/
theorem dropBytes?_width_add (front text : List Char) (n : Nat) :
    dropBytes? (width front + n) (front ++ text) = dropBytes? n text := by
  induction front with
  | nil => rw [width_nil, Nat.zero_add, List.nil_append]
  | cons c cs ih => rw [width_cons, List.cons_append, Nat.add_assoc, dropBytes?_utf8Size_add, ih]

theorem isPlace_iff : IsPlace text n ↔ (dropBytes? n text).isSome := by
  rw [Option.isSome_iff_exists]
  constructor
  · rintro ⟨before, behind, h⟩
    exact ⟨behind, dropBytes?_eq_some_iff.2 ⟨before, h⟩⟩
  · rintro ⟨behind, h⟩
    obtain ⟨before, h⟩ := dropBytes?_eq_some_iff.1 h
    exact ⟨before, behind, h⟩

instance : Decidable (IsPlace text n) := decidable_of_iff _ isPlace_iff.symm

theorem takeBytes?_eq_some_iff :
    takeBytes? n text = some before ↔ ∃ behind, text = before ++ behind ∧ width before = n := by
  constructor
  · intro h
    induction text generalizing n before with
    | nil =>
      cases n with
      | zero => cases h; exact ⟨[], rfl, rfl⟩
      | succ n => cases h
    | cons c cs ih =>
      cases n with
      | zero => cases h; exact ⟨c :: cs, rfl, rfl⟩
      | succ n =>
        rw [takeBytes?] at h
        split at h
        · obtain ⟨before, hb, rfl⟩ := Option.map_eq_some_iff.1 h
          obtain ⟨behind, rfl, hw⟩ := ih hb
          exact ⟨behind, rfl, by rw [width_cons]; omega⟩
        · cases h
  · rintro ⟨behind, rfl, rfl⟩
    exact takeBytes?_width before behind

/-! ### Two places -/

theorem slice?_eq_some_iff :
    slice? text start stop = some mid ↔
      ∃ before behind, text = before ++ (mid ++ behind) ∧ width before = start ∧
        start + width mid = stop := by
  rw [slice?]
  constructor
  · intro h
    split at h
    case isTrue hle =>
      obtain ⟨rest, hdrop, htake⟩ := Option.bind_eq_some_iff.1 h
      obtain ⟨before, rfl, hbefore⟩ := dropBytes?_eq_some_iff.1 hdrop
      obtain ⟨behind, rfl, hmid⟩ := takeBytes?_eq_some_iff.1 htake
      exact ⟨before, behind, rfl, hbefore, by omega⟩
    case isFalse => cases h
  · rintro ⟨before, behind, rfl, rfl, rfl⟩
    rw [if_pos (by omega), dropBytes?_width, Option.bind_some, Nat.add_sub_cancel_left,
      takeBytes?_width]

theorem slice?_width_add (front text : List Char) (start stop : Nat) :
    slice? (front ++ text) (width front + start) (width front + stop) =
      slice? text start stop := by
  rw [slice?, slice?, dropBytes?_width_add, Nat.add_sub_add_left]
  simp only [Nat.add_le_add_iff_left]

/-- What stands between two places. -/
theorem slice_width (before mid behind : List Char) :
    slice (before ++ (mid ++ behind)) (width before) (width before + width mid) = mid := by
  rw [slice, slice?_eq_some_iff.2 ⟨before, behind, rfl, rfl, rfl⟩, Option.getD_some]

end FormCodemod.Text
