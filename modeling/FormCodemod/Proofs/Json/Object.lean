import FormCodemod.Proofs.Json.Reader

/-!
# Objects in JSON, put together from members

An object is read as its members, one by one, where each of them is a text on its own: a key, a
colon, and a value that could be read without the object (`IsMember`, `readObject_objectOf`). How
the members are laid out inside makes no difference, nor do the members ahead or behind.
-/

namespace FormCodemod.Json

/-- The value that is the whole text. -/
def readWhole (text : List Char) : Except Fault Value := do
  let (value, rest) ← readValue depthLimit (skipSpace text)
  match skipSpace rest with
  | [] => return value
  | rest => .error (.upon .trailingCharacters rest)

/-- The text is a member of an object: a string, a colon, and a value that is accepted on its own,
    in which lists and objects do not nest too deeply to stand in another one. -/
def IsMember (text : List Char) (member : List Char × Value) : Prop :=
  ∃ ahead key between value, text = ahead ++ '"' :: (key ++ (between ++ ':' :: value)) ∧
    skipSpace ahead = [] ∧ readText .plain key = .ok (member.1, []) ∧ skipSpace between = [] ∧
    readWhole value = .ok member.2 ∧ member.2.nesting < depthLimit

/-- An object with the given members. -/
def objectOf (members : List (List Char)) : List Char :=
  '\x7b' :: [','].intercalate members ++ ['\x7d']

variable {text tail space : List Char} {member : List Char × Value} {value : Value} {bound : Nat}
  {texts : List (List Char)} {members : List (List Char × Value)}

theorem readWhole_eq_ok_iff :
    readWhole text = .ok value ↔
      ∃ rest, readValue depthLimit (skipSpace text) = .ok (value, rest) ∧ skipSpace rest = [] := by
  unfold readWhole
  cases readValue depthLimit (skipSpace text) with
  | error e => exact ⟨nofun, nofun⟩
  | ok r =>
    obtain ⟨found, rest⟩ := r
    change (match skipSpace rest with
      | [] => Except.ok found
      | rest => Except.error (Fault.upon .trailingCharacters rest)) = .ok value ↔ _
    cases h : skipSpace rest with
    | nil =>
      constructor
      · intro heq
        obtain rfl := Except.ok.inj heq
        exact ⟨rest, rfl, h⟩
      · rintro ⟨_, heq, -⟩
        cases heq
        rfl
    | cons c cs =>
      refine ⟨nofun, fun ⟨_, heq, hrest⟩ => ?_⟩
      cases heq
      cases h.symm.trans hrest

/-- What stands between the members of an object ends numbers. -/
theorem endsNumber_comma (text : List Char) : EndsNumber (',' :: text) := by
  constructor <;> simp [startsWithDigit]

theorem endsNumber_brace (text : List Char) : EndsNumber ('\x7d' :: text) := by
  constructor <;> simp [startsWithDigit]

/-- A member is read in its place. -/
theorem IsMember.read (h : IsMember text member) (htail : EndsNumber tail) :
    ∃ body rest, skipSpace (text ++ tail) = '"' :: body ∧ skipSpace rest = [] ∧
      readMember (readValue (depthLimit - 1)) body = .ok (member, rest ++ tail) := by
  obtain ⟨ahead, key, between, value, rfl, hahead, hkey, hbetween, hvalue, hnesting⟩ := h
  obtain ⟨rest, hread, hrest⟩ := readWhole_eq_ok_iff.1 hvalue
  refine ⟨key ++ (between ++ ':' :: value) ++ tail, rest, ?_, hrest, ?_⟩
  · rw [List.append_assoc, skipSpace_append_of_eq_nil hahead]
    rfl
  · rw [readMember_eq_ok_iff]
    refine ⟨between ++ ':' :: value ++ tail, value ++ tail, ?_, ?_, ?_⟩
    · rw [List.append_assoc]
      exact readText_append hkey _
    · rw [List.append_assoc, skipSpace_append_of_eq_nil hbetween]
      rfl
    · have hne : skipSpace value ≠ [] := fun hnil => readValue_nil _ _ (hnil ▸ hread)
      rw [skipSpace_append_of_ne_nil hne]
      exact readValue_append htail hread (Nat.le_sub_one_of_lt hnesting)

/-- The members of an object behind the first one, and its closing brace. -/
def furtherMembers (texts : List (List Char)) : List Char :=
  texts.flatMap (',' :: ·) ++ ['\x7d']

theorem endsNumber_furtherMembers (texts : List (List Char)) :
    EndsNumber (furtherMembers texts) := by
  cases texts with
  | nil => exact endsNumber_brace []
  | cons text texts => exact endsNumber_comma _

theorem length_lt_furtherMembers (texts : List (List Char)) :
    texts.length < (furtherMembers texts).length := by
  induction texts with
  | nil => exact Nat.one_pos
  | cons text texts ih =>
    simp only [furtherMembers, List.flatMap_cons, List.length_append, List.length_cons] at ih ⊢
    omega

theorem objectOf_cons (text : List Char) (texts : List (List Char)) :
    objectOf (text :: texts) = '\x7b' :: (text ++ furtherMembers texts) := by
  induction texts generalizing text with
  | nil => simp [objectOf, furtherMembers]
  | cons next texts ih =>
    have htail : objectOf (text :: next :: texts) =
        '\x7b' :: (text ++ ',' :: (objectOf (next :: texts)).tail) := by
      simp [objectOf, List.intercalate]
    rw [htail, ih]
    simp [furtherMembers]

/-- Each member is read behind its comma. -/
theorem readMembers_furtherMembers (h : List.Forall₂ IsMember texts members)
    (hspace : skipSpace space = []) (hbound : texts.length < bound) :
    readMembers (readValue (depthLimit - 1)) bound (space ++ furtherMembers texts) =
      .ok (members, []) := by
  induction h generalizing space bound with
  | nil =>
    obtain ⟨bound, rfl⟩ := Nat.exists_eq_add_of_le' hbound
    exact readMembers_eq_ok_iff.2 (.inl ⟨skipSpace_append_of_eq_nil hspace _, rfl⟩)
  | @cons text member texts members hmember _ ih =>
    obtain ⟨bound, rfl⟩ := Nat.exists_eq_add_of_le' (Nat.zero_lt_of_lt hbound)
    obtain ⟨body, rest, hbody, hrest, hread⟩ := hmember.read (endsNumber_furtherMembers texts)
    rw [readMembers_eq_ok_iff]
    refine .inr ⟨text ++ furtherMembers texts, body, member, rest ++ furtherMembers texts, members,
      ?_, hbody, hread, ih hrest (Nat.lt_of_succ_lt_succ hbound), rfl⟩
    rw [skipSpace_append_of_eq_nil hspace, furtherMembers, List.flatMap_cons, List.append_assoc]
    rfl

/-- An object is read as its members. -/
theorem readObject_objectOf (h : List.Forall₂ IsMember texts members) :
    readObject (objectOf texts) = .ok members := by
  have htail : readObjectTail (readValue (depthLimit - 1)) (objectOf texts).tail =
      .ok (members, []) := by
    rw [readObjectTail_eq_ok_iff]
    cases h with
    | nil => exact .inl ⟨rfl, rfl⟩
    | @cons text member texts members hmember hmembers =>
      obtain ⟨body, rest, hbody, hrest, hread⟩ := hmember.read (endsNumber_furtherMembers texts)
      rw [objectOf_cons]
      refine .inr ⟨body, member, rest ++ furtherMembers texts, members, hbody, hread,
        readMembers_furtherMembers hmembers hrest ?_, rfl⟩
      have := length_lt_furtherMembers texts
      rw [List.length_append]
      omega
  change Except.bind (readObjectTail (readValue (depthLimit - 1)) (objectOf texts).tail) _ = _
  rw [htail]
  rfl

theorem readWhole_writeText (chars : List Char) :
    readWhole (writeText chars) = .ok (.atom (.string chars)) := by
  refine readWhole_eq_ok_iff.2 ⟨[], readValue_of_readAtom ?_ _, rfl⟩
  exact Outcome.mapResult_eq_ok_iff.2 ⟨chars, readText_flatMap_escapedChar chars [], rfl⟩

/-- A member that was written is one. -/
theorem isMember_writeMember (key value : List Char) :
    IsMember (writeMember (key, value)) (key, .atom (.string value)) := by
  refine ⟨[], key.flatMap escapedChar ++ ['"'], [], writeText value, ?_, rfl,
    readText_flatMap_escapedChar key [], rfl, readWhole_writeText value,
    (by decide : 0 < depthLimit)⟩
  simp [writeMember, writeText]

end FormCodemod.Json
