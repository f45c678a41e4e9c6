import FormCodemod.Json.Reader
import FormCodemod.Proofs.Json.Number
import FormCodemod.Proofs.Json.Text
import Mathlib.Data.List.Basic

/-!
# Values in JSON, inside of others

A value that is read on its own is read where it stands inside a list or an object, too, with
whatever comes behind it, if that ends numbers (`readValue_append`). Inside, lists and objects may
nest less deeply; how deeply they do is a number of the value that was read (`Value.nesting`).
-/

namespace FormCodemod.Json

mutual

/-- How deeply lists and objects nest in a value. -/
def Value.nesting : Value → Nat
  | .atom _ => 0
  | .list values => nestingAll values + 1
  | .object members => nestingMembers members + 1

/-- How deeply they nest in one of the values. -/
def nestingAll : List Value → Nat
  | [] => 0
  | value :: values => max value.nesting (nestingAll values)

/-- How deeply they nest in a value of the members. -/
def nestingMembers : List (List Char × Value) → Nat
  | [] => 0
  | (_, value) :: members => max value.nesting (nestingMembers members)

end

variable {text tail rest : List Char} {read read' : List Char → Outcome Value} {bound bound' : Nat}
  {value : Value} {values : List Value} {members : List (List Char × Value)} {depth limit : Nat}
  {a : Atom}

/-! ### Space -/

theorem skipSpace_append_of_eq_nil (h : skipSpace text = []) (tail : List Char) :
    skipSpace (text ++ tail) = skipSpace tail := by
  rw [skipSpace] at h
  rw [skipSpace, List.dropWhile_append, h, skipSpace]
  rfl

theorem skipSpace_append_of_ne_nil (h : skipSpace text ≠ []) (tail : List Char) :
    skipSpace (text ++ tail) = skipSpace text ++ tail := by
  rw [skipSpace] at h ⊢
  rw [skipSpace, List.dropWhile_append, if_neg fun h' => h (List.isEmpty_iff.1 h')]

theorem skipSpace_append_of_eq_cons {c : Char} {cs : List Char} (h : skipSpace text = c :: cs)
    (tail : List Char) : skipSpace (text ++ tail) = c :: (cs ++ tail) := by
  rw [skipSpace_append_of_ne_nil (h ▸ List.cons_ne_nil _ _), h, List.cons_append]

/-! ### Atoms -/

theorem readWord_append {word : List Char} {b : Atom} (h : readWord a word text = .ok (b, rest))
    (tail : List Char) : readWord a word (text ++ tail) = .ok (b, rest ++ tail) := by
  fun_induction readWord a word text with
  | case1 =>
    cases h
    rfl
  | case2 => cases h
  | case3 expected word text ih =>
    rw [List.cons_append, readWord, if_pos rfl, ih h]
  | case4 => cases h

/-! ### Lists and objects -/

theorem readElements_eq_ok_iff :
    readElements read (bound + 1) text = .ok (values, rest) ↔
      (skipSpace text = ']' :: rest ∧ values = []) ∨
        ∃ cs value behind others, skipSpace text = ',' :: cs ∧ (skipSpace cs).head? ≠ some ']' ∧
          read (skipSpace cs) = .ok (value, behind) ∧
          readElements read bound behind = .ok (others, rest) ∧ values = value :: others := by
  rw [readElements]
  split
  case h_1 h => simp [h]
  case h_2 cs h => simp [h, eq_comm, and_comm]
  case h_3 cs h =>
    split
    case h_1 cs' h' => simp [h, h']
    case h_2 hne =>
      have hhead : (skipSpace cs).head? ≠ some ']' := fun h' => by
        obtain ⟨cs', hcs'⟩ := List.head?_eq_some_iff.1 h'
        exact hne cs' hcs'
      rw [Outcome.andThen_eq_ok_iff]
      simp only [Outcome.mapResult_eq_ok_iff, h]
      constructor
      · rintro ⟨value, behind, hvalue, others, hothers, rfl⟩
        exact .inr ⟨cs, value, behind, others, rfl, hhead, hvalue, hothers, rfl⟩
      · rintro (⟨h, -⟩ | ⟨cs', value, behind, others, heq, -, hvalue, hothers, rfl⟩)
        · cases h
        · cases heq
          exact ⟨value, behind, hvalue, others, hothers, rfl⟩
  case h_4 hnil hclose hcomma =>
    refine ⟨nofun, ?_⟩
    rintro (⟨h, -⟩ | ⟨cs, _, _, _, h, -⟩)
    · exact absurd h (hclose _)
    · exact absurd h (hcomma _)

theorem readList_eq_ok_iff :
    readList read text = .ok (values, rest) ↔
      (skipSpace text = ']' :: rest ∧ values = []) ∨
        ∃ value behind others, skipSpace text ≠ [] ∧ (skipSpace text).head? ≠ some ']' ∧
          read (skipSpace text) = .ok (value, behind) ∧
          readElements read (behind.length + 1) behind = .ok (others, rest) ∧
          values = value :: others := by
  rw [readList]
  split
  case h_1 h => simp [h]
  case h_2 cs h => simp [h, eq_comm, and_comm]
  case h_3 hnil hclose =>
    have hhead : (skipSpace text).head? ≠ some ']' := fun h' => by
      obtain ⟨cs, hcs⟩ := List.head?_eq_some_iff.1 h'
      exact hclose cs hcs
    rw [Outcome.andThen_eq_ok_iff]
    simp only [Outcome.mapResult_eq_ok_iff]
    constructor
    · rintro ⟨value, behind, hvalue, others, hothers, rfl⟩
      exact .inr ⟨value, behind, others, hnil, hhead, hvalue, hothers, rfl⟩
    · rintro (⟨h, -⟩ | ⟨value, behind, others, -, -, hvalue, hothers, rfl⟩)
      · exact absurd h (hclose _)
      · exact ⟨value, behind, hvalue, others, hothers, rfl⟩

theorem readMember_eq_ok_iff {member : List Char × Value} :
    readMember read text = .ok (member, rest) ↔
      ∃ behind cs, readText .plain text = .ok (member.1, behind) ∧ skipSpace behind = ':' :: cs ∧
        read (skipSpace cs) = .ok (member.2, rest) := by
  rw [readMember, Outcome.andThen_eq_ok_iff]
  constructor
  · rintro ⟨key, behind, hkey, h⟩
    split at h
    case h_1 => cases h
    case h_2 cs hcs =>
      obtain ⟨value, hvalue, rfl⟩ := Outcome.mapResult_eq_ok_iff.1 h
      exact ⟨behind, cs, hkey, hcs, hvalue⟩
    case h_3 => cases h
  · rintro ⟨behind, cs, hkey, hcs, hvalue⟩
    refine ⟨_, behind, hkey, ?_⟩
    rw [hcs]
    exact Outcome.mapResult_eq_ok_iff.2 ⟨_, hvalue, rfl⟩

theorem readMembers_eq_ok_iff :
    readMembers read (bound + 1) text = .ok (members, rest) ↔
      (skipSpace text = '\x7d' :: rest ∧ members = []) ∨
        ∃ cs cs' member behind others, skipSpace text = ',' :: cs ∧ skipSpace cs = '"' :: cs' ∧
          readMember read cs' = .ok (member, behind) ∧
          readMembers read bound behind = .ok (others, rest) ∧ members = member :: others := by
  rw [readMembers]
  split
  case h_1 h => simp [h]
  case h_2 cs h => simp [h, eq_comm, and_comm]
  case h_3 cs h =>
    split
    case h_1 h' => simp [h, h']
    case h_2 cs' h' =>
      rw [Outcome.andThen_eq_ok_iff]
      simp only [Outcome.mapResult_eq_ok_iff, h]
      constructor
      · rintro ⟨member, behind, hmember, others, hothers, rfl⟩
        exact .inr ⟨cs, cs', member, behind, others, rfl, h', hmember, hothers, rfl⟩
      · rintro (⟨h, -⟩ | ⟨cs₁, cs₂, member, behind, others, heq, heq', hmember, hothers, rfl⟩)
        · cases h
        · cases heq
          cases h'.symm.trans heq'
          exact ⟨member, behind, hmember, others, hothers, rfl⟩
    case h_3 cs' h' => simp [h, h']
    case h_4 hquote _ =>
      refine ⟨nofun, ?_⟩
      rintro (⟨h', -⟩ | ⟨cs₁, cs₂, _, _, _, heq, heq', -⟩)
      · cases h.symm.trans h'
      · cases h.symm.trans heq
        exact absurd heq' (hquote _)
  case h_4 hnil hclose hcomma =>
    refine ⟨nofun, ?_⟩
    rintro (⟨h, -⟩ | ⟨cs, _, _, _, _, h, -⟩)
    · exact absurd h (hclose _)
    · exact absurd h (hcomma _)

theorem readObjectTail_eq_ok_iff :
    readObjectTail read text = .ok (members, rest) ↔
      (skipSpace text = '\x7d' :: rest ∧ members = []) ∨
        ∃ cs member behind others, skipSpace text = '"' :: cs ∧
          readMember read cs = .ok (member, behind) ∧
          readMembers read (behind.length + 1) behind = .ok (others, rest) ∧
          members = member :: others := by
  rw [readObjectTail]
  split
  case h_1 h => simp [h]
  case h_2 cs h => simp [h, eq_comm, and_comm]
  case h_3 cs h =>
    rw [Outcome.andThen_eq_ok_iff]
    simp only [Outcome.mapResult_eq_ok_iff, h]
    constructor
    · rintro ⟨member, behind, hmember, others, hothers, rfl⟩
      exact .inr ⟨cs, member, behind, others, rfl, hmember, hothers, rfl⟩
    · rintro (⟨h, -⟩ | ⟨cs', member, behind, others, heq, hmember, hothers, rfl⟩)
      · cases h
      · cases heq
        exact ⟨member, behind, hmember, others, hothers, rfl⟩
  case h_4 hnil hclose hquote =>
    refine ⟨nofun, ?_⟩
    rintro (⟨h, -⟩ | ⟨cs, _, _, _, h, -⟩)
    · exact absurd h (hclose _)
    · exact absurd h (hquote _)

/-- What the one reader reads, the other one reads with a further text behind it, if it nests to the
    limit only. -/
structure Continues (tail : List Char) (limit : Nat) (read read' : List Char → Outcome Value) :
    Prop where
  nil : ∀ r, read [] ≠ .ok r
  append : ∀ ⦃text value rest⦄, read text = .ok (value, rest) → value.nesting ≤ limit →
    read' (text ++ tail) = .ok (value, rest ++ tail)

theorem Continues.append_space (hread : Continues tail limit read read')
    (h : read (skipSpace text) = .ok (value, rest)) (hnesting : value.nesting ≤ limit) :
    read' (skipSpace (text ++ tail)) = .ok (value, rest ++ tail) := by
  have hne : skipSpace text ≠ [] := fun hnil => hread.nil _ (hnil ▸ h)
  rw [skipSpace_append_of_ne_nil hne]
  exact hread.append h hnesting

theorem readElements_append (hread : Continues tail limit read read') (hle : bound ≤ bound')
    (h : readElements read bound text = .ok (values, rest)) (hnesting : nestingAll values ≤ limit) :
    readElements read' bound' (text ++ tail) = .ok (values, rest ++ tail) := by
  induction bound generalizing bound' text values with
  | zero => cases h
  | succ bound ih =>
    obtain ⟨bound', rfl⟩ := Nat.exists_eq_add_of_le' (Nat.le_of_add_left_le hle : 1 ≤ bound')
    rw [readElements_eq_ok_iff] at h ⊢
    rcases h with ⟨hclose, rfl⟩ | ⟨cs, value, behind, others, hcomma, hhead, hvalue, hothers, rfl⟩
    · exact .inl ⟨skipSpace_append_of_eq_cons hclose tail, rfl⟩
    · rw [nestingAll, Nat.max_le] at hnesting
      have hne : skipSpace cs ≠ [] := fun hnil => hread.nil _ (hnil ▸ hvalue)
      refine .inr ⟨cs ++ tail, value, behind ++ tail, others,
        skipSpace_append_of_eq_cons hcomma tail, ?_, hread.append_space hvalue hnesting.1,
        ih (by omega) hothers hnesting.2, rfl⟩
      rwa [skipSpace_append_of_ne_nil hne, List.head?_append_of_ne_nil _ hne]

theorem readList_append (hread : Continues tail limit read read')
    (h : readList read text = .ok (values, rest)) (hnesting : nestingAll values ≤ limit) :
    readList read' (text ++ tail) = .ok (values, rest ++ tail) := by
  rw [readList_eq_ok_iff] at h ⊢
  rcases h with ⟨hclose, rfl⟩ | ⟨value, behind, others, hne, hhead, hvalue, hothers, rfl⟩
  · exact .inl ⟨skipSpace_append_of_eq_cons hclose tail, rfl⟩
  · rw [nestingAll, Nat.max_le] at hnesting
    have happend := skipSpace_append_of_ne_nil hne tail
    refine .inr ⟨value, behind ++ tail, others, ?_, ?_, hread.append_space hvalue hnesting.1,
      readElements_append hread ?_ hothers hnesting.2, rfl⟩
    · rw [happend]
      exact List.append_ne_nil_of_left_ne_nil hne _
    · rwa [happend, List.head?_append_of_ne_nil _ hne]
    · rw [List.length_append]
      omega

theorem readMember_append {member : List Char × Value} (hread : Continues tail limit read read')
    (h : readMember read text = .ok (member, rest)) (hnesting : member.2.nesting ≤ limit) :
    readMember read' (text ++ tail) = .ok (member, rest ++ tail) := by
  rw [readMember_eq_ok_iff] at h ⊢
  obtain ⟨behind, cs, hkey, hcolon, hvalue⟩ := h
  exact ⟨behind ++ tail, cs ++ tail, readText_append hkey tail,
    skipSpace_append_of_eq_cons hcolon tail, hread.append_space hvalue hnesting⟩

theorem readMembers_append (hread : Continues tail limit read read') (hle : bound ≤ bound')
    (h : readMembers read bound text = .ok (members, rest))
    (hnesting : nestingMembers members ≤ limit) :
    readMembers read' bound' (text ++ tail) = .ok (members, rest ++ tail) := by
  induction bound generalizing bound' text members with
  | zero => cases h
  | succ bound ih =>
    obtain ⟨bound', rfl⟩ := Nat.exists_eq_add_of_le' (Nat.le_of_add_left_le hle : 1 ≤ bound')
    rw [readMembers_eq_ok_iff] at h ⊢
    rcases h with ⟨hclose, rfl⟩ |
      ⟨cs, cs', member, behind, others, hcomma, hquote, hmember, hothers, rfl⟩
    · exact .inl ⟨skipSpace_append_of_eq_cons hclose tail, rfl⟩
    · rw [nestingMembers, Nat.max_le] at hnesting
      exact .inr ⟨cs ++ tail, cs' ++ tail, member, behind ++ tail, others,
        skipSpace_append_of_eq_cons hcomma tail, skipSpace_append_of_eq_cons hquote tail,
        readMember_append hread hmember hnesting.1, ih (by omega) hothers hnesting.2, rfl⟩

theorem readObjectTail_append (hread : Continues tail limit read read')
    (h : readObjectTail read text = .ok (members, rest))
    (hnesting : nestingMembers members ≤ limit) :
    readObjectTail read' (text ++ tail) = .ok (members, rest ++ tail) := by
  rw [readObjectTail_eq_ok_iff] at h ⊢
  rcases h with ⟨hclose, rfl⟩ | ⟨cs, member, behind, others, hquote, hmember, hothers, rfl⟩
  · exact .inl ⟨skipSpace_append_of_eq_cons hclose tail, rfl⟩
  · rw [nestingMembers, Nat.max_le] at hnesting
    refine .inr ⟨cs ++ tail, member, behind ++ tail, others,
      skipSpace_append_of_eq_cons hquote tail, readMember_append hread hmember hnesting.1,
      readMembers_append hread ?_ hothers hnesting.2, rfl⟩
    rw [List.length_append]
    omega

/-! ### Values -/

theorem readAtom_of_startsWithDigit (h : startsWithDigit text = true) :
    readAtom text = (readMagnitude false text).mapResult .number := by
  rw [readAtom, if_pos h]
  all_goals
    rintro cs rfl
    cases h

theorem readAtom_append (htail : EndsNumber tail) (h : readAtom text = .ok (a, rest)) :
    readAtom (text ++ tail) = .ok (a, rest ++ tail) := by
  by_cases hdigit : startsWithDigit text = true
  · rw [readAtom_of_startsWithDigit hdigit] at h
    rw [readAtom_of_startsWithDigit ((startsWithDigit_append htail).trans hdigit)]
    obtain ⟨n, hn, rfl⟩ := Outcome.mapResult_eq_ok_iff.1 h
    exact Outcome.mapResult_eq_ok_iff.2 ⟨n, readMagnitude_append htail hn, rfl⟩
  · unfold readAtom at h
    split at h
    case h_1 text => exact readWord_append h tail
    case h_2 text => exact readWord_append h tail
    case h_3 text => exact readWord_append h tail
    case h_4 text =>
      obtain ⟨chars, hchars, rfl⟩ := Outcome.mapResult_eq_ok_iff.1 h
      exact Outcome.mapResult_eq_ok_iff.2 ⟨chars, readText_append hchars tail, rfl⟩
    case h_5 text =>
      obtain ⟨n, hn, rfl⟩ := Outcome.mapResult_eq_ok_iff.1 h
      exact Outcome.mapResult_eq_ok_iff.2 ⟨n, readMagnitude_append htail hn, rfl⟩
    case h_6 =>
      rw [if_neg hdigit] at h
      cases h

theorem readValue_nil (depth : Nat) (r : Value × List Char) : readValue depth [] ≠ .ok r := by
  cases depth <;> exact nofun

/-- Neither a list nor an object begins with a text that an atom begins with. -/
theorem readValue_of_readAtom (h : readAtom text = .ok (a, rest)) (depth : Nat) :
    readValue depth text = .ok (.atom a, rest) := by
  have hlist : ∀ cs, text ≠ '[' :: cs := by
    rintro cs rfl
    cases h
  have hobject : ∀ cs, text ≠ '\x7b' :: cs := by
    rintro cs rfl
    cases h
  cases depth with
  | zero | succ =>
    rw [readValue]
    · exact Outcome.mapResult_eq_ok_iff.2 ⟨a, h, rfl⟩
    · exact hlist
    · exact hobject

theorem readValue_append_atom (htail : EndsNumber tail)
    (h : (readAtom text).mapResult .atom = .ok (value, rest)) (limit : Nat) :
    readValue limit (text ++ tail) = .ok (value, rest ++ tail) := by
  obtain ⟨a, ha, rfl⟩ := Outcome.mapResult_eq_ok_iff.1 h
  exact readValue_of_readAtom (readAtom_append htail ha) limit

/-- A value that was read may stand wherever its lists and objects do not nest too deeply. -/
theorem readValue_append (htail : EndsNumber tail) (h : readValue depth text = .ok (value, rest))
    (hnesting : value.nesting ≤ limit) :
    readValue limit (text ++ tail) = .ok (value, rest ++ tail) := by
  induction depth generalizing limit text value rest with
  | zero =>
    rw [readValue.eq_def] at h
    dsimp only at h
    split at h
    · cases h
    · cases h
    · exact readValue_append_atom htail h limit
  | succ depth ih =>
    have hread (limit : Nat) : Continues tail limit (readValue depth) (readValue limit) :=
      ⟨readValue_nil depth, fun _ _ _ => ih⟩
    rw [readValue.eq_def] at h
    dsimp only at h
    split at h
    case h_1 cs =>
      obtain ⟨values, hvalues, rfl⟩ := Outcome.mapResult_eq_ok_iff.1 h
      rw [Value.nesting] at hnesting
      obtain ⟨limit, rfl⟩ := Nat.exists_eq_add_of_le' (Nat.le_of_add_left_le hnesting : 1 ≤ limit)
      exact Outcome.mapResult_eq_ok_iff.2
        ⟨values, readList_append (hread limit) hvalues (Nat.le_of_succ_le_succ hnesting), rfl⟩
    case h_2 cs =>
      obtain ⟨members, hmembers, rfl⟩ := Outcome.mapResult_eq_ok_iff.1 h
      rw [Value.nesting] at hnesting
      obtain ⟨limit, rfl⟩ := Nat.exists_eq_add_of_le' (Nat.le_of_add_left_le hnesting : 1 ≤ limit)
      exact Outcome.mapResult_eq_ok_iff.2
        ⟨members, readObjectTail_append (hread limit) hmembers (Nat.le_of_succ_le_succ hnesting),
          rfl⟩
    case h_3 => exact readValue_append_atom htail h limit

end FormCodemod.Json
