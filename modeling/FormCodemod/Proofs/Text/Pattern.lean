import Mathlib.Data.List.TakeWhile

/-!
# Patterns

Patterns of texts, matched from the front on. A pattern may match in several ways, and the ways have
an order: of two alternatives the first comes first, and a repetition goes on as long as it can, or
ends as soon as it can if it is a lazy one. What counts is the first way that leads to a match of the
whole pattern (`Pattern.restOf?`).

* `restOf?_seq`: behind a match that can be gone on from, others do not count;
* `restOf?_many_of_eq_some`: a repetition starts over behind its first match;
* `restOf?_many_char`: a repetition of single characters takes their longest run (`LongestRun`);
* `restOf?_few_seq_of_eq_none`: a lazy repetition only takes what keeps the rest from matching.
-/

namespace FormCodemod.Text

/-- All characters of the run are in the class, and the rest does not go on with another one. -/
structure LongestRun (isMember : Char → Bool) (run rest : List Char) : Prop where
  all : ∀ c ∈ run, isMember c
  stops : ∀ c ∈ rest.head?, ¬isMember c

variable {isMember : Char → Bool} {text rest : List Char} {c d : Char}

theorem longestRun_takeWhile (isMember : Char → Bool) (text : List Char) :
    LongestRun isMember (text.takeWhile isMember) (text.dropWhile isMember) := by
  refine ⟨fun _ => List.mem_takeWhile_imp, fun c hc => ?_⟩
  have := List.head?_dropWhile_not isMember text
  rw [Option.mem_def.1 hc] at this
  exact Bool.not_eq_true _ ▸ this

/-- A text has one longest run of a class at its front. -/
theorem dropWhile_eq_iff :
    text.dropWhile isMember = rest ↔ ∃ run, text = run ++ rest ∧ LongestRun isMember run rest := by
  constructor
  · rintro rfl
    exact ⟨_, List.takeWhile_append_dropWhile.symm, longestRun_takeWhile isMember text⟩
  · rintro ⟨run, rfl, h⟩
    rw [List.dropWhile_append_of_pos h.all]
    cases rest with
    | nil => rfl
    | cons c cs => exact List.dropWhile_cons_of_neg (h.stops c rfl)

/-- What a text may look like at its front. -/
inductive Pattern where
  /-- One character of a class. -/
  | char (isMember : Char → Bool)
  /-- One pattern behind another. -/
  | seq (first second : Pattern)
  /-- One pattern, or else another. -/
  | either (first second : Pattern)
  /-- Any number of matches, as many as there can be. -/
  | many (each : Pattern)
  /-- Any number of matches, as few as there can be. -/
  | few (each : Pattern)

namespace Pattern

/-- What is left behind any number of matches, of which each takes something: first behind more of
    them, then behind fewer. -/
def repeated (next : List Char → List (List Char)) (text : List Char) : List (List Char) :=
  (next text).flatMap (fun rest => if rest.length < text.length then repeated next rest else []) ++
    [text]
termination_by text.length

/-- What is left behind any number of matches, first behind fewer of them, then behind more. -/
def repeatedLazily (next : List Char → List (List Char)) (text : List Char) : List (List Char) :=
  text :: (next text).flatMap fun rest =>
    if rest.length < text.length then repeatedLazily next rest else []
termination_by text.length

/-- What is left of a text behind a match at its front, for each way to match, in order. -/
def rests : Pattern → List Char → List (List Char)
  | char _, [] => []
  | char isMember, c :: cs => if isMember c then [cs] else []
  | seq first second, text => (first.rests text).flatMap second.rests
  | either first second, text => first.rests text ++ second.rests text
  | many each, text => repeated each.rests text
  | few each, text => repeatedLazily each.rests text

/-- What is left of a text behind the first way to match. -/
def restOf? (p : Pattern) (text : List Char) : Option (List Char) :=
  (p.rests text).head?

/-- At least one match, and as many as there can be. -/
def oneOrMore (p : Pattern) : Pattern :=
  p.seq p.many

/-- Two given characters. -/
def pair (c d : Char) : Pattern :=
  (char (· = c)).seq (char (· = d))

variable {p q : Pattern}

theorem repeated_eq (next : List Char → List (List Char)) (text : List Char) :
    repeated next text =
      (next text).flatMap (fun rest => if rest.length < text.length then repeated next rest else []) ++
        [text] := by
  rw [repeated]

theorem repeatedLazily_eq (next : List Char → List (List Char)) (text : List Char) :
    repeatedLazily next text = text :: (next text).flatMap fun rest =>
      if rest.length < text.length then repeatedLazily next rest else [] := by
  rw [repeatedLazily]

theorem rests_char_nil : (char isMember).rests [] = [] := rfl

theorem rests_char_cons :
    (char isMember).rests (c :: text) = if isMember c then [text] else [] := rfl

theorem rests_seq (p q : Pattern) (text : List Char) :
    (p.seq q).rests text = (p.rests text).flatMap q.rests := rfl

theorem rests_many (p : Pattern) (text : List Char) :
    p.many.rests text = repeated p.rests text := rfl

theorem rests_few (p : Pattern) (text : List Char) :
    p.few.rests text = repeatedLazily p.rests text := rfl

theorem restOf?_eq_none_iff : p.restOf? text = none ↔ p.rests text = [] :=
  List.head?_eq_none_iff

theorem exists_rests_eq (h : p.restOf? text = some rest) :
    ∃ others, p.rests text = rest :: others :=
  List.head?_eq_some_iff.1 h

/-! ### One pattern behind another, and alternatives -/

theorem restOf?_seq (h : p.restOf? text = some rest) (hq : (q.restOf? rest).isSome) :
    (p.seq q).restOf? text = q.restOf? rest := by
  obtain ⟨others, hothers⟩ := exists_rests_eq h
  obtain ⟨last, hlast⟩ := Option.isSome_iff_exists.1 hq
  obtain ⟨more, hmore⟩ := exists_rests_eq hlast
  rw [hlast, restOf?, rests_seq, hothers, List.flatMap_cons, hmore]
  rfl

theorem restOf?_seq_eq_none (h : p.restOf? text = none) : (p.seq q).restOf? text = none := by
  rw [restOf?_eq_none_iff] at h ⊢
  rw [rests_seq, h, List.flatMap_nil]

theorem restOf?_either (p q : Pattern) (text : List Char) :
    (p.either q).restOf? text = (p.restOf? text).or (q.restOf? text) :=
  List.head?_append

/-! ### Repetitions -/

theorem isSome_restOf?_many (p : Pattern) (text : List Char) : (p.many.restOf? text).isSome := by
  rw [restOf?, rests_many, repeated_eq, List.head?_append]
  cases List.head? _ <;> rfl

theorem restOf?_many_of_eq_none (h : p.restOf? text = none) :
    p.many.restOf? text = some text := by
  rw [restOf?, rests_many, repeated_eq, restOf?_eq_none_iff.1 h]
  rfl

theorem restOf?_many_of_eq_some (h : p.restOf? text = some rest)
    (hlt : rest.length < text.length) : p.many.restOf? text = p.many.restOf? rest := by
  obtain ⟨others, hothers⟩ := exists_rests_eq h
  obtain ⟨last, hlast⟩ := Option.isSome_iff_exists.1 (isSome_restOf?_many p rest)
  obtain ⟨more, hmore⟩ := exists_rests_eq hlast
  rw [rests_many] at hmore
  rw [hlast, restOf?, rests_many, repeated_eq, hothers, List.flatMap_cons, if_pos hlt, hmore]
  rfl

/-- What stands behind a lazy repetition may match at once. -/
theorem restOf?_few_seq_of_eq_some (h : q.restOf? text = some rest) :
    (p.few.seq q).restOf? text = some rest := by
  obtain ⟨others, hothers⟩ := exists_rests_eq h
  rw [restOf?, rests_seq, rests_few, repeatedLazily_eq, List.flatMap_cons, hothers]
  rfl

/-! ### Single characters -/

theorem restOf?_char_nil : (char isMember).restOf? [] = none := rfl

theorem restOf?_char_cons :
    (char isMember).restOf? (c :: text) = if isMember c then some text else none := by
  rw [restOf?, rests_char_cons]
  split <;> rfl

theorem restOf?_many_char (isMember : Char → Bool) (text : List Char) :
    (char isMember).many.restOf? text = some (text.dropWhile isMember) := by
  induction text with
  | nil => exact restOf?_many_of_eq_none restOf?_char_nil
  | cons c cs ih =>
    by_cases hc : isMember c = true
    · rw [restOf?_many_of_eq_some (restOf?_char_cons.trans (if_pos hc)) (Nat.lt_succ_self _), ih,
        List.dropWhile_cons_of_pos hc]
    · rw [restOf?_many_of_eq_none (restOf?_char_cons.trans (if_neg hc)),
        List.dropWhile_cons_of_neg hc]

/-- One character or more of a class: their longest run, unless there is none. -/
theorem restOf?_oneOrMore_char_eq_some_iff :
    (char isMember).oneOrMore.restOf? text = some rest ↔
      ∃ run, run ≠ [] ∧ text = run ++ rest ∧ LongestRun isMember run rest := by
  cases text with
  | nil =>
    refine ⟨nofun, fun ⟨run, hne, hrun, _⟩ => ?_⟩
    exact absurd (List.append_eq_nil_iff.1 hrun.symm).1 hne
  | cons c cs =>
    by_cases hc : isMember c = true
    · rw [oneOrMore, restOf?_seq (restOf?_char_cons.trans (if_pos hc)) (isSome_restOf?_many _ _),
        restOf?_many_char, Option.some_inj, ← List.dropWhile_cons_of_pos (l := cs) hc,
        dropWhile_eq_iff]
      constructor
      · rintro ⟨run, htext, hrun⟩
        refine ⟨run, ?_, htext, hrun⟩
        rintro rfl
        rw [List.nil_append] at htext
        exact hrun.stops c (htext ▸ rfl) hc
      · rintro ⟨run, -, h⟩
        exact ⟨run, h⟩
    · rw [oneOrMore, restOf?_seq_eq_none (restOf?_char_cons.trans (if_neg hc))]
      refine ⟨nofun, fun ⟨run, hne, hrun, hlong⟩ => ?_⟩
      obtain ⟨d, ds, rfl⟩ := List.exists_cons_of_ne_nil hne
      obtain ⟨rfl, -⟩ := List.cons.inj hrun
      exact absurd (hlong.all c List.mem_cons_self) hc

theorem rests_pair (c d : Char) (text : List Char) : (pair c d).rests (c :: d :: text) = [text] := by
  simp [pair, rests_seq, rests_char_cons]

theorem restOf?_pair_eq_some_iff :
    (pair c d).restOf? text = some rest ↔ text = c :: d :: rest := by
  constructor
  · intro h
    cases text with
    | nil => cases h
    | cons a cs =>
      by_cases ha : a = c
      · cases cs with
        | nil => simp [restOf?, pair, rests_seq, rests_char_cons, rests_char_nil, ha] at h
        | cons b cs =>
          by_cases hb : b = d
          · simpa [restOf?, pair, rests_seq, rests_char_cons, ha, hb] using h
          · simp [restOf?, pair, rests_seq, rests_char_cons, ha, hb] at h
      · simp [restOf?, pair, rests_seq, rests_char_cons, ha] at h
  · rintro rfl
    rw [restOf?, rests_pair]
    rfl

theorem restOf?_pair_seq_eq_some_iff :
    ((pair c d).seq q).restOf? text = some rest ↔
      ∃ behind, text = c :: d :: behind ∧ q.restOf? behind = some rest := by
  cases h : (pair c d).restOf? text with
  | none =>
    rw [restOf?_seq_eq_none h]
    refine ⟨nofun, fun ⟨behind, htext, _⟩ => ?_⟩
    rw [restOf?_pair_eq_some_iff.2 htext] at h
    cases h
  | some behind =>
    obtain rfl := restOf?_pair_eq_some_iff.1 h
    rw [restOf?, rests_seq, rests_pair, List.flatMap_singleton, ← restOf?]
    simp

/-- A lazy repetition of any characters first takes none. -/
theorem rests_few_any_cons (c : Char) (text : List Char) :
    (char fun _ => true).few.rests (c :: text) =
      (c :: text) :: (char fun _ => true).few.rests text := by
  have hlt : text.length < (c :: text).length := Nat.lt_succ_self _
  rw [rests_few, repeatedLazily_eq, rests_char_cons, if_pos rfl, List.flatMap_singleton, if_pos hlt,
    rests_few]

theorem restOf?_few_seq_nil : ((char fun _ => true).few.seq q).restOf? [] = q.restOf? [] := by
  rw [restOf?, rests_seq, rests_few, repeatedLazily_eq, rests_char_nil, List.flatMap_nil,
    List.flatMap_singleton, ← restOf?]

/-- It takes one if what stands behind it does not match. -/
theorem restOf?_few_seq_of_eq_none (h : q.restOf? (c :: text) = none) :
    ((char fun _ => true).few.seq q).restOf? (c :: text) =
      ((char fun _ => true).few.seq q).restOf? text := by
  rw [restOf?, restOf?, rests_seq, rests_few_any_cons, List.flatMap_cons, restOf?_eq_none_iff.1 h,
    List.nil_append, rests_seq]

end Pattern

end FormCodemod.Text
