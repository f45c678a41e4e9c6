import FormCodemod.Proofs.Text.Pattern
import FormCodemod.Proofs.Text.Place
import FormCodemod.Text.Trivia
import Mathlib.Logic.Relation

/-!
# Blanks and comments

What may be skipped at the front of a text is a run of blanks, a line comment or a block comment
(`Skips`), and each of them ends at one place only. So there is one place at which nothing more can
be skipped (`SkipsAll`), and it is where the scan ends (`skipsAll_iff`). It is also where the pattern
`(?:\s+|//[^\n]*|/\*(?s:.*?)\*/)*` ends (`restOf?_trivia`), in which a lazy repetition stands inside
of greedy ones: no way to match a piece is ever given up for another one.
-/

namespace FormCodemod.Text

/-- The text begins with something to skip, and this is the rest. -/
inductive Skips : List Char → List Char → Prop where
  | blanks {run rest : List Char} (hne : run ≠ []) (hrun : LongestRun isBlank run rest) :
      Skips (run ++ rest) rest
  | lineComment {body rest : List Char} (hbody : LongestRun (· ≠ '\n') body rest) :
      Skips ('/' :: '/' :: (body ++ rest)) rest
  /-- No `*/` stands in the comment ahead of the one that closes it. -/
  | blockComment {body rest : List Char} (hbody : ¬['*', '/'] <:+: body ++ ['*']) :
      Skips ('/' :: '*' :: (body ++ '*' :: '/' :: rest)) rest

namespace Pattern

/-- A comment up to the end of its line. -/
def lineComment : Pattern :=
  (pair '/' '/').seq (char (· ≠ '\n')).many

/-- What may stand ahead of a `*/`, and the `*/`. -/
def commentEnd : Pattern :=
  (char fun _ => true).few.seq (pair '*' '/')

/-- A comment up to where it is closed. -/
def blockComment : Pattern :=
  (pair '/' '*').seq commentEnd

/-- Blanks, or a comment. -/
def triviaPiece : Pattern :=
  ((char isBlank).oneOrMore.either lineComment).either blockComment

/-- Blanks and comments. -/
def trivia : Pattern :=
  triviaPiece.many

end Pattern

/-- The rest is left when all has been skipped that can be. -/
def SkipsAll (text rest : List Char) : Prop :=
  Relation.ReflTransGen Skips text rest ∧ ∀ further, ¬Skips rest further

variable {text rest run body : List Char} {c : Char}

/-- What is skipped stands ahead of the rest, and is something. -/
theorem Skips.exists_eq_append (h : Skips text rest) :
    ∃ skipped, skipped ≠ [] ∧ text = skipped ++ rest := by
  cases h with
  | blanks hne _ => exact ⟨_, hne, rfl⟩
  | @lineComment body _ _ => exact ⟨'/' :: '/' :: body, List.cons_ne_nil _ _, rfl⟩
  | @blockComment body _ _ =>
    exact ⟨'/' :: '*' :: (body ++ ['*', '/']), List.cons_ne_nil _ _, by simp⟩

theorem Skips.length_lt (h : Skips text rest) : rest.length < text.length := by
  obtain ⟨skipped, hne, rfl⟩ := h.exists_eq_append
  have := List.length_pos_iff.2 hne
  rw [List.length_append]
  omega

theorem SkipsAll.exists_eq_append (h : SkipsAll text rest) : ∃ skipped, text = skipped ++ rest := by
  obtain ⟨hsteps, -⟩ := h
  induction hsteps using Relation.ReflTransGen.head_induction_on with
  | refl => exact ⟨[], rfl⟩
  | head hstep _ ih =>
    obtain ⟨skipped, rfl⟩ := ih
    obtain ⟨first, -, rfl⟩ := hstep.exists_eq_append
    exact ⟨first ++ skipped, (List.append_assoc _ _ _).symm⟩

/-! ### Where a comment ends -/

/-- A comment has no `*/` ahead of its end if none begins with its first character or behind it. -/
theorem not_commentEnd_cons_iff (rest : List Char) :
    (¬['*', '/'] <:+: c :: body ++ ['*']) ↔
      (¬['*', '/'] <:+: body ++ ['*']) ∧ ∀ cs, c :: (body ++ '*' :: rest) ≠ '*' :: '/' :: cs := by
  rw [List.cons_append, List.infix_cons_iff, not_or, and_comm]
  refine and_congr_right fun _ => ?_
  constructor
  · intro h cs heq
    obtain ⟨rfl, hrest⟩ := List.cons.inj heq
    cases body with
    | nil => exact absurd (List.cons.inj hrest).1 (by decide)
    | cons d ds =>
      obtain ⟨rfl, -⟩ := List.cons.inj hrest
      exact h ⟨ds ++ ['*'], rfl⟩
  · rintro h ⟨behind, hbehind⟩
    obtain ⟨rfl, htail⟩ := List.cons.inj hbehind
    cases body with
    | nil => exact absurd (List.cons.inj htail).1 (by decide)
    | cons d ds =>
      obtain ⟨rfl, -⟩ := List.cons.inj htail
      exact h _ rfl

theorem hasCommentEnd_cons (h : ∀ cs, c :: text ≠ '*' :: '/' :: cs) :
    hasCommentEnd (c :: text) = hasCommentEnd text := by
  rw [hasCommentEnd]
  exact fun cs hc hcs => h cs (by rw [hc, hcs])

theorem hasCommentEnd_append (body rest : List Char) :
    hasCommentEnd (body ++ '*' :: '/' :: rest) = true := by
  induction body with
  | nil => rfl
  | cons c body ih =>
    by_cases h : ∀ cs, c :: (body ++ '*' :: '/' :: rest) ≠ '*' :: '/' :: cs
    · rw [List.cons_append, hasCommentEnd_cons h, ih]
    · simp only [not_forall, not_not] at h
      obtain ⟨cs, hcs⟩ := h
      rw [List.cons_append, hcs]
      rfl

/-- Of the places at which a text has `*/`, one is the first. -/
theorem exists_of_hasCommentEnd (h : hasCommentEnd text = true) :
    ∃ body rest, text = body ++ '*' :: '/' :: rest ∧ ¬['*', '/'] <:+: body ++ ['*'] := by
  fun_induction hasCommentEnd text with
  | case1 rest => exact ⟨[], rest, rfl, by decide⟩
  | case2 c cs hne ih =>
    obtain ⟨body, rest, rfl, hbody⟩ := ih h
    refine ⟨c :: body, rest, rfl, (not_commentEnd_cons_iff ('/' :: rest)).2 ⟨hbody, ?_⟩⟩
    intro cs heq
    obtain ⟨hc, hcs⟩ := List.cons.inj heq
    exact hne cs hc hcs
  | case3 => cases h

/-! ### The scan -/

theorem scanTrivia_blanks (h : ∀ c ∈ run, isBlank c) :
    scanTrivia .between (run ++ rest) = scanTrivia .between rest := by
  induction run with
  | nil => rfl
  | cons c run ih =>
    obtain ⟨hc, hrun⟩ := List.forall_mem_cons.1 h
    have hslash : c ≠ '/' := by
      rintro rfl
      exact absurd hc (by decide)
    rw [List.cons_append, scanTrivia, if_pos hc, ih hrun]
    · exact fun _ h _ => hslash h
    · exact fun _ h _ => hslash h

theorem scanTrivia_lineComment (h : LongestRun (· ≠ '\n') body rest) :
    scanTrivia .lineComment (body ++ rest) = scanTrivia .between rest := by
  obtain ⟨hbody, hstops⟩ := h
  induction body with
  | nil =>
    cases rest with
    | nil => rfl
    | cons c cs =>
      have hc : c = '\n' := by simpa using hstops c rfl
      subst hc
      rfl
  | cons c body ih =>
    obtain ⟨hc, hbody⟩ := List.forall_mem_cons.1 hbody
    rw [List.cons_append, scanTrivia, if_neg (of_decide_eq_true hc), ih hbody]

theorem scanTrivia_blockComment (h : ¬['*', '/'] <:+: body ++ ['*']) :
    scanTrivia .blockComment (body ++ '*' :: '/' :: rest) = scanTrivia .between rest := by
  induction body with
  | nil => rfl
  | cons c body ih =>
    obtain ⟨hbody, hne⟩ := (not_commentEnd_cons_iff ('/' :: rest)).1 h
    rw [List.cons_append, scanTrivia, ih hbody]
    exact fun cs hc hcs => hne cs (by rw [hc, hcs])

/-- What may be skipped is skipped. -/
theorem Skips.skipTrivia_eq (h : Skips text rest) : skipTrivia text = skipTrivia rest := by
  cases h with
  | blanks _ hrun => exact scanTrivia_blanks hrun.all
  | lineComment hbody => exact scanTrivia_lineComment hbody
  | blockComment hbody =>
    rw [skipTrivia, scanTrivia, if_pos (hasCommentEnd_append _ _), scanTrivia_blockComment hbody]
    rfl

theorem exists_skips_of_isBlank (h : isBlank c = true) : ∃ rest, Skips (c :: text) rest := by
  have hrun := longestRun_takeWhile isBlank (c :: text)
  have hskips := Skips.blanks (by rw [List.takeWhile_cons_of_pos h]; exact List.cons_ne_nil _ _) hrun
  rw [List.takeWhile_append_dropWhile] at hskips
  exact ⟨_, hskips⟩

theorem exists_skips_lineComment (text : List Char) : ∃ rest, Skips ('/' :: '/' :: text) rest := by
  have hskips := Skips.lineComment (longestRun_takeWhile (· ≠ '\n') text)
  rw [List.takeWhile_append_dropWhile] at hskips
  exact ⟨_, hskips⟩

theorem exists_skips_blockComment (h : hasCommentEnd text = true) :
    ∃ rest, Skips ('/' :: '*' :: text) rest := by
  obtain ⟨body, rest, rfl, hbody⟩ := exists_of_hasCommentEnd h
  exact ⟨rest, .blockComment hbody⟩

/-- Where nothing may be skipped, nothing is. -/
theorem skipTrivia_eq_self (h : ∀ rest, ¬Skips text rest) : skipTrivia text = text := by
  have hnone : ¬∃ rest, Skips text rest := fun ⟨rest, hrest⟩ => h rest hrest
  unfold skipTrivia scanTrivia
  split
  case h_1 => rfl
  case h_2 cs _ => exact absurd (exists_skips_lineComment cs) hnone
  case h_3 cs _ =>
    split
    case isTrue hend => exact absurd (exists_skips_blockComment hend) hnone
    case isFalse => rfl
  case h_4 c cs _ _ _ =>
    split
    case isTrue hblank => exact absurd (exists_skips_of_isBlank hblank) hnone
    case isFalse => rfl
  case h_5 heq => cases heq
  case h_6 heq => cases heq
  case h_7 heq => cases heq

/-- The scan skips all that may be skipped. -/
theorem skipsAll_skipTrivia (text : List Char) : SkipsAll text (skipTrivia text) := by
  by_cases h : ∃ rest, Skips text rest
  · obtain ⟨rest, hrest⟩ := h
    have := hrest.length_lt
    obtain ⟨hsteps, hstuck⟩ := skipsAll_skipTrivia rest
    rw [hrest.skipTrivia_eq]
    exact ⟨.head hrest hsteps, hstuck⟩
  · have hstuck := not_exists.1 h
    rw [skipTrivia_eq_self hstuck]
    exact ⟨.refl, hstuck⟩
termination_by text.length

theorem skipsAll_iff : SkipsAll text rest ↔ skipTrivia text = rest := by
  constructor
  · rintro ⟨hsteps, hstuck⟩
    induction hsteps using Relation.ReflTransGen.head_induction_on with
    | refl => exact skipTrivia_eq_self hstuck
    | head hstep _ ih => rw [hstep.skipTrivia_eq, ih]
  · rintro rfl
    exact skipsAll_skipTrivia text

/-! ### The pattern -/

namespace Pattern

theorem restOf?_lineComment_eq_some_iff :
    lineComment.restOf? text = some rest ↔
      ∃ body, text = '/' :: '/' :: (body ++ rest) ∧ LongestRun (· ≠ '\n') body rest := by
  rw [lineComment, restOf?_pair_seq_eq_some_iff]
  simp only [restOf?_many_char, Option.some_inj, dropWhile_eq_iff]
  constructor
  · rintro ⟨behind, rfl, body, rfl, hbody⟩
    exact ⟨body, rfl, hbody⟩
  · rintro ⟨body, rfl, hbody⟩
    exact ⟨body ++ rest, rfl, body, rfl, hbody⟩

/-- The first `*/` is the one that counts. -/
theorem restOf?_commentEnd_append (h : ¬['*', '/'] <:+: body ++ ['*']) :
    commentEnd.restOf? (body ++ '*' :: '/' :: rest) = some rest := by
  induction body with
  | nil => exact restOf?_few_seq_of_eq_some (restOf?_pair_eq_some_iff.2 rfl)
  | cons c body ih =>
    obtain ⟨hbody, hne⟩ := (not_commentEnd_cons_iff ('/' :: rest)).1 h
    rw [List.cons_append, commentEnd, restOf?_few_seq_of_eq_none, ← commentEnd, ih hbody]
    rw [Option.eq_none_iff_forall_ne_some]
    exact fun cs hcs => hne cs (restOf?_pair_eq_some_iff.1 hcs)

theorem hasCommentEnd_of_restOf? (h : commentEnd.restOf? text = some rest) :
    hasCommentEnd text = true := by
  induction text with
  | nil =>
    rw [commentEnd, restOf?_few_seq_nil, restOf?_pair_eq_some_iff] at h
    cases h
  | cons c text ih =>
    by_cases hstarts : ∀ cs, c :: text ≠ '*' :: '/' :: cs
    · rw [hasCommentEnd_cons hstarts]
      refine ih ?_
      rw [← h, commentEnd, restOf?_few_seq_of_eq_none]
      rw [Option.eq_none_iff_forall_ne_some]
      exact fun cs hcs => hstarts cs (restOf?_pair_eq_some_iff.1 hcs)
    · simp only [not_forall, not_not] at hstarts
      obtain ⟨cs, hcs⟩ := hstarts
      rw [hcs]
      rfl

theorem restOf?_commentEnd_eq_some_iff :
    commentEnd.restOf? text = some rest ↔
      ∃ body, text = body ++ '*' :: '/' :: rest ∧ ¬['*', '/'] <:+: body ++ ['*'] := by
  constructor
  · intro h
    obtain ⟨body, last, rfl, hbody⟩ := exists_of_hasCommentEnd (hasCommentEnd_of_restOf? h)
    rw [restOf?_commentEnd_append hbody] at h
    obtain rfl := Option.some_inj.1 h
    exact ⟨body, rfl, hbody⟩
  · rintro ⟨body, rfl, hbody⟩
    exact restOf?_commentEnd_append hbody

theorem restOf?_blockComment_eq_some_iff :
    blockComment.restOf? text = some rest ↔
      ∃ body, text = '/' :: '*' :: (body ++ '*' :: '/' :: rest) ∧
        ¬['*', '/'] <:+: body ++ ['*'] := by
  rw [blockComment, restOf?_pair_seq_eq_some_iff]
  simp only [restOf?_commentEnd_eq_some_iff]
  constructor
  · rintro ⟨behind, rfl, body, rfl, hbody⟩
    exact ⟨body, rfl, hbody⟩
  · rintro ⟨body, rfl, hbody⟩
    exact ⟨_, rfl, body, rfl, hbody⟩

/-- The pieces of the pattern are what may be skipped. -/
theorem skips_of_restOf?_triviaPiece (h : triviaPiece.restOf? text = some rest) :
    Skips text rest := by
  rw [triviaPiece, restOf?_either, restOf?_either, Option.or_eq_some_iff, Option.or_eq_some_iff] at h
  rcases h with (h | ⟨-, h⟩) | ⟨-, h⟩
  · obtain ⟨run, hne, rfl, hrun⟩ := restOf?_oneOrMore_char_eq_some_iff.1 h
    exact .blanks hne hrun
  · obtain ⟨body, rfl, hbody⟩ := restOf?_lineComment_eq_some_iff.1 h
    exact .lineComment hbody
  · obtain ⟨body, rfl, hbody⟩ := restOf?_blockComment_eq_some_iff.1 h
    exact .blockComment hbody

theorem isSome_restOf?_triviaPiece (h : Skips text rest) : (triviaPiece.restOf? text).isSome := by
  rw [triviaPiece, restOf?_either, restOf?_either, Option.isSome_or, Option.isSome_or]
  cases h with
  | blanks hne hrun =>
    rw [restOf?_oneOrMore_char_eq_some_iff.2 ⟨_, hne, rfl, hrun⟩]
    rfl
  | lineComment hbody =>
    rw [restOf?_lineComment_eq_some_iff.2 ⟨_, rfl, hbody⟩, Option.isSome_some, Bool.or_true]
    rfl
  | blockComment hbody =>
    rw [restOf?_blockComment_eq_some_iff.2 ⟨_, rfl, hbody⟩, Option.isSome_some, Bool.or_true]

/-- The pattern matches what the scan skips. -/
theorem restOf?_trivia (text : List Char) : trivia.restOf? text = some (skipTrivia text) := by
  cases h : triviaPiece.restOf? text with
  | none =>
    have hstuck : ∀ rest, ¬Skips text rest := fun rest hrest => by
      have := isSome_restOf?_triviaPiece hrest
      rw [h] at this
      cases this
    rw [trivia, restOf?_many_of_eq_none h, skipTrivia_eq_self hstuck]
  | some rest =>
    have hskips := skips_of_restOf?_triviaPiece h
    have hlt := hskips.length_lt
    rw [trivia, restOf?_many_of_eq_some h hlt, ← trivia, restOf?_trivia rest, hskips.skipTrivia_eq]
termination_by text.length

end Pattern

end FormCodemod.Text
