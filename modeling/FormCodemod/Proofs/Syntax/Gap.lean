import FormCodemod.Proofs.Text.NextToken
import FormCodemod.Syntax.Lexer

/-!
# Two ways between tokens

The lexer and the scan for separators (`skipTrivia`) both skip blanks and comments, and where the
lexer stops, the scan would not go on either (`skipGap_leaves`). But they do not agree on all of what
they skip. To the lexer a line comment ends at any line terminator, to the scan at `\n` only; and
U+FEFF is a blank to the lexer only. In a gap that has neither (`PlainGap`), they skip the same; and
no gap has, in a text without U+FEFF in which all lines end with `\n` (`Input.Leaves.plainGap`).
-/

namespace FormCodemod.Syntax

open FormCodemod.Text

variable {i here : Input} {t : Token} {offset : Nat} {c : Char}
  {cs gap body blanks rest : List Char}

/-! ### The lexer -/

/-- Behind a gap, an input goes on with one at which the scan for separators stops. -/
structure Input.Leaves (i : Input) (gap : List Char) (here : Input) : Prop where
  chars : i.chars = gap ++ here.chars
  offset : here.offset = i.offset + width gap
  stops : skipTrivia here.chars = here.chars

/-- Some text ahead of an input is skipped with it. -/
theorem Input.exists_leaves_ahead (skipped : List Char)
    (h : ∃ gap, Leaves ⟨cs, offset + width skipped⟩ gap here) :
    ∃ gap, Leaves ⟨skipped ++ cs, offset⟩ gap here := by
  obtain ⟨gap, hchars, hoffset, hstops⟩ := h
  refine ⟨skipped ++ gap, ?_, ?_, hstops⟩
  · rw [List.append_assoc, ← hchars]
  · rw [hoffset, width_append, Nat.add_assoc]

/-- What begins neither with a blank nor with a comment is not skipped. -/
theorem skipTrivia_cons_eq_self (hspace : isSpace c = false) (hline : ∀ ds, c :: cs ≠ '/' :: '/' :: ds)
    (hblock : ∀ ds, c :: cs ≠ '/' :: '*' :: ds) : skipTrivia (c :: cs) = c :: cs := by
  refine skipTrivia_eq_self fun rest h => ?_
  have hblank : isBlank c = false := (Bool.or_eq_false_iff.1 hspace).1
  generalize htext : c :: cs = text at h
  cases h with
  | @blanks run _ hne hrun =>
    obtain ⟨d, ds, rfl⟩ := List.exists_cons_of_ne_nil hne
    obtain ⟨rfl, -⟩ := List.cons.inj htext
    exact Bool.false_ne_true (hblank.symm.trans (hrun.all c List.mem_cons_self))
  | lineComment => exact hline _ htext
  | blockComment => exact hblock _ htext

theorem scanGap_leaves (state : GapState) (finding : GapFinding) (offset : Nat) (cs : List Char) :
    ∃ gap, Input.Leaves ⟨cs, offset⟩ gap (scanGap state finding offset cs).2 := by
  fun_induction scanGap state finding offset cs with
  | case1 | case2 => exact ⟨[], rfl, rfl, rfl⟩
  | case3 _ _ _ ih => exact Input.exists_leaves_ahead ['/', '/'] ih
  | case4 _ _ _ ih => exact Input.exists_leaves_ahead ['/', '*'] ih
  | case5 _ _ _ ih => exact Input.exists_leaves_ahead ['<', '!', '-', '-'] ih
  | case6 _ _ _ _ ih => exact Input.exists_leaves_ahead ['-', '-', '>'] ih
  | case7 =>
    exact ⟨[], rfl, rfl, skipTrivia_cons_eq_self (by decide) (fun _ => nofun) fun _ => nofun⟩
  | case8 _ _ c _ _ _ _ _ _ ih => exact Input.exists_leaves_ahead [c] ih
  | case9 _ _ c cs hline hblock _ _ hspace =>
    exact ⟨[], rfl, rfl, skipTrivia_cons_eq_self (Bool.not_eq_true _ ▸ hspace)
      (fun ds h => hline ds (List.cons.inj h).1 (List.cons.inj h).2)
      fun ds h => hblock ds (List.cons.inj h).1 (List.cons.inj h).2⟩
  | case10 _ _ c _ ih => exact Input.exists_leaves_ahead [c] ih
  | case11 _ _ _ ih => exact Input.exists_leaves_ahead ['*', '/'] ih
  | case12 _ _ c _ _ ih => exact Input.exists_leaves_ahead [c] ih

/-- The lexer skips a gap, and the scan for separators would not skip more. -/
theorem skipGap_leaves (i : Input) : ∃ gap, i.Leaves gap (skipGap i).2 :=
  scanGap_leaves _ _ _ _

/-! ### The scan for separators -/

/-- Text between two tokens that means the same to the lexer and to the scan for separators: blanks
    other than U+FEFF, block comments, and line comments that `\n` ends, where nothing but blanks
    stands between an earlier line terminator and the `\n`. -/
inductive PlainGap : List Char → Prop where
  | nil : PlainGap []
  | blank {c : Char} {gap : List Char} (hc : isBlank c) (h : PlainGap gap) : PlainGap (c :: gap)
  | lineComment {body blanks gap : List Char} (hbody : ∀ c ∈ body, ¬isLineEnd c)
      (hblanks : ∀ c ∈ blanks, isBlank c) (h : PlainGap gap) :
      PlainGap ('/' :: '/' :: (body ++ (blanks ++ '\n' :: gap)))
  /-- No `*/` stands in the comment ahead of the one that closes it. -/
  | blockComment {body gap : List Char} (hbody : ¬['*', '/'] <:+: body ++ ['*'])
      (h : PlainGap gap) : PlainGap ('/' :: '*' :: (body ++ '*' :: '/' :: gap))

theorem skipTrivia_blank (hc : isBlank c) : skipTrivia (c :: rest) = skipTrivia rest := by
  have hrun : ∀ d ∈ [c], isBlank d := List.forall_mem_singleton.2 hc
  exact scanTrivia_blanks hrun

/-- A line comment and the blanks behind its `\n` are skipped together, so it does not matter which
    of the blanks ahead of a `\n` are part of it. -/
theorem scanTrivia_lineComment_blanks (h : ∀ c ∈ blanks, isBlank c) :
    scanTrivia .lineComment (blanks ++ '\n' :: rest) = skipTrivia rest := by
  induction blanks with
  | nil => rfl
  | cons c blanks ih =>
    obtain ⟨-, hblanks⟩ := List.forall_mem_cons.1 h
    by_cases hc : c = '\n'
    · rw [List.cons_append, scanTrivia, if_pos hc, scanTrivia_blanks hblanks]
      exact skipTrivia_blank rfl
    · rw [List.cons_append, scanTrivia, if_neg hc, ih hblanks]

theorem scanTrivia_lineComment_append (h : ∀ c ∈ body, ¬isLineEnd c) :
    scanTrivia .lineComment (body ++ rest) = scanTrivia .lineComment rest := by
  induction body with
  | nil => rfl
  | cons c body ih =>
    obtain ⟨hc, hbody⟩ := List.forall_mem_cons.1 h
    have hne : c ≠ '\n' := fun heq => hc (by rw [heq]; rfl)
    rw [List.cons_append, scanTrivia, if_neg hne, ih hbody]

theorem PlainGap.skipTrivia_append (h : PlainGap gap) (rest : List Char) :
    skipTrivia (gap ++ rest) = skipTrivia rest := by
  induction h with
  | nil => rfl
  | blank hc _ ih => rw [List.cons_append, skipTrivia_blank hc, ih]
  | lineComment hbody hblanks _ ih =>
    simp only [List.cons_append, List.append_assoc]
    rw [skipTrivia, scanTrivia, scanTrivia_lineComment_append hbody,
      scanTrivia_lineComment_blanks hblanks, ih]
  | blockComment hbody _ ih =>
    simp only [List.cons_append, List.append_assoc]
    exact (Skips.blockComment hbody).skipTrivia_eq.trans ih

/-- The lexer and the scan for separators go through a plain gap to the same end. -/
theorem Input.Leaves.skipTrivia_eq (h : i.Leaves gap here) (hplain : PlainGap gap) :
    skipTrivia i.chars = here.chars := by
  rw [h.chars, hplain.skipTrivia_append, h.stops]

/-! ### Which gaps are plain -/

/-- The text has no U+FEFF, and every line end in it is a `\n` or stands right ahead of one. -/
structure OrdinaryText (text : List Char) : Prop where
  mark : '\ufeff' ∉ text
  lines : ∀ c rest, c :: rest <:+ text → isLineEnd c → c = '\n' ∨ rest.head? = some '\n'

theorem OrdinaryText.of_append (body : List Char) (h : OrdinaryText (body ++ rest)) :
    OrdinaryText rest where
  mark hmark := h.mark (List.mem_append_right body hmark)
  lines c behind hsuffix := h.lines c behind (hsuffix.trans (List.suffix_append body rest))

/-- What is left of a plain gap from a place in it on. -/
def PlainFrom : GapState → List Char → Prop
  | .between, gap => PlainGap gap
  | .lineComment, gap =>
    ∃ body blanks rest, gap = body ++ (blanks ++ '\n' :: rest) ∧ (∀ c ∈ body, ¬isLineEnd c) ∧
      (∀ c ∈ blanks, isBlank c) ∧ PlainGap rest
  | .blockComment, gap =>
    ∃ body rest, gap = body ++ '*' :: '/' :: rest ∧ (¬['*', '/'] <:+: body ++ ['*']) ∧ PlainGap rest

theorem isBlank_of_isLineEnd (h : isLineEnd c) : isBlank c := by
  simp only [isLineEnd, Bool.or_eq_true, decide_eq_true_eq] at h
  rcases h with ((rfl | rfl) | rfl) | rfl <;> decide

theorem not_isBlank_of_skipTrivia_eq_self (h : skipTrivia (c :: cs) = c :: cs) : ¬isBlank c := by
  intro hc
  obtain ⟨skipped, hcs⟩ := (skipsAll_skipTrivia cs).exists_eq_append
  rw [← skipTrivia_blank hc, h] at hcs
  have := congrArg List.length hcs
  rw [List.length_append, List.length_cons] at this
  omega

/-- Where blanks are skipped, one at the front of the text is in the gap. -/
theorem exists_eq_cons_of_scanGap {state : GapFinding}
    (h : c :: cs = gap ++ (scanGap .between state offset (c :: cs)).2.chars) (hc : isBlank c) :
    ∃ behind, gap = c :: behind := by
  cases gap with
  | nil =>
    obtain ⟨_, hleaves⟩ := scanGap_leaves .between state offset (c :: cs)
    have hstops := hleaves.stops
    rw [List.nil_append] at h
    rw [← h] at hstops
    exact absurd hc (not_isBlank_of_skipTrivia_eq_self hstops)
  | cons d behind =>
    obtain ⟨rfl, -⟩ := List.cons.inj h
    exact ⟨behind, rfl⟩

theorem PlainGap.of_blank (h : PlainGap (c :: gap)) (hc : isBlank c) : PlainGap gap := by
  generalize htext : c :: gap = text at h
  cases h with
  | nil => cases htext
  | blank _ h => exact (List.cons.inj htext).2 ▸ h
  | lineComment =>
    obtain ⟨rfl, -⟩ := List.cons.inj htext
    exact absurd hc (by decide)
  | blockComment =>
    obtain ⟨rfl, -⟩ := List.cons.inj htext
    exact absurd hc (by decide)

theorem PlainFrom.inLine (hc : ¬isLineEnd c) (h : PlainFrom .lineComment gap) :
    PlainFrom .lineComment (c :: gap) := by
  obtain ⟨body, blanks, rest, rfl, hbody, hblanks, hrest⟩ := h
  exact ⟨c :: body, blanks, rest, rfl, List.forall_mem_cons.2 ⟨hc, hbody⟩, hblanks, hrest⟩

/-- To the scan for separators, the `\n` behind a line end still belongs to the comment. -/
theorem PlainFrom.endLine (hc : isLineEnd c) (h : PlainGap ('\n' :: gap)) :
    PlainFrom .lineComment (c :: '\n' :: gap) :=
  ⟨[], [c], gap, rfl, nofun, List.forall_mem_singleton.2 (isBlank_of_isLineEnd hc), h.of_blank rfl⟩

theorem PlainFrom.inBlock (hchars : cs = gap ++ rest)
    (hne : ∀ ds, c = '*' → cs = '/' :: ds → False) (h : PlainFrom .blockComment gap) :
    PlainFrom .blockComment (c :: gap) := by
  obtain ⟨body, behind, rfl, hbody, hbehind⟩ := h
  refine ⟨c :: body, behind, rfl, ?_, hbehind⟩
  refine (not_commentEnd_cons_iff ('/' :: (behind ++ rest))).2 ⟨hbody, fun ds hds => ?_⟩
  obtain ⟨hc, htail⟩ := List.cons.inj hds
  exact hne ds hc (hchars.trans ((List.append_assoc _ _ _).trans htail))

/-- A fault that the lexer has found in a gap is not forgotten. -/
theorem fault_of_scanGap {state : GapState} {finding : GapFinding}
    (h : (scanGap state finding offset cs).1.fault = none) : finding.fault = none := by
  have hadd : ∀ (f : GapFinding) fault, (f.add fault).fault ≠ none := fun f fault => by
    simp [GapFinding.add]
  have hsee : ∀ (f : GapFinding) c, (f.see c).fault = f.fault := fun f c => by
    unfold GapFinding.see
    split <;> rfl
  fun_induction scanGap state finding offset cs with
  | case1 => exact absurd h (hadd _ _)
  | case2 | case7 | case9 => exact h
  | case3 _ _ _ ih | case4 _ _ _ ih | case11 _ _ _ ih => exact ih h
  | case5 _ _ _ ih => exact absurd (ih h) (hadd _ _)
  | case6 _ _ _ _ ih => exact absurd (ih h) (hadd _ _)
  | case8 _ _ _ _ _ _ _ _ _ ih => exact hsee _ _ ▸ ih h
  | case10 _ _ _ _ ih => exact hsee _ _ ▸ ih h
  | case12 _ _ _ _ _ ih => exact hsee _ _ ▸ ih h

/-- What the lexer skips of an ordinary text without a fault is plain. -/
theorem scanGap_plain (state : GapState) (finding : GapFinding) (offset : Nat) (cs : List Char)
    (htext : OrdinaryText cs) (hfault : (scanGap state finding offset cs).1.fault = none)
    (hend : (scanGap state finding offset cs).2.chars ≠ []) :
    ∃ gap, cs = gap ++ (scanGap state finding offset cs).2.chars ∧ PlainFrom state gap := by
  fun_induction scanGap state finding offset cs with
  | case1 | case2 => exact absurd rfl hend
  | case3 _ _ _ ih =>
    obtain ⟨_, hchars, body, blanks, rest, rfl, hbody, hblanks, hrest⟩ :=
      ih (htext.of_append ['/', '/']) hfault hend
    exact ⟨_, congrArg ('/' :: '/' :: ·) hchars, .lineComment hbody hblanks hrest⟩
  | case4 _ _ _ ih =>
    obtain ⟨_, hchars, body, rest, rfl, hbody, hrest⟩ := ih (htext.of_append ['/', '*']) hfault hend
    exact ⟨'/' :: '*' :: _, congrArg ('/' :: '*' :: ·) hchars, .blockComment hbody hrest⟩
  | case5 | case6 => exact absurd (fault_of_scanGap hfault) (by simp [GapFinding.add])
  | case7 | case9 => exact ⟨[], rfl, .nil⟩
  | case8 _ _ c cs _ _ _ _ hspace ih =>
    obtain ⟨gap, hchars, hgap⟩ := ih (htext.of_append [c]) hfault hend
    refine ⟨c :: gap, congrArg (c :: ·) hchars, .blank ?_ hgap⟩
    rw [isSpace, Bool.or_eq_true, decide_eq_true_eq] at hspace
    refine hspace.resolve_right ?_
    rintro rfl
    exact htext.mark List.mem_cons_self
  | case10 finding offset c cs ih =>
    obtain ⟨gap, hchars, hgap⟩ := ih (htext.of_append [c]) hfault hend
    refine ⟨c :: gap, congrArg (c :: ·) hchars, ?_⟩
    by_cases hc : isLineEnd c = true
    · rw [if_pos hc] at hgap hchars
      rcases htext.lines c cs List.suffix_rfl hc with rfl | hhead
      · exact ⟨[], [], gap, rfl, nofun, nofun, hgap⟩
      · obtain ⟨ds, rfl⟩ := List.head?_eq_some_iff.1 hhead
        obtain ⟨behind, rfl⟩ := exists_eq_cons_of_scanGap hchars rfl
        exact .endLine hc hgap
    · rw [if_neg hc] at hgap
      exact hgap.inLine hc
  | case11 _ _ cs ih =>
    obtain ⟨gap, hchars, hgap⟩ := ih (htext.of_append ['*', '/']) hfault hend
    exact ⟨'*' :: '/' :: gap, congrArg ('*' :: '/' :: ·) hchars, [], gap, rfl, by decide, hgap⟩
  | case12 _ _ c cs hne ih =>
    obtain ⟨gap, hchars, hgap⟩ := ih (htext.of_append [c]) hfault hend
    exact ⟨c :: gap, congrArg (c :: ·) hchars, hgap.inBlock hchars hne⟩

/-- In an ordinary text, the gaps in which the lexer finds no fault are plain. -/
theorem Input.Leaves.plainGap (h : i.Leaves gap (skipGap i).2) (htext : OrdinaryText i.chars)
    (hfault : (skipGap i).1.fault = none) (hend : (skipGap i).2.chars ≠ []) : PlainGap gap := by
  obtain ⟨gap', hchars, hplain⟩ := scanGap_plain _ _ _ _ htext hfault hend
  obtain rfl := List.append_cancel_right (h.chars.symm.trans hchars)
  exact hplain

/-! ### Commas -/

theorem Punct.exists_eq_of_ofChars?_comma {count : Nat}
    (h : Punct.ofChars? cs = some (.comma, count)) : ∃ ds, cs = ',' :: ds ∧ count = 1 := by
  unfold Punct.ofChars? at h
  split at h
  all_goals first
    | cases h; exact ⟨_, rfl, rfl⟩
    | cases h
    | split at h <;> cases h

namespace Token

theorem here_read (i : Input) : (read i).here = (skipGap i).2 := by
  unfold read readHere readString readWord readNumber take broken
  dsimp only
  repeat' split
  all_goals rfl

theorem readHere_of_comma (newline : Bool) (fault : Option Fault) (h : here.chars = ',' :: cs) :
    readHere here newline fault = ⟨.punct .comma, here, here.skip 1, newline, fault, false⟩ := by
  rw [readHere, h]
  rfl

/-- A comma is the only token that begins with one. -/
theorem kind_readHere_eq_comma_iff (newline : Bool) (fault : Option Fault) :
    (readHere here newline fault).kind = .punct .comma ↔ ∃ cs, here.chars = ',' :: cs := by
  constructor
  · unfold readHere readString readWord readNumber take broken
    dsimp only
    intro h
    repeat' split at h
    all_goals try cases h
    case h_1 hpunct =>
      obtain ⟨ds, hds, -⟩ := Punct.exists_eq_of_ofChars?_comma hpunct
      exact ⟨ds, by rw [← hds]; assumption⟩
  · rintro ⟨cs, hcs⟩
    rw [readHere_of_comma newline fault hcs]

theorem kind_read_eq_comma_iff :
    (read i).kind = .punct .comma ↔ (read i).here.chars.head? = some ',' := by
  rw [List.head?_eq_some_iff, here_read]
  exact kind_readHere_eq_comma_iff _ _

theorem span_read_of_comma (h : (read i).kind = .punct .comma) :
    (read i).span = ⟨(read i).here.offset, (read i).here.offset + 1⟩ := by
  obtain ⟨cs, hcs⟩ := List.head?_eq_some_iff.1 (kind_read_eq_comma_iff.1 h)
  rw [here_read] at hcs ⊢
  have hread : read i = readHere (skipGap i).2 (skipGap i).1.newline (skipGap i).1.fault := rfl
  rw [span, hread, readHere_of_comma _ _ hcs, Input.skip, hcs]
  rfl

end Token

end FormCodemod.Syntax
