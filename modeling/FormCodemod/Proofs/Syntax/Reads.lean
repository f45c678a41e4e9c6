import FormCodemod.Syntax.Reader
import Mathlib.Data.List.Basic

/-!
# What readers give

What a reader can give is said without the text that it reads: there is a state in which it gives
the value, whatever the readers of the nested phrases are (`Reader.Reads`). A phrase is taken apart
along the steps of its reader, with one lemma for each way to put readers together; a step that is
only there to note a flaw drops out (`Reads.of_when`, `Reads.of_unless`).

For rounds the state matters, because it decides which round is the last. What each of them keeps
holds in the end (`of_iterate`).
-/

namespace FormCodemod.Syntax

namespace Reader

variable {α β σ : Type}

/-- There is a state in which the reader gives the value, for some readers of the nested phrases. -/
def Reads (r : Reader α) (a : α) : Prop :=
  ∃ phrases s t, r phrases s = .done a t

variable {r : Reader α} {f : α → Reader β} {a a' : α} {b : β} {s t : State} {phrases : Phrases}
  {step : σ → Reader (Round σ α)} {start : σ}

theorem bind_eq_done_iff :
    (r >>= f) phrases s = .done b t ↔
      ∃ a u, r phrases s = .done a u ∧ f a phrases u = .done b t := by
  simp only [bind]
  cases r phrases s with
  | done a u =>
    constructor
    · exact fun h => ⟨a, u, rfl, h⟩
    · rintro ⟨_, _, heq, h⟩
      cases heq
      exact h
  | failed e u =>
    refine iff_of_false (fun h => by cases h) ?_
    rintro ⟨_, _, heq, -⟩
    cases heq

theorem Reads.exists_of_bind (h : (r >>= f).Reads b) : ∃ a, r.Reads a ∧ (f a).Reads b := by
  obtain ⟨phrases, s, t, h⟩ := h
  obtain ⟨a, u, hr, hf⟩ := bind_eq_done_iff.1 h
  exact ⟨a, ⟨phrases, s, u, hr⟩, phrases, u, t, hf⟩

theorem Reads.eq_of_pure (h : (pure a : Reader α).Reads a') : a' = a := by
  obtain ⟨phrases, s, t, h⟩ := h
  cases h
  rfl

theorem Reads.exists_of_node {kind : Kind} {place : Nat} {parts : List Node} {n : Node}
    (h : (node kind place parts).Reads n) : ∃ span, n = .mk kind span parts := by
  obtain ⟨span, -, h⟩ := h.exists_of_bind
  exact ⟨span, h.eq_of_pure⟩

theorem not_reads_failAt {offset : Nat} {flaw : Flaw} :
    ¬(failAt offset flaw : Reader α).Reads a := by
  rintro ⟨_, _, _, h⟩
  cases h

theorem not_reads_fail {flaw : Flaw} : ¬(fail flaw : Reader α).Reads a := by
  intro h
  unfold fail at h
  obtain ⟨kind, -, h⟩ := h.exists_of_bind
  split at h
  · exact not_reads_failAt h
  · obtain ⟨_, -, h⟩ := h.exists_of_bind
    exact not_reads_failAt h

theorem not_reads_unexpected {wanted : String} : ¬(unexpected wanted : Reader α).Reads a := by
  intro h
  obtain ⟨_, -, h⟩ := h.exists_of_bind
  exact not_reads_fail h

theorem Reads.of_within {change : Context → Context} (h : (within change r).Reads a) :
    r.Reads a := by
  obtain ⟨phrases, s, t, h⟩ := h
  cases hr : r phrases { s with context := change s.context } with
  | done b u =>
    rw [within, hr] at h
    cases h
    exact ⟨_, _, _, hr⟩
  | failed e u =>
    rw [within, hr] at h
    cases h

theorem Reads.of_if {c : Prop} [Decidable c] {r' : Reader α} (h : (if c then r else r').Reads a) :
    c ∧ r.Reads a ∨ ¬c ∧ r'.Reads a := by
  split at h
  case isTrue hc => exact .inl ⟨hc, h⟩
  case isFalse hc => exact .inr ⟨hc, h⟩

/-- What is only done under a condition gives nothing to what comes behind it. -/
theorem Reads.of_when {c : Prop} [Decidable c] {x : Reader Unit} {next : Unit → Reader β}
    (h : (if c then x >>= next else next ()).Reads b) : (next ()).Reads b := by
  rcases h.of_if with ⟨-, h⟩ | ⟨-, h⟩
  · obtain ⟨_, -, h⟩ := h.exists_of_bind
    exact h
  · exact h

theorem Reads.of_unless {c : Prop} [Decidable c] {x : Reader Unit} {next : Unit → Reader β}
    (h : (if c then next () else x >>= next).Reads b) : (next ()).Reads b := by
  rw [← ite_not] at h
  exact h.of_when

/-- What is got in one of two ways is got. -/
theorem Reads.of_either {c : Prop} [Decidable c] {x y : Reader α} {next : α → Reader β}
    (h : (if c then x >>= next else y >>= next).Reads b) : ∃ a, (next a).Reads b := by
  rcases h.of_if with ⟨-, h⟩ | ⟨-, h⟩
  · obtain ⟨a, -, h⟩ := h.exists_of_bind
    exact ⟨a, h⟩
  · obtain ⟨a, -, h⟩ := h.exists_of_bind
    exact ⟨a, h⟩

/-! ### Tokens and rounds -/

/-- To look at a punctuator does not take it. -/
theorem isPunct_eq (p : Punct) : isPunct p phrases s = .done (decide (s.token.kind = .punct p)) s :=
  rfl

/-- Punctuation is taken just if it is there. -/
theorem eq_decide_of_eat {p : Punct} {eaten : Bool} (h : eat p phrases s = .done eaten t) :
    eaten = decide (s.token.kind = .punct p) := by
  obtain ⟨_, _, hpunct, h⟩ := bind_eq_done_iff.1 h
  cases (isPunct_eq p).symm.trans hpunct
  split at h
  case isTrue hkind =>
    obtain ⟨_, _, -, h⟩ := bind_eq_done_iff.1 h
    cases h
    exact hkind.symm
  case isFalse hkind =>
    cases h
    exact (Bool.not_eq_true _ ▸ hkind).symm

/-- What every round keeps holds when the rounds stop. -/
theorem of_iterate {p : σ → State → Prop} {q : α → Prop}
    (h : iterate step start phrases s = .done a t) (hstart : p start s)
    (hagain : ∀ v w s t, p v s → step v phrases s = .done (.again w) t → p w t)
    (hstop : ∀ v a s t, p v s → step v phrases s = .done (.stop a) t → q a) : q a := by
  obtain ⟨bound, u, hbound, hrounds⟩ := bind_eq_done_iff.1 h
  cases hbound
  generalize 2 * s.token.here.chars.length + 8 = bound at hrounds
  clear h
  induction bound generalizing start s with
  | zero => exact absurd ⟨_, _, _, hrounds⟩ not_reads_fail
  | succ bound ih =>
    obtain ⟨round, u, hround, hrest⟩ := bind_eq_done_iff.1 hrounds
    cases round with
    | again w => exact ih (hagain _ w s u hstart hround) hrest
    | stop b =>
      cases hrest
      exact hstop _ _ s _ hstart hround

/-- Items that are collected are each read by themselves. -/
theorem Reads.of_collect {item : Reader (Option α)} {items : List α}
    (h : (collect item).Reads items) : ∀ a ∈ items, item.Reads (some a) := by
  obtain ⟨phrases, s, t, h⟩ := h
  refine of_iterate (p := fun found _ => ∀ a ∈ found, item.Reads (some a))
    (q := fun found => ∀ a ∈ found, item.Reads (some a)) h nofun ?_ ?_
  · intro found more s t hfound h
    obtain ⟨next, u, hnext, h⟩ := bind_eq_done_iff.1 h
    cases next with
    | none => cases h
    | some a =>
      cases h
      exact List.forall_mem_cons.2 ⟨⟨_, _, _, hnext⟩, hfound⟩
  · intro found all s t hfound h
    obtain ⟨next, u, hnext, h⟩ := bind_eq_done_iff.1 h
    cases next with
    | none =>
      cases h
      exact fun a ha => hfound a (List.mem_reverse.1 ha)
    | some a => cases h

end Reader

end FormCodemod.Syntax
