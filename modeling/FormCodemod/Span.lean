/-!
# Spans

Half open ranges of byte offsets. Nothing keeps `start` below `stop`: a span with its bounds in the
wrong order is empty.
-/

namespace FormCodemod

/-- The bytes from `start` up to, but without, `stop`. -/
structure Span where
  start : Nat
  stop : Nat
  deriving DecidableEq, Repr, Inhabited

namespace Span

/-- The empty span at a place. -/
def empty (offset : Nat) : Span :=
  ⟨offset, offset⟩

/-- The number of bytes. -/
def length (s : Span) : Nat :=
  s.stop - s.start

/-- The span has no bytes. -/
def isEmpty (s : Span) : Bool :=
  s.length = 0

/-- The spans share a byte, or one of them is a place strictly inside the other. -/
def overlaps (s t : Span) : Bool :=
  s.start < t.stop && t.start < s.stop

/-- Spans are ordered by where they start, then by where they stop. -/
def compare (s t : Span) : Ordering :=
  (Ord.compare s.start t.start).then (Ord.compare s.stop t.stop)

/-- Not behind the other span in the order of `compare`. -/
def precedes (s t : Span) : Bool :=
  s.start < t.start || (s.start = t.start && s.stop ≤ t.stop)

/-- The span as messages write it. -/
def display (s : Span) : String :=
  s!"{s.start}..{s.stop}"

/-- The smallest span around two. -/
def around (s t : Span) : Span :=
  ⟨s.start, t.stop⟩

variable {s t : Span}

theorem overlaps_iff : s.overlaps t ↔ s.start < t.stop ∧ t.start < s.stop := by
  simp [overlaps]

theorem overlaps_comm : s.overlaps t = t.overlaps s := by
  rw [overlaps, overlaps, Bool.and_comm]

theorem not_overlaps_of_le (h : s.stop ≤ t.start) : ¬s.overlaps t := by
  rw [overlaps_iff]
  omega

end Span

end FormCodemod
