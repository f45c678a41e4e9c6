import FormCodemod.Text.Bytes

/-!
# Lines and columns

A line ends at `\n`, at `\r\n` or at a `\r` of its own, but not at the very end of a text, where no
further line begins. Lines count from 1 and columns from 0, in UTF-16 units. An empty text has no
line at all, so that its places are on line 0.
-/

namespace FormCodemod.Text

/-- A place in a text as a reader names it. -/
structure Position where
  line : Nat
  column : Nat
  deriving DecidableEq, Repr

/-- The number of UTF-16 units that a character takes. -/
def units (c : Char) : Nat :=
  if c.toNat < 0x10000 then 1 else 2

/-- The position reached from the given one `n` bytes further on in the text. Behind the end every
    byte counts as one column; inside a character its last bytes do. -/
def Position.advance (p : Position) : List Char → Nat → Position
  | _, 0 => p
  | [], n + 1 => { p with column := p.column + (n + 1) }
  | c :: cs, n + 1 =>
    if n + 1 < c.utf8Size then
      { p with column := p.column + (n + 1) - (c.utf8Size - units c) }
    else
      let breaks := !cs.isEmpty && (c = '\n' || (c = '\r' && cs.head? ≠ some '\n'))
      let q : Position := if breaks then ⟨p.line + 1, 0⟩ else ⟨p.line, p.column + units c⟩
      q.advance cs (n + 1 - c.utf8Size)

/-- The position of a byte offset. -/
def position (text : List Char) (offset : Nat) : Position :=
  Position.advance ⟨if text.isEmpty then 0 else 1, 0⟩ text offset

end FormCodemod.Text
