import FormCodemod.Span
import FormCodemod.Text.Bytes

/-!
# Edits

An edit removes the bytes of a span, replaces them, or inserts a text at a place. Its span is the
part of the source that it consumes, empty for an insertion, and its text is what comes there.
-/

namespace FormCodemod

/-- A change of a source text. -/
inductive Edit where
  | delete (span : Span)
  | insertAfter (offset : Nat) (text : List Char)
  | replace (span : Span) (text : List Char)
  deriving DecidableEq, Repr

namespace Edit

/-- The part of the source that the edit consumes. -/
def span : Edit → Span
  | delete s => s
  | insertAfter offset _ => .empty offset
  | replace s _ => s

/-- What the edit writes. -/
def text : Edit → List Char
  | delete _ => []
  | insertAfter _ t => t
  | replace _ t => t

/-- The edit carried out on a text, if both bounds of its span are places of the text and stand in
    order. -/
def appliedTo (e : Edit) (source : List Char) : Option (List Char) :=
  if e.span.start ≤ e.span.stop then
    (Text.takeBytes? e.span.start source).bind fun before =>
      (Text.dropBytes? e.span.stop source).map fun behind => before ++ e.text ++ behind
  else none

end Edit

end FormCodemod
