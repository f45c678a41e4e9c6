import FormCodemod.Syntax.Token
import FormCodemod.Text.Blank

/-!
# What stands between tokens

Blanks, line ends and comments. A line ends at `\n`, `\r`, U+2028 or U+2029, and a block comment
that contains a line end counts as one. A block comment that is not closed, and the comments of old
markup, `<!--` and, at the start of a line, `-->`, are flaws.
-/

namespace FormCodemod.Syntax

/-- The character ends a line. -/
def isLineEnd (c : Char) : Bool :=
  c = '\n' || c = '\r' || c = '\u2028' || c = '\u2029'

/-- The character may stand between tokens. -/
def isSpace (c : Char) : Bool :=
  Text.isBlank c || c = '\ufeff'

/-- Where a scan between tokens stands. -/
inductive GapState where
  | between
  | lineComment
  | blockComment
  deriving DecidableEq, Repr

/-- What a scan between tokens has met: whether a line ended, and the first flaw. -/
structure GapFinding where
  newline : Bool
  fault : Option Fault
  deriving DecidableEq, Repr

namespace GapFinding

/-- The finding with a line end added if the character is one. -/
def see (f : GapFinding) (c : Char) : GapFinding :=
  if isLineEnd c then { f with newline := true } else f

/-- The finding with a flaw added, unless it has one. -/
def add (f : GapFinding) (fault : Fault) : GapFinding :=
  { f with fault := f.fault <|> some fault }

end GapFinding

/-- Skips what stands between tokens; `offset` is the place of the characters. -/
def scanGap : GapState → GapFinding → Nat → List Char → GapFinding × Input
  | .blockComment, f, offset, [] => (f.add ⟨offset, .unterminatedComment⟩, ⟨[], offset⟩)
  | _, f, offset, [] => (f, ⟨[], offset⟩)
  | .between, f, offset, '/' :: '/' :: cs => scanGap .lineComment f (offset + 2) cs
  | .between, f, offset, '/' :: '*' :: cs => scanGap .blockComment f (offset + 2) cs
  | .between, f, offset, '<' :: '!' :: '-' :: '-' :: cs =>
    scanGap .lineComment (f.add ⟨offset, .markupComment⟩) (offset + 4) cs
  | .between, f, offset, '-' :: '-' :: '>' :: cs =>
    if f.newline then scanGap .lineComment (f.add ⟨offset, .markupComment⟩) (offset + 3) cs
    else (f, ⟨'-' :: '-' :: '>' :: cs, offset⟩)
  | .between, f, offset, c :: cs =>
    if isSpace c then scanGap .between (f.see c) (offset + c.utf8Size) cs
    else (f, ⟨c :: cs, offset⟩)
  | .lineComment, f, offset, c :: cs =>
    scanGap (if isLineEnd c then .between else .lineComment) (f.see c) (offset + c.utf8Size) cs
  | .blockComment, f, offset, '*' :: '/' :: cs => scanGap .between f (offset + 2) cs
  | .blockComment, f, offset, c :: cs =>
    scanGap .blockComment (f.see c) (offset + c.utf8Size) cs

/-- Skips what stands ahead of the next token. -/
def skipGap (i : Input) : GapFinding × Input :=
  scanGap .between ⟨i.offset = 0, none⟩ i.offset i.chars

end FormCodemod.Syntax
