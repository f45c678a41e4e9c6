import FormCodemod.Scope.Resolve
import FormCodemod.Syntax.Parse
import FormCodemod.Text.Lines
import FormCodemod.Text.Trivia

/-!
# Modules

A module is a text together with its tree, in which names are resolved. The tree is that of the text
without a byte order mark at its start, and so are its places; yet the text at a place is looked up
in the text as it is.
-/

namespace FormCodemod

open FormCodemod.Syntax

/-- A text and the tree that it was read into. -/
structure Module where
  text : List Char
  tree : Node
  deriving Repr

namespace Module

/-- Reads a module. -/
def read (filename : String) (text : List Char) : Except Fault Module :=
  (parse (.ofFilename filename) text).map fun tree => ⟨text, tree.resolved⟩

/-- The text of a span. -/
def slice (m : Module) (span : Span) : List Char :=
  Text.slice m.text span.start span.stop

/-- Where a span begins, for a reader. -/
def position (m : Module) (span : Span) : Text.Position :=
  Text.position (withoutMark m.text) span.start

/-- The first token behind a span. -/
def tokenAfter? (m : Module) (span : Span) : Option Text.PlainToken :=
  Text.tokenAfter? m.text span.stop

/-- The brace that a block begins with. -/
def openingBrace? (m : Module) (block : Span) : Option Text.PlainToken :=
  (Text.tokenAt? m.text block.start).filter (·.isChar '{')

end Module

/-- What a text that cannot be read is reported as. -/
def Syntax.Fault.report (fault : Fault) (filename : String) : String :=
  s!"failed to parse {filename} at byte {fault.offset}: {fault.flaw.message}"

end FormCodemod
