import FormCodemod.Fix.Pass
import FormCodemod.Lint

/-!
# Fixing a text

A text is linted and fixed again and again, until no fix is left or ten passes have been made. A
text that cannot be read ends the run, also where a pass has made it.
-/

namespace FormCodemod

open FormCodemod.Syntax

/-- What the rules find in a text. -/
def lintSource (filename : String) (source : List Char) (config : Config) :
    Except Fault (List Violation) :=
  (Module.read filename source).map (·.lint config)

/-- The result of a run. -/
structure FixReport where
  output : List Char
  passes : Nat
  /-- The number of fixes carried out. -/
  fixed : Nat
  /-- What the rules still find in the output. -/
  remaining : List Violation
  deriving DecidableEq, Repr

/-- The greatest number of passes in a run. -/
def maxPasses : Nat := 10

/-- Fixes a text with at most the given number of further passes; so many passes have been made, and
    so many fixes carried out before. -/
def fixOnward (filename : String) (config : Config) (passes fixed : Nat) :
    Nat → List Char → Except Fault FixReport
  | 0, source => do
    let violations ← lintSource filename source config
    return ⟨source, passes, fixed, violations⟩
  | left + 1, source => do
    let violations ← lintSource filename source config
    let pass := applyFixes source (violations.map (·.fix))
    if pass.applied = 0 then return ⟨source, passes, fixed, violations⟩
    else fixOnward filename config (passes + 1) (fixed + pass.applied) left pass.output

/-- Lints and fixes a text. -/
def fixSource (filename : String) (source : List Char) (config : Config) : Except Fault FixReport :=
  fixOnward filename config 0 0 maxPasses source

/-- A round of linting and fixing. -/
structure Round where
  found : List Violation
  pass : FixPass
  deriving DecidableEq, Repr

/-- So many rounds of linting and fixing, also where nothing is left to do; the first text that
    cannot be read ends them. -/
def rounds (filename : String) (config : Config) :
    Nat → List Char → List (Except Fault Round)
  | 0, _ => []
  | n + 1, source =>
    match lintSource filename source config with
    | .error fault => [.error fault]
    | .ok found =>
      let pass := applyFixes source (found.map (·.fix))
      .ok ⟨found, pass⟩ :: rounds filename config n pass.output

end FormCodemod
