import FormCodemod.Decimal.Shortest
import FormCodemod.Text.Quoted

/-!
# Data in JSON

A value is an atom, a list of values or an object, whose members are kept in the order of the text.
Whole numbers of up to 64 bits are exact, and all others are rounded.
-/

namespace FormCodemod.Json

/-- A number. -/
inductive Number where
  /-- A whole number below `2^64`. -/
  | natural (n : Nat)
  /-- The negative of a whole number from 1 up to `2^63`. -/
  | negative (n : Nat)
  | float (isNegative : Bool) (magnitude : Decimal.Binary64)
  deriving DecidableEq, Repr

/-- A value without values inside. -/
inductive Atom where
  | null
  | boolean (b : Bool)
  | number (n : Number)
  | string (chars : List Char)
  deriving DecidableEq, Repr

/-- A value. -/
inductive Value where
  | atom (a : Atom)
  | list (values : List Value)
  | object (members : List (List Char × Value))
  deriving Repr

/-- What messages call a number. -/
def Number.describe : Number → String
  | natural n => s!"integer `{n}`"
  | negative n => s!"integer `-{n}`"
  | float isNegative magnitude =>
    let sign := if isNegative then "-" else ""
    let digits := String.ofList magnitude.text
    s!"floating point `{sign}{digits}`"

/-- What messages call an atom. -/
def Atom.describe : Atom → String
  | null => "null"
  | boolean b => s!"boolean `{b}`"
  | number n => n.describe
  | string chars => "string " ++ String.ofList (Text.quoted chars)

/-- The characters of a string. -/
def Value.string? : Value → Option (List Char)
  | atom (.string chars) => some chars
  | _ => none

end FormCodemod.Json
