import FormCodemod.Decimal.Binary64

/-!
# The shortest decimal text of a magnitude

A magnitude is written with as few digits as tell it from every other one. On the grid of the
multiples of a power of ten, such a point lies in the interval of the numbers that round to the
magnitude; of the grids that have one, the coarsest is taken, and on it the point next to the
magnitude (`Binary64.shortest`).
-/

namespace FormCodemod.Decimal

/-- The decimal number `digits · 10^exponent`. -/
structure Numeral where
  digits : Nat
  exponent : Int
  deriving DecidableEq, Repr, Inhabited

namespace Binary64

/-- How far the numbers that round to the magnitude reach below and above it, in quarters of
    `2^exponent`. Below it is half as far where the exponent changes. -/
def reach (x : Binary64) : Nat × Nat :=
  (if x.significand = Nat.pow 2 52 && minExponent < x.exponent then 1 else 2, 2)

/-- The number `d · 10^exponent` rounds to the magnitude. -/
def readsBack (x : Binary64) (d : Nat) (exponent : Int) : Bool :=
  let unit := x.den * 4
  let point := d * Nat.pow 10 exponent.toNat * unit
  let scale := Nat.pow 2 x.exponent.toNat * Nat.pow 10 (-exponent).toNat
  let low := (4 * x.significand - x.reach.1) * scale
  let high := (4 * x.significand + x.reach.2) * scale
  if x.significand % 2 = 0 then low ≤ point && point ≤ high else low < point && point < high

/-- The point of a decimal grid that rounds to the magnitude and lies next to it. -/
def onGrid? (x : Binary64) (exponent : Int) : Option Numeral :=
  let num := x.num * Nat.pow 10 (-exponent).toNat
  let den := x.den * Nat.pow 10 exponent.toNat
  let below := num / den
  let nearest := roundHalfEven num den
  if x.readsBack nearest exponent then some ⟨nearest, exponent⟩
  else if x.readsBack below exponent then some ⟨below, exponent⟩
  else if x.readsBack (below + 1) exponent then some ⟨below + 1, exponent⟩
  else none

/-- The least exponent of ten that a grid may need. -/
def finestGrid : Int := -324

/-- The number of grids that have to be tried: up to the one of `10^308`. -/
def gridCount : Nat := 633

/-- The decimal number with the fewest digits that rounds to the magnitude, and of those the one
    next to it. -/
def shortest (x : Binary64) : Numeral :=
  let grids := (List.range gridCount).map fun i => finestGrid + (gridCount - 1 - i : Nat)
  if x.isZero then ⟨0, 0⟩ else (grids.findSome? x.onGrid?).getD ⟨0, 0⟩

end Binary64

/-- The decimal digits of a number. -/
def digitsOf (n : Nat) : List Char :=
  Nat.toDigits 10 n

namespace Numeral

/-- The greatest number of places before the point in positional notation. -/
def maxPlaces : Int := 16

/-- With this many zeros behind the point, positional notation is left. -/
def maxLeadingZeros : Int := 5

/-- The number, with a point in every positional form. A number with more than `maxPlaces` places
    before the point, or with `maxLeadingZeros` zeros behind it, has an exponent. -/
def text (x : Numeral) : List Char :=
  let digits := digitsOf x.digits
  let places : Int := digits.length + x.exponent
  if 0 ≤ x.exponent && places ≤ maxPlaces then
    digits ++ List.replicate x.exponent.toNat '0' ++ ['.', '0']
  else if 0 < places && places ≤ maxPlaces then
    digits.take places.toNat ++ '.' :: digits.drop places.toNat
  else if -maxLeadingZeros < places && places ≤ 0 then
    ['0', '.'] ++ List.replicate (-places).toNat '0' ++ digits
  else
    let exponent := places - 1
    let fraction := if digits.length = 1 then [] else '.' :: digits.tail
    let sign := if exponent < 0 then ['-'] else []
    digits.take 1 ++ fraction ++ 'e' :: sign ++ digitsOf exponent.natAbs

end Numeral

/-- The shortest text of a magnitude. -/
def Binary64.text (x : Binary64) : List Char :=
  x.shortest.text

end FormCodemod.Decimal
