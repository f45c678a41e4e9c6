/-!
# Floating-point magnitudes

The magnitudes of finite 64-bit floating-point numbers, as exact numbers `m · 2^q`. A number is
rounded to the nearest of them, and to the one with an even `m` if it lies half way between two.

* `Binary64.ofRatio?`: the magnitude next to a quotient;
* `Binary64.mul?`, `Binary64.div?`: rounded products and quotients;
* `Binary64.ofDecimal?`: the magnitude of a significand and a power of ten, with a rounding at each
  of its steps.
-/

namespace FormCodemod.Decimal

/-- The magnitude `significand · 2^exponent`. The exponent is at least -1074, and as small as a
    significand below `2^53` allows. -/
structure Binary64 where
  significand : Nat
  exponent : Int
  deriving DecidableEq, Repr, Inhabited

/-- The natural number nearest to a quotient, the even one of two. -/
def roundHalfEven (num den : Nat) : Nat :=
  let floor := num / den
  let rest := 2 * (num % den)
  if rest < den || (rest = den && floor % 2 = 0) then floor else floor + 1

namespace Binary64

/-- The least exponent. -/
def minExponent : Int := -1074

/-- The greatest exponent. -/
def maxExponent : Int := 971

/-- Nothing. -/
def zero : Binary64 := ⟨0, minExponent⟩

/-- The magnitude is zero. -/
def isZero (x : Binary64) : Bool :=
  x.significand = 0

/-- The numerator of `x` over `x.den`. -/
def num (x : Binary64) : Nat :=
  x.significand * Nat.pow 2 x.exponent.toNat

/-- A power of two under which `x` is a fraction. -/
def den (x : Binary64) : Nat :=
  Nat.pow 2 (-x.exponent).toNat

/-- The quotient in units of `2^exponent`, rounded. -/
def unitsOf (num den : Nat) (exponent : Int) : Nat :=
  roundHalfEven (num * Nat.pow 2 (-exponent).toNat) (den * Nat.pow 2 exponent.toNat)

/-- The exponent with which the significand of a positive quotient has 53 bits, before rounding and
    without regard to the limits. -/
def exponentOf (num den : Nat) : Int :=
  let low : Int := (Nat.log2 num : Int) - Nat.log2 den - 53
  if num * Nat.pow 2 (-low).toNat < Nat.pow 2 53 * den * Nat.pow 2 low.toNat then low else low + 1

/-- The magnitude next to a quotient, unless it is too great. -/
def ofRatio? (num den : Nat) : Option Binary64 :=
  if num = 0 then some zero
  else
    let exponent := max minExponent (exponentOf num den)
    let units := unitsOf num den exponent
    let x : Binary64 :=
      if units = Nat.pow 2 53 then ⟨Nat.pow 2 52, exponent + 1⟩ else ⟨units, exponent⟩
    if x.exponent ≤ maxExponent then some x else none

/-- The rounded product. -/
def mul? (x y : Binary64) : Option Binary64 :=
  ofRatio? (x.num * y.num) (x.den * y.den)

/-- The rounded quotient; the second magnitude is not zero. -/
def div? (x y : Binary64) : Option Binary64 :=
  ofRatio? (x.num * y.den) (x.den * y.num)

/-- The greatest exponent of ten that a single step takes. -/
def maxPower : Nat := 308

/-- A power of ten, rounded. -/
def power? (n : Nat) : Option Binary64 :=
  ofRatio? (Nat.pow 10 n) 1

/-- A magnitude times a power of ten, in steps of at most `maxPower` places of which each is
    rounded. More than two whole steps down leave nothing of a significand below `2^64`. -/
def scaled? (exponent : Int) : Nat → Binary64 → Option Binary64
  | 0, x => some x
  | steps + 1, x =>
    if exponent.natAbs ≤ maxPower then do
      let power ← power? exponent.natAbs
      if 0 ≤ exponent then x.mul? power else x.div? power
    else if x.isZero then some x
    else if 0 ≤ exponent then none
    else do
      let power ← power? maxPower
      let y ← x.div? power
      scaled? (exponent + maxPower) steps y

/-- The magnitude of `significand · 10^exponent`, unless it is too great. -/
def ofDecimal? (significand : Nat) (exponent : Int) : Option Binary64 := do
  let x ← ofRatio? significand 1
  x.scaled? exponent 4

end Binary64

end FormCodemod.Decimal
