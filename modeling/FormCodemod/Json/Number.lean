import FormCodemod.Json.Fault

/-!
# Numbers in JSON

A number has a significand, which takes in digits as long as it stays below `2^64`; the digits
behind those only count for the size of the number, or not at all. Without a fraction, an exponent
and surplus digits the number is whole.
-/

namespace FormCodemod.Json

/-- The value of a decimal digit. -/
def digit? (c : Char) : Option Nat :=
  if c.isDigit then some (c.toNat - '0'.toNat) else none

/-- The text starts with a digit. -/
def startsWithDigit (text : List Char) : Bool :=
  text.head?.any Char.isDigit

/-- The text without the digits that it starts with. -/
def dropDigits (text : List Char) : List Char :=
  text.dropWhile Char.isDigit

/-- The number of digits that a text starts with. -/
def countDigits (text : List Char) : Nat :=
  (text.takeWhile Char.isDigit).length

/-- Appends digits of a text to a number as long as it stays below a bound. The result tells how
    many were taken. -/
def gather (bound value : Nat) : List Char → Nat × Nat × List Char
  | [] => (value, 0, [])
  | c :: cs =>
    match digit? c with
    | none => (value, 0, c :: cs)
    | some d =>
      if value * 10 + d < bound then
        let (value, count, rest) := gather bound (value * 10 + d) cs
        (value, count + 1, rest)
      else (value, 0, c :: cs)

/-- Significands are below this bound. -/
def significandBound : Nat := Nat.pow 2 64

/-- Exponents in the text are below this bound. -/
def exponentBound : Nat := Nat.pow 2 31

/-- The number with the given significand and exponent of ten. -/
def floatOf (isNegative : Bool) (significand : Nat) (exponent : Int) (rest : List Char) :
    Outcome Number :=
  match Decimal.Binary64.ofDecimal? significand exponent with
  | some magnitude => .ok (.float isNegative magnitude, rest)
  | none => .error (.ahead .numberOutOfRange rest)

/-- Reads the digits of an exponent. -/
def readExponentDigits (isNegative : Bool) (significand : Nat) (exponent : Int) (goesDown : Bool)
    (text : List Char) : Outcome Number :=
  if text.isEmpty then .error (.ahead .endInValue text)
  else if startsWithDigit text then
    let (value, _, rest) := gather exponentBound 0 text
    if startsWithDigit rest then
      if significand ≠ 0 && !goesDown then .error (.upon .numberOutOfRange rest)
      else .ok (.float isNegative .zero, dropDigits rest)
    else
      let exponent := if goesDown then exponent - value else exponent + value
      floatOf isNegative significand exponent rest
  else .error (.upon .invalidNumber text)

/-- Reads an exponent, behind its letter. -/
def readExponent (isNegative : Bool) (significand : Nat) (exponent : Int) :
    List Char → Outcome Number
  | '+' :: text => readExponentDigits isNegative significand exponent false text
  | '-' :: text => readExponentDigits isNegative significand exponent true text
  | text => readExponentDigits isNegative significand exponent false text

/-- Reads what may follow the digits of a number: an exponent. -/
def readScale (isNegative : Bool) (significand : Nat) (exponent : Int) :
    List Char → Outcome Number
  | 'e' :: text => readExponent isNegative significand exponent text
  | 'E' :: text => readExponent isNegative significand exponent text
  | text => floatOf isNegative significand exponent text

/-- Reads a fraction, behind its point. -/
def readFraction (isNegative : Bool) (significand : Nat) (exponent : Int) (text : List Char) :
    Outcome Number :=
  if text.isEmpty then .error (.ahead .endInValue text)
  else if startsWithDigit text then
    let (significand, count, rest) := gather significandBound significand text
    readScale isNegative significand (exponent - count) (dropDigits rest)
  else .error (.upon .invalidNumber text)

/-- The number of a text without a fraction and an exponent. -/
def wholeNumber (isNegative : Bool) (significand : Nat) (rest : List Char) : Outcome Number :=
  if !isNegative then .ok (.natural significand, rest)
  else if 0 < significand && significand ≤ Nat.pow 2 63 then .ok (.negative significand, rest)
  else floatOf true significand 0 rest

/-- Reads what follows the whole part of a number, of which `surplus` digits are not in the
    significand. -/
def readTail (isNegative : Bool) (significand surplus : Nat) : List Char → Outcome Number
  | '.' :: text => readFraction isNegative significand surplus text
  | 'e' :: text => readExponent isNegative significand surplus text
  | 'E' :: text => readExponent isNegative significand surplus text
  | text =>
    if surplus = 0 then wholeNumber isNegative significand text
    else floatOf isNegative significand surplus text

/-- Reads a number behind its sign. -/
def readMagnitude (isNegative : Bool) : List Char → Outcome Number
  | [] => .error ⟨.endInValue, 0⟩
  | '0' :: text =>
    if startsWithDigit text then .error (.upon .invalidNumber text)
    else readTail isNegative 0 0 text
  | text =>
    if startsWithDigit text then
      let (significand, _, rest) := gather significandBound 0 text
      readTail isNegative significand (countDigits rest) (dropDigits rest)
    else .error (.upon .invalidNumber text)

end FormCodemod.Json
