import SupportPilot.Library.Integers

/-!
# Decimal numbers and floats

What `float` makes of a text, before and behind the rounding to a float, the decimal numbers that
floats show, and the arithmetic of both with `round` to a number of decimal places. A finite number
may be any rational until it is rounded.
-/

namespace SupportPilot.Library

namespace Binary64

/-- The float next to a number. -/
def nearest : Binary64 → Binary64
  | .finite q => round q
  | x => x

def neg : Binary64 → Binary64
  | .finite q => .finite (-q)
  | .infinite negative => .infinite !negative
  | .nan => .nan

/-- `a - b` of two finite floats. -/
def sub : Binary64 → Binary64 → Binary64
  | .finite p, .finite q => round (p - q)
  | _, _ => .nan

/-- The decimal number that the shortest digits of a float show. -/
def shortestDecimal (q : Rat) : Rat :=
  let (digits, point) := decimal |q|
  let shown := (Nat.ofDigitChars 10 digits 0 : Nat) * pow10 (point - digits.length)
  if q < 0 then -shown else shown

/-- `Decimal(str(x))` -/
def toDecimal : Binary64 → Binary64
  | .finite q => .finite (shortestDecimal q)
  | x => x

/-- A decimal number with so many significant digits, ties to the even one. -/
def roundDigits (digits : Nat) (q : Rat) : Rat :=
  if q = 0 then 0
  else
    let unit := pow10 (decimalExponent |q| + 1 - digits)
    roundHalfEven (q / unit) * unit

/-- The sum of a decimal number and a finite one, with the 28 digits of the default context. -/
def decimalAdd : Binary64 → Rat → Binary64
  | .finite p, q => .finite (roundDigits 28 (p + q))
  | x, _ => x

/-- `round(x, places)` -/
def roundPlaces (places : Nat) : Binary64 → Binary64
  | .finite q => round (roundHalfEven (q * 10 ^ places) / 10 ^ places)
  | x => x

end Binary64

/-- Every underscore stands between two digits. -/
def underscoresBetweenDigits : List Char → Bool
  | [] => true
  | c :: rest =>
    (c ≠ '_' || rest.head?.any Char.isDigit) &&
      (rest.head? ≠ some '_' || c.isDigit) && underscoresBetweenDigits rest

/-- The exponent that stands behind a number, zero where nothing stands there. -/
def exponentOf : List Char → Option Int
  | [] => some 0
  | _ :: text =>
    let (negative, digits) := signed text
    if digits ≠ [] && digits.all Char.isDigit then
      let value : Int := Nat.ofDigitChars 10 digits 0
      some (if negative then -value else value)
    else none

/-- A decimal number without a sign. -/
def unsignedDecimal (text : List Char) : Option Rat :=
  let (mantissa, exponentText) := text.span fun c => c ≠ 'e' && c ≠ 'E'
  let (whole, rest) := mantissa.span (· ≠ '.')
  let digits := whole ++ rest.tail
  if digits ≠ [] && digits.all Char.isDigit then
    (exponentOf exponentText).map fun exponent =>
      (Nat.ofDigitChars 10 digits 0 : Nat) * Binary64.pow10 (exponent - rest.tail.length)
  else none

/-- The number that a text without white space around it stands for, before it is rounded. -/
def decimalNumber (text : List Char) : Option Binary64 :=
  let (negative, number) := signed text
  let name := number.map Char.toLower
  if name = "inf".toList || name = "infinity".toList then some (.infinite negative)
  else if name = "nan".toList then some .nan
  else (unsignedDecimal number).map fun q => .finite (if negative then -q else q)

/-- What `float(text)` rounds; `none` where it raises `ValueError`. -/
def readFloat (decimal : CodePoint → Option (Fin 10)) (text : CodePoints) : Option Binary64 :=
  let ascii := ((text.map (asciiChar decimal)).dropWhile isAsciiSpace).rdropWhile isAsciiSpace
  if underscoresBetweenDigits ascii && ascii.head? ≠ some '_' then
    decimalNumber (ascii.filter (· ≠ '_'))
  else none

end SupportPilot.Library
