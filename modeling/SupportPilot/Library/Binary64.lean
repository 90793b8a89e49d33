import Mathlib.Data.Rat.Floor

/-!
# Numbers of binary64

A finite number is the rational that it stands for. Rounding is to the nearest number, with ties
to the even one, and what is too large becomes an infinity.
-/

namespace SupportPilot.Library

inductive Binary64
  | finite (q : Rat)
  | infinite (negative : Bool)
  | nan
  deriving DecidableEq, Repr

namespace Binary64

def pow2 (e : Int) : Rat :=
  if 0 ≤ e then ((2 ^ e.toNat : Nat) : Rat) else 1 / ((2 ^ (-e).toNat : Nat) : Rat)

/-- The binary exponent of a positive number. -/
def exponent (q : Rat) : Int :=
  let e : Int := (q.num.toNat.log2 : Int) - (q.den.log2 : Int)
  if q < pow2 e then e - 1 else e

def roundHalfEven (q : Rat) : Int :=
  let low := q.floor
  let rest := q - low
  if rest < 1 / 2 then low
  else if 1 / 2 < rest then low + 1
  else if low % 2 = 0 then low
  else low + 1

/-- The nearest number with the precision of the format, of any size. -/
def toPrecision (q : Rat) : Rat :=
  if q = 0 then 0
  else
    let ulp := pow2 (max (exponent |q| - 52) (-1074))
    roundHalfEven (q / ulp) * ulp

def round (q : Rat) : Binary64 :=
  if q = 0 then .finite 0
  else
    let ulp := pow2 (max (exponent |q| - 52) (-1074))
    let r := roundHalfEven (q / ulp) * ulp
    if pow2 1024 ≤ |r| then .infinite (r < 0) else .finite r

def lt : Binary64 → Binary64 → Bool
  | .finite p, .finite q => p < q
  | .infinite true, .finite _ | .infinite true, .infinite false | .finite _, .infinite false => true
  | _, _ => false

def le (a b : Binary64) : Bool := a.lt b || a ≠ .nan && a = b

end Binary64

end SupportPilot.Library
