/-! Binary floating point with 53 bits of significand and exponents from -1074 to 971.
Every operation is the exact result, as a quotient of naturals, rounded to the nearest
value; of two nearest ones the even significand is taken. -/
namespace Throughput

inductive Binary64 where
  /-- The value `significand * 2 ^ exponent`, negated if `negative`. -/
  | finite (negative : Bool) (significand : Nat) (exponent : Int)
  | infinite (negative : Bool)
  | nan
  deriving DecidableEq, Repr

namespace Binary64

def minExponent : Int := -1074

def maxExponent : Int := 971

/-- Significands are below this; normal ones reach half of it. -/
def significandBound : Nat := 0x20000000000000

def zero (negative : Bool) : Binary64 := finite negative 0 minExponent

def divHalfEven (num den : Nat) : Nat :=
  let q := num / den
  let r := num % den
  if 2 * r < den || (2 * r == den && q % 2 == 0) then q else q + 1

def divHalfUp (num den : Nat) : Nat := (2 * num + den) / (2 * den)

/-- Numerator and denominator of a quotient divided by `2 ^ exponent`. -/
def scaleBy (num den : Nat) (exponent : Int) : Nat × Nat :=
  (num * Nat.pow 2 (-exponent).toNat, den * Nat.pow 2 exponent.toNat)

/-- The exponent at which a quotient has 53 bits before the point, or the least one. -/
def fittingExponent (num den : Nat) : Int :=
  let guess := max minExponent ((num.log2 : Int) - den.log2 - 52)
  let (n, d) := scaleBy num den guess
  if n / d < significandBound / 2 then max minExponent (guess - 1) else guess

/-- The quotient rounded; beyond the greatest finite value it is infinite. -/
def ofRatio (negative : Bool) (num den : Nat) : Binary64 :=
  if num = 0 then zero negative
  else
    let exponent := fittingExponent num den
    let (n, d) := scaleBy num den exponent
    let significand := divHalfEven n d
    let (significand, exponent) :=
      if significand = significandBound then (significandBound / 2, exponent + 1)
      else (significand, exponent)
    if maxExponent < exponent then infinite negative else finite negative significand exponent

def ofNat (n : Nat) : Binary64 := ofRatio false n 1

/-- The value `digits * 10 ^ exponent` rounded. Far outside the range of exponents the
result is known without the power. -/
def ofDecimal (negative : Bool) (digits : Nat) (exponent : Int) : Binary64 :=
  let magnitude := (Nat.toDigits 10 digits).length + exponent
  if digits = 0 || magnitude < -330 then zero negative
  else if 310 < magnitude then infinite negative
  else ofRatio negative (digits * Nat.pow 10 exponent.toNat) (Nat.pow 10 (-exponent).toNat)

def isZero : Binary64 → Bool
  | finite _ m _ => m == 0
  | _ => false

def isInfinite : Binary64 → Bool
  | infinite _ => true
  | _ => false

def withSign (negative : Bool) : Binary64 → Binary64
  | finite _ m e => finite negative m e
  | infinite _ => infinite negative
  | nan => nan

def mulMagnitude : Binary64 → Binary64 → Binary64
  | finite _ m e, finite _ m' e' =>
    ofRatio false (m * m' * Nat.pow 2 (e + e').toNat) (Nat.pow 2 (-(e + e')).toNat)
  | _, _ => nan

def divMagnitude : Binary64 → Binary64 → Binary64
  | finite _ m e, finite _ m' e' =>
    if m' = 0 then nan
    else ofRatio false (m * Nat.pow 2 (e - e').toNat) (m' * Nat.pow 2 (e' - e).toNat)
  | _, _ => nan

/-- To the nearest natural, halves away from zero, within the range of a word: negative
values and no number give zero. -/
def toUInt64 : Binary64 → UInt64
  | finite true _ _ => 0
  | finite false m e =>
    .ofNat (min (UInt64.size - 1) (divHalfUp (m * Nat.pow 2 e.toNat) (Nat.pow 2 (-e).toNat)))
  | infinite negative => if negative then 0 else .ofNat (UInt64.size - 1)
  | nan => 0

end Binary64
end Throughput
