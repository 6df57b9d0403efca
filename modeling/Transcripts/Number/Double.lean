/-!
# Double precision numbers

Numbers of 53 binary digits, held exactly, with the one rounding that all operations share: the
nearest such number, and of two that are equally near the one with an even last digit.
-/
namespace Transcripts.Number

/-- The quotient rounded to the nearest whole number, a half going to the even one. -/
def roundDiv (num den : Nat) : Nat :=
  let q := num / den
  let r := num % den
  if 2 * r < den then q
  else if den < 2 * r then q + 1
  else if q % 2 = 0 then q else q + 1

/-- A double precision number.  A finite one is its mantissa times a power of two. -/
inductive Double where
  | nan
  | infinite (negative : Bool)
  | finite (negative : Bool) (mantissa : Nat) (exponent : Int)
deriving Repr, DecidableEq

namespace Double

/-- The least exponent of a finite number. -/
def leastExponent : Int := -1074

/-- The greatest exponent of a finite number. -/
def greatestExponent : Int := 971

/-- Numbers from here on have 53 digits, unless their exponent is the least. -/
def fullMantissa : Nat := 0x10000000000000

/-- A power of two as the factors of a numerator and of a denominator. -/
def power (base : Nat) (e : Int) : Nat × Nat :=
  if 0 ≤ e then (Nat.pow base e.toNat, 1) else (1, Nat.pow base (-e).toNat)

/-- The exponent that gives a ratio its 53 digits. -/
def exponentOf (num den : Nat) : Int :=
  let b : Int := (Nat.log2 num : Int) - (Nat.log2 den : Int)
  let (p, q) := power 2 b
  let top := if num * q < den * p then b - 1 else b
  max (top - 52) leastExponent

/-- The number nearest to a ratio. -/
def ofRatio (negative : Bool) (num den : Nat) : Double :=
  if num = 0 then .finite negative 0 leastExponent
  else
    let e := exponentOf num den
    let (p, q) := power 2 e
    let m := roundDiv (num * q) (den * p)
    let (m, e) := if m = 2 * fullMantissa then (fullMantissa, e + 1) else (m, e)
    if greatestExponent < e then .infinite negative else .finite negative m e

/-- The number nearest to a whole number. -/
def ofNat (n : Nat) : Double := ofRatio false n 1

/-- A finite number as a ratio, without its sign. -/
def ratio (mantissa : Nat) (exponent : Int) : Nat × Nat :=
  let (p, q) := power 2 exponent
  (mantissa * p, q)

/-- Exponents of ten beyond which every decimal is infinite or zero. -/
def decimalBound : Int := 1200

/-- The number nearest to a decimal: a coefficient times a power of ten. -/
def ofDecimal (negative : Bool) (coefficient : Nat) (exponent : Int) : Double :=
  if coefficient = 0 then .finite negative 0 leastExponent
  else
    let size : Int := Nat.log2 coefficient
    if decimalBound < exponent + size / 4 then .infinite negative
    else if exponent + size < -decimalBound then .finite negative 0 leastExponent
    else
      let (p, q) := power 10 exponent
      ofRatio negative (coefficient * p) q

/-- The product, without signs, of finite numbers. -/
def mulMagnitude (negative : Bool) (m₁ : Nat) (e₁ : Int) (m₂ : Nat) (e₂ : Int) : Double :=
  let (a, b) := ratio m₁ e₁
  let (c, d) := ratio m₂ e₂
  ofRatio negative (a * c) (b * d)

/-- The quotient, without signs, of finite numbers. -/
def divMagnitude (negative : Bool) (m₁ : Nat) (e₁ : Int) (m₂ : Nat) (e₂ : Int) : Double :=
  let (a, b) := ratio m₁ e₁
  let (c, d) := ratio m₂ e₂
  ofRatio negative (a * d) (b * c)

/-- The sum of two numbers that are finite and not negative. -/
def addMagnitude : Double → Double → Double
  | .finite _ m₁ e₁, .finite _ m₂ e₂ =>
    let (a, b) := ratio m₁ e₁
    let (c, d) := ratio m₂ e₂
    ofRatio false (a * d + c * b) (b * d)
  | x, _ => x

end Double

end Transcripts.Number
