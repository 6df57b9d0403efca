import Transcripts.Number.Double

/-!
# The shortest decimal of a number

Of the decimals that read back as a given number, those with the fewest digits are the short ones, and
of these the nearest to the number is written.  A decimal reads back if it lies between the middles to
the two neighbouring numbers, or on one of them if the mantissa is even.  A form of writing says which
decimal to take if two are equally near.
-/
namespace Transcripts.Number

/-- A decimal: its digits, and the power of ten of the last of them. -/
structure Digits where
  digits : List Char
  exponent : Int
deriving Repr, DecidableEq

namespace Double

/-- The ends of what reads back as a number, in units of a quarter of its last place. -/
def interval (mantissa : Nat) (exponent : Int) : Nat × Nat :=
  let below :=
    if mantissa = fullMantissa ∧ leastExponent < exponent then 4 * mantissa - 1
    else 4 * mantissa - 2
  (below, 4 * mantissa + 2)

/-- Whether `num / den`, in the same units, reads back. -/
def readsBack (mantissa : Nat) (exponent : Int) (num den : Nat) : Bool :=
  let (lo, hi) := interval mantissa exponent
  if mantissa % 2 = 0 then lo * den ≤ num && num ≤ hi * den
  else lo * den < num && num < hi * den

/-- Which of two equally near decimals is written. -/
inductive Tie where
  /-- The one with an even last digit. -/
  | even
  /-- The larger one. -/
  | up
deriving Repr, DecidableEq

/-- The better of the two multiples of a power of ten around a number, if one of them reads back. -/
def onGrid (tie : Tie) (mantissa : Nat) (exponent : Int) (k : Int) : Option Nat :=
  -- the number in quarters of its last place is `4 * mantissa`; a step of the grid is `s / t` of them
  let (p, q) := power 10 k
  let (u, v) := power 2 (exponent - 2)
  let s := p * v
  let t := q * u
  let value := 4 * mantissa * t
  let lo := value / s
  let hi := lo + 1
  let fits := fun n => 0 < n && readsBack mantissa exponent (n * s) t
  let nearLo := 2 * (value - lo * s) < s || (2 * (value - lo * s) = s && tie = .even && lo % 2 = 0)
  if fits lo && (nearLo || !fits hi) then some lo
  else if fits hi then some hi
  else none

/-- The power of ten of the first digit of a ratio, from an estimate by its binary length. -/
def firstPlace (num den : Nat) : Int :=
  let b : Int := (Nat.log2 num : Int) - (Nat.log2 den : Int)
  -- 30103 / 100000 is the logarithm of two; the estimate is at most one too small
  let guess := (b * 30103 - 30103).fdiv 100000
  let fits := fun (k : Int) =>
    let (p, q) := power 10 k
    den * p ≤ num * q
  if fits (guess + 2) then guess + 2
  else if fits (guess + 1) then guess + 1
  else guess

/-- Drops zeros at the end of the digits. -/
def trimZeros : Nat → Nat → Int → Digits
  | 0, n, k => ⟨Nat.toDigits 10 n, k⟩
  | fuel + 1, n, k =>
    if n ≠ 0 ∧ n % 10 = 0 then trimZeros fuel (n / 10) (k + 1) else ⟨Nat.toDigits 10 n, k⟩

/-- The first grid of at most 17 digits that has a decimal which reads back. -/
def shortestFrom (tie : Tie) (mantissa : Nat) (exponent place : Int) : Nat → Digits
  | 0 => ⟨Nat.toDigits 10 mantissa, exponent⟩
  | left + 1 =>
    let count : Int := 17 - left
    let k := place - count + 1
    match onGrid tie mantissa exponent k with
    | some n => trimZeros 20 n k
    | none => shortestFrom tie mantissa exponent place left

/-- The shortest decimal of a finite number that is not zero. -/
def shortest (tie : Tie) (mantissa : Nat) (exponent : Int) : Digits :=
  let (num, den) := ratio mantissa exponent
  shortestFrom tie mantissa exponent (firstPlace num den) 17

end Double

/-! ## Written forms -/

/-- Digits in front of a power of ten, with a point where it falls. -/
def Digits.positional (d : Digits) : List Char :=
  let n : Int := d.digits.length
  if 0 ≤ d.exponent then d.digits ++ List.replicate d.exponent.toNat '0'
  else
    let whole := n + d.exponent
    if 0 < whole then d.digits.take whole.toNat ++ '.' :: d.digits.drop whole.toNat
    else '0' :: '.' :: List.replicate (-whole).toNat '0' ++ d.digits

/-- The plain form of a number: no power of ten is written, and whole numbers have no point.  Of two
equally near decimals it is the larger one. -/
def Double.plain : Double → List Char
  | .nan => "NaN".toList
  | .infinite negative => if negative then "-inf".toList else "inf".toList
  | .finite negative m e =>
    let body := if m = 0 then ['0'] else (shortest .up m e).positional
    if negative then '-' :: body else body

/-- Digits with a power of ten after them, and a point after the first digit of several. -/
def Digits.scientific (d : Digits) : List Char :=
  let e : Int := d.exponent + (d.digits.length - 1 : Nat)
  let mark := if e < 0 then 'e' :: '-' :: Nat.toDigits 10 (-e).toNat
    else 'e' :: '+' :: Nat.toDigits 10 e.toNat
  match d.digits with
  | [c] => c :: mark
  | c :: cs => c :: '.' :: cs ++ mark
  | [] => mark

/-- The form of a number in a data file: whole numbers keep one decimal place, and numbers below 0.00001
or from 10^16 on are written with a power of ten.  Of two equally near decimals it is the even one. -/
def Double.dataForm : Double → List Char
  | .finite negative m e =>
    let body :=
      if m = 0 then "0.0".toList
      else
        let d := shortest .even m e
        let places : Int := d.digits.length + d.exponent
        if 16 < places ∨ places ≤ -5 then d.scientific
        else if 0 ≤ d.exponent then d.positional ++ ['.', '0']
        else d.positional
    if negative then '-' :: body else body
  | _ => "null".toList

end Transcripts.Number
