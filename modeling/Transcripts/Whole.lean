import Transcripts.Str

/-!
# Whole numbers

The number at the start of a text, as programs read it: behind blanks and a sign come digits, in a base
that is fixed or that the digits tell by how they start.
-/
namespace Transcripts

/-- What is read at the start of a text. -/
structure Whole where
  value : Int
  /-- What follows; all of the text if there is no digit. -/
  rest : Str
  /-- Whether there is a digit. -/
  found : Bool := true
deriving Repr, DecidableEq

namespace Whole

/-- How a number can be written. -/
inductive Style where
  /-- Decimal digits. -/
  | decimal
  /-- Digits of some base. -/
  | base (n : Nat)
  /-- Hexadecimal digits behind a mark, octal ones behind a zero, decimal ones otherwise. -/
  | told
deriving Repr, DecidableEq

/-- Whether a character is a digit of a base. -/
def isDigit (base : Nat) (c : Char) : Bool := (Str.digit? c).any (· < base)

/-- The base of the digits at the start of a text, and these with what follows. -/
def digits (n : Style) (s : Str) : Nat × Str :=
  let marked : Option Str := match s with
    | '0' :: x :: d :: rest => if (x = 'x' ∨ x = 'X') ∧ isDigit 16 d then some (d :: rest) else none
    | _ => none
  match n with
  | .decimal => (10, s)
  | .base 16 => (16, marked.getD s)
  | .base n => (n, s)
  | .told =>
    match marked with
    | some ds => (16, ds)
    | none => (if s.head? = some '0' then 8 else 10, s)

/-- The number at the start of a text. -/
def read (n : Style) (s : Str) : Whole :=
  let body := s.dropWhile Str.isSpace
  let (negative, body) := match body with
    | '-' :: rest => (true, rest)
    | '+' :: rest => (false, rest)
    | rest => (false, rest)
  let (base, body) := digits n body
  let ds := body.takeWhile (isDigit base)
  if ds.isEmpty then { value := 0, rest := s, found := false }
  else
    let m : Int := Str.ofDigits base ds
    { value := if negative then -m else m, rest := body.drop ds.length }

/-- The numbers that 64 bits with a sign hold. -/
def least : Int := -0x8000000000000000

def greatest : Int := 0x7FFFFFFFFFFFFFFF

/-- Whether 64 bits with a sign hold a number. -/
def fits (n : Int) : Bool := least ≤ n && n ≤ greatest

/-- The number of 64 bits with a sign that is nearest. -/
def clamp (n : Int) : Int := max least (min greatest n)

/-- The number of 64 bits that a whole text writes, but for blanks at its end. -/
def whole? (n : Style) (s : Str) : Option Int :=
  let r := read n s
  if r.found && fits r.value && r.rest.all Str.isSpace then some r.value else none

end Whole

end Transcripts
