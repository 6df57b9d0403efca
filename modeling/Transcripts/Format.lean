import Transcripts.Number.Double
import Transcripts.Whole

/-!
# Formats

How values are written by the conversions of a format: texts, whole numbers in several bases, and numbers
with a fraction, each filled up to a width.
-/
namespace Transcripts.Format

/-- What stands between a percent sign and the letter of its conversion. -/
structure Spec where
  left : Bool := false
  zeros : Bool := false
  plus : Bool := false
  space : Bool := false
  alternate : Bool := false
  width : Nat := 0
  precision : Option Nat := none
deriving Repr, DecidableEq

/-- Takes the flags of a conversion. -/
def flags (s : Spec) : Str → Spec × Str
  | '-' :: rest => flags { s with left := true } rest
  | '0' :: rest => flags { s with zeros := true } rest
  | '+' :: rest => flags { s with plus := true } rest
  | ' ' :: rest => flags { s with space := true } rest
  | '#' :: rest => flags { s with alternate := true } rest
  | '\'' :: rest => flags s rest
  | rest => (s, rest)

/-- Fills a text up to the width. -/
def pad (s : Spec) (sign body : Str) : Str :=
  let n := s.width - (sign.length + body.length)
  if s.left then sign ++ body ++ List.replicate n ' '
  else if s.zeros then sign ++ List.replicate n '0' ++ body
  else List.replicate n ' ' ++ sign ++ body

/-- A text, of which the precision may take only a part. -/
def textOf (s : Spec) (t : Str) : Str :=
  pad { s with zeros := false } [] (match s.precision with
    | some n => t.take n
    | none => t)

/-- The sign of a number. -/
def signOf (s : Spec) (negative : Bool) : Str :=
  if negative then ['-'] else if s.plus then ['+'] else if s.space then [' '] else []

/-- Digits, at least as many as the precision asks for. -/
def precise (s : Spec) (ds : Str) : Str :=
  match s.precision with
  | some n => if n = 0 ∧ ds = ['0'] then [] else Str.padStart n '0' ds
  | none => ds

/-- A whole number of 64 bits by the letter of its conversion. -/
def wholeOf (s : Spec) (letter : Char) (n : Int) : Str :=
  let s := { s with zeros := s.zeros && s.precision.isNone }
  if letter = 'd' ∨ letter = 'i' then
    pad s (signOf s (n < 0)) (precise s (Str.decimal n.natAbs))
  else
    let m := (n % 0x10000000000000000).toNat
    let base := if letter = 'o' then 8 else if letter = 'u' then 10 else 16
    let ds := precise s (Nat.toDigits base m)
    let ds := if letter = 'X' then Str.upper ds else ds
    let ds := if s.alternate ∧ letter = 'o' ∧ ds.head? ≠ some '0' then '0' :: ds else ds
    let mark := if s.alternate ∧ m ≠ 0 ∧ (letter = 'x' ∨ letter = 'X') then ['0', letter] else []
    pad s mark ds

/-! ## Numbers with a fraction -/

/-- A number with a fraction. -/
inductive Quantity where
  | nan (negative : Bool)
  | infinite (negative : Bool)
  | finite (negative : Bool) (num den : Nat)
deriving Repr, DecidableEq

/-- How exactly numbers are held: the binary digits, the exponents of the last one, and how many digits
stand in front of the point when they are shown as they are. -/
structure Grain where
  digits : Nat
  least : Int
  greatest : Int
  lead : Nat
deriving Repr, DecidableEq

def double : Grain := ⟨53, -1074, 971, 1⟩

def extended : Grain := ⟨64, -16445, 16320, 4⟩

/-- The exponent of the highest binary digit of a ratio. -/
def topExponent (num den : Nat) : Int :=
  let b : Int := (Nat.log2 num : Int) - (Nat.log2 den : Int)
  let (p, q) := Number.Double.power 2 b
  if num * q < den * p then b - 1 else b

/-- The nearest number that can be held. -/
def Grain.round (g : Grain) : Quantity → Quantity
  | .finite negative num den =>
    if num = 0 ∨ den = 0 then .finite negative 0 1
    else
      let e := max (topExponent num den - (g.digits - 1 : Nat)) g.least
      let (p, q) := Number.Double.power 2 e
      let m := Number.roundDiv (num * q) (den * p)
      if g.greatest < e ∨ (e = g.greatest ∧ m = Nat.pow 2 g.digits) then .infinite negative
      else .finite negative (m * p) q
  | x => x

/-- A ratio with some places behind the point. -/
def fixed (places num den : Nat) (point : Bool) : Str :=
  let unit := Nat.pow 10 places
  let scaled := Number.roundDiv (num * unit) den
  let whole := Str.decimal (scaled / unit)
  if places = 0 then (if point then whole ++ ['.'] else whole)
  else whole ++ '.' :: Str.padStart places '0' (Str.decimal (scaled % unit))

/-- The exponent of the highest decimal digit, beginning with a guess that is not too high. -/
def tenExponent (num den : Nat) : Nat → Int → Int
  | 0, x => x
  | fuel + 1, x =>
    let (p, q) := Number.Double.power 10 (x + 1)
    if den * p ≤ num * q then tenExponent num den fuel (x + 1) else x

/-- So many digits of a ratio, one in front of the point, and the exponent of ten. -/
def scaled (places num den : Nat) : Nat × Int :=
  if num = 0 then (0, 0)
  else
    let guess := Int.fdiv ((topExponent num den - 1) * 30103) 100000 - 1
    let x := tenExponent num den 10 guess
    let (p, q) := Number.Double.power 10 (x - places)
    let m := Number.roundDiv (num * q) (den * p)
    if m = Nat.pow 10 (places + 1) then (m / 10, x + 1) else (m, x)

/-- An exponent behind its letter. -/
def exponentText (letter : Char) (width : Nat) (x : Int) : Str :=
  letter :: (if x < 0 then '-' else '+') :: Str.padStart width '0' (Str.decimal x.natAbs)

/-- Digits with a point behind the first one. -/
def pointed (places : Nat) (point : Bool) (m : Nat) : Str :=
  let ds := Str.padStart (places + 1) '0' (Str.decimal m)
  if places = 0 then (if point then ds ++ ['.'] else ds) else ds.take 1 ++ '.' :: ds.drop 1

/-- Without the zeros at the end of a fraction, and without a point that nothing follows. -/
def trimmed (s : Str) : Str :=
  if s.contains '.' then
    let t := (s.reverse.dropWhile (· == '0')).reverse
    if t.getLast? = some '.' then t.dropLast else t
  else s

/-- A ratio in hexadecimal digits with a power of two. -/
def hexadecimal (g : Grain) (places? : Option Nat) (point : Bool) (num den : Nat) : Str :=
  if num = 0 then
    let zeros := List.replicate (places?.getD 0) '0'
    "0x0".toList ++ (if zeros.isEmpty && !point then [] else '.' :: zeros) ++ "p+0".toList
  else
    let full := (g.digits - g.lead + 3) / 4
    let places := places?.getD full
    let e := topExponent num den - (g.lead - 1 : Nat)
    let (p, q) := Number.Double.power 2 (e - 4 * places)
    let m := Number.roundDiv (num * q) (den * p)
    let (m, e) := if m = Nat.pow 2 (4 * places + g.lead) then
        (m / Nat.pow 2 (if g.lead = 1 then 1 else g.lead),
          e + (if g.lead = 1 then (1 : Int) else (g.lead : Int))) else (m, e)
    let ds := Str.padStart (places + 1) '0' (Nat.toDigits 16 m)
    let fraction := ds.drop 1
    let fraction := match places? with
      | some _ => fraction
      | none => (fraction.reverse.dropWhile (· == '0')).reverse
    "0x".toList ++ ds.take 1 ++ (if fraction.isEmpty && !point then [] else '.' :: fraction)
      ++ exponentText 'p' 1 e

/-- A number with a fraction by the letter of its conversion. -/
def realOf (g : Grain) (s : Spec) (letter : Char) (x : Quantity) : Str :=
  let cased (t : Str) : Str := if letter.isUpper then Str.upper t else t
  match x with
  | .nan negative => pad { s with zeros := false } (signOf s negative) (cased "nan".toList)
  | .infinite negative => pad { s with zeros := false } (signOf s negative) (cased "inf".toList)
  | .finite negative num den =>
    let sign := signOf s negative
    let places := s.precision.getD 6
    match letter.toLower with
    | 'f' => pad s sign (fixed places num den s.alternate)
    | 'e' =>
      let (m, e) := scaled places num den
      pad s sign (cased (pointed places s.alternate m ++ exponentText 'e' 2 e))
    | 'g' =>
      let digits := max places 1
      let (m, e) := scaled (digits - 1) num den
      let neat (t : Str) : Str := if s.alternate then t else trimmed t
      if e < -4 ∨ (digits : Int) ≤ e then
        pad s sign (cased (neat (pointed (digits - 1) s.alternate m) ++ exponentText 'e' 2 e))
      else pad s sign (neat (fixed ((digits : Int) - 1 - e).toNat num den s.alternate))
    | _ =>
      let t := hexadecimal g s.precision s.alternate num den
      pad s (sign ++ cased (t.take 2)) (cased (t.drop 2))

/-! ## Reading numbers with a fraction -/

/-- The exponent that may follow the digits of a number, and what follows it. -/
def exponent? (letter : Char) (s : Str) : Int × Str :=
  match s with
  | c :: rest =>
    if c.toLower = letter then
      let (negative, ds) := match rest with
        | '-' :: ds => (true, ds)
        | '+' :: ds => (false, ds)
        | ds => (false, ds)
      let run := ds.takeWhile Char.isDigit
      if run.isEmpty then (0, s)
      else
        let n : Int := min (Str.ofDigits 10 run) 100000
        (if negative then -n else n, ds.drop run.length)
    else (0, s)
  | [] => (0, s)

/-- Digits of a base with a point among them: their number, how many stand behind the point, and what
follows. -/
def mantissa? (base : Nat) (s : Str) : Option (Nat × Nat × Str) :=
  let whole := s.takeWhile (Whole.isDigit base)
  let (fraction, rest) := match s.drop whole.length with
    | '.' :: more => (more.takeWhile (Whole.isDigit base), more.dropWhile (Whole.isDigit base))
    | rest => ([], rest)
  if whole.isEmpty && fraction.isEmpty then none
  else some (Str.ofDigits base (whole ++ fraction), fraction.length, rest)

/-- The number at the start of a text, as it is written, and what follows it. -/
def real? (s : Str) : Option (Quantity × Str) :=
  let body := s.dropWhile Str.isSpace
  let (negative, body) := match body with
    | '-' :: rest => (true, rest)
    | '+' :: rest => (false, rest)
    | rest => (false, rest)
  let starts (word : String) : Bool := word.toList.isPrefixOf (Str.lower body)
  if starts "infinity" then some (.infinite negative, body.drop 8)
  else if starts "inf" then some (.infinite negative, body.drop 3)
  else if starts "nan" then some (.nan negative, body.drop 3)
  else
    let hex := if starts "0x" then mantissa? 16 (body.drop 2) else none
    match hex with
    | some (m, places, rest) =>
      let (x, rest) := exponent? 'p' rest
      let (p, q) := Number.Double.power 2 (x - 4 * places)
      some (.finite negative (m * p) q, rest)
    | none =>
      (mantissa? 10 body).map fun (m, places, rest) =>
        let (x, rest) := exponent? 'e' rest
        let (p, q) := Number.Double.power 10 (if m = 0 then 0 else x - places)
        (.finite negative (m * p) q, rest)

end Transcripts.Format
