import Transcripts.Format
import Transcripts.Tool

/-!
# Orders of texts

The orders in which lines can be put: by bytes, by the numbers at their starts, by months, and by versions.
-/
namespace Transcripts.Tool.Order

/-- How a text and its parts compare: by bytes. -/
def byBytes (a b : Str) : Ordering :=
  if a < b then .lt else if b < a then .gt else .eq

/-! ## Numbers -/

/-- The number at the start of a text: its sign, its digits in front of the point and those behind. -/
def decimalOf (s : Str) : Bool × Str × Str × Str :=
  let s := s.dropWhile fun c => c = ' ' ∨ c = '\t'
  let (negative, s) := match s with
    | '-' :: rest => (true, rest)
    | s => (false, s)
  let whole := s.takeWhile Char.isDigit
  match s.drop whole.length with
  | '.' :: rest => (negative, whole, rest.takeWhile Char.isDigit, rest.dropWhile Char.isDigit)
  | rest => (negative, whole, [], rest)

/-- The numbers at the starts of two texts, as multiples of the same unit. -/
def scaledPair (a b : Str) : Int × Int :=
  let (na, wa, fa, _) := decimalOf a
  let (nb, wb, fb, _) := decimalOf b
  let places := max fa.length fb.length
  let value (negative : Bool) (w f : Str) : Int :=
    let m : Int := Str.ofDigits 10 (w ++ f ++ List.replicate (places - f.length) '0')
    if negative then -m else m
  (value na wa fa, value nb wb fb)

def byNumber (a b : Str) : Ordering :=
  let (x, y) := scaledPair a b
  compare x y

/-- The sign and the unit of a number that people read. -/
def magnitude (s : Str) : Int :=
  let (negative, whole, fraction, rest) := decimalOf s
  if (whole ++ fraction).all (· == '0') then 0
  else
    let unit : Int := match rest with
      | c :: _ =>
        let c := if c = 'k' then 'K' else c
        match powers.idxOf? c with
        | some i => i + 1
        | none => 0
      | [] => 0
    if negative then -(unit + 1) else unit + 1

/-- The order of numbers with units. -/
def byMagnitude (a b : Str) : Ordering := (compare (magnitude a) (magnitude b)).then (byNumber a b)

/-- The rank of kinds of numbers, and the ratio of those that are finite. -/
def realRank (s : Str) : Nat × Int × Nat :=
  match Format.real? s with
  | none => (0, 0, 1)
  | some (x, _) =>
    match x with
    | .nan _ => (1, 0, 1)
    | .infinite true => (2, 0, 1)
    | .finite negative num den => (3, if negative then -(num : Int) else num, den)
    | .infinite false => (4, 0, 1)

/-- The order of numbers of any size and precision. -/
def byReal (a b : Str) : Ordering :=
  let (i, x, p) := realRank a
  let (j, y, q) := realRank b
  (compare i j).then (compare (x * q) (y * p))

/-! ## Months -/

def months : List String :=
  ["JAN", "FEB", "MAR", "APR", "MAY", "JUN", "JUL", "AUG", "SEP", "OCT", "NOV", "DEC"]

/-- The number of the month that a text starts with; zero if it is none. -/
def month (s : Str) : Nat :=
  let name := Str.upper ((s.dropWhile fun c => c = ' ' ∨ c = '\t').take 3)
  match months.idxOf? (String.ofList name) with
  | some i => i + 1
  | none => 0

def byMonth (a b : Str) : Ordering := compare (month a) (month b)

/-! ## Versions -/

/-- The place of a character in versions: marks of early versions come before the end, digits with it, and
letters before all others. -/
def versionRank : Option Char → Int
  | none => -1
  | some c =>
    if c.isDigit then 0 else if c.isAlpha then c.toNat else if c = '~' then -2 else (c.toNat : Int) + 256

/-- Compares what comes before the next digits: the order, and what is left of both texts. -/
def untilDigits : Nat → Str → Str → Ordering × Str × Str
  | 0, a, b => (.eq, a, b)
  | fuel + 1, a, b =>
    let open_ (s : Str) : Bool := (s.head?.map (!Char.isDigit ·)).getD false
    if open_ a || open_ b then
      match compare (versionRank a.head?) (versionRank b.head?) with
      | .eq => untilDigits fuel (a.drop 1) (b.drop 1)
      | o => (o, a, b)
    else (.eq, a, b)

/-- The order of versions: what is no number by its characters, and numbers by their values. -/
def versions : Nat → Str → Str → Ordering
  | 0, _, _ => .eq
  | fuel + 1, a, b =>
    if a.isEmpty && b.isEmpty then .eq
    else
      match untilDigits (a.length + b.length + 1) a b with
      | (.eq, a, b) =>
        let m := a.takeWhile Char.isDigit
        let n := b.takeWhile Char.isDigit
        match compare (Str.ofDigits 10 m) (Str.ofDigits 10 n) with
        | .eq => versions fuel (a.drop m.length) (b.drop n.length)
        | o => o
      | (o, _, _) => o

/-- Whether a text consists of endings, such as names of files have. -/
def isEndings : Nat → Str → Bool
  | 0, _ => false
  | _, [] => true
  | fuel + 1, '.' :: c :: rest =>
    (c.isAlpha || c = '~') && isEndings fuel (rest.dropWhile fun d => d.isAlphanum || d = '~')
  | _, _ => false

/-- A name without its endings; something is left in any case. -/
def stem (s : Str) : Str :=
  match (List.range s.length).find? fun i => 0 < i && isEndings (s.length + 1) (s.drop i) with
  | some i => s.take i
  | none => s

/-- The order of names with versions. -/
def byVersion (a b : Str) : Ordering :=
  let dots (s : Str) : Nat := if s.isEmpty then 0 else if s = ['.'] then 1 else if s = ['.', '.'] then 2
    else if s.head? = some '.' then 3 else 4
  if a = b then .eq
  else
    match compare (dots a) (dots b) with
    | .eq =>
      let fuel := a.length + b.length + 2
      let p := stem a
      let q := stem b
      (versions fuel p q).then (if p = a ∧ q = b then .eq else versions fuel a b)
    | o => o

end Transcripts.Tool.Order
