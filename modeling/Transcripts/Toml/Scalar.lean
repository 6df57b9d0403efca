import Transcripts.Datum

/-!
# Scalars of TOML

Strings in their four forms, numbers, and moments.  A reader takes what it reads from the front of a
text and returns the rest, or it refuses the text.
-/
namespace Transcripts.Toml

open Transcripts.Number (Double)

/-- Reads a value from the front of a text. -/
abbrev Reader (α : Type) := List Char → Option (α × List Char)

/-! ## Blanks, comments and ends of lines -/

def isSpace (c : Char) : Bool := c == ' ' || c == '\t'

def skipSpace (cs : List Char) : List Char := cs.dropWhile isSpace

/-- Whether a character may stand in a comment or a string: no control character but the tab. -/
def isPlain (c : Char) : Bool := c == '\t' || (' ' ≤ c && c != '\x7f')

/-- The text after the end of a line. -/
def newline? : List Char → Option (List Char)
  | '\n' :: cs => some cs
  | '\r' :: '\n' :: cs => some cs
  | _ => none

/-- The text after a comment, if one starts here. -/
def skipComment : List Char → List Char
  | '#' :: cs => cs.dropWhile isPlain
  | cs => cs

/-- The text after a line of which only blanks and a comment are left. -/
def endLine (cs : List Char) : Option (List Char) :=
  match skipComment (skipSpace cs) with
  | [] => some []
  | cs => newline? cs

/-- Skips blanks, comments and ends of lines. -/
def skipLinesFrom : Nat → List Char → List Char
  | 0, cs => cs
  | fuel + 1, cs =>
    let cs := skipComment (skipSpace cs)
    match newline? cs with
    | some rest => skipLinesFrom fuel rest
    | none => cs

def skipLines (cs : List Char) : List Char := skipLinesFrom (cs.length + 1) cs

/-! ## Strings -/

/-- The value of a hexadecimal digit. -/
def hexDigit? (c : Char) : Option Nat :=
  if c.isDigit then some (c.toNat - '0'.toNat)
  else if 'a' ≤ c && c ≤ 'f' then some (c.toNat - 'a'.toNat + 10)
  else if 'A' ≤ c && c ≤ 'F' then some (c.toNat - 'A'.toNat + 10)
  else none

/-- The character with a hexadecimal number. -/
def charOfHex (digits : List Char) : Option Char := do
  let n ← digits.foldlM (fun n c => (hexDigit? c).map (n * 16 + ·)) 0
  if n.isValidChar then some (Char.ofNat n) else none

/-- The character that an escape stands for, after the backslash. -/
def escape : Reader Char
  | 'b' :: cs => some ('\x08', cs)
  | 't' :: cs => some ('\t', cs)
  | 'n' :: cs => some ('\n', cs)
  | 'f' :: cs => some ('\x0c', cs)
  | 'r' :: cs => some ('\r', cs)
  | '"' :: cs => some ('"', cs)
  | '\\' :: cs => some ('\\', cs)
  | 'u' :: cs =>
    if cs.length < 4 then none else (charOfHex (cs.take 4)).map (·, cs.drop 4)
  | 'U' :: cs =>
    if cs.length < 8 then none else (charOfHex (cs.take 8)).map (·, cs.drop 8)
  | _ => none

/-- Reads to the closing quote of a string with escapes.  `text` holds what was read, last character
first. -/
def basicFrom (text : List Char) : Nat → Reader String
  | 0, _ => none
  | fuel + 1, cs =>
    match cs with
    | [] => none
    | '"' :: rest => some (String.ofList text.reverse, rest)
    | '\\' :: rest => (escape rest).bind fun (c, rest) => basicFrom (c :: text) fuel rest
    | c :: rest => if isPlain c then basicFrom (c :: text) fuel rest else none

/-- Reads to the closing quote of a string without escapes. -/
def literalFrom (text : List Char) : Reader String
  | [] => none
  | '\'' :: rest => some (String.ofList text.reverse, rest)
  | c :: rest => if isPlain c then literalFrom (c :: text) rest else none

/-- The text after blanks and ends of lines. -/
def skipBlankLines : List Char → List Char
  | '\r' :: '\n' :: cs => skipBlankLines cs
  | c :: cs => if isSpace c || c == '\n' then skipBlankLines cs else c :: cs
  | [] => []

/-- The text after blanks and ends of lines that follow a backslash at the end of a line. -/
def continued (cs : List Char) : Option (List Char) := (newline? (skipSpace cs)).map skipBlankLines

/-- Quotes in a row that may end a string of several lines: with three of them it ends, and up to two
more stand before the last three. -/
def closing (quote : Char) (cs : List Char) : Option (List Char × List Char) :=
  let n := (cs.takeWhile (· == quote)).length
  if n < 3 then none
  else
    let inner := min (n - 3) 2
    some (List.replicate inner quote, cs.drop (inner + 3))

/-- Reads to the end of a string of several lines with escapes. -/
def basicLinesFrom (text : List Char) : Nat → Reader String
  | 0, _ => none
  | fuel + 1, cs =>
    match closing '"' cs with
    | some (inner, rest) => some (String.ofList (text.reverse ++ inner), rest)
    | none =>
      match newline? cs with
      | some rest => basicLinesFrom ('\n' :: text) fuel rest
      | none =>
        match cs with
        | [] => none
        | '\\' :: rest =>
          match continued rest with
          | some rest => basicLinesFrom text fuel rest
          | none => (escape rest).bind fun (c, rest) => basicLinesFrom (c :: text) fuel rest
        | c :: rest => if isPlain c then basicLinesFrom (c :: text) fuel rest else none

/-- Reads to the end of a string of several lines without escapes. -/
def literalLinesFrom (text : List Char) : Nat → Reader String
  | 0, _ => none
  | fuel + 1, cs =>
    match closing '\'' cs with
    | some (inner, rest) => some (String.ofList (text.reverse ++ inner), rest)
    | none =>
      match newline? cs with
      | some rest => literalLinesFrom ('\n' :: text) fuel rest
      | none =>
        match cs with
        | [] => none
        | c :: rest => if isPlain c then literalLinesFrom (c :: text) fuel rest else none

/-- The text after an end of line that directly follows the opening quotes. -/
def skipNewline (cs : List Char) : List Char := (newline? cs).getD cs

/-- A string on one line. -/
def lineString : Reader String
  | '"' :: cs => basicFrom [] (cs.length + 1) cs
  | '\'' :: cs => literalFrom [] cs
  | _ => none

/-- A string in any form. -/
def string : Reader String
  | '"' :: '"' :: '"' :: cs => basicLinesFrom [] (cs.length + 1) (skipNewline cs)
  | '\'' :: '\'' :: '\'' :: cs => literalLinesFrom [] (cs.length + 1) (skipNewline cs)
  | cs => lineString cs

/-! ## Numbers -/

/-- Digits with single underscores between them; the result leaves the underscores out. -/
def digitsFrom (isDigit : Char → Bool) (read : List Char) : Reader (List Char)
  | '_' :: c :: cs =>
    if isDigit c then digitsFrom isDigit (c :: read) cs else some (read.reverse, '_' :: c :: cs)
  | c :: cs =>
    if isDigit c then digitsFrom isDigit (c :: read) cs else some (read.reverse, c :: cs)
  | [] => some (read.reverse, [])

/-- One digit or more. -/
def digits (isDigit : Char → Bool) : Reader (List Char)
  | c :: cs => if isDigit c then digitsFrom isDigit [c] cs else none
  | [] => none

/-- A sign; the result says whether it is a minus. -/
def sign : List Char → Bool × List Char
  | '-' :: cs => (true, cs)
  | '+' :: cs => (false, cs)
  | cs => (false, cs)

/-- Decimal digits of which the first is zero only if it is the only one. -/
def wholeDigits : Reader (List Char)
  | '0' :: cs => some (['0'], cs)
  | cs => digits Char.isDigit cs

/-- The number that some digits write. -/
def ofDigits (base : Nat) (ds : List Char) : Nat :=
  ds.foldl (fun n c => n * base + (hexDigit? c).getD 0) 0

/-- The number nearest to a whole number, if that fits a word of 64 bits with a sign. -/
def signedWord (negative : Bool) (n : Nat) : Option Double :=
  if negative then
    if n = 0 then some (Double.ofNat 0)
    else if n ≤ 0x8000000000000000 then some (Double.ofRatio true n 1)
    else none
  else if n < 0x8000000000000000 then some (Double.ofNat n) else none

/-- A whole number in some base, after its mark. -/
def based (base : Nat) (isDigit : Char → Bool) : Reader Double := fun cs => do
  let (ds, rest) ← digits isDigit cs
  let x ← signedWord false (ofDigits base ds)
  return (x, rest)

/-- A whole number. -/
def integer : Reader Double
  | '0' :: 'x' :: cs => based 16 (fun c => (hexDigit? c).isSome) cs
  | '0' :: 'o' :: cs => based 8 (fun c => '0' ≤ c && c ≤ '7') cs
  | '0' :: 'b' :: cs => based 2 (fun c => c == '0' || c == '1') cs
  | cs => do
    let (negative, cs) := sign cs
    let (ds, rest) ← wholeDigits cs
    let x ← signedWord negative (ofDigits 10 ds)
    return (x, rest)

/-- The digits after a point. -/
def fraction : Reader (List Char)
  | '.' :: cs => digits Char.isDigit cs
  | _ => none

/-- The exponent after its mark. -/
def exponent : Reader Int
  | c :: cs =>
    if c = 'e' ∨ c = 'E' then do
      let (negative, cs) := sign cs
      let (ds, rest) ← digits Char.isDigit cs
      let n : Int := ofDigits 10 ds
      return (if negative then -n else n, rest)
    else none
  | [] => none

/-- A number with a point or an exponent.  One too large is refused, unless it is negative. -/
def decimal : Reader Double := fun cs => do
  let (negative, cs) := sign cs
  let (whole, cs) ← wholeDigits cs
  let (part, e, rest) ← match exponent cs with
    | some (e, rest) => some ([], e, rest)
    | none => do
      let (part, cs) ← fraction cs
      match exponent cs with
      | some (e, rest) => some (part, e, rest)
      | none =>
        match cs with
        | 'e' :: _ => none
        | 'E' :: _ => none
        | _ => some (part, 0, cs)
  match Double.ofDecimal negative (ofDigits 10 (whole ++ part)) (e - part.length) with
  | .infinite false => none
  | x => some (x, rest)

/-- An infinite number, or one that is none. -/
def special : Reader Double := fun cs =>
  let (negative, cs) := sign cs
  match cs with
  | 'i' :: 'n' :: 'f' :: rest => some (.infinite negative, rest)
  | 'n' :: 'a' :: 'n' :: rest => some (.nan, rest)
  | _ => none

/-! ## Moments -/

/-- Exactly `n` decimal digits, as a number between two bounds. -/
def fixed (n lo hi : Nat) : Reader Nat := fun cs =>
  let ds := cs.take n
  let value := ofDigits 10 ds
  if ds.length = n ∧ ds.all Char.isDigit ∧ lo ≤ value ∧ value ≤ hi then some (value, cs.drop n)
  else none

/-- The text after a given character. -/
def mark (c : Char) : List Char → Option (List Char)
  | d :: cs => if d = c then some cs else none
  | [] => none

/-- The number of days of a month. -/
def daysOf (year month : Nat) : Nat :=
  if month = 2 then (if (year % 4 = 0 ∧ year % 100 ≠ 0) ∨ year % 400 = 0 then 29 else 28)
  else if month = 4 ∨ month = 6 ∨ month = 9 ∨ month = 11 then 30
  else 31

/-- The text after a date. -/
def date (cs : List Char) : Option (List Char) := do
  let (year, cs) ← fixed 4 0 9999 cs
  let (month, cs) ← fixed 2 1 12 (← mark '-' cs)
  let (_, cs) ← fixed 2 1 (daysOf year month) (← mark '-' cs)
  return cs

/-- The text after a time of day. -/
def time (cs : List Char) : Option (List Char) := do
  let (_, cs) ← fixed 2 0 23 cs
  let (_, cs) ← fixed 2 0 59 (← mark ':' cs)
  let (_, cs) ← fixed 2 0 60 (← mark ':' cs)
  match cs with
  | '.' :: c :: rest => if c.isDigit then some (rest.dropWhile Char.isDigit) else none
  | _ => some cs

/-- The text after the distance from universal time. -/
def offset : List Char → Option (List Char)
  | c :: cs =>
    if c = 'Z' ∨ c = 'z' then some cs
    else if c = '+' ∨ c = '-' then do
      let (_, cs) ← fixed 2 0 23 cs
      let (_, cs) ← fixed 2 0 59 (← mark ':' cs)
      return cs
    else none
  | [] => none

/-- Whether a character stands between a date and a time. -/
def isBetween (c : Char) : Bool := c == 'T' || c == 't' || c == ' '

/-- The text after a time and its offset, where there are such after a date. -/
def timeAfterDate (cs : List Char) : List Char :=
  match cs with
  | [] => []
  | c :: rest =>
    if isBetween c then
      match time rest with
      | some rest => (offset rest).getD rest
      | none => cs
    else cs

/-- The text after a date, a time of day, or the two together. -/
def moment (cs : List Char) : Option (List Char) :=
  match date cs with
  | some rest => some (timeAfterDate rest)
  | none => time cs

/-- A moment or a number. -/
def momentOrNumber : Reader Datum := fun cs =>
  match moment cs with
  | some rest => some (.moment, rest)
  | none =>
    match decimal cs <|> special cs <|> integer cs with
    | some (x, rest) => some (.number x, rest)
    | none => none

end Transcripts.Toml
