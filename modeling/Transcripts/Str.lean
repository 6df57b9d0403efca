import Transcripts.Text.Lines
import Transcripts.Text.Utf8

/-!
# Text as programs see it

Programs and their files do not know characters of several bytes; their text is a list of characters that
stand for one byte each.
-/
namespace Transcripts

open Transcripts.Text (Bytes)

/-- Text of which each character stands for a byte. -/
abbrev Str := List Char

namespace Str

def ofBytes (bs : Bytes) : Str := bs.map fun b => Char.ofNat b.toNat

def toBytes (s : Str) : Bytes := s.map fun c => UInt8.ofNat c.toNat

def ofString (s : String) : Str := ofBytes (Text.bytes s)

def toString (s : Str) : String := Text.shown (toBytes s)

/-- A number by its decimal digits. -/
def decimal (n : Nat) : Str := Nat.toDigits 10 n

/-- A whole number by its sign and its digits. -/
def integer (n : Int) : Str := if n < 0 then '-' :: decimal n.natAbs else decimal n.natAbs

/-- The value of a digit in any base, if it is one. -/
def digit? (c : Char) : Option Nat :=
  if c.isDigit then some (c.toNat - '0'.toNat)
  else if c.isLower then some (c.toNat - 'a'.toNat + 10)
  else if c.isUpper then some (c.toNat - 'A'.toNat + 10)
  else none

/-- The number that digits write in a base. -/
def ofDigits (base : Nat) (ds : Str) : Nat := ds.foldl (fun n c => n * base + (digit? c).getD 0) 0

/-- The number that a text of digits writes. -/
def nat? (s : Str) : Option Nat :=
  if s.isEmpty || !s.all Char.isDigit then none else some (ofDigits 10 s)

/-- The whole number that a text writes. -/
def int? (s : Str) : Option Int :=
  match s with
  | '-' :: ds => (nat? ds).map fun n => -(n : Int)
  | '+' :: ds => (nat? ds).map fun n => (n : Int)
  | ds => (nat? ds).map fun n => (n : Int)

/-- A text filled up with a character at its start. -/
def padStart (width : Nat) (c : Char) (s : Str) : Str := List.replicate (width - s.length) c ++ s

/-- A text filled up with a character at its end. -/
def padEnd (width : Nat) (c : Char) (s : Str) : Str := s ++ List.replicate (width - s.length) c

/-- Cuts into pieces that end after a mark; the argument holds the open piece, last character first. -/
def piecesFrom (mark : Char) (open_ : Str) : Str → List Str
  | [] => if open_.isEmpty then [] else [open_.reverse]
  | c :: cs =>
    if c = mark then (c :: open_).reverse :: piecesFrom mark [] cs
    else piecesFrom mark (c :: open_) cs

/-- The pieces of a text, each with the mark that ends it; the last one may have none. -/
def pieces (mark : Char) (s : Str) : List Str := piecesFrom mark [] s

/-- A piece without the mark at its end. -/
def chomp (mark : Char) (s : Str) : Str := if s.getLast? = some mark then s.dropLast else s

/-- The lines of a text, without their ends. -/
def lines (s : Str) : List Str := (pieces '\n' s).map (chomp '\n')

/-- Lines, each with its end. -/
def unlines (ls : List Str) : Str := ls.flatMap (· ++ ['\n'])

def startsWith (s : Str) (key : String) : Bool := key.toList.isPrefixOf s

def endsWith (s : Str) (key : String) : Bool := key.toList.isSuffixOf s

/-- Whether a character is a blank of any kind. -/
def isSpace (c : Char) : Bool := c == ' ' || ('\t' ≤ c && c ≤ '\x0d')

def upper (s : Str) : Str := s.map Char.toUpper

def lower (s : Str) : Str := s.map Char.toLower

end Str

end Transcripts
