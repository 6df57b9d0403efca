import Transcripts.Text.Lines

/-!
# Sets of code points

A set of numbers as a list of closed intervals, in order, with a gap between each two.  Classes of
characters and of bytes are both held this way.
-/
namespace Transcripts.Unicode

/-- Closed intervals in increasing order; neighbours leave out at least one number. -/
abbrev Ranges := List (Nat × Nat)

namespace Ranges

/-- Whether a number lies in the set. -/
def mem (n : Nat) (rs : Ranges) : Bool := rs.any fun (lo, hi) => lo ≤ n && n ≤ hi

/-- Puts an interval into its place, swallowing all that it overlaps or touches. -/
def insert (lo hi : Nat) : Ranges → Ranges
  | [] => [(lo, hi)]
  | (a, b) :: rest =>
    if hi + 1 < a then (lo, hi) :: (a, b) :: rest
    else if b + 1 < lo then (a, b) :: insert lo hi rest
    else insert (min lo a) (max hi b) rest

/-- The set of the numbers in some intervals, given in any order. -/
def ofList (rs : List (Nat × Nat)) : Ranges := rs.foldr (fun r acc => insert r.1 r.2 acc) []

/-- Merges two sets given in order. -/
def union (xs ys : Ranges) : Ranges := xs.foldr (fun r acc => insert r.1 r.2 acc) ys

/-- The numbers from `start` to `last` that are not in the set. -/
def complementFrom (start last : Nat) : Ranges → Ranges
  | [] => if start ≤ last then [(start, last)] else []
  | (lo, hi) :: rest =>
    if start < lo then (start, lo - 1) :: complementFrom (hi + 1) last rest
    else complementFrom (hi + 1) last rest

/-- The numbers of an interval that are in the set. -/
def clip (lo hi : Nat) (rs : Ranges) : Ranges :=
  rs.filterMap fun (a, b) =>
    let a' := max a lo
    let b' := min b hi
    if a' ≤ b' then some (a', b') else none

/-- The numbers in both sets. -/
def inter (xs ys : Ranges) : Ranges := xs.flatMap fun (lo, hi) => clip lo hi ys

/-- All code points of characters. -/
def allChars : Ranges := [(0, 0xD7FF), (0xE000, 0x10FFFF)]

/-- The characters that are not in the set. -/
def complementChars (rs : Ranges) : Ranges := inter (complementFrom 0 0x10FFFF rs) allChars

/-- The bytes that are not in the set. -/
def complementBytes (rs : Ranges) : Ranges := complementFrom 0 0xFF rs

/-- The numbers in the first set only, below the end of the code points. -/
def diff (xs ys : Ranges) : Ranges := inter xs (complementFrom 0 0x10FFFF ys)

/-- The numbers in exactly one of the sets. -/
def symmDiff (xs ys : Ranges) : Ranges := union (diff xs ys) (diff ys xs)

/-! ## Written tables

A table is written as blank-separated hexadecimal intervals, `41-5A`, or single numbers, `AA`. -/

/-- The number that hexadecimal digits write, letters being capital. -/
def ofHex (cs : List Char) : Nat :=
  cs.foldl (fun n c => n * 16 + if c.toNat < 0x3A then c.toNat - 0x30 else c.toNat - 0x37) 0

/-- The interval that one word of a table writes. -/
def interval (word : List Char) : Nat × Nat :=
  match word.span (· != '-') with
  | (lo, []) => (ofHex lo, ofHex lo)
  | (lo, _ :: hi) => (ofHex lo, ofHex hi)

/-- The set that a written table lists. -/
def ofText (s : String) : Ranges := (Text.words s.toList).map interval

end Ranges

/-- Every character is in the complement of the empty set. -/
theorem mem_allChars (c : Char) : Ranges.allChars.mem c.toNat = true := by
  have h := c.valid
  simp only [UInt32.isValidChar, Nat.isValidChar] at h
  simp only [Ranges.allChars, Ranges.mem, Char.toNat, List.any_cons, List.any_nil]
  grind

end Transcripts.Unicode
