import Std.Data.TreeSet
import Transcripts.Pattern.Program
import Transcripts.Text.Utf8
import Transcripts.Unicode.Word

/-!
# Search

A program is run at a place of the input by trying its ways in order of preference.  A step that was
already tried at a place is not tried there again: whatever it leads to, it led to before.  The first
accepting step reached ends the run, and the leftmost place from which one is reached wins.
-/
namespace Transcripts.Pattern

open Transcripts.Text (Bytes)
open Transcripts.Unicode (Ranges isWordChar)

/-- The input of a search, as bytes by place. -/
abbrev Input := Array UInt8

namespace Input

def ofBytes (bs : Bytes) : Input := bs.toArray

/-- The character that starts at a place, and its length. -/
def charAt (input : Input) (i : Nat) : Option (Char × Nat) :=
  Text.firstChar (input.extract i (i + 4)).toList

/-- Whether a byte can be the first of a character, or of nothing at all. -/
def isLeading (b : UInt8) : Bool := b < 0x80 || 0xC0 ≤ b

/-- The place where the character before `i` starts: up to four bytes back, at the nearest byte that
does not continue a character. -/
def backFrom (input : Input) (i : Nat) : Nat → Nat → Nat
  | 0, j => j
  | fuel + 1, j =>
    if j = 0 then 0
    else if (input[j]?.map isLeading).getD true then j
    else backFrom input i fuel (j - 1)

/-- The character before a place. -/
def charBefore (input : Input) (i : Nat) : Option Char :=
  if i = 0 then none
  else
    let start := backFrom input i 3 (i - 1)
    (Text.firstChar (input.extract start i).toList).map (·.1)

/-- The character after a place. -/
def charAfter (input : Input) (i : Nat) : Option Char := (input.charAt i).map (·.1)

/-- The byte before a place. -/
def byteBefore (input : Input) (i : Nat) : Option UInt8 := if i = 0 then none else input[i - 1]?

/-- Whether a place lies between two characters of a text, and not inside one. -/
def isBoundary (input : Input) (i : Nat) : Bool := (input[i]?.map isLeading).getD true

end Input

/-! ## Conditions -/

/-- Whether a basic character is part of a word. -/
def isWordByte (b : UInt8) : Bool :=
  let c := Char.ofNat b.toNat
  b < 0x80 && (c.isAlphanum || c == '_')

/-- What stands on one side of a place: no word character, a word character, or bytes that are no
character. -/
inductive Side where
  | plain | word | broken
deriving DecidableEq

/-- The side before a place. -/
def sideBefore (unicode : Bool) (input : Input) (i : Nat) : Side :=
  if i = 0 then .plain
  else if unicode then
    match input.charBefore i with
    | none => .broken
    | some c => if isWordChar c then .word else .plain
  else if (input.byteBefore i).any isWordByte then .word else .plain

/-- The side after a place. -/
def sideAfter (unicode : Bool) (input : Input) (i : Nat) : Side :=
  if input.size ≤ i then .plain
  else if unicode then
    match input.charAfter i with
    | none => .broken
    | some c => if isWordChar c then .word else .plain
  else if input[i]?.any isWordByte then .word else .plain

/-- Whether a condition holds at a place.  A negative condition on words does not hold beside bytes
that are no character. -/
def Look.holds (input : Input) (i : Nat) : Look → Bool
  | .start => i == 0
  | .finish => i == input.size
  | .lineStart => i == 0 || input.byteBefore i == some 0x0A
  | .lineEnd => i == input.size || input[i]? == some 0x0A
  | .lineStartCrlf =>
    i == 0 || input.byteBefore i == some 0x0A
      || (input.byteBefore i == some 0x0D && input[i]? != some 0x0A)
  | .lineEndCrlf =>
    i == input.size || input[i]? == some 0x0D
      || (input[i]? == some 0x0A && input.byteBefore i != some 0x0D)
  | .boundary u => (sideBefore u input i == .word) != (sideAfter u input i == .word)
  | .noBoundary u =>
    let before := sideBefore u input i
    let after := sideAfter u input i
    before != .broken && after != .broken && before == after
  | .wordStart u => sideBefore u input i != .word && sideAfter u input i == .word
  | .wordEnd u => sideBefore u input i == .word && sideAfter u input i != .word
  | .wordStartHalf u => sideBefore u input i == .plain
  | .wordEndHalf u => sideAfter u input i == .plain

/-! ## Running -/

/-- A step of the program and a place of the input. -/
abbrev Point := Nat × Nat

/-- Where one step leads, in order of preference. -/
def Program.next (p : Program) (input : Input) (x : Point) : List Point :=
  match p.code[x.1]? with
  | none => []
  | some .accept => []
  | some .fail => []
  | some (.char set n) =>
    match input.charAt x.2 with
    | none => []
    | some (c, len) => if set.mem c.toNat then [(n, x.2 + len)] else []
  | some (.byte set n) =>
    match input[x.2]? with
    | none => []
    | some b => if set.mem b.toNat then [(n, x.2 + 1)] else []
  | some (.look l n) => if l.holds input x.2 then [(n, x.2)] else []
  | some (.split a b) => [(a, x.2), (b, x.2)]

/-- Whether a step accepts. -/
def Program.accepts (p : Program) (x : Point) : Bool := p.code[x.1]? == some .accept

/-- The points that were tried, as numbers. -/
abbrev Tried := Std.TreeSet Nat

/-- The number of a point in a given input. -/
def pointKey (input : Input) (x : Point) : Nat := x.1 * (input.size + 1) + x.2

/-- Tries the points of a stack in order; the result is the place where an accepting step is reached
first, and the points tried by then. -/
def Program.explore (p : Program) (input : Input) : Nat → List Point → Tried → Option Nat × Tried
  | 0, _, tried => (none, tried)
  | _ + 1, [], tried => (none, tried)
  | fuel + 1, x :: stack, tried =>
    if tried.contains (pointKey input x) then explore p input fuel stack tried
    else if p.accepts x then (some x.2, tried)
    else explore p input fuel (p.next input x ++ stack) (tried.insert (pointKey input x))

/-- Each point is tried once and puts at most two others on the stack, so this many rounds are
enough. -/
def Program.rounds (p : Program) (input : Input) : Nat := 2 * (p.code.size + 1) * (input.size + 1) + 1

/-- The end of the preferred match that starts at a place. -/
def Program.matchAt (p : Program) (input : Input) (i : Nat) (tried : Tried) : Option Nat × Tried :=
  p.explore input (p.rounds input) [(p.start, i)] tried

/-- The first of `n` places from `i` on where a match starts, and its end.  What a failed start has
tried cannot lead to a match from a later one. -/
def Program.searchFrom (p : Program) (input : Input) (starts : Nat → Bool) :
    Nat → Nat → Tried → Option (Nat × Nat)
  | 0, _, _ => none
  | n + 1, i, tried =>
    if starts i then
      match p.matchAt input i tried with
      | (some e, _) => some (i, e)
      | (none, tried) => searchFrom p input starts n (i + 1) tried
    else searchFrom p input starts n (i + 1) tried

/-- The leftmost match that starts at `i` or later. -/
def Program.search (p : Program) (input : Input) (starts : Nat → Bool) (i : Nat) :
    Option (Nat × Nat) :=
  p.searchFrom input starts (input.size + 1 - i) i {}

end Transcripts.Pattern
