import Transcripts.Pattern.Meaning
import Transcripts.Pattern.Reader
import Transcripts.Pattern.Search

/-!
# Patterns

A pattern for text or for bytes, ready to be searched for.
-/
namespace Transcripts.Pattern

open Transcripts.Text (Bytes)

/-- A pattern that was read and compiled. -/
structure Regex where
  mode : Mode
  program : Program

/-- Whether a pattern for text is valid and can be matched by a machine that keeps a state and nothing
else between two bytes.  Such a machine cannot tell the words of all scripts apart. -/
def isAutomatic (source : String) : Bool :=
  match read source.toList >>= Ast.node .text {} with
  | .ok n => !n.looks.any Look.isWide
  | .error _ => false

namespace Regex

/-- Compiles a pattern with given flags. -/
def compile (mode : Mode) (fs : Flags) (source : String) : Except Fault Regex := do
  let a ← read source.toList
  let n ← a.node mode fs
  return ⟨mode, n.program⟩

/-- A pattern for text. -/
def text (source : String) : Except Fault Regex := compile .text {} source

/-- A pattern for output as it arrives: bytes, in which a dot also stands for the end of a line. -/
def output (source : String) : Except Fault Regex := compile .bytes { dotAll := true } source

/-- Places where a match may start: in a text, only between two characters. -/
def starts (r : Regex) (input : Input) (i : Nat) : Bool :=
  match r.mode with
  | .text => input.isBoundary i
  | .bytes => true

/-- The start and the end of the leftmost match at `i` or later. -/
def findFrom (r : Regex) (input : Input) (i : Nat) : Option (Nat × Nat) :=
  r.program.search input (r.starts input) i

/-- The start and the end of the leftmost match. -/
def find (r : Regex) (bs : Bytes) : Option (Nat × Nat) := r.findFrom (Input.ofBytes bs) 0

/-- Whether the pattern matches anywhere in a text. -/
def matchesIn (r : Regex) (cs : List Char) : Bool := (r.find (Text.encode cs)).isSome

/-- The matches in an input, left to right and without overlap.  After a match that ends at `last`, an
empty match at the same place does not count. -/
def matchesFrom (r : Regex) (input : Input) : Nat → Nat → Option Nat → List (Nat × Nat)
  | 0, _, _ => []
  | fuel + 1, i, last =>
    match r.findFrom input i with
    | none => []
    | some (s, e) =>
      if s = e ∧ last = some e then
        match r.findFrom input (i + 1) with
        | none => []
        | some (s, e) => (s, e) :: matchesFrom r input fuel e (some e)
      else (s, e) :: matchesFrom r input fuel e (some e)

/-- The bytes outside some matches. -/
def outside (input : Input) : Nat → List (Nat × Nat) → Bytes
  | i, [] => (input.extract i input.size).toList
  | i, (s, e) :: rest => (input.extract i s).toList ++ outside input e rest

/-- The text with all matches taken out. -/
def remove (r : Regex) (cs : List Char) : List Char :=
  let input := Input.ofBytes (Text.encode cs)
  Text.decode (outside input 0 (r.matchesFrom input (input.size + 2) 0 none))

end Regex

/-! ## Texts as patterns

Every text has a pattern that matches it and nothing else: characters with a meaning of their own are written behind a
backslash.  Such a pattern is limited like any other one, which here only means that the text must not be too long. -/

/-- Some characters, as they are written to stand for themselves. -/
def escapeChars (cs : List Char) : List Char := cs.flatMap fun c => if isMeta c then ['\\', c] else [c]

/-- The pattern that matches a text and nothing else. -/
def escape (text : String) : String := String.ofList (escapeChars text.toList)

/-- The number of bytes of the longest text whose pattern is not too large. -/
def longestText : Nat := 327673

end Transcripts.Pattern
