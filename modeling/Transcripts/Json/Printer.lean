import Transcripts.Json
import Transcripts.Text.Quoted

/-!
# Writing JSON

In strings only the quote, the backslash and the control characters below the space are escaped.
-/
namespace Transcripts.Json

/-- One character of a string. -/
def printChar (c : Char) : List Char :=
  match c with
  | '"' => ['\\', '"']
  | '\\' => ['\\', '\\']
  | '\x08' => ['\\', 'b']
  | '\x0c' => ['\\', 'f']
  | '\n' => ['\\', 'n']
  | '\r' => ['\\', 'r']
  | '\t' => ['\\', 't']
  | c =>
    if c.toNat < 0x20 then
      '\\' :: 'u' :: '0' :: '0' :: Char.ofNat (c.toNat / 16 + '0'.toNat) :: (Text.hexOf (c.toNat % 16))
    else [c]

/-- A string between quotes. -/
def printString (s : String) : List Char := '"' :: s.toList.flatMap printChar ++ ['"']

/-- The digits of a number, as they were given. -/
def printNumeral (n : Numeral) : List Char :=
  let sign := if n.negative then ['-'] else []
  let fraction := if n.fraction.isEmpty then [] else '.' :: n.fraction
  let exponent := if n.exponent = 0 then [] else 'e' :: (toString n.exponent).toList
  sign ++ n.whole ++ fraction ++ exponent

mutual

/-- A value without blanks between its tokens. -/
def print : Json → List Char
  | .null => "null".toList
  | .bool b => (if b then "true" else "false").toList
  | .number n => printNumeral n
  | .string s => printString s
  | .array items => '[' :: printItems items ++ [']']
  | .object members => '\x7b' :: printMembers members ++ ['\x7d']

/-- Items with commas between them. -/
def printItems : List Json → List Char
  | [] => []
  | [v] => v.print
  | v :: rest => v.print ++ ',' :: printItems rest

/-- Members with commas between them. -/
def printMembers : List (String × Json) → List Char
  | [] => []
  | [(k, v)] => printString k ++ ':' :: v.print
  | (k, v) :: rest => printString k ++ ':' :: v.print ++ ',' :: printMembers rest

end

/-- A value as a text without blanks between its tokens. -/
def compact (v : Json) : String := String.ofList v.print

/-- The numeral of a whole number. -/
def ofNat (n : Nat) : Json := .number ⟨false, Nat.toDigits 10 n, [], 0, true⟩

/-- Blanks in front of a line at some depth. -/
def indent (depth : Nat) : List Char := List.replicate (2 * depth) ' '

mutual

/-- A value over several lines, each inner one indented by two blanks more.  An array or object without
content stays on one line. -/
def pretty (depth : Nat) : Json → List Char
  | .array [] => "[]".toList
  | .array (v :: rest) =>
    "[\n".toList ++ prettyItems (depth + 1) (v :: rest) ++ '\n' :: indent depth ++ [']']
  | .object [] => ['\x7b', '\x7d']
  | .object (m :: rest) =>
    '\x7b' :: '\n' :: prettyMembers (depth + 1) (m :: rest) ++ '\n' :: indent depth ++ ['\x7d']
  | v => v.print

/-- Items on lines of their own. -/
def prettyItems (depth : Nat) : List Json → List Char
  | [] => []
  | [v] => indent depth ++ v.pretty depth
  | v :: rest => indent depth ++ v.pretty depth ++ ',' :: '\n' :: prettyItems depth rest

/-- Members on lines of their own. -/
def prettyMembers (depth : Nat) : List (String × Json) → List Char
  | [] => []
  | [(k, v)] => indent depth ++ printString k ++ ':' :: ' ' :: v.pretty depth
  | (k, v) :: rest =>
    indent depth ++ printString k ++ ':' :: ' ' :: v.pretty depth ++ ',' :: '\n'
      :: prettyMembers depth rest

end

end Transcripts.Json
