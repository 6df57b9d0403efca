/-!
# Lines, occurrences, words and paths

Cutting text into lines, by two rules, finding a piece of text inside another, and taking words and paths apart.
-/
namespace Transcripts.Text

/-! ## Lines -/

/-- Cuts at every terminator; the argument holds the open line, last character first. -/
def splitLinesFrom (line : List Char) : List Char → List (List Char)
  | [] => if line.isEmpty then [] else [line.reverse]
  | '\r' :: '\n' :: cs => line.reverse :: splitLinesFrom [] cs
  | c :: cs =>
    if c = '\n' ∨ c = '\r' then line.reverse :: splitLinesFrom [] cs
    else splitLinesFrom (c :: line) cs

/-- The lines of a text (`split_lines`).  A line ends at a line feed, at a carriage return, or at the two together;
a terminator at the very end opens no further line. -/
def splitLines (cs : List Char) : List (List Char) := splitLinesFrom [] cs

/-- A line that ends in a line feed loses one carriage return before it; the line is given last
character first. -/
def closeLine : List Char → List Char
  | '\r' :: cs => cs.reverse
  | cs => cs.reverse

/-- Cuts at line feeds; the argument holds the open line, last character first. -/
def physicalLinesFrom (line : List Char) : List Char → List (List Char)
  | [] => if line.isEmpty then [] else [line.reverse]
  | c :: cs =>
    if c = '\n' then closeLine line :: physicalLinesFrom [] cs
    else physicalLinesFrom (c :: line) cs

/-- The physical lines of a text.  A line ends at a line feed, or at a carriage return and a line
feed; a carriage return alone is part of its line. -/
def physicalLines (cs : List Char) : List (List Char) := physicalLinesFrom [] cs

/-- Joins pieces of text with a separator between each two. -/
def join (sep : List Char) (parts : List (List Char)) : List Char := sep.intercalate parts

/-! ## Occurrences -/

/-- Cuts a text at each occurrence of `key`, left to right and without overlap.  `skip` counts the
characters of the current occurrence still to be passed; `piece` holds the open piece, last character
first. -/
def cutFrom (key : List Char) : Nat → List Char → List Char → List (List Char)
  | _, piece, [] => [piece.reverse]
  | k + 1, piece, _ :: cs => cutFrom key k piece cs
  | 0, piece, c :: cs =>
    if key.isPrefixOf (c :: cs) then piece.reverse :: cutFrom key (key.length - 1) [] cs
    else cutFrom key 0 (c :: piece) cs

/-- The pieces between the occurrences of a text that is not empty. -/
def cut (key cs : List Char) : List (List Char) := cutFrom key 0 [] cs

/-- How often a text occurs in another. -/
def occurrences (key cs : List Char) : Nat := (cut key cs).length - 1

/-- Puts `new` in place of each occurrence of `key`. -/
def replaceAll (key new cs : List Char) : List Char := join new (cut key cs)

/-- The part before the first `c` and the part after it. -/
def splitFirst (c : Char) (cs : List Char) : Option (List Char × List Char) :=
  match cs.span (· != c) with
  | (_, []) => none
  | (before, _ :: after) => some (before, after)

/-- Cuts at each occurrence of a character. -/
def splitOnChar (c : Char) (cs : List Char) : List (List Char) := cut [c] cs

/-- The offset of the first occurrence of a list in another. -/
def findSub {α : Type} [BEq α] (key : List α) : List α → Option Nat
  | [] => if key.isEmpty then some 0 else none
  | x :: xs => if key.isPrefixOf (x :: xs) then some 0 else (findSub key xs).map (· + 1)

/-! ## Echo artifacts -/

/-- Drops each blank that stands before a carriage return, together with the carriage return
(`remove_echo_artifact`): what a terminal leaves behind where an echoed line was wrapped. -/
def removeEcho : List Char → List Char
  | ' ' :: '\r' :: cs => removeEcho cs
  | c :: cs => c :: removeEcho cs
  | [] => []

/-! ## Blanks

The characters that separate words and that trimming drops. -/

/-- The code points of blank characters, as closed intervals in order. -/
def blankRanges : List (Nat × Nat) :=
  [(0x09, 0x0D), (0x20, 0x20), (0x85, 0x85), (0xA0, 0xA0), (0x1680, 0x1680), (0x2000, 0x200A),
   (0x2028, 0x2029), (0x202F, 0x202F), (0x205F, 0x205F), (0x3000, 0x3000)]

/-- Whether a character is blank. -/
def isBlank (c : Char) : Bool := blankRanges.any fun (lo, hi) => lo ≤ c.toNat && c.toNat ≤ hi

/-- The text without its leading blanks. -/
def trimStart (cs : List Char) : List Char := cs.dropWhile isBlank

/-- The text without its trailing blanks. -/
def trimEnd (cs : List Char) : List Char := (cs.reverse.dropWhile isBlank).reverse

/-- The text without blanks at either end. -/
def trim (cs : List Char) : List Char := trimEnd (trimStart cs)

/-- Reads words; the argument holds the open word, last character first. -/
def wordsFrom (word : List Char) : List Char → List (List Char)
  | [] => if word.isEmpty then [] else [word.reverse]
  | c :: cs =>
    if isBlank c then
      if word.isEmpty then wordsFrom [] cs else word.reverse :: wordsFrom [] cs
    else wordsFrom (c :: word) cs

/-- The maximal runs of characters that are not blank. -/
def words (cs : List Char) : List (List Char) := wordsFrom [] cs

/-! ## Paths

The parts of a path's text: components between slashes, the name of the file, and its extension. -/

/-- Whether a path starts at the root. -/
def isAbsolutePath (path : String) : Bool := path.startsWith "/"

/-- The components of a path, without empty ones and those that stand for the same place. -/
def pathParts (path : String) : List String :=
  ((splitOnChar '/' path.toList).map String.ofList).filter fun s => s != "" && s != "."

/-- A path followed from another one. -/
def joinPath (base path : String) : String :=
  if isAbsolutePath path then path
  else if base == "" || base.endsWith "/" then base ++ path
  else base ++ "/" ++ path

/-- The last component, unless it leads upwards. -/
def fileName? (path : String) : Option String :=
  match (pathParts path).getLast? with
  | some ".." => none
  | name => name

/-- What follows the last dot of a file's name.  A name that starts with its only dot has no
extension. -/
def extension? (path : String) : Option String :=
  (fileName? path).bind fun name =>
    let backwards := name.toList.reverse
    match splitFirst '.' backwards with
    | some (_, []) => none
    | some (after, _ :: _) => some (String.ofList after.reverse)
    | none => none

/-- The place that a path leads to from the root, with steps upwards taken. -/
def resolveParts (parts : List String) : List String :=
  (parts.foldl (fun up part => if part = ".." then up.tail else part :: up) []).reverse

/-- The components of the place that `path` leads to from the directory `base`. -/
def resolvePath (base path : String) : List String := resolveParts (pathParts (joinPath base path))

end Transcripts.Text
