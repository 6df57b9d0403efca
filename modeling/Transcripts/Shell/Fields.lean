import Transcripts.Files
import Transcripts.Shell.Glob

/-!
# Fields

A word is expanded to pieces, and these fall apart into fields: at characters that separate fields, where
they come from an expansion without quotes, and between the arguments of a shell.  A field that is a
pattern stands for the paths that it means, if there are any.
-/
namespace Transcripts.Shell

/-- A part of an expanded word. -/
inductive Piece where
  /-- A character, and whether it can separate fields. -/
  | glyph (g : Glyph) (splits : Bool)
  /-- Quotes around nothing, which make a field all the same. -/
  | empty
  /-- All arguments where there are none; then quotes make no field. -/
  | absent
  /-- The end of an argument. -/
  | gap
deriving Repr, DecidableEq

namespace Piece

/-- The pieces of a text. -/
def ofText (quoted splits : Bool) (s : Str) : List Piece :=
  if quoted && s.isEmpty then [empty] else s.map fun c => glyph ⟨c, quoted⟩ (splits && !quoted)

/-- The pieces of several arguments. -/
def ofArgs (quoted splits : Bool) : List Str → List Piece
  | [] => [absent]
  | [s] => ofText quoted splits s
  | s :: rest => ofText quoted splits s ++ gap :: ofArgs quoted splits rest

def glyph? : Piece → Option Glyph
  | glyph g _ => some g
  | gap => some ⟨' ', true⟩
  | _ => none

/-- The characters of pieces that make one text. -/
def glyphs (ts : List Piece) : List Glyph := ts.filterMap glyph?

/-- The text that pieces make. -/
def text (ts : List Piece) : Str := (glyphs ts).map (·.char)

end Piece

namespace Fields

def isBlank (c : Char) : Bool := c == ' ' || c == '\t' || c == '\n'

/-- Fields while a word falls apart: the finished ones, last first, the one that is begun, and whether
only blanks have come since the last one ended. -/
structure Draft where
  finished : List (List Glyph) := []
  current : Option (List Glyph) := none
  afterBlank : Bool := false

/-- Ends the field that is begun. -/
def Draft.close (d : Draft) (afterBlank : Bool) : Draft :=
  match d.current with
  | some f => ⟨f.reverse :: d.finished, none, afterBlank⟩
  | none => d

/-- Takes one piece up; blanks next to another separator belong to it. -/
def Draft.add (separators : Str) (d : Draft) : Piece → Draft
  | .empty => { d with current := some (d.current.getD []) }
  | .absent => d
  | .gap => d.close false
  | .glyph g splits =>
    if splits && separators.contains g.char then
      if isBlank g.char then d.close true
      else if d.current.isSome then d.close false
      else if d.afterBlank then { d with afterBlank := false }
      else { d with finished := [] :: d.finished }
    else ⟨d.finished, some (g :: d.current.getD []), false⟩

/-- The fields of a word. -/
def ofPieces (separators : Str) (ts : List Piece) : List (List Glyph) :=
  let ts := if ts.contains .absent then ts.filter (· != .empty) else ts
  ((ts.foldl (Draft.add separators) {}).close false).finished.reverse

/-! ## Paths -/

/-- The parts of a path pattern between slashes. -/
def components (gs : List Glyph) : List (List Glyph) :=
  gs.foldr (fun g acc =>
    if g.char = '/' then [] :: acc
    else match acc with
      | [] => [[g]]
      | c :: rest => (g :: c) :: rest) [[]]

/-- The names in a directory that a part of a pattern means.  A leading dot has to be written. -/
def matching (files : Files) (dir : Nat) (part : List Glyph) : List Str :=
  let items := Glob.parse part
  let dotted := (part.head?.map (·.char)) == some '.'
  let names := if dotted then ['.'] :: ['.', '.'] :: files.names dir else files.names dir
  names.filter fun name => (name.head? != some '.' || dotted) && Glob.accepts items name

/-- Goes down from a directory by the parts of a path pattern; `text` leads to the directory. -/
def walk (files : Files) (here : Nat) : List (List Glyph) → Str → List Str
  | [], text => [text]
  | part :: rest, text =>
    let slash : Str := if rest.isEmpty then [] else ['/']
    let dir? : Option Nat := if text.isEmpty then some here else (files.find here text true).toOption
    match dir? with
    | none => []
    | some dir =>
      if !Glob.isPattern part then
        let next := text ++ part.map (·.char)
        if !rest.isEmpty || (files.find here next false).isOk then walk files here rest (next ++ slash)
        else []
      else if !files.isDir dir then []
      else
        ((matching files dir part).filter fun name =>
            rest.isEmpty || (files.find here (text ++ name ++ ['/', '.']) true).isOk).flatMap fun name =>
          walk files here rest (text ++ name ++ slash)

/-- The paths that a field stands for, or its own text. -/
def paths (files : Files) (here : Nat) (field : List Glyph) : List Str :=
  let text := field.map (·.char)
  if !Glob.isPattern field then [text]
  else
    match walk files here (components field) [] with
    | [] => [text]
    | found => found.mergeSort fun a b => !(b < a)

end Fields

end Transcripts.Shell
