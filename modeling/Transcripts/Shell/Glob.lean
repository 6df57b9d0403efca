import Transcripts.Shell.Syntax

/-!
# Patterns of the shell

A pattern stands for texts: a question mark for any character, a star for any text, and brackets for any
of some characters.  A quoted character stands for itself alone.
-/
namespace Transcripts.Shell

/-- A character and whether it is protected by quotes. -/
structure Glyph where
  char : Char
  quoted : Bool
deriving Repr, DecidableEq

namespace Glob

inductive Item where
  | char (c : Char)
  | any
  | many
  | set (negated : Bool) (ranges : List (Char × Char))
deriving Repr, DecidableEq

/-- Named classes of characters. -/
def classes : List (String × List (Char × Char)) :=
  [("alpha", [('A', 'Z'), ('a', 'z')]), ("digit", [('0', '9')]),
    ("alnum", [('0', '9'), ('A', 'Z'), ('a', 'z')]), ("upper", [('A', 'Z')]), ("lower", [('a', 'z')]),
    ("space", [('\t', '\x0d'), (' ', ' ')]), ("blank", [('\t', '\t'), (' ', ' ')]),
    ("punct", [('!', '/'), (':', '@'), ('[', '\x60'), ('\x7b', '~')]),
    ("xdigit", [('0', '9'), ('A', 'F'), ('a', 'f')]), ("cntrl", [('\x00', '\x1f'), ('\x7f', '\x7f')]),
    ("print", [(' ', '~')]), ("graph", [('!', '~')])]

/-- The ranges inside brackets and what follows them; `first` says that a closing bracket is only a
character. -/
def ranges (first : Bool) : Nat → List Glyph → Option (List (Char × Char) × List Glyph)
  | 0, _ => none
  | fuel + 1, gs =>
    match gs with
    | [] => none
    | g :: rest =>
      if g.char = ']' ∧ !g.quoted ∧ !first then some ([], rest)
      else if g.char = '[' ∧ !g.quoted ∧ (rest.head?.map (·.char)) = some ':' then
        let name := (rest.drop 1).takeWhile fun g => g.char.isAlpha
        let after := rest.drop (1 + name.length)
        match classes.lookup (String.ofList (name.map (·.char))), after with
        | some rs, ⟨':', _⟩ :: ⟨']', _⟩ :: after =>
          (ranges false fuel after).map fun (more, end_) => (rs ++ more, end_)
        | _, _ => (ranges false fuel rest).map fun (more, end_) => (('[', '[') :: more, end_)
      else
        match rest with
        | ⟨'-', false⟩ :: hi :: after =>
          if hi.char = ']' ∧ !hi.quoted then
            (ranges false fuel rest).map fun (more, end_) => ((g.char, g.char) :: more, end_)
          else (ranges false fuel after).map fun (more, end_) => ((g.char, hi.char) :: more, end_)
        | _ => (ranges false fuel rest).map fun (more, end_) => ((g.char, g.char) :: more, end_)

/-- The pattern that some characters write. -/
def ofGlyphs : Nat → List Glyph → List Item
  | 0, _ => []
  | _ + 1, [] => []
  | fuel + 1, g :: rest =>
    if g.quoted then .char g.char :: ofGlyphs fuel rest
    else if g.char = '?' then .any :: ofGlyphs fuel rest
    else if g.char = '*' then .many :: ofGlyphs fuel rest
    else if g.char = '[' then
      let (negated, inner) := match rest with
        | ⟨'!', false⟩ :: r => (true, r)
        | ⟨'^', false⟩ :: r => (true, r)
        | r => (false, r)
      match ranges true (inner.length + 1) inner with
      | some (rs, after) => .set negated rs :: ofGlyphs fuel after
      | none => .char '[' :: ofGlyphs fuel rest
    else .char g.char :: ofGlyphs fuel rest

def parse (gs : List Glyph) : List Item := ofGlyphs (gs.length + 1) gs

/-- Whether one character is meant by an item. -/
def Item.takes (c : Char) : Item → Bool
  | char d => c == d
  | any => true
  | many => true
  | set negated rs => (rs.any fun (lo, hi) => lo ≤ c && c ≤ hi) != negated

/-- Whether a text is meant by a pattern. -/
def accepts : List Item → Str → Bool
  | [], s => s.isEmpty
  | .many :: items, s => (List.range (s.length + 1)).any fun n => accepts items (s.drop n)
  | _ :: _, [] => false
  | item :: items, c :: s => item.takes c && accepts items s

/-- Whether some characters make a pattern rather than a text. -/
def isPattern (gs : List Glyph) : Bool := gs.any fun g => !g.quoted && ['*', '?', '['].contains g.char

/-- The text without a match at its start, the shortest or the longest. -/
def dropStart (items : List Item) (longest : Bool) (s : Str) : Str :=
  let counts := List.range (s.length + 1)
  let counts := if longest then counts.reverse else counts
  match counts.find? fun n => accepts items (s.take n) with
  | some n => s.drop n
  | none => s

/-- The text without a match at its end, the shortest or the longest. -/
def dropEnd (items : List Item) (longest : Bool) (s : Str) : Str :=
  let counts := List.range (s.length + 1)
  let counts := if longest then counts else counts.reverse
  match counts.find? fun n => accepts items (s.drop n) with
  | some n => s.take n
  | none => s

end Glob

end Transcripts.Shell
