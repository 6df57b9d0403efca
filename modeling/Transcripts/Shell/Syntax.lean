import Transcripts.Str

/-!
# The shell's language

Commands and the words they are made of.
-/
namespace Transcripts.Shell

/-- What becomes of a parameter's value. -/
inductive ParamOp where
  | value
  | length
  /-- Another word where the parameter is not set, or also where it is empty. -/
  | default (alsoEmpty : Bool)
  /-- The same, and the parameter gets that value. -/
  | assign (alsoEmpty : Bool)
  /-- A failure where it is not set. -/
  | require (alsoEmpty : Bool)
  /-- Another word where it is set. -/
  | alternative (alsoEmpty : Bool)
  /-- Without a match at the start, the shortest or the longest. -/
  | dropStart (longest : Bool)
  /-- Without a match at the end. -/
  | dropEnd (longest : Bool)
  /-- No operator: a failure whenever the parameter is looked at. -/
  | invalid
deriving Repr, DecidableEq

/-- How a descriptor is redirected. -/
inductive RedirectOp where
  | input | output
  /-- Also where a file must not be written over. -/
  | clobber
  | append
  /-- To read and to write. -/
  | both
  /-- Becomes a copy of another descriptor, that is read or that is written. -/
  | copyIn | copyOut
  /-- Text from the script. -/
  | here
deriving Repr, DecidableEq

mutual

/-- A part of a word. -/
inductive Part where
  | text (quoted : Bool) (s : Str)
  | param (quoted : Bool) (name : Str) (op : ParamOp) (word : List Part)
  | command (quoted : Bool) (body : List Command)
  | arithmetic (quoted : Bool) (parts : List Part)

inductive Redirect where
  | mk (fd : Nat) (op : RedirectOp) (target : List Part)

inductive Command where
  | simple (line : Nat) (assigns : List (Str × List Part)) (words : List (List Part))
      (redirects : List Redirect)
  | pipeline (commands : List Command)
  | negate (c : Command)
  | and (a b : Command)
  | or (a b : Command)
  | background (line : Nat) (c : Command)
  | block (body : List Command)
  | subshell (line : Nat) (body : List Command)
  | redirected (line : Nat) (c : Command) (redirects : List Redirect)
  | conditional (branches : List (List Command × List Command)) (otherwise : Option (List Command))
  /-- Runs the body as long as the condition succeeds, or until it does. -/
  | loop (onSuccess : Bool) (condition body : List Command)
  | each (line : Nat) (name : Str) (words : Option (List (List Part))) (body : List Command)
  | choose (line : Nat) (word : List Part) (cases : List (List (List Part) × List Command))
  | define (line : Nat) (name : Str) (body : Command)

end

/-- A word. -/
abbrev Word := List Part

def Redirect.fd : Redirect → Nat
  | mk fd _ _ => fd

def isNameStart (c : Char) : Bool := c.isAlpha || c == '_'

def isNameChar (c : Char) : Bool := c.isAlphanum || c == '_'

/-- Whether a text can be the name of a variable. -/
def isName (s : Str) : Bool := (s.head?.map isNameStart).getD false && s.all isNameChar

/-- Parameters that are named by a sign. -/
def isSpecial (c : Char) : Bool := ['@', '*', '#', '?', '-', '$', '!'].contains c

namespace Word

/-- The text of a word whose parts are all texts without quotes. -/
def plain? : Word → Option Str
  | [] => some []
  | .text false s :: rest => (plain? rest).map (s ++ ·)
  | _ :: _ => none

/-- The text of a word's parts, as far as they are texts, and whether some of it is quoted. -/
def literal : Word → Str × Bool
  | [] => ([], false)
  | .text q s :: rest =>
    let (t, r) := literal rest
    (s ++ t, q || r)
  | _ :: rest => literal rest

/-- The name and the value of a word that gives a variable a value. -/
def assignment? : Word → Option (Str × Word)
  | .text false s :: rest =>
    let name := s.takeWhile isNameChar
    match s.drop name.length with
    | '=' :: value =>
      if (name.head?.map isNameStart).getD false then
        some (name, if value.isEmpty then rest else .text false value :: rest)
      else none
    | _ => none
  | _ => none

end Word

end Transcripts.Shell
