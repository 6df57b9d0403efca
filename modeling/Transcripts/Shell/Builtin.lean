import Transcripts.Shell.Expand
import Transcripts.Shell.Search

/-!
# Builtin commands

What the commands that a shell runs by itself have in common: options, numbers, names, and texts that a
shell can read back.
-/
namespace Transcripts.Shell.Builtin

/-- Options that were given, with their values. -/
abbrev Given := List (Char × Option Str)

/-- Takes the letters of one word as options; a value that is missing in it is taken from the words
behind. -/
def letters (known valued : List Char) : Str → List Str → Act (Given × List Str)
  | [], rest => return ([], rest)
  | c :: cs, rest =>
    if valued.contains c then
      match cs, rest with
      | [], [] => Act.abort ("No arg for -".toList ++ c :: " option".toList)
      | [], v :: rest => return ([(c, some v)], rest)
      | cs, rest => return ([(c, some cs)], rest)
    else if known.contains c then do
      let (more, rest) ← letters known valued cs rest
      return ((c, none) :: more, rest)
    else Act.abort ("Illegal option -".toList ++ [c])

/-- The options and operands of a command. -/
def options (known valued : List Char) : Nat → List Str → Act (Given × List Str)
  | 0, args => return ([], args)
  | fuel + 1, args =>
    match args with
    | ['-', '-'] :: rest => return ([], rest)
    | ('-' :: c :: cs) :: rest => do
      let (here, rest) ← letters known valued (c :: cs) rest
      let (more, rest) ← options known valued fuel rest
      return (here ++ more, rest)
    | args => return ([], args)

/-- The operands of a command that has no options. -/
def operands (args : List Str) : Act (List Str) := do
  return (← options [] [] (args.length + 1) args).2

/-- The number that a word writes. -/
def number (s : Str) : Act Nat :=
  match Whole.whole? .decimal s with
  | some n => if 0 ≤ n ∧ n ≤ 0x7FFFFFFF then return n.toNat else fail
  | none => fail
where
  fail : Act Nat := Act.abort ("Illegal number: ".toList ++ s)

/-- The text in quotes, as a shell reads it back; quotes in it get quotes of another kind. -/
def quotedFrom : Nat → Str → Str
  | 0, _ => []
  | fuel + 1, s =>
    let plain := s.takeWhile (· != '\'')
    let rest := s.drop plain.length
    let marks := rest.takeWhile (· == '\'')
    let rest := rest.drop marks.length
    '\'' :: plain ++ ['\''] ++ (if marks.isEmpty then [] else '"' :: marks ++ ['"'])
      ++ (if rest.isEmpty then [] else quotedFrom fuel rest)

def quoted (s : Str) : Str := quotedFrom (s.length + 1) s

/-- A name and the value that may follow it. -/
def binding (s : Str) : Str × Option Str :=
  match Text.splitFirst '=' s with
  | some (name, value) => (name, some value)
  | none => (s, none)

/-- Refuses what is no name of a variable. -/
def checkName (name : Str) : Act Unit :=
  if isName name then return () else Act.abort (name ++ ": bad variable name".toList)

/-- Gives a variable a value. -/
def assign (name value : Str) : Act Unit := do
  checkName name
  Expand.assign name value

end Transcripts.Shell.Builtin
