import Transcripts.Shell.Syntax

/-!
# Sources of scripts

The text that a script is read from.  Lines are counted as they are passed; the text of an alias stands in
front of the rest while it is read.
-/
namespace Transcripts.Shell

/-- Pieces of a script between words. -/
inductive Token where
  | newline | finish | semicolon | ampersand | both | either | bar | open_ | close | double
  | redirect (fd : Nat) (op : RedirectOp) (stripsTabs : Bool)
  | word (w : Word)
  | keyword (name : String)

/-- How a token is called in messages. -/
def Token.name : Token → String
  | newline => "newline"
  | finish => "end of file"
  | semicolon => "\";\""
  | ampersand => "\"&\""
  | both => "\"&&\""
  | either => "\"||\""
  | bar => "\"|\""
  | open_ => "\"(\""
  | close => "\")\""
  | double => "\";;\""
  | redirect .. => "redirection"
  | word _ => "word"
  | keyword name => "\"" ++ name ++ "\""

/-- Whether a token ends a list of commands. -/
def Token.endsList : Token → Bool
  | finish => true
  | close => true
  | double => true
  | keyword name =>
    ["do", "done", "elif", "else", "esac", "fi", "then", "\x7d"].contains name
  | _ => false

/-- Words with a meaning of their own where a command starts. -/
def keywords : List String :=
  ["!", "\x7b", "\x7d", "case", "do", "done", "elif", "else", "esac", "fi", "for", "if", "in", "then",
    "until", "while"]

/-- The text of an alias that is being read: its name, what is left behind it, and whether the next word
may be an alias too. -/
structure Frame where
  name : Str
  behind : Nat
  goesOn : Bool
deriving Repr, DecidableEq

/-- What is left of a script, and the number of the current line. -/
structure Source where
  rest : Str
  line : Nat := 1
  /-- Whether more text may come. -/
  more : Bool := false
  /-- Lines that were taken from behind the current one. -/
  taken : Nat := 0
  frames : List Frame := []
  /-- The token that is read once more. -/
  pushed : Option Token := none
  aliases : List (Str × Str) := []

/-- Why no command can be read. -/
inductive ReadFault where
  | malformed (line : Nat) (reason : String)
  /-- The text breaks off inside a command. -/
  | unfinished
deriving Repr, DecidableEq

abbrev Parse := StateT Source (Except ReadFault)

namespace Parse

/-- More rounds than any text has. -/
def rounds : Nat := 1000000000

def fail {α : Type} (reason : String) : Parse α := fun s => .error (.malformed s.line reason)

/-- The end of the text, unless more may come. -/
def atEnd {α : Type} (x : Parse α) : Parse α := do
  if (← get).more then throw .unfinished else x

/-- Passes over some characters. -/
def skip (n : Nat) : Parse Unit :=
  modify fun s =>
    let passed := s.rest.take n
    let lines := passed.count '\n'
    { s with
      rest := s.rest.drop n
      line := s.line + lines + (if lines = 0 then 0 else s.taken)
      taken := if lines = 0 then s.taken else 0 }

/-- Passes over continued lines. -/
def joinLines : Nat → Parse Unit
  | 0 => return ()
  | fuel + 1 => do
    match (← get).rest with
    | '\\' :: '\n' :: _ => do
      skip 2
      joinLines fuel
    | _ => return ()

/-- The next character, with continued lines left out. -/
def peek : Parse (Option Char) := do
  joinLines rounds
  match (← get).rest with
  | [] => atEnd (return none)
  | c :: _ => return some c

/-- The next character as it stands. -/
def peekRaw : Parse (Option Char) := do
  match (← get).rest with
  | [] => atEnd (return none)
  | c :: _ => return some c

/-- Passes over a character if it comes next. -/
def accept (c : Char) : Parse Bool := do
  if (← peek) = some c then
    skip 1
    return true
  return false

/-- Takes the longest run of characters of some kind. -/
def run (p : Char → Bool) : Parse Str := do
  let cs := (← get).rest.takeWhile p
  skip cs.length
  return cs

/-- Takes the longest run of characters of some kind, over continued lines. -/
def runJoined (p : Char → Bool) : Nat → Parse Str
  | 0 => return []
  | fuel + 1 => do
    match ← peek with
    | none => return []
    | some c =>
      if p c then do
        let here ← run p
        return here ++ (← runJoined p fuel)
      else return []

end Parse

/-! ## Aliases -/

namespace Source

/-- Ends the aliases whose text is read; the last of them may let the next word be one too. -/
def endFrames (s : Source) : Source × Bool :=
  if s.frames.isEmpty then (s, false)
  else
  let left := s.rest.length
  let past := s.frames.filter fun f => left ≤ f.behind
  ({ s with frames := s.frames.filter fun f => f.behind < left }, past.any (·.goesOn))

/-- Puts the text of an alias in front of the rest. -/
def expandAlias (s : Source) (name value : Str) : Source :=
  { s with
    rest := value ++ s.rest
    frames := ⟨name, s.rest.length, value.getLast? = some ' ' || value.getLast? = some '\t'⟩ :: s.frames }

/-- The text of an alias that is not being read. -/
def alias? (s : Source) (name : Str) : Option Str :=
  if s.frames.any (·.name == name) then none else s.aliases.lookup name

end Source

/-! ## Texts inside the script -/

/-- The lines of a text that a line holding only `stop` ends, what follows it, and how many lines that is,
if there is such a line. -/
def hereLines (stop : Str) (tabs : Bool) : Nat → Str → Str × Option Str × Nat
  | 0, cs => (cs, none, 0)
  | fuel + 1, cs =>
    if cs.isEmpty then ([], none, 0)
    else
      let whole := cs.takeWhile (· != '\n')
      let after := cs.drop whole.length
      let line := if tabs then whole.dropWhile (· == '\t') else whole
      if line = stop then ([], some (after.drop 1), 1)
      else
        let (body, rest, n) := hereLines stop tabs fuel (after.drop 1)
        (line ++ after.take 1 ++ body, rest, n + 1)

/-- Takes the text that starts on the next line out of the script. -/
def takeHere (stop : Str) (tabs : Bool) : Parse Str := do
  let s ← get
  let current := s.rest.takeWhile (· != '\n')
  let after := (s.rest.drop current.length).drop 1
  let (body, rest?, n) := hereLines stop tabs (after.length + 1) after
  if rest?.isNone then
    if s.more then throw .unfinished
  set { s with rest := current ++ '\n' :: rest?.getD [], taken := s.taken + n }
  return body

/-- The text up to the next backquote, without the backslashes that keep it going. -/
def backquoted (inDouble : Bool) : Str → Option (Str × Str)
  | [] => none
  | '\x60' :: rest => some ([], rest)
  | '\\' :: '\n' :: rest => backquoted inDouble rest
  | '\\' :: c :: rest =>
    (backquoted inDouble rest).map fun (body, rest) =>
      (if ['\x60', '\\', '$'].contains c || (inDouble && c == '"') then c :: body else '\\' :: c :: body,
        rest)
  | c :: rest => (backquoted inDouble rest).map fun (body, rest) => (c :: body, rest)

end Transcripts.Shell
