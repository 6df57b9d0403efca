import Transcripts.Pattern.Regex
import Transcripts.Text.Lines
import Transcripts.Unicode.Word

/-!
# Logging

Which messages are logged: a preset, then overrides for single targets.  A filter in the environment
takes the place of both.
-/
namespace Transcripts.Logging

/-! ## Levels -/

/-- A level of messages, the most serious first. -/
inductive Level where
  | error | warn | info | debug | trace
deriving Repr, DecidableEq

namespace Level

def all : List Level := [error, warn, info, debug, trace]

def name : Level → String
  | error => "ERROR"
  | warn => "WARN"
  | info => "INFO"
  | debug => "DEBUG"
  | trace => "TRACE"

/-- How many levels a filter at this level lets pass. -/
def rank : Level → Nat
  | error => 1
  | warn => 2
  | info => 3
  | debug => 4
  | trace => 5

/-- Small letters for the capital letters A to Z. -/
def lower (cs : List Char) : List Char := cs.map Char.toLower

/-- The level of a name, in small or capital letters. -/
def ofName? (cs : List Char) : Option Level := all.find? fun l => lower l.name.toList == lower cs

/-- A number in decimal digits, after a plus or nothing. -/
def number? (cs : List Char) : Option Nat :=
  let digits := match cs with
    | '+' :: rest => rest
    | _ => cs
  if digits.isEmpty || !digits.all Char.isDigit then none
  else some (digits.foldl (fun n c => n * 10 + (c.toNat - '0'.toNat)) 0)

/-- The level of a name or of a rank. -/
def parse? (cs : List Char) : Option Level :=
  match number? cs with
  | some n => all.find? (·.rank == n)
  | none => ofName? cs

end Level

/-! ## Settings of a run -/

/-- How messages are written (`LogFormat`). -/
inductive Format where
  | text | json
deriving Repr, DecidableEq

/-- The format of a name, in small or capital letters (`LogFormat.from_str`). -/
def Format.parse (s : String) : Except String Format :=
  if Level.lower s.toList = "text".toList then .ok .text
  else if Level.lower s.toList = "json".toList then .ok .json
  else .error ("Invalid log format: '" ++ s ++ "'. Use 'text' or 'json'.")

/-- How much is logged, from few messages to all (`LogPreset`). -/
inductive Preset where
  | quiet | production | verbose | debug | trace
deriving Repr, DecidableEq

/-- The preset that flags ask for; of several the one that is named first here wins (`LogPreset.from_flags`). -/
def Preset.ofFlags (quiet trace debug verbose : Bool) : Preset :=
  if quiet then .quiet
  else if trace then .trace
  else if debug then .debug
  else if verbose then .verbose
  else .production

def Preset.name : Preset → String
  | .quiet => "Quiet"
  | .production => "Production"
  | .verbose => "Verbose"
  | .debug => "Debug"
  | .trace => "Trace"

/-- The directives of a preset (`LogPreset.directives`). -/
def Preset.directives : Preset → List String
  | .production => ["replscribe=warn", "replscribe::startup=info", "replscribe::process=info"]
  | .verbose => ["replscribe=info", "replscribe::matcher=warn"]
  | .debug => ["replscribe=debug", "replscribe::matcher=info"]
  | .trace => ["replscribe=trace"]
  | .quiet => ["replscribe=warn"]

/-- Where messages come from, and the level up to which they are logged. -/
structure Override where
  target : String
  level : Level
deriving Repr, DecidableEq

/-- Why an override cannot be taken; `part` is its text. -/
inductive OverrideFault where
  | noLevel (part : String)
  | emptyTarget (part : String)
  | unknownLevel (level part : String)
deriving Repr, DecidableEq

def OverrideFault.message : OverrideFault → String
  | .noLevel part => "Invalid --log entry '" ++ part ++ "': expected TARGET=LEVEL"
  | .emptyTarget part => "Invalid --log entry '" ++ part ++ "': empty target"
  | .unknownLevel level part =>
    "Invalid log level '" ++ level ++ "' in --log entry '" ++ part ++ "'"

/-- The target under which all others stand. -/
def rootTarget : List Char := "replscribe".toList

/-- Puts a target under the root, unless it is there. -/
def qualify (target : List Char) : List Char :=
  if target = rootTarget ∨ (rootTarget ++ [':', ':']).isPrefixOf target then target
  else rootTarget ++ ':' :: ':' :: target

/-- Reads one override (`parse_override`). -/
def Override.parse (part : List Char) : Except OverrideFault Override :=
  match Text.splitFirst '=' part with
  | none => .error (.noLevel (String.ofList part))
  | some (target, level) =>
    let target := Text.trim target
    let level := Text.trim level
    if target.isEmpty then .error (.emptyTarget (String.ofList part))
    else
      match Level.parse? level with
      | none => .error (.unknownLevel (String.ofList level) (String.ofList part))
      | some l => .ok ⟨String.ofList (qualify target), l⟩

/-- The parts between commas that are not blank. -/
def overrideParts (arg : String) : List (List Char) :=
  (Text.splitOnChar ',' arg.toList).filter fun part => !(Text.trim part).isEmpty

/-- The overrides of some arguments, in order; the first that cannot be taken is reported (the loop of
`LogConfig.from_cli`). -/
def parseOverrides (args : List String) : Except OverrideFault (List Override) :=
  (args.flatMap overrideParts).mapM Override.parse

/-- What the flags and arguments for logging come to (`LogConfig`). -/
structure Settings where
  preset : Preset
  overrides : List Override
  format : Format
deriving Repr, DecidableEq

/-! ## Filters -/

/-- What a filter lets pass at most, as a rank: none of the levels is 0. -/
abbrev Verbosity := Nat

/-- All levels. -/
def everything : Verbosity := Level.rank .trace

/-- The rank that a word of a directive means; an empty word lets errors pass. -/
def rank? (cs : List Char) : Option Verbosity :=
  match Level.number? cs with
  | some n => if n ≤ everything then some n else none
  | none =>
    if cs.isEmpty then some (Level.rank .error)
    else if Level.lower cs = "off".toList then some 0
    else (Level.ofName? cs).map Level.rank

/-- Why a text is no directive. -/
inductive DirectiveFault where
  | invalid
  /-- A part of the text would begin or end inside a character. -/
  | torn
deriving Repr, DecidableEq

/-- Cuts a text after a number of bytes. -/
def cutBytes (n : Nat) : List Char → Except DirectiveFault (List Char × List Char)
  | [] => if n = 0 then .ok ([], []) else .error .torn
  | c :: cs =>
    if n = 0 then .ok ([], c :: cs)
    else if n < c.utf8Size then .error .torn
    else (cutBytes (n - c.utf8Size) cs).map fun (before, after) => (c :: before, after)

/-- The part of a text between two places, which are numbers of bytes. -/
def part (text : List Char) (start stop : Nat) : Except DirectiveFault (List Char) := do
  let (_, rest) ← cutBytes start text
  let (middle, _) ← cutBytes (stop - start) rest
  return middle

/-- Whether a text is a number with a plus in front, in decimal digits or by name. -/
def isPlusNumber : List Char → Bool
  | '+' :: cs =>
    if ["inf", "infinity", "nan"].any (·.toList == Level.lower cs) then true
    else
      let (whole, cs) := cs.span Char.isDigit
      let (fraction, cs) := match cs with
        | '.' :: cs => cs.span Char.isDigit
        | cs => ([], cs)
      let exponent := match Level.lower cs with
        | [] => true
        | 'e' :: cs =>
          let digits := match cs with
            | '+' :: cs => cs
            | '-' :: cs => cs
            | cs => cs
          !digits.isEmpty && digits.all Char.isDigit
        | _ => false
      exponent && !(whole ++ fraction).isEmpty
  | _ => false

/-- Whether a field of a span asks for a value, which is a number or a pattern. -/
def fieldAsks (field : List Char) : Except DirectiveFault Bool :=
  match Text.splitOnChar '=' field with
  | _ :: value :: _ =>
    if isPlusNumber value || Pattern.isAutomatic (String.ofList value) then .ok true
    else .error .invalid
  | _ => if field.isEmpty then .error .invalid else .ok false

/-- Where the reading of a directive stands.  Numbers are the places where the current part starts. -/
inductive ReadState where
  | start
  /-- In a level or the name of a target. -/
  | word (start : Nat)
  /-- In the name of a span. -/
  | span (start : Nat)
  /-- In a field of a span. -/
  | field (start : Nat)
  /-- After the fields of a span. -/
  | fields
  /-- After a span. -/
  | target
  | level (start : Nat)
deriving Repr, DecidableEq

/-- A directive while it is read: where the reading stands, and whether it asks for a value. -/
structure Draft where
  state : ReadState := .start
  asks : Bool := false
deriving Repr, DecidableEq

/-- Whether a directive may start with a character. -/
def startsDirective (c : Char) : Bool :=
  c == '-' || c == ':' || c == '_' || Unicode.isLetterOrNumber c

/-- Reads the character at place `i`.  The parts that end there are taken from `text`. -/
def Draft.step (text : List Char) (i : Nat) (c : Char) (d : Draft) : Except DirectiveFault Draft :=
  match d.state with
  | .start =>
    if c = '[' then .ok { d with state := .span (i + 1) }
    else if startsDirective c then .ok { d with state := .word i }
    else .error .invalid
  | .word s =>
    if c = '=' then (part text s i).map fun _ => { d with state := .level (i + 1) }
    else if c = '[' then (part text s i).map fun _ => { d with state := .span (i + 1) }
    else .ok d
  | .span s =>
    if c = ']' then (part text s i).map fun _ => { d with state := .target }
    else if c = '\x7b' then (part text s i).map fun _ => { d with state := .field (i + 1) }
    else .ok d
  | .field s =>
    if c = '\x7d' then do return ⟨.fields, ← fieldAsks (← part text s i)⟩
    else .ok d
  | .fields => if c = ']' then .ok { d with state := .target } else .error .invalid
  | .target => if c = '=' then .ok { d with state := .level (i + 1) } else .error .invalid
  | .level _ => .ok d

/-- Reads characters from place `i` on. -/
def Draft.run (text : List Char) : Nat → List Char → Draft → Except DirectiveFault Draft
  | _, [], d => .ok d
  | i, c :: cs, d => do run text (i + c.utf8Size) cs (← d.step text i c)

/-- What a directive lets pass.  A directive without a level lets everything pass, and so does one that
asks for the value of a field, which is not known beforehand. -/
def Draft.rank (text : List Char) (d : Draft) : Except DirectiveFault Verbosity :=
  let found : Except DirectiveFault Verbosity :=
    match d.state with
    | .word s => (cutBytes s text).map fun (_, word) => (rank? word).getD everything
    | .level s => do
      let (_, word) ← cutBytes s text
      match rank? word with
      | some n => return if word.isEmpty then everything else n
      | none => throw .invalid
    | .target => .ok everything
    | _ => .error .invalid
  found.map fun n => if d.asks then everything else n

/-- What a directive lets pass.  Blanks around it are passed over when it is read, but the places found
so are looked up in the text as it is given. -/
def directiveRank (text : List Char) : Except DirectiveFault Verbosity := do
  let d ← Draft.run text 0 (Text.trim text) {}
  d.rank text

/-- What a list of directives lets pass at most. -/
def filterRank (filter : String) : Except DirectiveFault Verbosity := do
  let parts := (Text.splitOnChar ',' filter.toList).filter fun part => !part.isEmpty
  return (← parts.mapM directiveRank).foldl max 0

/-- The name of the most that a filter lets pass. -/
def rankName (n : Verbosity) : String :=
  match Level.all.find? (·.rank == n) with
  | some l => String.ofList (Level.lower l.name.toList)
  | none => "off"

/-- The directives of a run's own filter (`LogConfig.build_filter`). -/
def Settings.filter (s : Settings) : String :=
  String.intercalate ","
    (s.preset.directives ++ s.overrides.map fun o => o.target ++ "=" ++ o.level.name)

/-- What is logged at most.  A filter from the environment counts alone if it is valid; where the run's
own is not, warnings are logged.  A filter that tears a character ends the run. -/
def Settings.maxRank (s : Settings) (environment : Option String) :
    Except DirectiveFault Verbosity :=
  match environment.elim (.error .invalid) filterRank with
  | .error .invalid => .ok ((filterRank s.filter).toOption.getD (Level.rank .warn))
  | r => r

end Transcripts.Logging
