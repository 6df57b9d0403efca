import Transcripts.Pattern.Regex
import Transcripts.Profile
import Transcripts.Profile.Check

/-!
# Prompts

What output is searched for.  Of all matches of all prompts the one that starts first is taken, and of
several that start at the same place the one of the earliest prompt.
-/
namespace Transcripts

open Transcripts.Pattern (Regex)
open Transcripts.Text (Bytes)

/-- A text or a pattern that is searched for in output. -/
inductive Prompt where
  | literal (source : String)
  | regex (source : String) (compiled : Regex)

namespace Prompt

/-- The text that the prompt was given by. -/
def source : Prompt → String
  | .literal s => s
  | .regex s _ => s

/-- The start and the end of the first match in some bytes. -/
def find (bs : Bytes) : Prompt → Option (Nat × Nat)
  | .literal s =>
    let key := Text.bytes s
    (Text.findSub key bs).map fun start => (start, start + key.length)
  | .regex _ r => r.find bs

/-- A prompt that is a pattern. -/
def ofPattern (source : String) : Except Pattern.Fault Prompt :=
  (Regex.output source).map (.regex source)

end Prompt

/-- Where a prompt was found (`Found`). -/
structure Found where
  index : Nat
  start : Nat
  stop : Nat
deriving Repr, DecidableEq

/-- The prompts of one wait, in order (`PromptMatcher`). -/
structure PromptMatcher where
  prompts : List Prompt

namespace PromptMatcher

/-- Texts that are searched for as they are, however long. -/
def literal (sources : List String) : PromptMatcher := ⟨sources.map .literal⟩

/-- Texts that are searched for as they are (`PromptMatcher.literal`).  The pattern of a text that is too long would be
too large. -/
def texts (sources : List String) : Except Pattern.Fault PromptMatcher :=
  if sources.all fun s => (Text.bytes s).length ≤ Pattern.longestText then .ok (literal sources)
  else .error .tooLarge

/-- Patterns that are searched for (`PromptMatcher.regex`). -/
def regex (sources : List String) : Except Pattern.Fault PromptMatcher :=
  (sources.mapM Prompt.ofPattern).map PromptMatcher.mk

/-- The texts that the prompts were given by (`PromptMatcher.patterns`). -/
def sources (m : PromptMatcher) : List String := m.prompts.map Prompt.source

/-- The better of what was found so far and a match of a later prompt. -/
def better (best : Option Found) (index : Nat) : Option (Nat × Nat) → Option Found
  | none => best
  | some (start, stop) =>
    match best with
    | none => some ⟨index, start, stop⟩
    | some b => if start < b.start then some ⟨index, start, stop⟩ else best

/-- Searches the prompts from the one numbered `index` on (the loop of `PromptMatcher.find`). -/
def findFrom (bs : Bytes) (best : Option Found) (index : Nat) : List Prompt → Option Found
  | [] => best
  | p :: rest => findFrom bs (better best index (p.find bs)) (index + 1) rest

/-- The match that starts first, and of those the one of the earliest prompt (`PromptMatcher.find`). -/
def find (m : PromptMatcher) (bs : Bytes) : Option Found := findFrom bs none 0 m.prompts

/-- Compiles patterns, or names the setting that holds one which is none. -/
def compile (p : Profile) (field : PatternField) (sources : List String) :
    Except ProfileFault PromptMatcher :=
  (regex sources).mapError fun _ => .invalidPattern p.name field

/-- What ends the wait after a line (`PromptMatcher.for_prompts`).  Prompts that are texts are reported like a pattern
if they are too long. -/
def forLines (p : Profile) : Except ProfileFault PromptMatcher :=
  if p.usesRegex then compile p .promptRegex p.searchTerms
  else (texts p.searchTerms).mapError fun _ => .invalidPattern p.name .promptRegex

/-- What ends the wait before the first line (`PromptMatcher.for_initial_prompt`): the pattern for the first prompt, or
else what ends the waits after lines. -/
def forStart (p : Profile) : Except ProfileFault PromptMatcher :=
  match p.initialPrompt with
  | some pattern => compile p .initialPrompt [pattern]
  | none => forLines p

end PromptMatcher

/-! ## Trimming

A finished transcript loses its last lines as long as they are blank or hold nothing but what a prompt
leaves. -/

/-- Recognizes a line that can be dropped from the end (`PromptTrimmer`). -/
structure Trimmer where
  line : Regex

namespace Trimmer

/-- A line is dropped if it is blank, or if it is a match of `pattern` with blanks around it (the pattern that
`PromptTrimmer.new` compiles). -/
def linePattern (pattern : String) : String := "^\\s*(?:" ++ pattern ++ ")\\s*$|^\\s*$"

/-- The trimmer of a pattern (`PromptTrimmer.new`). -/
def ofPattern (pattern : String) : Except Pattern.Fault Trimmer :=
  (Regex.text (linePattern pattern)).map Trimmer.mk

/-- The lines without those that can be dropped from the end. -/
def keep (t : Trimmer) (lines : List (List Char)) : List (List Char) :=
  (lines.reverse.dropWhile t.line.matchesIn).reverse

/-- Drops what can be dropped from the end and joins the other lines with `lineEnding` (`PromptTrimmer.strip`). -/
def strip (t : Trimmer) (text lineEnding : String) : String :=
  String.ofList (Text.join lineEnding.toList (t.keep (Text.splitLines text.toList)))

end Trimmer

end Transcripts
