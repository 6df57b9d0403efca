import Transcripts.Environment
import Transcripts.Text.Lines
import Transcripts.Timeout

/-!
# Profiles

All that a run has to know about one kind of interpreter: how it is started, which prompts it shows,
how long it may take, and how a section is cut into the lines it is sent.
-/
namespace Transcripts

/-- How the text of a section is cut into lines to send (`LineSplit`). -/
inductive LineSplit where
  /-- Each physical line, and an empty line at the end. -/
  | physical
  /-- An indented line continues the line before it. -/
  | indented
deriving Repr, DecidableEq

/-- The variables that set an interpreter's prompts (`PromptVars`). -/
structure PromptVars where
  ps1 : Option String := none
  ps2 : Option String := none
  ps3 : Option String := none
  ps4 : Option String := none
deriving Repr, DecidableEq

namespace PromptVars

/-- Each variable with its value, in order (`PromptVars.entries`). -/
def entries (v : PromptVars) : List (String × Option String) :=
  [("PS1", v.ps1), ("PS2", v.ps2), ("PS3", v.ps3), ("PS4", v.ps4)]

/-- Whether no variable is set. -/
def isEmpty (v : PromptVars) : Bool := v.entries.all fun e => e.2.isNone

/-- Each variable of the first record where it is set, and of the second elsewhere. -/
def orElse (v w : PromptVars) : PromptVars :=
  ⟨v.ps1 <|> w.ps1, v.ps2 <|> w.ps2, v.ps3 <|> w.ps3, v.ps4 <|> w.ps4⟩

end PromptVars

/-- The description of one kind of interpreter (`ReplProfile`). -/
structure Profile where
  name : String := ""
  /-- Further names that the profile answers to. -/
  aliases : List String := []
  /-- The program and its arguments, between blanks. -/
  command : String := ""
  /-- Literal prompts, in force when neither `prompt` nor `promptRegex` is set. -/
  prompts : List String := [">>>", "..."]
  /-- A single literal prompt. -/
  prompt : Option String := none
  /-- A pattern for prompts, before all others. -/
  promptRegex : Option String := none
  /-- A pattern for the first prompt, which may come after a banner. -/
  initialPrompt : Option String := none
  initialPromptTimeout : Timeout := .seconds 5
  lineTimeout : Timeout := .seconds 10
  lineEnding : String := "\n"
  /-- A pattern for what is left of a prompt at the end of a finished transcript. -/
  trimPrompt : String := ">>>"
  /-- A pattern taken out of each transcript. -/
  stripPattern : Option String := none
  /-- Prompt variables that the interpreter starts with. -/
  promptEnv : PromptVars := {}
  /-- Whether an interpreter may end before the sections do. -/
  ignoreErrors : Bool := false
  /-- Whether the exit code has to be zero. -/
  checkReturnCode : Bool := true
  /-- Whether a prompt may also stand within a line. -/
  allowMatchWithoutNewline : Bool := false
  /-- A command that writes the interpreter's variables to a file. -/
  saveVarsCommand : Option String := none
  lineSplit : LineSplit := .physical
  outputLexer : Option String := none
  inputExtensions : List String := []
  outputExtension : Option String := none
deriving Repr, DecidableEq

/-! ## Cutting a section into lines -/

/-- Whether a line starts with a blank. -/
def isIndented : List Char → Bool
  | [] => false
  | c :: _ => Text.isBlank c

/-- Joins each line with the indented lines after it.  The argument holds the open group, last line
first; the last group is there even if it is empty. -/
def groupLinesFrom (sep : List Char) (group : List (List Char)) :
    List (List Char) → List (List Char)
  | [] => [Text.join sep group.reverse]
  | line :: rest =>
    if isIndented line then groupLinesFrom sep (line :: group) rest
    else if group.isEmpty then groupLinesFrom sep [line] rest
    else Text.join sep group.reverse :: groupLinesFrom sep [line] rest

/-- The groups of some lines, each joined with `sep` (`indented_continuation_lines`). -/
def groupLines (sep : List Char) (lines : List (List Char)) : List (List Char) :=
  groupLinesFrom sep [] lines

namespace Profile

/-- Whether a name is the profile's own or one of its aliases (`ReplProfile.answers_to`). -/
def answersTo (p : Profile) (name : String) : Bool := p.name == name || p.aliases.contains name

/-- The program and its arguments (`ReplProfile.argv`). -/
def argv (p : Profile) : List String := (Text.words p.command.toList).map String.ofList

/-- The prompts in force: the pattern, else the single prompt, else the list (`ReplProfile.prompt_patterns`). -/
def promptPatterns (p : Profile) : List String :=
  match p.promptRegex, p.prompt with
  | some regex, _ => [regex]
  | none, some prompt => [prompt]
  | none, none => p.prompts

/-- Whether the prompts are patterns (`ReplProfile.uses_regex`). -/
def usesRegex (p : Profile) : Bool := p.promptRegex.isSome

/-- What is waited for after each line (`ReplProfile.search_terms`): each prompt behind a line ending, and then, if they
may stand within a line, the bare prompts in the same order. -/
def searchTerms (p : Profile) : List String :=
  p.promptPatterns.map (p.lineEnding ++ ·)
    ++ (if p.allowMatchWithoutNewline then p.promptPatterns else [])

/-- The lines that a section's text is sent as (`ReplProfile.build_lines`). -/
def linesOf (p : Profile) (text : String) : List String :=
  let lines := Text.physicalLines text.toList
  (match p.lineSplit with
    | .physical => lines ++ [[]]
    | .indented => groupLines p.lineEnding.toList lines).map String.ofList

/-- An environment with the prompt variables set (`ReplProfile.env_overlay`): to the value of the run, else to the
profile's; a variable that neither gives keeps its value. -/
def environment (p : Profile) (base : Environment) (overrides : PromptVars) : Environment :=
  (overrides.orElse p.promptEnv).entries.foldl
    (fun env (name, value) => match value with
      | some v => env.set name v
      | none => env)
    base

end Profile

end Transcripts
