import Transcripts.Profile

/-!
# Profiles from settings

Reading a profile from a table of settings.  Settings are taken in the order in which they stand, over a
profile that holds what the table leaves out; the first setting that cannot be taken decides what is
wrong.
-/
namespace Transcripts

/-- Why settings are no profile. -/
inductive SettingsFault where
  /-- A timeout that is none. -/
  | timeout (fault : TimeoutFault)
  /-- A setting that is unknown, or whose value is of another kind. -/
  | shape
deriving Repr, DecidableEq

namespace SettingsFault

/-- What is said about a fault: only timeouts are accounted for. -/
def message? : SettingsFault → Option String
  | .timeout f => f.message?
  | .shape => none

end SettingsFault

/-- Settings that can be taken, or what is wrong with them. -/
abbrev Settled (α : Type) := Except SettingsFault α

/-- Asks for a value of the right kind. -/
def orShape {α : Type} : Option α → Settled α
  | some a => .ok a
  | none => .error .shape

/-- Takes the items of a list as values of the given settings, in order.  A list may hold fewer, and more
only in a form that lets it go on. -/
def assignItems {α : Type} (assign : α → String → Datum → Settled α) (names : List String) (start : α)
    (form : Form) (items : List Datum) : Settled α := do
  let a ← (names.zip items).foldlM (fun a (name, d) => assign a name d) start
  if form = .strict ∧ names.length < items.length then throw .shape
  return a

namespace PromptVars

/-- Sets one variable. -/
def assign (v : PromptVars) (name : String) (d : Datum) : Settled PromptVars := do
  match name with
  | "PS1" => return { v with ps1 := ← orShape d.optional? }
  | "PS2" => return { v with ps2 := ← orShape d.optional? }
  | "PS3" => return { v with ps3 := ← orShape d.optional? }
  | "PS4" => return { v with ps4 := ← orShape d.optional? }
  | _ => throw .shape

/-- The variables of a table, or of a list that gives the first few in order. -/
def ofDatum : Datum → Settled PromptVars
  | .table _ entries => entries.foldlM (fun v (name, d) => v.assign name d) {}
  | .list form items => assignItems assign ["PS1", "PS2", "PS3", "PS4"] {} form items
  | _ => .error .shape

end PromptVars

namespace LineSplit

def ofName? : String → Option LineSplit
  | "default" => some .physical
  | "indented_continuation" => some .indented
  | _ => none

def name : LineSplit → String
  | .physical => "default"
  | .indented => "indented_continuation"

/-- A rule by its name, or by a table with that name, under which nothing is said. -/
def ofDatum : Datum → Settled LineSplit
  | .string s => orShape (ofName? s)
  | d =>
    match d.onlyEntry? with
    | some (s, content) => if content.isNothing then orShape (ofName? s) else .error .shape
    | none => .error .shape

theorem ofName?_name (l : LineSplit) : ofName? l.name = some l := by
  cases l <;> rfl

end LineSplit

namespace Profile

/-- The timeout of a setting. -/
def timeoutOf (d : Datum) : Settled Timeout := (Timeout.ofDatum d).mapError .timeout

/-- Takes one setting. -/
def assign (p : Profile) (name : String) (d : Datum) : Settled Profile := do
  match name with
  | "name" => return { p with name := ← orShape d.str? }
  | "aliases" => return { p with aliases := ← orShape d.strings? }
  | "command" => return { p with command := ← orShape d.str? }
  | "prompts" => return { p with prompts := ← orShape d.strings? }
  | "prompt" => return { p with prompt := ← orShape d.optional? }
  | "prompt_regex" => return { p with promptRegex := ← orShape d.optional? }
  | "initial_prompt" => return { p with initialPrompt := ← orShape d.optional? }
  | "initial_prompt_timeout" => return { p with initialPromptTimeout := ← timeoutOf d }
  | "line_timeout" => return { p with lineTimeout := ← timeoutOf d }
  | "line_ending" => return { p with lineEnding := ← orShape d.str? }
  | "trim_prompt" => return { p with trimPrompt := ← orShape d.str? }
  | "strip_pattern" => return { p with stripPattern := ← orShape d.optional? }
  | "prompt_env" => return { p with promptEnv := ← PromptVars.ofDatum d }
  | "ignore_errors" => return { p with ignoreErrors := ← orShape d.bool? }
  | "check_return_code" => return { p with checkReturnCode := ← orShape d.bool? }
  | "allow_match_without_newline" =>
    return { p with allowMatchWithoutNewline := ← orShape d.bool? }
  | "save_vars_command" => return { p with saveVarsCommand := ← orShape d.optional? }
  | "line_split" => return { p with lineSplit := ← LineSplit.ofDatum d }
  | "output_lexer" => return { p with outputLexer := ← orShape d.optional? }
  | "input_extensions" => return { p with inputExtensions := ← orShape d.strings? }
  | "output_extension" => return { p with outputExtension := ← orShape d.optional? }
  | _ => throw .shape

/-- Takes settings in order, over a profile for what they leave out. -/
def assignAll (p : Profile) (settings : List (String × Datum)) : Settled Profile :=
  settings.foldlM (fun p (name, d) => p.assign name d) p

/-- The names of the settings, in order; a list may give their values without them. -/
def settingNames : List String :=
  ["name", "aliases", "command", "prompts", "prompt", "prompt_regex", "initial_prompt",
    "initial_prompt_timeout", "line_timeout", "line_ending", "trim_prompt", "strip_pattern",
    "prompt_env", "ignore_errors", "check_return_code", "allow_match_without_newline",
    "save_vars_command", "line_split", "output_lexer", "input_extensions", "output_extension"]

/-- The profile of a table of settings, or of a list of their values (the derived `ReplProfile.deserialize`). -/
def ofDatum : Datum → Settled Profile
  | .table _ settings => assignAll {} settings
  | .list form items => assignItems assign settingNames {} form items
  | _ => .error .shape

end Profile

end Transcripts
