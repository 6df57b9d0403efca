import Transcripts.Pattern.Regex
import Transcripts.Profile

/-!
# Checking a profile

What has to hold of a profile before its interpreter is started, why a profile cannot be run and how that is said, and
the command that saves variables.
-/
/-! ## Faults -/

namespace Transcripts

/-- The settings that hold patterns. -/
inductive PatternField where
  | promptRegex
  | initialPrompt
  | trimPrompt
  | stripPattern
deriving Repr, DecidableEq

def PatternField.name : PatternField → String
  | .promptRegex => "prompt_regex"
  | .initialPrompt => "initial_prompt"
  | .trimPrompt => "trim_prompt"
  | .stripPattern => "strip_pattern"

/-- Why a profile cannot be run (`ProfileError`). -/
inductive ProfileFault where
  | emptyCommand (profile : String)
  | noPrompts (profile : String)
  | invalidPattern (profile : String) (field : PatternField)
  /-- Variables are to be saved and there is no command for it. -/
  | saveVarsUnavailable (profile : String)
  /-- The command that saves variables has to name the file once. -/
  | saveVarsSlot (profile : String) (found : Nat)
  | reservedSectionKey (key : String)
  | unknownProfile (name : String)
deriving Repr, DecidableEq

/-- What is said about a fault.  For a pattern this is the head only, which an account of its syntax may
follow. -/
def ProfileFault.message : ProfileFault → String
  | .emptyCommand p => "Profile '" ++ p ++ "' has no command"
  | .noPrompts p => "Profile '" ++ p ++ "' defines no prompt to match"
  | .invalidPattern p f => "Profile '" ++ p ++ "': invalid " ++ f.name ++ " pattern: "
  | .saveVarsUnavailable p =>
    "Profile '" ++ p ++ "' cannot record variables: no save_vars_command is set"
  | .saveVarsSlot p n =>
    "Profile '" ++ p ++ "': save_vars_command must contain exactly one \x7bpath\x7d slot, found "
      ++ toString n
  | .reservedSectionKey k =>
    "Section key '" ++ k
      ++ "' is reserved for the variable dump; rename that section or drop --save-vars"
  | .unknownProfile n => "Unknown profile: " ++ n

end Transcripts

/-! ## Checks -/

namespace Transcripts.Profile

/-- What stands for the file in the command that saves variables (`SAVE_VARS_SLOT`). -/
def pathSlot : List Char := '\x7b' :: "path".toList ++ ['\x7d']

/-- Refuses a command that does not name the file exactly once (`check_slot`). -/
def checkSlot (p : Profile) (template : String) : Except ProfileFault Unit :=
  let found := Text.occurrences pathSlot template.toList
  if found = 1 then .ok () else .error (.saveVarsSlot p.name found)

/-- The command that saves variables to `path` (`ReplProfile.save_vars_section`). -/
def saveVarsText (p : Profile) (path : String) : Except ProfileFault String :=
  match p.saveVarsCommand with
  | none => .error (.saveVarsUnavailable p.name)
  | some template => do
    p.checkSlot template
    return String.ofList (Text.replaceAll pathSlot path.toList template.toList)

/-- The patterns of a profile that are set. -/
def patternFields (p : Profile) : List (PatternField × String) :=
  [(PatternField.promptRegex, p.promptRegex), (.initialPrompt, p.initialPrompt),
    (.trimPrompt, some p.trimPrompt), (.stripPattern, p.stripPattern)].filterMap
    fun (field, pattern) => pattern.map (field, ·)

/-- Refuses a setting that is no pattern. -/
def checkPattern (p : Profile) (field : PatternField) (pattern : String) :
    Except ProfileFault Unit :=
  match Pattern.Regex.text pattern with
  | .ok _ => .ok ()
  | .error _ => .error (.invalidPattern p.name field)

/-- Refuses a profile that could not be run (`ReplProfile.validate`): one without a command, without a prompt that is not
empty, with a setting that is no pattern, or whose command for saving variables does not name one file. -/
def validate (p : Profile) : Except ProfileFault Unit := do
  if p.argv.isEmpty then throw (.emptyCommand p.name)
  if p.promptPatterns.all String.isEmpty then throw (.noPrompts p.name)
  p.patternFields.forM fun (field, pattern) => p.checkPattern field pattern
  match p.saveVarsCommand with
  | some template => p.checkSlot template
  | none => return ()

end Transcripts.Profile
