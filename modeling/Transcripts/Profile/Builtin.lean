import Transcripts.Profile
import Transcripts.Profile.Check

/-!
# Builtin profiles

Profiles for common interpreters, in the order in which they are listed and asked.
-/
namespace Transcripts.Profile

/-- Lines that each end in a line feed, after an empty one. -/
def block (lines : List String) : String :=
  "\n" ++ String.join (lines.map (· ++ "\n"))

/-- Writes the variables of a Python session to a file. -/
def pythonSaveVars : String :=
  block
    ["import json",
      "replscribe__vars_file = open(\"\x7bpath\x7d\", \"w\")",
      "replscribe__x = \x7b\x7d",
      "for replscribe__k, replscribe__v in list(locals().items()):",
      "    replscribe__x[replscribe__k] = str(replscribe__v)",
      "",
      "json.dump(replscribe__x, replscribe__vars_file)",
      "replscribe__vars_file.close()"]

/-- Writes the variables of an R session to a file, if it has a package for that. -/
def rSaveVars : String :=
  block
    ["if (\"rjson\" %in% installed.packages()) \x7b",
      "    library(rjson)",
      "    replscribe__json_file <- file(\"\x7bpath\x7d\", \"w\")",
      "    writeLines(toJSON(as.list(environment())), replscribe__json_file)",
      "    close(replscribe__json_file)",
      "\x7d else \x7b",
      "   cat(\"Can't automatically save environment to JSON since rjson package not installed.\")",
      "\x7d"]

def python : Profile :=
  { name := "python"
    command := "python"
    aliases := ["pycon", "pyrepl"]
    checkReturnCode := false
    initialPrompt := some ">>>"
    outputLexer := some "pycon"
    inputExtensions := [".txt", ".py"]
    outputExtension := some ".pycon"
    saveVarsCommand := some pythonSaveVars }

def ipython : Profile :=
  { python with name := "ipython", aliases := [], command := "ipython --classic" }

def irb : Profile :=
  { name := "irb"
    command := "irb --simple-prompt"
    aliases := ["rbrepl"]
    checkReturnCode := false
    initialPrompt := some "^>>"
    prompts := [">>", "?>"]
    trimPrompt := ">>"
    outputLexer := some "irb"
    inputExtensions := [".txt", ".rb"]
    outputExtension := some ".rbcon" }

/-- Some terminals get cursor control ahead of the first prompt, which is taken out. -/
def r : Profile :=
  { name := "r"
    command := "R --quiet --vanilla"
    aliases := ["rint"]
    checkReturnCode := false
    promptRegex := some "(\\x1b[^m]*m)?(>|\\+)\\s*"
    initialPrompt := some "(\\x1b[^>])?>\\s*"
    trimPrompt := ">"
    stripPattern := some "(\\x1b[^h]+h)"
    inputExtensions := [".txt", ".r", ".R"]
    outputExtension := some ".Rout"
    saveVarsCommand := some rSaveVars }

def rhino : Profile :=
  { name := "rhino"
    command := "rhino"
    aliases := ["jsint", "rhinoint"]
    prompts := ["js>", "  >"]
    trimPrompt := "js>"
    initialPromptTimeout := .seconds 60
    inputExtensions := [".js", ".txt"]
    outputExtension := some ".jscon" }

def php : Profile :=
  { name := "php"
    command := "php -a"
    aliases := ["phpint"]
    checkReturnCode := false
    prompts := ["php > "]
    trimPrompt := "php > "
    inputExtensions := [".php", ".txt"]
    outputExtension := some ".txt" }

def bash : Profile :=
  { name := "bash"
    command := "bash --norc -i"
    aliases := ["shint", "bashint"]
    promptRegex := some "\\d*[#$]"
    initialPrompt := some "\\d*[#$]"
    trimPrompt := "\\d*[#$]"
    promptEnv := { ps1 := some "$ " }
    outputLexer := some "console"
    inputExtensions := [".txt", ".sh"]
    outputExtension := some ".sh-session" }

def ksh : Profile :=
  { name := "ksh"
    command := "ksh -i"
    aliases := ["kshint"]
    initialPrompt := some "^\\s*\\d*(#|\\$)\\s+"
    promptRegex := some "\\d*(#|\\$)"
    trimPrompt := "\\d*(\\$|#)"
    promptEnv := { ps1 := some "$ " }
    inputExtensions := [".txt", ".sh"]
    outputExtension := some ".sh-session" }

def clojure : Profile :=
  { name := "clojure"
    command := "clojure -r"
    aliases := ["clj", "cljint"]
    checkReturnCode := false
    initialPromptTimeout := .seconds 15
    prompt := some "user=> "
    trimPrompt := "user=>"
    lineSplit := .indented
    inputExtensions := [".clj", ".txt"]
    outputExtension := some ".txt" }

/-- All builtin profiles, in order (`builtin_profiles`). -/
def builtins : List Profile := [python, ipython, irb, r, rhino, php, bash, ksh, clojure]

/-- The first of some profiles that answers to a name. -/
def named (profiles : List Profile) (name : String) : Except ProfileFault Profile :=
  match profiles.find? (·.answersTo name) with
  | some p => .ok p
  | none => .error (.unknownProfile name)

/-- The builtin profile that answers to a name (`builtin_profile`). -/
def builtin (name : String) : Except ProfileFault Profile := named builtins name

end Transcripts.Profile
