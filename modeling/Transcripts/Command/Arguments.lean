import Transcripts.Logging
import Transcripts.Profile
import Transcripts.Text.Lines

/-!
# Command lines

What the words of a command line ask for.  Words are taken in order, and the first one that cannot be
taken decides; whether anything is missing is asked only then.
-/
namespace Transcripts.Command

/-- What a command line asks for (`Cli`). -/
structure Options where
  input : Option String := none
  profile : Option String := none
  config : Option String := none
  output : Option String := none
  workdir : Option String := none
  promptVars : PromptVars := {}
  saveVars : Option String := none
  raw : Bool := false
  listProfiles : Bool := false
  verbose : Bool := false
  debug : Bool := false
  trace : Bool := false
  quiet : Bool := false
  log : List String := []
  logFormat : Option Logging.Format := none

/-- Why no run is asked for. -/
inductive Exit where
  /-- The words make no sense. -/
  | misuse
  | help
  | version
deriving Repr, DecidableEq

/-- Takes a value, which may be refused. -/
abbrev Setter := String → Options → Option Options

/-- Takes a value that was not given before. -/
def once (get : Options → Option String) (set : String → Options → Options) : Setter := fun v o =>
  if (get o).isSome then none else some (set v o)

/-- Takes a path, which is not empty. -/
def path (s : Setter) : Setter := fun v o => if v = "" then none else s v o

/-- Takes a flag that was not given before. -/
def flag (get : Options → Bool) (set : Options → Options) : Options → Option Options := fun o =>
  if get o then none else some (set o)

/-- The options that have a value, with their letters. -/
def valued : List (String × Option Char × Setter) :=
  [("profile", some 'p', once (·.profile) fun v o => { o with profile := some v }),
    ("config", some 'c', path (once (·.config) fun v o => { o with config := some v })),
    ("output", some 'o', path (once (·.output) fun v o => { o with output := some v })),
    ("workdir", some 'C', path (once (·.workdir) fun v o => { o with workdir := some v })),
    ("ps1", none, once (·.promptVars.ps1) fun v o =>
      { o with promptVars := { o.promptVars with ps1 := some v } }),
    ("ps2", none, once (·.promptVars.ps2) fun v o =>
      { o with promptVars := { o.promptVars with ps2 := some v } }),
    ("ps3", none, once (·.promptVars.ps3) fun v o =>
      { o with promptVars := { o.promptVars with ps3 := some v } }),
    ("ps4", none, once (·.promptVars.ps4) fun v o =>
      { o with promptVars := { o.promptVars with ps4 := some v } }),
    ("save-vars", none, path (once (·.saveVars) fun v o => { o with saveVars := some v })),
    ("log", none, fun v o => some { o with log := o.log ++ [v] }),
    ("log-format", none, fun v o =>
      match o.logFormat, Logging.Format.parse v with
      | none, .ok f => some { o with logFormat := some f }
      | _, _ => none)]

/-- The options that have none. -/
def flags : List (String × Option Char × (Options → Option Options)) :=
  [("raw", none, flag (·.raw) ({ · with raw := true })),
    ("list-profiles", none, flag (·.listProfiles) ({ · with listProfiles := true })),
    ("verbose", some 'v', flag (·.verbose) ({ · with verbose := true })),
    ("debug", some 'd', flag (·.debug) ({ · with debug := true })),
    ("trace", none, flag (·.trace) ({ · with trace := true })),
    ("quiet", some 'q', flag (·.quiet) ({ · with quiet := true }))]

/-- An option: what it does, with a value or without. -/
inductive Action where
  | value (set : Setter)
  | switch (set : Options → Option Options)
  | leave (e : Exit)

/-- The option of a name. -/
def byName (name : String) : Option Action :=
  match valued.lookup name, flags.lookup name with
  | some (_, set), _ => some (.value set)
  | none, some (_, set) => some (.switch set)
  | none, none =>
    if name = "help" then some (.leave .help)
    else if name = "version" then some (.leave .version)
    else none

/-- The option of a letter. -/
def byLetter (c : Char) : Option Action :=
  match valued.find? (·.2.1 == some c), flags.find? (·.2.1 == some c) with
  | some (_, _, set), _ => some (.value set)
  | none, some (_, _, set) => some (.switch set)
  | none, none =>
    if c = 'h' then some (.leave .help) else if c = 'V' then some (.leave .version) else none

abbrev Taken := Except Exit Options

def orMisuse : Option Options → Taken
  | some o => .ok o
  | none => .error .misuse

/-- Takes a word that is no option. -/
def takeInput (v : String) (o : Options) : Taken :=
  if v = "" ∨ o.input.isSome then .error .misuse else .ok { o with input := some v }

/-- What one word leaves open: nothing, or the value of an option. -/
inductive Step where
  | done (o : Options)
  | wants (set : Setter) (o : Options)

/-- Takes letters of options; the first one with a value takes the rest of the word for it. -/
def takeLetters : List Char → Options → Except Exit Step
  | [], o => .ok (.done o)
  | c :: rest, o =>
    match byLetter c with
    | none => .error .misuse
    | some (.leave e) => .error e
    | some (.switch set) => do takeLetters rest (← orMisuse (set o))
    | some (.value set) =>
      match rest with
      | [] => .ok (.wants set o)
      | '=' :: v => (orMisuse (set (String.ofList v) o)).map .done
      | v => (orMisuse (set (String.ofList v) o)).map .done

/-- Takes an option that is given by its name, perhaps with a value behind an equals sign. -/
def takeName (word : List Char) (o : Options) : Except Exit Step :=
  let (name, value?) := match Text.splitFirst '=' word with
    | some (name, v) => (name, some (String.ofList v))
    | none => (word, none)
  match byName (String.ofList name), value? with
  | none, _ => .error .misuse
  | some (.value set), some v => (orMisuse (set v o)).map .done
  | some (.value set), none => .ok (.wants set o)
  | some (.switch set), none => (orMisuse (set o)).map .done
  | some (.leave e), none => .error e
  | some _, some _ => .error .misuse

/-- Whether a word can be the value of an option that stands before it. -/
def isValue (word : String) : Bool := word = "-" || !word.startsWith "-"

/-- Takes the words of a command line. -/
def takeAll : List String → Options → Taken
  | [], o => .ok o
  | word :: rest, o =>
    match word.toList with
    | ['-', '-'] => rest.foldlM (fun o v => takeInput v o) o
    | '-' :: c :: more => do
      match ← if c = '-' then takeName more o else takeLetters (c :: more) o with
      | .done o => takeAll rest o
      | .wants set o =>
        match rest with
        | v :: rest => if isValue v then do takeAll rest (← orMisuse (set v o)) else throw .misuse
        | [] => throw .misuse
    | _ => do takeAll rest (← takeInput word o)

/-- What a command line asks for; an input is needed except for a list of profiles. -/
def Options.parse (words : List String) : Taken := do
  let o ← takeAll words {}
  if o.input.isNone && !o.listProfiles then throw .misuse else return o

end Transcripts.Command
