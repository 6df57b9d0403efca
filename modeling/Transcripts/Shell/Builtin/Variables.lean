import Transcripts.Shell.Builtin

/-!
# Commands for variables and arguments
-/
namespace Transcripts.Shell.Builtin

/-! ## Variables -/

/-- Variables as commands that set them, in the order of their names. -/
def listing (label : String) (vars : List (Str × Variable)) : Str :=
  let sorted := vars.mergeSort fun a b => !(b.1 < a.1)
  sorted.flatMap fun (k, v) =>
    label.toList ++ k ++ (match v.value with
      | some s => '=' :: quoted s
      | none => []) ++ ['\n']

/-- Does something to each variable that is named, after it was given a value. -/
def declare (f : Str → State → State) (words : List Str) : Act Nat := do
  words.forM fun word => do
    let (name, value) := binding word
    checkName name
    match value with
    | some v => Expand.assign name v
    | none => pure ()
    Act.modify (f name)
  return 0

/-- Marks variables, or lists those with the mark. -/
def mark (label : String) (has : Variable → Bool) (f : Str → State → State) (args : List Str) :
    Act Nat := do
  let (given, names) ← options ['p'] [] (args.length + 1) args
  if names.isEmpty || !given.isEmpty then do
    let st ← Act.get
    Act.write (listing (label ++ " ") (st.vars.filter fun v => has v.2))
    return 0
  else declare f names

def export_ : List Str → Act Nat := mark "export" (·.exported) fun name st => st.share name

def readonly_ : List Str → Act Nat := mark "readonly" (·.readonly) fun name st => st.protect name

/-- Remembers what a variable is outside the function that is run. -/
def hide (name : Str) : Act Unit :=
  Act.modify fun st =>
    match st.hidden with
    | top :: rest => { st with hidden := ((name, st.entry? name) :: top) :: rest }
    | [] => st

/-- Variables for the time of a function. -/
def local_ (args : List Str) : Act Nat := do
  let st ← Act.get
  if st.hidden.isEmpty then Act.abort "not in a function".toList
  args.forM fun arg => do
    let (name, value) := binding arg
    if name ≠ ['-'] then do
      checkName name
      hide name
      match value with
      | some v => Expand.assign name v
      | none => pure ()
  return 0

def unset (args : List Str) : Act Nat := do
  let (given, names) ← options ['v', 'f'] [] (args.length + 1) args
  let functions := (given.getLast?.map (·.1)) == some 'f'
  names.forM fun name => do
    if functions then
      Act.modify fun st => { st with functions := st.functions.filter (·.1 != name) }
    else do
      checkName name
      let st ← Act.get
      if (st.entry? name).any (·.readonly) then Act.abort (name ++ ": is read only".toList)
      Act.set (st.unset name)
  return 0

/-! ## Options of the shell -/

/-- The names of options and their letters; those without one are never on. -/
def optionNames : List (String × Option Char) :=
  [("errexit", some 'e'), ("noglob", some 'f'), ("ignoreeof", some 'I'), ("interactive", some 'i'),
    ("monitor", some 'm'), ("noexec", some 'n'), ("stdin", some 's'), ("xtrace", some 'x'),
    ("verbose", some 'v'), ("vi", some 'V'), ("emacs", some 'E'), ("noclobber", some 'C'),
    ("allexport", some 'a'), ("notify", some 'b'), ("nounset", some 'u'), ("privileged", some 'p'),
    ("nolog", none), ("debug", none)]

/-- Lists the options, as a table or as commands that set them. -/
def optionListing (st : State) (table : Bool) : Str :=
  let isOn (c : Option Char) : Bool := c.any st.has
  if table then
    "Current option settings\n".toList ++ optionNames.flatMap fun (name, c) =>
      Str.padEnd 16 ' ' name.toList ++ (if isOn c then "on\n".toList else "off\n".toList)
  else
    optionNames.flatMap fun (name, c) =>
      "set ".toList ++ (if isOn c then ['-'] else ['+']) ++ "o ".toList ++ name.toList ++ ['\n']

/-- Switches an option that is given by its letter. -/
def switchLetter (on : Bool) (c : Char) : Act Unit := do
  if !(optionNames.any (·.2 == some c)) then Act.abort ("Illegal option -".toList ++ [c])
  Act.modify fun st =>
    let st := st.setOption c on
    if on ∧ c = 'V' then st.setOption 'E' false
    else if on ∧ c = 'E' then st.setOption 'V' false
    else st

/-- Switches an option that is given by its name. -/
def switchName (on : Bool) (name : Str) : Act Unit :=
  match optionNames.lookup (String.ofList name) with
  | some (some c) => Act.modify (·.setOption c on)
  | some none => return ()
  | none => Act.abort ("Illegal option -o ".toList ++ name)

/-- Takes the options in one word. -/
def switchAll (on : Bool) : Str → List Str → Act (List Str)
  | [], rest => return rest
  | c :: cs, rest => do
    if c = 'o' then
      match rest with
      | [] => do
        let st ← Act.get
        Act.write (optionListing st on)
        switchAll on cs rest
      | name :: rest => do
        switchName on name
        switchAll on cs rest
    else do
      switchLetter on c
      switchAll on cs rest

/-- Takes the options in front of some words.  The result holds the words behind, and whether they are
the arguments even if there are none. -/
def switchFrom : Nat → List Str → Act (List Str × Bool)
  | 0, args => return (args, false)
  | fuel + 1, args =>
    match args with
    | ['-'] :: rest => do
      Act.modify fun st => (st.setOption 'x' false).setOption 'v' false
      return (rest, false)
    | ['-', '-'] :: rest => return (rest, true)
    | ('-' :: cs) :: rest => do
      let rest ← switchAll true cs rest
      switchFrom fuel rest
    | ('+' :: cs) :: rest => do
      let rest ← switchAll false cs rest
      switchFrom fuel rest
    | args => return (args, false)

/-- Does what follows from the options. -/
def settleOptions : Act Unit := do
  Jobs.provide .interrupt
  Jobs.provide .quit
  Jobs.provide .terminate
  let st ← Act.get
  if st.has 'm' ∧ st.control.isNone ∧ !st.isCopy then Jobs.takeControl
  else if !st.has 'm' ∧ st.control.isSome then Jobs.dropControl

/-- Sets the arguments. -/
def setArgs (args : List Str) : Act Unit :=
  Act.modify fun st => { st with args, optionIndex := 1, optionPlace := 0 }

def set (args : List Str) : Act Nat := do
  if args.isEmpty then do
    let st ← Act.get
    Act.write (listing "" (st.vars.filter (·.2.value.isSome)))
    return 0
  else do
    let (words, ends) ← switchFrom (args.length + 1) args
    settleOptions
    if ends || !words.isEmpty then setArgs words
    return 0

def shift (args : List Str) : Act Nat := do
  let n ← match args with
    | [] => pure 1
    | s :: _ => number s
  let st ← Act.get
  if st.args.length < n then Act.abort "can't shift that many".toList
  setArgs (st.args.drop n)
  return 0

/-! ## Options of scripts -/

/-- What the next option of some words is: its letter and value, the place behind it, and what is said
if it is wrong. -/
structure NextOption where
  letter : Char
  value : Option Str := some []
  index : Nat
  place : Nat := 0
  ended : Bool := false
  complaint : Option Str := none

/-- Takes the next option of some words, from a word and a place in it on. -/
def nextOption (letters : Str) (words : List Str) (index place : Nat) : NextOption :=
  let quiet := letters.head? = some ':'
  let current := if index ≤ 1 ∨ place = 0 then [] else (words.getD (index - 2) []).drop place
  let begun := !current.isEmpty
  let word := words[index - 1]?.getD []
  let starts := word.head? == some '-' && word.length != 1
  if !begun ∧ !starts then
    { letter := '?', value := none, index, ended := true }
  else if !begun ∧ word = ['-', '-'] then
    { letter := '?', value := none, index := index + 1, ended := true }
  else
    let rest := if begun then current else word.drop 1
    let index := if begun then index else index + 1
    let c := rest.headD '?'
    let after := rest.drop 1
    let place := (words.getD (index - 2) []).length - after.length
    let place := if after.isEmpty then 0 else place
    let body := if quiet then letters.drop 1 else letters
    let known := c != ':' && body.contains c
    if !known then
      if quiet then { letter := '?', value := some [c], index, place }
      else
        { letter := '?', value := none, index, place
          complaint := some ("Illegal option -".toList ++ [c]) }
    else if ((body.dropWhile (· != c)).drop 1).head? = some ':' then
      if !after.isEmpty then { letter := c, value := some after, index }
      else
        match words[index - 1]? with
        | some v => { letter := c, value := some v, index := index + 1 }
        | none =>
          if quiet then { letter := ':', value := some [c], index }
          else
            { letter := '?', value := none, index
              complaint := some ("No arg for -".toList ++ c :: " option".toList) }
    else { letter := c, index, place }

def getopts (args : List Str) : Act Nat := do
  let args ← operands args
  match args with
  | letters :: name :: words => do
    let st ← Act.get
    let words := if words.isEmpty then st.args else words
    let (index, place) := if words.length + 1 < st.optionIndex then (1, 0)
      else (st.optionIndex, st.optionPlace)
    let r := nextOption letters words index place
    match r.complaint with
    | some message => do
      let _ ← Act.writeTo 2 (message ++ ['\n'])
      pure ()
    | none => pure ()
    if !r.ended then
      match r.value with
      | some v => Expand.assign "OPTARG".toList v
      | none => Act.modify (·.unset "OPTARG".toList)
    Expand.assign "OPTIND".toList (Str.decimal r.index)
    Act.modify fun st => { st with optionIndex := r.index, optionPlace := r.place }
    assign name [r.letter]
    return if r.ended then 1 else 0
  | _ => Act.abort "Usage: getopts optstring var [arg...]".toList

/-! ## Aliases -/

def aliasLine (name value : Str) : Str := name ++ '=' :: quoted value ++ ['\n']

/-- Says that there is no such alias. -/
def noAlias (command : String) (name : Str) : Act Unit := do
  let _ ← Act.writeTo 2 (Str.ofString (command ++ ": ") ++ name ++ " not found\n".toList)
  return ()

/-- Puts an alias in its place, or behind the others. -/
def putAlias (name value : Str) (aliases : List (Str × Str)) : List (Str × Str) :=
  if aliases.any (·.1 == name) then aliases.map fun a => if a.1 = name then (name, value) else a
  else aliases ++ [(name, value)]

def alias_ (args : List Str) : Act Nat := do
  let st ← Act.get
  if args.isEmpty then do
    Act.write ((State.byPlace st.aliases).flatMap fun (k, v) => aliasLine k v)
    return 0
  else
    args.foldlM (fun status arg => do
      match Text.splitFirst '=' (arg.drop 1) with
      | some (name, value) => do
        Act.modify fun st => { st with aliases := putAlias (arg.take 1 ++ name) value st.aliases }
        return status
      | none => do
        let st ← Act.get
        match st.aliases.lookup arg with
        | some value => do
          Act.write (aliasLine arg value)
          return status
        | none => do
          noAlias "alias" arg
          return 1) 0

def unalias (args : List Str) : Act Nat := do
  let (given, names) ← options ['a'] [] (args.length + 1) args
  if !given.isEmpty then do
    Act.modify ({ · with aliases := [] })
    return 0
  else
    names.foldlM (fun status name => do
      let st ← Act.get
      if (st.aliases.lookup name).isSome then do
        Act.set { st with aliases := st.aliases.filter (·.1 != name) }
        return status
      else do
        noAlias "unalias" name
        return 1) 0

/-! ## Reading lines -/

/-- Reads a line, of which a backslash protects the next character and may continue it; the characters
come last first.  The result tells whether the line was ended. -/
def readGlyphs (raw escaped : Bool) : Nat → List Glyph → Act (List Glyph × Bool)
  | 0, gs => return (gs, false)
  | fuel + 1, gs => do
    match ← Act.ask (Process.read 0 1) with
    | .error .interrupted => do
      Services.takeUp
      Services.checkInterrupt
      let st ← Act.get
      if st.signals.isEmpty then readGlyphs raw escaped fuel gs else return (gs, false)
    | .error _ => return (gs, false)
    | .ok bs =>
      match Str.ofBytes bs with
      | [] => return (gs, false)
      | c :: _ =>
        if c = '\x00' then readGlyphs raw escaped fuel gs
        else if escaped then readGlyphs raw false fuel (if c = '\n' then gs else ⟨c, true⟩ :: gs)
        else if c = '\\' ∧ !raw then readGlyphs raw true fuel gs
        else if c = '\n' then return (gs, true)
        else readGlyphs raw false fuel (⟨c, false⟩ :: gs)

/-- How much of a last field is left: a separator at its end goes, with the blanks around it, unless
others came before. -/
def lastLength (separates : Glyph → Bool) : List Glyph → Nat → Bool → Option Nat → Bool → Nat
  | [], n, _, cut, _ => cut.getD n
  | g :: gs, n, ended, cut, blank =>
    let isBlank := separates g && Fields.isBlank g.char
    if !ended then
      if separates g then lastLength separates gs (n + 1) true (some n) isBlank
      else lastLength separates gs (n + 1) false none false
    else if isBlank then lastLength separates gs (n + 1) true (some (cut.getD n)) blank
    else
      lastLength separates gs (n + 1) true (if separates g && blank then cut else none) false

/-- Deals a line out to variables; the last one gets all that is left. -/
def deal (separators : Str) : List Str → List Glyph → List (Str × Str)
  | [], _ => []
  | name :: rest, gs =>
    let separates (g : Glyph) : Bool := !g.quoted && separators.contains g.char
    let blank (g : Glyph) : Bool := separates g && Fields.isBlank g.char
    let gs := gs.dropWhile blank
    if rest.isEmpty then [(name, (gs.take (lastLength separates gs 0 false none false)).map (·.char))]
    else
      let here := gs.takeWhile (!separates ·)
      let after := (gs.drop here.length).dropWhile blank
      let after := match after with
        | g :: more => if separates g then more else after
        | [] => []
      (name, here.map (·.char)) :: deal separators rest after

def read (args : List Str) : Act Nat := do
  let (given, names) ← options ['r'] ['p'] (args.length + 1) args
  match (given.filter (·.1 == 'p')).getLast?.bind (·.2) with
  | some prompt => do
    let v ← Act.view
    if v.isTerminal 0 then
      let _ ← Act.writeTo 2 prompt
  | none => pure ()
  if names.isEmpty then Act.abort "arg count".toList
  let (gs, ended) ← readGlyphs (given.any (·.1 == 'r')) false Act.rounds []
  let st ← Act.get
  (deal st.separators names gs.reverse).forM fun (name, value) => assign name value
  return if ended then 0 else 1

end Transcripts.Shell.Builtin
