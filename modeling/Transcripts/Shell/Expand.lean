import Transcripts.Shell.Arithmetic
import Transcripts.Shell.Jobs

/-!
# Expanding words

What the parts of a word stand for: texts, the values of parameters, the output of commands and the
values of expressions.
-/
namespace Transcripts.Shell

/-! ## Parameters -/

namespace State

/-- The letters of options in the order in which they are shown. -/
def optionOrder : List Char := ['p', 'u', 'b', 'a', 'C', 'E', 'V', 'v', 'x', 's', 'n', 'm', 'i', 'I', 'f', 'e']

/-- The letters of the options that are switched on. -/
def optionLetters (st : State) : Str := optionOrder.filter st.has

/-- The value of a parameter. -/
def parameter? (st : State) (name : Str) : Option Str :=
  match name with
  | ['?'] => some (Str.decimal st.status)
  | ['$'] => some (Str.decimal st.pid)
  | ['#'] => some (Str.decimal st.args.length)
  | ['!'] => st.background.map Str.decimal
  | ['-'] => some st.optionLetters
  | c :: _ =>
    if c.isDigit then
      match Str.ofDigits 10 name with
      | 0 => some st.name
      | n + 1 => st.args[n]?
    else if name = "LINENO".toList then some (Str.decimal (st.line - (st.functionLine - 1)))
    else st.value? name
  | [] => none

/-- All arguments in one text. -/
def joinedArgs (st : State) : Str := Text.join ((st.separators).take 1) st.args

/-- The variables that expressions can use. -/
def numbers (st : State) : Arithmetic.Store :=
  ("LINENO".toList, Str.decimal (st.line - (st.functionLine - 1))) ::
    st.vars.filterMap fun (k, v) => v.value.map (k, ·)

end State

namespace Expand

/-- Gives a variable a value; one that is only to be read is a fault. -/
def assign (name value : Str) : Act Unit := do
  let st ← Act.get
  if (st.entry? name).any (·.readonly) then Act.abort (name ++ ": is read only".toList)
  else Act.set (st.assign name value)

/-- What an operator makes of a parameter's value, as pieces. -/
def operate (o : Services) (quoted splits : Bool) (name : Str) (value : Option Str) (op : ParamOp)
    (word : Word) : Act (List Piece) := do
  let here (s : Str) : List Piece := Piece.ofText quoted splits s
  let missing (alsoEmpty : Bool) : Bool := match value with
    | none => true
    | some s => alsoEmpty && s.isEmpty
  let present := here (value.getD [])
  let checked (pieces : List Piece) : Act (List Piece) := do
    let st ← Act.get
    if value.isNone && st.has 'u' then Act.abort (name ++ ": parameter not set".toList)
    else return pieces
  match op with
  | .value => checked present
  | .length => checked (here (Str.decimal (value.getD []).length))
  | .default alsoEmpty => if missing alsoEmpty then o.expand (splits && !quoted) word else return present
  | .assign alsoEmpty => do
    if missing alsoEmpty then do
      if !isName name then Act.abort (name ++ ": bad variable name".toList)
      let s := Piece.text (← o.expand false word)
      assign name s
      return here s
    else return present
  | .require alsoEmpty => do
    if missing alsoEmpty then do
      let s := Piece.text (← o.expand false word)
      let s := if s.isEmpty then
          if alsoEmpty then "parameter not set or null".toList else "parameter not set".toList
        else s
      Act.abort (name ++ [':', ' '] ++ s)
    else return present
  | .alternative alsoEmpty =>
    if missing alsoEmpty then return here [] else o.expand (splits && !quoted) word
  | .dropStart longest => do
    let _ ← checked []
    let pattern := Glob.parse (Piece.glyphs (← o.expand false word))
    return here (Glob.dropStart pattern longest (value.getD []))
  | .dropEnd longest => do
    let _ ← checked []
    let pattern := Glob.parse (Piece.glyphs (← o.expand false word))
    return here (Glob.dropEnd pattern longest (value.getD []))
  | .invalid => Act.abort "Bad substitution".toList

/-- What a parameter stands for. -/
def parameter (o : Services) (splits quoted : Bool) (name : Str) (op : ParamOp) (word : Word) :
    Act (List Piece) := do
  let st ← Act.get
  if name = ['@'] ∨ name = ['*'] then
    match op with
    | .value =>
      if quoted && name = ['*'] then return Piece.ofText true false st.joinedArgs
      else return Piece.ofArgs quoted splits st.args
    | .length => return Piece.ofText quoted splits (Str.decimal st.joinedArgs.length)
    | op =>
      let value := if st.args.isEmpty then none else some (Text.join [' '] st.args)
      operate o quoted splits name value op word
  else operate o quoted splits name (st.parameter? name) op word

/-- Reads a descriptor to its end. -/
def readRest (fd : Nat) : Nat → List Str → Act Str
  | 0, read => return read.reverse.flatten
  | fuel + 1, read => do
    match ← Act.ask (Process.read fd 65536) with
    | .ok [] => return read.reverse.flatten
    | .ok bs => readRest fd fuel (Str.ofBytes bs :: read)
    | .error .interrupted => do
      Services.takeUp
      Services.checkInterrupt
      readRest fd fuel read
    | .error _ => return read.reverse.flatten

/-- The output of commands, without the ends of lines at its end. -/
def output (o : Services) (body : List Command) : Act Str := do
  if body.isEmpty then return []
  let (r, w) ← Act.ask Process.pipe
  let job ← Jobs.open_
  let _ ← Jobs.fork job .apart [] (do
    let _ ← Act.ask (Process.close r)
    let _ ← Act.ask (Process.copyTo w 1)
    if w ≠ 1 then
      let _ ← Act.ask (Process.close w)
    Jobs.runToEnd o (o.execAll { last := true } body))
  let _ ← Act.ask (Process.close w)
  let text ← readRest r Act.rounds []
  let _ ← Act.ask (Process.close r)
  let status ← Jobs.await job
  Act.modify ({ · with substituted := status })
  return ((text.filter (· != '\x00')).reverse.dropWhile (· == '\n')).reverse

/-- What is said about an expression without a value. -/
def arithmeticFault (text : Str) : Arithmetic.Fault → Str
  | .expecting what =>
    Str.ofString ("arithmetic expression: expecting " ++ what ++ ": \"") ++ text ++ ['"']
  | .divisionByZero => "arithmetic expression: division by zero: \"".toList ++ text ++ ['"']
  | .notANumber value => "Illegal number: ".toList ++ value

/-- The value of an expression; the variables that it assigns are set. -/
def arithmetic (text : Str) : Act Str := do
  let st ← Act.get
  let (n, changes) := Arithmetic.value text st.numbers
  changes.forM fun (k, v) => assign k v
  match n with
  | .error fault => Act.abort (arithmeticFault text fault)
  | .ok n => return Str.integer n

/-- What a part of a word stands for.  A text of the word's own separates fields only inside a
parameter. -/
def part (o : Services) (splits inner : Bool) : Part → Act (List Piece)
  | .text quoted s => return Piece.ofText quoted (splits && inner) s
  | .param quoted name op word => parameter o splits quoted name op word
  | .command quoted body => do
    let s ← output o body
    return Piece.ofText quoted splits s
  | .arithmetic quoted parts => do
    let text := Piece.text (← o.expand false parts)
    let s ← arithmetic text
    return Piece.ofText quoted splits s

/-- What a word stands for. -/
def word (o : Services) (splits inner : Bool) : Word → Act (List Piece)
  | [] => return []
  | p :: rest => do
    let here ← part o splits inner p
    let more ← word o splits inner rest
    return here ++ more

/-! ## Home directories -/

/-- The home directories of users. -/
def homes : List (String × String) :=
  [("root", "/root"), ("daemon", "/usr/sbin"), ("bin", "/bin"), ("nobody", "/nonexistent")]

/-- The directory that the name behind a tilde stands for. -/
def home? (st : State) (user : Str) : Option Str :=
  if user.isEmpty then st.value? "HOME".toList
  else (homes.lookup (String.ofList user)).map String.toList

/-- A text with the tilde at its start replaced; `open_` says that the text may go on. -/
def tildeAt (st : State) (colons open_ : Bool) (s : Str) : List Part :=
  match s with
  | '~' :: more =>
    let user := more.takeWhile fun c => c != '/' && !(colons && c == ':')
    let rest := more.drop user.length
    if rest.isEmpty && open_ then [.text false s]
    else
      match home? st user with
      | some dir => [.text true dir, .text false rest]
      | none => [.text false s]
  | s => [.text false s]

/-- A word with its leading tilde replaced by the home directory. -/
def atHome (st : State) (w : Word) : Word :=
  match w with
  | .text false ('~' :: more) :: rest =>
    tildeAt st false (!rest.isEmpty) ('~' :: more) ++ rest
  | _ => w

/-- A value with the tildes at its start and behind colons replaced. -/
def homesIn (st : State) (first : Bool) : Word → Word
  | [] => []
  | .text false s :: rest =>
    let pieces := Text.splitOnChar ':' s
    let last := pieces.length - 1
    let shown := (pieces.zipIdx).flatMap fun (piece, i) =>
      let colon : List Part := if i = 0 then [] else [.text false [':']]
      let open_ := i == last && !rest.isEmpty
      colon ++ (if i = 0 ∧ !first then [Part.text false piece] else tildeAt st true open_ piece)
    shown ++ homesIn st (s.getLast? == some ':') rest
  | p :: rest => p :: homesIn st false rest

/-! ## Texts and fields -/

/-- The one text that a word stands for. -/
def text (o : Services) (w : Word) : Act Str := do
  let st ← Act.get
  return Piece.text (← word o false false (atHome st w))

/-- The value that a word gives to a variable. -/
def value (o : Services) (w : Word) : Act Str := do
  let st ← Act.get
  return Piece.text (← word o false false (homesIn st true w))

/-- The pattern that a word stands for. -/
def pattern (o : Services) (w : Word) : Act (List Glob.Item) := do
  let st ← Act.get
  return Glob.parse (Piece.glyphs (← word o false false (atHome st w)))

/-- The fields that a word stands for. -/
def fields (o : Services) (w : Word) : Act (List Str) := do
  match Word.plain? w with
  | some s => if s.any fun c => ['~', '*', '?', '['].contains c then general else return [s]
  | none => general
where
  general : Act (List Str) := do
    let st ← Act.get
    let pieces ← word o true false (atHome st w)
    let st ← Act.get
    let fs := Fields.ofPieces st.separators pieces
    if st.has 'f' || !fs.any Glob.isPattern then return fs.map fun f => f.map (·.char)
    else
      let v ← Act.view
      return fs.flatMap (Fields.paths v.files v.here)

/-- The fields that some words stand for. -/
def allFields (o : Services) : List Word → Act (List Str)
  | [] => return []
  | w :: rest => do
    let here ← fields o w
    let more ← allFields o rest
    return here ++ more

end Expand

end Transcripts.Shell
