import Transcripts.Tool.Expression
import Transcripts.Tool

/-!
# Searching

Lines of files in which an expression is found, with what is around them.
-/
namespace Transcripts.Tool.Search

open Expression (Match Subject)

/-! ## What is looked for -/

/-- Some expressions, and how much of a line they have to match. -/
structure Query where
  patterns : List Expression
  foldsCase : Bool := false
  wholeWord : Bool := false
  wholeLine : Bool := false
  inverted : Bool := false

/-- Whether a match is no part of a longer word. -/
def isWordMatch (t : Subject) (start stop : Nat) : Bool :=
  !t.wordBefore start && !t.wordAt stop

/-- The longest match at a place that will do. -/
def Query.matchAt (q : Query) (t : Subject) (start : Nat) : Option (Nat × Nat) :=
  let stops := q.patterns.flatMap fun e => (e.spots t ⟨start, []⟩).map (·.place)
  let fit := stops.filter fun stop =>
    (!q.wholeLine || (start = 0 && stop = t.text.size)) && (!q.wholeWord || isWordMatch t start stop)
  match fit with
  | [] => none
  | s :: rest => some (start, rest.foldl max s)

/-- The first match from a place on. -/
def Query.findFrom (q : Query) (t : Subject) : Nat → Nat → Option (Nat × Nat)
  | 0, _ => none
  | fuel + 1, start =>
    if t.text.size < start then none
    else
      match q.matchAt t start with
      | some m => some m
      | none => q.findFrom t fuel (start + 1)

def Query.find (q : Query) (t : Subject) (start : Nat) : Option (Nat × Nat) :=
  q.findFrom t (t.text.size + 1 - start) start

/-- All matches that hold something, from a place on. -/
def Query.all (q : Query) (t : Subject) : Nat → Nat → List (Nat × Nat)
  | 0, _ => []
  | fuel + 1, start =>
    match q.find t start with
    | none => []
    | some (a, b) => if b = a then q.all t fuel (a + 1) else (a, b) :: q.all t fuel b

/-! ## What is shown -/

/-- How what is found is shown. -/
structure View where
  name : Bool := false
  number : Bool := false
  offset : Bool := false
  count : Bool := false
  /-- Only the names of files with a match, or of those without. -/
  namesWith : Bool := false
  namesWithout : Bool := false
  onlyMatches : Bool := false
  quiet : Bool := false
  limit : Option Nat := none
  before : Nat := 0
  after : Nat := 0
  mark : Char := '\n'
  zeroAfterName : Bool := false
  /-- What stands between groups of lines. -/
  separator : Option Str := some "--".toList
  isText : Bool := false

/-- Whether the lines themselves are shown. -/
def View.showsLines (v : View) : Bool := !(v.count || v.namesWith || v.namesWithout || v.quiet)

/-- How far a file has been gone through. -/
structure Progress where
  number : Nat := 0
  offset : Nat := 0
  found : Nat := 0
  /-- Lines in front that may be shown yet, last first: the number, the offset and the line. -/
  held : List (Nat × Nat × Str) := []
  /-- How many of the next lines are shown. -/
  due : Nat := 0
  /-- The number of the last line that was shown. -/
  shown : Nat := 0
  /-- Whether anything was shown, of this file or another one. -/
  used : Bool := false

/-- What stands in front of a line. -/
def View.label (v : View) (name : Str) (mark : Char) (number offset : Nat) : Str :=
  (if v.name then name ++ (if v.zeroAfterName then ['\x00'] else [mark]) else [])
    ++ (if v.number then Str.decimal number ++ [mark] else [])
    ++ (if v.offset then Str.decimal offset ++ [mark] else [])

/-- Shows a line, or the matches in it. -/
def showFound (q : Query) (v : View) (name : Str) (p : Progress) (line : Str) : Tool Unit :=
  if v.onlyMatches then
    if q.inverted then return ()
    else
      let text := line.toArray
      (q.all { text, foldsCase := q.foldsCase } (text.size + 2) 0).forM fun (a, b) =>
        put (v.label name ':' p.number (p.offset + a) ++ (text.extract a b).toList ++ [v.mark])
  else put (v.label name ':' p.number p.offset ++ line ++ [v.mark])

/-- Shows a line that was found, with those in front of it. -/
def showGroup (q : Query) (v : View) (name : Str) (p : Progress) (line : Str) : Tool Progress := do
  let first := (p.held.getLast?.map (·.1)).getD p.number
  if 0 < v.before + v.after && p.used && p.shown + 1 != first then
    match v.separator with
    | some s => put (s ++ ['\n'])
    | none => pure ()
  if !v.onlyMatches then
    p.held.reverse.forM fun (number, offset, line) =>
      put (v.label name '-' number offset ++ line ++ [v.mark])
  showFound q v name p line
  return { p with held := [], due := v.after, shown := p.number, used := true }

/-- What is done about a line in which nothing was found. -/
def passBy (v : View) (name : Str) (p : Progress) (line : Str) : Tool Progress := do
  if !v.showsLines then return p
  else if 0 < p.due then
    if !v.onlyMatches then put (v.label name '-' p.number p.offset ++ line ++ [v.mark])
    return { p with due := p.due - 1, shown := p.number }
  else return { p with held := ((p.number, p.offset, line) :: p.held).take v.before }

/-- Looks at a line; whether the next one is wanted comes with what is known then. -/
def step (q : Query) (v : View) (name : Str) (binary : Bool) (p : Progress) (piece : Str) :
    Tool (Progress × Bool) := do
  let line := Str.chomp v.mark piece
  let p := { p with number := p.number + 1 }
  let hit := (q.find { text := line.toArray, foldsCase := q.foldsCase } 0).isSome != q.inverted
  let full := v.limit.any (· ≤ p.found)
  let next (p : Progress) : Progress := { p with offset := p.offset + piece.length }
  if full then
    if hit || p.due = 0 then return (p, false)
    else do
      let p ← passBy v name p line
      return (next p, 0 < p.due)
  else if !hit then do
    let p ← passBy v name p line
    return (next p, true)
  else
    let p := { p with found := p.found + 1 }
    if v.quiet || v.namesWith || v.namesWithout then return (p, false)
    else if !v.showsLines then return (next p, v.limit.all (p.found < ·))
    else if (binary || piece.contains '\x00') && !v.isText && v.mark = '\n' then do
      warn (name ++ ": binary file matches".toList)
      return (p, false)
    else do
      let p ← showGroup q v name p line
      return (next p, v.limit.all (p.found < ·) || 0 < v.after)

/-- What a file is called. -/
def nameOf (label : Option Str) (path : Str) : Str :=
  if path = ['-'] then label.getD "(standard input)".toList else path

/-- Whether an input is a file that is not made of lines that can be read. -/
def isBinary (fd : Nat) : Tool Bool := do
  let v ← view
  match v.lead? fd with
  | some (.node id) => return (((v.files.bytes? id).getD []).take 32768).contains 0
  | _ => return false

/-- Searches an open file, and shows what is to be shown of it. -/
def searchFile (q : Query) (v : View) (name : Str) (fd : Nat) (used : Bool) :
    Tool (Except SystemFault Unit × Progress) := do
  if v.limit = some 0 then return (.ok (), { used })
  else
    let binary ← isBinary fd
    let (r, p) ← foldPieces fd v.mark (step q v name binary) { used }
    let ending := if v.zeroAfterName then ['\x00'] else ['\n']
    if r.isOk then
      if v.quiet then pure ()
      else if v.namesWith then (if 0 < p.found then put (name ++ ending) else pure ())
      else if v.namesWithout then (if p.found = 0 then put (name ++ ending) else pure ())
      else if v.count then
        put ((if v.name then name ++ (if v.zeroAfterName then ['\x00'] else [':']) else [])
          ++ Str.decimal p.found ++ ['\n'])
    return (r, p)

/-! ## Directories -/

/-- The files below a directory. -/
def filesBelow (fs : Files) : Nat → Str → Nat → List Str
  | 0, _, _ => []
  | depth + 1, path, dir =>
    ((fs.entries? dir).getD []).flatMap fun (name, id) =>
      let whole := (if path.getLast? = some '/' then path else path ++ ['/']) ++ name
      match fs.content? id with
      | some (.directory ..) => filesBelow fs depth whole id
      | some (.file _) => [whole]
      | _ => []

/-! ## The tool -/

def forms : List OptionForm :=
  switches ["E:extended-regexp", "F:fixed-strings", "G:basic-regexp", "P:perl-regexp", "i:ignore-case", "y",
    "no-ignore-case", "v:invert-match", "w:word-regexp", "x:line-regexp", "c:count",
    "L:files-without-match", "l:files-with-matches", "q:quiet", "s:no-messages", "b:byte-offset",
    "h:no-filename", "H:with-filename", "n:line-number", "o:only-matching", "Z:null", "z:null-data",
    "a:text", "I", "U:binary", "r:recursive", "R:dereference-recursive", "T:initial-tab", "line-buffered",
    "no-group-separator"]
    ++ values ["e:regexp", "f:file", "m:max-count", "A:after-context", "B:before-context", "C:context",
      "label", "group-separator", "d:directories", "D:devices", "include", "exclude", "exclude-dir",
      "binary-files"]
    ++ [⟨"q", none, "silent", .nothing⟩, .long "color" .maybe, .long "colour" .maybe]

/-- Words with counts of lines around a match written as an option. -/
def modern (args : List Str) : List Str :=
  let rec go : List Str → List Str
    | [] => []
    | a :: rest =>
      if a = ['-', '-'] then a :: rest
      else
        match a with
        | '-' :: ds =>
          if !ds.isEmpty && ds.all Char.isDigit then ("-C".toList ++ ds) :: go rest else a :: go rest
        | _ => a :: go rest
  go args

/-- Ends the work of a call that makes no sense. -/
def usage {α : Type} : Tool α := do
  let d ← desk
  say (Str.ofString ("Usage: " ++ d.name ++ " [OPTION]... PATTERNS [FILE]..."))
  say (hint d.name)
  quit 2

/-- Escapes that mean something, or that are harmless. -/
def knownEscapes : Str := ".*[]^$\\+?\x7b\x7d()|<>bBsSwW\x60'123456789\n".toList

/-- The characters that are escaped without need. -/
def stray (bracket escaped : Bool) : Str → Str
  | [] => []
  | c :: rest =>
    if bracket then stray (c != ']') false rest
    else if escaped then (if knownEscapes.contains c then [] else [c]) ++ stray false false rest
    else stray (c = '[') (c = '\\') rest

/-- The expressions that a call is about. -/
def patternsOf (w : Words) (texts : List Str) : Tool (List Expression) :=
  texts.mapM fun s => do
    if w.has "F" then return Expression.literal s
    else do
      (stray false false s).forM fun c => warn ("warning: stray \\ before ".toList ++ [c])
      match Expression.parse ⟨w.has "E" || w.has "P"⟩ s with
      | .ok (e, _) => return e
      | .error .className => do
        warn "character class syntax is [[:space:]], not [:space:]".toList
        quit 2
      | .error f => die 2 (Str.ofString f.message)

/-- The texts that are given as expressions, and the operands that are left. -/
def textsOf (w : Words) : Tool (List Str × List Str) := do
  let lines (s : Str) : List Str := Text.splitOnChar '\n' s
  let fromFiles ← (w.valuesOf "f").mapM fun path => do
    match ← openOr path fun f => do
        failAt path f
        quit 2 with
    | none => return []
    | some fd =>
      match ← readAll fd with
      | .ok s => return Str.lines s
      | .error f => do
        failAt path f
        quit 2
  let given := (w.valuesOf "e").flatMap lines ++ fromFiles.flatten
  if w.has "e" || w.has "f" then return (given, w.operands)
  else
    match w.operands with
    | [] => usage
    | s :: rest => return (lines s, rest)

def grep (args : List Str) : Tool Unit := do
  let w ← match Words.ofArgs (forms ++ everywhere) true (modern args) with
    | .ok w => if w.has "help" || w.has "version" then quit 0 else pure w
    | .error f => do
      warn (Str.ofString f.message)
      usage
  let number (id : String) : Tool (Option Nat) := do
    match w.value? id with
    | none => return none
    | some s =>
      match size? s with
      | some n => return some n
      | none => die 2 (if id = "m" then "invalid max count".toList
          else s ++ ": invalid context length argument".toList)
  let limit ← number "m"
  let around ← number "C"
  let before ← number "B"
  let after ← number "A"
  let (texts, paths) ← textsOf w
  let patterns ← patternsOf w texts
  let recursive := w.has "r" || w.has "R"
  let q : Query :=
    { patterns, foldsCase := (w.has "i" || w.has "y") && w.last? ["i", "y", "no-ignore-case"] != some "no-ignore-case"
      wholeWord := w.has "w", wholeLine := w.has "x", inverted := w.has "v" }
  let fs := (← view).files
  let here := (← view).here
  let expand (path : Str) : List Str :=
    if !recursive then [path]
    else
      match fs.find here path true with
      | .ok id => if fs.isDir id then filesBelow fs 100 path id else [path]
      | .error _ => [path]
  let bare := paths.isEmpty && recursive
  let all := if bare then (filesBelow fs 100 "./".toList here).map (·.drop 2)
    else if paths.isEmpty then [['-']] else paths.flatMap expand
  let v : View :=
    { name := match w.last? ["h", "H"] with
        | some "h" => false
        | some _ => true
        | none => 1 < paths.length || recursive
      number := w.has "n", offset := w.has "b", count := w.has "c", namesWith := w.last? ["l", "L"] = some "l"
      namesWithout := w.last? ["l", "L"] = some "L", onlyMatches := w.has "o", quiet := w.has "q", limit
      before := (before <|> around).getD 0, after := (after <|> around).getD 0
      mark := if w.has "z" then '\x00' else '\n', zeroAfterName := w.has "Z"
      separator := if w.has "no-group-separator" then none
        else some ((w.value? "group-separator").getD "--".toList)
      isText := w.has "a" || w.value? "binary-files" = some "text".toList }
  let complain (path : Str) (f : SystemFault) : Tool Unit := do
    if !w.has "s" then warn (path ++ Str.ofString (": " ++ f.message))
    note 2
  let (found, _) ← all.foldlM (fun (acc : Bool × Bool) path => do
    let (found, used) := acc
    if found && v.quiet then return acc
    else
      match ← openOr path (complain path) with
      | none => return acc
      | some fd => do
        let (r, p) ← searchFile q v (nameOf (w.value? "label") path) fd used
        match r with
        | .ok _ => pure ()
        | .error f => complain path f
        release path fd
        return (found || 0 < p.found, p.used)) (false, false)
  let failed := (← desk).status != 0
  if found && v.quiet then quit 0
  else quit (if failed then 2 else if found then 0 else 1)

end Transcripts.Tool.Search
