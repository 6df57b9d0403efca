import Transcripts.Tool.Order

/-!
# Sorting

Lines are put in order by keys, which are parts of them that may be compared in several ways, and lines
that follow each other are counted.
-/
namespace Transcripts.Tool.Sort

/-! ## Keys -/

/-- By what two keys are compared. -/
inductive Kind where
  | bytes | number | real | magnitude | month | version
deriving Repr, DecidableEq

/-- How keys are compared. -/
structure Ways where
  kind : Kind := .bytes
  /-- Blanks at the start and at the end of a key do not count. -/
  skipsStart : Bool := false
  skipsEnd : Bool := false
  /-- Only letters, digits and blanks count. -/
  dictionary : Bool := false
  foldsCase : Bool := false
  printable : Bool := false
  reverse : Bool := false
deriving Repr, DecidableEq

namespace Ways

/-- The ways with what a letter asks for. -/
def add (w : Ways) (c : Char) : Option Ways :=
  match c with
  | 'd' => some { w with dictionary := true }
  | 'f' => some { w with foldsCase := true }
  | 'i' => some { w with printable := true }
  | 'r' => some { w with reverse := true }
  | 'n' => some { w with kind := .number }
  | 'g' => some { w with kind := .real }
  | 'h' => some { w with kind := .magnitude }
  | 'M' => some { w with kind := .month }
  | 'V' => some { w with kind := .version }
  | _ => none

/-- The letters of what is asked for. -/
def letters (w : Ways) : Str :=
  (if w.dictionary then ['d'] else []) ++ (if w.foldsCase then ['f'] else [])
    ++ (match w.kind with
      | .real => ['g']
      | .magnitude => ['h']
      | _ => [])
    ++ (if w.printable then ['i'] else [])
    ++ (match w.kind with
      | .month => ['M']
      | .number => ['n']
      | .version => ['V']
      | _ => [])

/-- What of a key is compared as bytes. -/
def strip (w : Ways) (s : Str) : Str :=
  let kept := s.filter fun c =>
    (!w.dictionary || c.isAlphanum || c = ' ' || c = '\t') && (!w.printable || (' ' ≤ c && c < '\x7f'))
  if w.foldsCase then Str.upper kept else kept

def compareKeys (w : Ways) (a b : Str) : Ordering :=
  let o := match w.kind with
    | .bytes => Order.byBytes (w.strip a) (w.strip b)
    | .number => Order.byNumber a b
    | .real => Order.byReal a b
    | .magnitude => Order.byMagnitude a b
    | .month => Order.byMonth a b
    | .version => Order.byVersion (w.strip a) (w.strip b)
  if w.reverse then o.swap else o

end Ways

/-- A key: where it starts and ends, and how it is compared. -/
structure Key where
  /-- Fields and characters that are skipped in front. -/
  startField : Nat := 0
  startChar : Nat := 0
  /-- Fields that are skipped in front of its last one; it goes to the end without. -/
  endField : Option Nat := none
  /-- How many characters of its last field belong to it; all for zero. -/
  endChar : Nat := 0
  ways : Ways := {}
deriving Repr, DecidableEq

def isBlank (c : Char) : Bool := c = ' ' || c = '\t' || c = '\n'

/-- The place behind some fields from a place on; `last` tells whether the separator behind the last of
them is skipped too. -/
def skipFields (sep : Option Char) (last : Bool) : Nat → Str → Str
  | 0, s => s
  | n + 1, s =>
    match sep with
    | some d =>
      let rest := s.dropWhile (· != d)
      skipFields sep last n (if last || 0 < n then rest.drop 1 else rest)
    | none => skipFields sep last n ((s.dropWhile isBlank).dropWhile (!isBlank ·))

/-- The key of a line. -/
def Key.of (k : Key) (sep : Option Char) (line : Str) : Str :=
  let from_ := skipFields sep true k.startField line
  let from_ := (if k.ways.skipsStart then from_.dropWhile isBlank else from_).drop k.startChar
  match k.endField with
  | none => from_
  | some n =>
    let to_ := if k.endChar = 0 then skipFields sep false (n + 1) line
      else
        let f := skipFields sep true n line
        (if k.ways.skipsEnd then f.dropWhile isBlank else f).drop k.endChar
    from_.take (from_.length - to_.length)

/-- How whole lines are compared. -/
structure Comparison where
  keys : List Key
  sep : Option Char
  /-- Lines with equal keys stay in order. -/
  stable : Bool := false
  reverse : Bool := false

def Comparison.byKeys (c : Comparison) (a b : Str) : Ordering :=
  c.keys.foldl (fun o k => o.then (k.ways.compareKeys (k.of c.sep a) (k.of c.sep b))) .eq

def Comparison.compare (c : Comparison) (a b : Str) : Ordering :=
  (c.byKeys a b).then (if c.stable then .eq
    else if c.reverse then (Order.byBytes a b).swap else Order.byBytes a b)

/-! ## Reading keys -/

/-- A count at the start of a text. -/
def count (what : String) (s : Str) : Except Str (Nat × Str) :=
  let ds := s.takeWhile Char.isDigit
  if ds.isEmpty then
    .error (Str.ofString (what ++ ": invalid count at start of ") ++ marked s)
  else .ok (Str.ofDigits 10 ds, s.drop ds.length)

/-- The letters behind a place. -/
def letters (atEnd : Bool) (w : Ways) : Str → Ways × Str
  | [] => (w, [])
  | c :: cs =>
    if c = 'b' then
      letters atEnd (if atEnd then { w with skipsEnd := true } else { w with skipsStart := true }) cs
    else
      match w.add c with
      | some w => letters atEnd w cs
      | none => (w, c :: cs)

/-- What is wrong with a key. -/
def badKey {α : Type} (why : String) (s : Str) : Except Str α :=
  .error (Str.ofString (why ++ ": invalid field specification ") ++ marked s)

def Key.parse (s : Str) : Except Str Key := do
  let (field, rest) ← count "invalid number at field start" s
  if field = 0 then badKey "field number is zero" s
  else
    let (char, rest) ← match rest with
      | '.' :: more => do
        let (n, rest) ← count "invalid number after '.'" more
        if n = 0 then badKey "character offset is zero" s else pure (n - 1, rest)
      | rest => pure (0, rest)
    let (ways, rest) := letters false {} rest
    let key : Key := { startField := field - 1, startChar := char, ways }
    match rest with
    | [] => return key
    | ',' :: more => do
      let (field, rest) ← count "invalid number after ','" more
      if field = 0 then badKey "field number is zero" s
      else
        let (char, rest) ← match rest with
          | '.' :: more => count "invalid number after '.'" more
          | rest => pure (0, rest)
        let (ways, rest) := letters true ways rest
        if rest.isEmpty then return { key with endField := some (field - 1), endChar := char, ways }
        else badKey "stray character in field spec" s
    | _ => badKey "stray character in field spec" s

/-! ## The tool -/

/-- Lines without all but the first of those that are equal to it. -/
def withoutRepeats (c : Comparison) : List Str → List Str
  | [] => []
  | a :: rest =>
    match withoutRepeats c rest with
    | [] => [a]
    | b :: more => if c.byKeys a b = .eq then a :: more else a :: b :: more

/-- Takes the least of the first lines of some files again and again. -/
def merge (c : Comparison) : Nat → List (List Str) → List Str
  | 0, _ => []
  | fuel + 1, files =>
    match files.filter (!·.isEmpty) with
    | [] => []
    | f :: rest =>
      let files := f :: rest
      let (best, _) := rest.zipIdx.foldl (fun (acc : Nat × Str) (g, i) =>
        let head := g.headD []
        if c.compare head acc.2 = .lt then (i + 1, head) else acc) (0, f.headD [])
      let line := ((files[best]?).getD []).headD []
      line :: merge c fuel (files.modify best (·.drop 1))

def forms : List OptionForm :=
  switches ["b:ignore-leading-blanks", "c", "d:dictionary-order", "C", "f:ignore-case",
    "g:general-numeric-sort", "h:human-numeric-sort", "i:ignore-nonprinting", "m:merge", "M:month-sort",
    "n:numeric-sort", "r:reverse", "s:stable", "u:unique", "V:version-sort", "z:zero-terminated",
    "R:random-sort", "debug"]
    ++ values ["k:key", "o:output", "S:buffer-size", "t:field-separator", "T:temporary-directory",
      "parallel", "files0-from", "batch-size", "compress-program", "random-source"]
    ++ [.long "check" .maybe, .long "sort" .value]

/-- The words for the kinds of comparison. -/
def kindWords : List (String × Char) :=
  [("general-numeric", 'g'), ("human-numeric", 'h'), ("month", 'M'), ("numeric", 'n'), ("version", 'V')]

/-- The file that the output goes to. -/
def outputTo (w : Words) (text : Str) : Tool Unit := do
  match w.value? "o" with
  | none => put text
  | some path =>
    match ← ask (Process.openPath path .write) with
    | .error f => die 2 ("open failed: ".toList ++ labelled path ++ Str.ofString (": " ++ f.message))
    | .ok fd => do
      match ← putTo fd text with
      | .ok _ => return ()
      | .error f => die 2 ("write failed: ".toList ++ labelled path ++ Str.ofString (": " ++ f.message))

/-- The pieces of a file. -/
def piecesOf (mark : Char) (path : Str) : Tool (List Str) := do
  let cannotRead {α : Type} (f : SystemFault) : Tool α :=
    die 2 ("cannot read: ".toList ++ labelled path ++ Str.ofString (": " ++ f.message))
  if path = ['-'] then
    match ← readAll 0 with
    | .error f => die 2 ("read failed: ".toList ++ path ++ Str.ofString (": " ++ f.message))
    | .ok s => return (Str.pieces mark s).map (Str.chomp mark)
  else
    match ← openRead path with
    | .error f => cannotRead f
    | .ok fd =>
      match ← readAll fd with
      | .error f => die 2 ("read failed: ".toList ++ labelled path ++ Str.ofString (": " ++ f.message))
      | .ok s => do
        close fd
        return (Str.pieces mark s).map (Str.chomp mark)

/-- Looks for a line that comes before the one in front of it. -/
def check (c : Comparison) (unique : Bool) (lines : List Str) : Option (Nat × Str) :=
  ((lines.zip (lines.drop 1)).zipIdx.find? fun ((a, b), _) =>
    match (if unique then c.byKeys a b else c.compare a b) with
    | .gt => true
    | .eq => unique
    | .lt => false).map fun ((_, b), i) => (i + 2, b)

/-- Whether ways can go together. -/
def compatible (w : Ways) : Bool :=
  let kinds := w.kind != .bytes && w.kind != .version
  !(kinds && (w.dictionary || w.printable))

def sort (args : List Str) : Tool Unit := do
  let w ← words forms true 2 args
  let global ← w.options.foldlM (fun (ways : Ways) (id, v) => do
    if id = "b" then return { ways with skipsStart := true, skipsEnd := true }
    else if id = "sort" then
      match kindWords.lookup (Str.toString (v.getD [])) with
      | some c => return (ways.add c).getD ways
      | none => die 2 ("invalid argument ".toList ++ marked (v.getD []) ++ " for '--sort'".toList)
    else
      match id.toList with
      | [c] =>
        return if ["d", "f", "g", "h", "i", "M", "n", "r", "V"].contains id then (ways.add c).getD ways
          else ways
      | _ => return ways) {}
  let keys ← (w.valuesOf "k").mapM fun s =>
    match Key.parse s with
    | .ok k => return k
    | .error message => die 2 message
  let keys := keys.map fun k => if k.ways = {} then { k with ways := global } else k
  let keys := if keys.isEmpty then [{ ways := global }] else keys
  match keys.find? (!compatible ·.ways) with
  | some k => die 2 ("options '-".toList ++ k.ways.letters ++ "' are incompatible".toList)
  | none => pure ()
  let sep ← match w.value? "t" with
    | none => pure none
    | some [] => die 2 "empty tab".toList
    | some [c] => pure (some c)
    | some ['\\', '0'] => pure (some '\x00')
    | some s => die 2 ("multi-character tab ".toList ++ marked s)
  let unique := w.has "u"
  let c : Comparison := { keys, sep, stable := w.has "s" || unique, reverse := global.reverse }
  let mark := if w.has "z" then '\x00' else '\n'
  let paths := if w.operands.isEmpty then [['-']] else w.operands
  let quiet := w.has "C" || (w.value? "check").any fun v => v = "quiet".toList ∨ v = "silent".toList
  if w.has "c" || w.has "C" || w.has "check" then
    match paths with
    | _ :: extra :: _ =>
      die 2 ("extra operand ".toList ++ quoted extra ++ " not allowed with -".toList
        ++ (if quiet then ['C'] else ['c']))
    | _ => do
      let path := paths.headD []
      let lines ← piecesOf mark path
      match check c unique lines with
      | none => return ()
      | some (n, line) => do
        if !quiet then
          warn (path ++ Str.ofString s!":{n}: disorder: " ++ line)
        quit 1
  else
    let v ← view
    paths.forM fun path =>
      if path = ['-'] then return ()
      else
        match v.files.find v.here path true with
        | .ok _ => return ()
        | .error f => die 2 ("cannot read: ".toList ++ labelled path ++ Str.ofString (": " ++ f.message))
    let files ← paths.mapM (piecesOf mark)
    let lines := files.flatten
    let sorted := if w.has "m" then merge c (lines.length + 1) files
      else lines.mergeSort fun a b => c.compare a b != .gt
    let result := if unique then withoutRepeats c sorted else sorted
    outputTo w (result.flatMap (· ++ [mark]))

/-! ## Lines that follow each other -/

/-- What of a line is compared. -/
structure Part where
  fields : Nat := 0
  chars : Nat := 0
  width : Option Nat := none
  foldsCase : Bool := false

def Part.of (p : Part) (line : Str) : Str :=
  let rec skip (n : Nat) (s : Str) : Str :=
    match n with
    | 0 => s
    | n + 1 => skip n ((s.dropWhile isBlank).dropWhile (!isBlank ·))
  let s := (skip p.fields line).drop p.chars
  let s := match p.width with
    | some n => s.take n
    | none => s
  if p.foldsCase then Str.lower s else s

/-- Lines in groups of those that are equal in what is compared. -/
def groups (p : Part) : List Str → List (List Str)
  | [] => []
  | a :: rest =>
    match groups p rest with
    | (b :: bs) :: more => if p.of a = p.of b then (a :: b :: bs) :: more else [a] :: (b :: bs) :: more
    | more => [a] :: more

/-- Groups with empty lines between them. -/
def separated (style : String) (gs : List (List Str)) : List Str :=
  match style with
  | "prepend" => gs.flatMap fun g => [] :: g
  | "append" => gs.flatMap fun g => g ++ [[]]
  | "both" => (if gs.isEmpty then [] else [[]]) ++ gs.flatMap fun g => g ++ [[]]
  | "separate" => (gs.zipIdx.flatMap fun (g, i) => if i = 0 then g else [] :: g)
  | _ => gs.flatten

def uniq (args : List Str) : Tool Unit := do
  let w ← words (switches ["c:count", "d:repeated", "D", "i:ignore-case", "u:unique", "z:zero-terminated"]
    ++ values ["f:skip-fields", "s:skip-chars", "w:check-chars"]
    ++ [.long "all-repeated" .maybe, .long "group" .maybe]) true 1 args
  let number (id what : String) : Tool (Option Nat) := do
    match w.value? id with
    | none => return none
    | some s =>
      match size? s with
      | some n => return some n
      | none => die 1 (labelled s ++ Str.ofString (": invalid number of " ++ what))
  let fields ← number "f" "fields to skip"
  let chars ← number "s" "bytes to skip"
  let width ← number "w" "bytes to compare"
  let p : Part := { fields := fields.getD 0, chars := chars.getD 0, width, foldsCase := w.has "i" }
  match w.operands with
  | _ :: _ :: extra :: _ => misuse 1 ("extra operand " ++ Str.toString (marked extra))
  | _ => pure ()
  let grouping := w.has "group"
  let all := w.has "D" || w.has "all-repeated"
  if grouping && (w.has "c" || w.has "d" || all || w.has "u") then
    misuse 1 "--group is mutually exclusive with -c/-d/-D/-u"
  if w.has "c" && all then
    misuse 1 "printing all duplicated lines and repeat counts is meaningless"
  let mark := if w.has "z" then '\x00' else '\n'
  let path := w.operands.headD ['-']
  match ← openOr path fun f => do
      failAt path f
      quit 1 with
  | none => return ()
  | some fd =>
    match ← readAll fd with
    | .error f => die 1 ("error reading ".toList ++ quoted path ++ Str.ofString (": " ++ f.message))
    | .ok s => do
      let gs := groups p ((Str.pieces mark s).map (Str.chomp mark))
      let wanted (g : List Str) : Bool :=
        (!(w.has "d" || all) || 1 < g.length) && (!w.has "u" || g.length = 1)
      let shown := gs.filter wanted
      let lines :=
        if grouping then
          separated (Str.toString (((w.value? "group").getD "separate".toList))) gs
        else if all then
          separated (Str.toString ((w.value? "all-repeated").getD "none".toList)) shown
        else if w.has "c" then
          shown.map fun g => Str.padStart 7 ' ' (Str.decimal g.length) ++ ' ' :: g.headD []
        else shown.map (·.headD [])
      let text := lines.flatMap (· ++ [mark])
      match w.operands.drop 1 with
      | [] => put text
      | ['-'] :: _ => put text
      | target :: _ => do
        match ← ask (Process.openPath target .write) with
        | .error f => die 1 (labelled target ++ Str.ofString (": " ++ f.message))
        | .ok fd => do
          let _ ← putTo fd text
          return ()

/-! ## Orders that are given by pairs -/

/-- A thing with those that have to come behind it. -/
structure Item where
  name : Str
  /-- How many have to come before it and have not. -/
  waits : Nat := 0
  /-- Those behind it, the last one named first. -/
  behind : List Str := []

/-- Puts a thing among the others, which are ordered by their names. -/
def addItem (name : Str) (items : List Item) : List Item :=
  match items with
  | [] => [⟨name, 0, []⟩]
  | i :: rest =>
    if name = i.name then i :: rest
    else if name < i.name then ⟨name, 0, []⟩ :: i :: rest
    else i :: addItem name rest

def change (name : Str) (f : Item → Item) (items : List Item) : List Item :=
  items.map fun i => if i.name = name then f i else i

/-- Adds what a pair says. -/
def addPair (items : List Item) (a b : Str) : List Item :=
  let items := addItem b (addItem a items)
  if a = b then items
  else
    change b (fun i => { i with waits := i.waits + 1 })
      (change a (fun i => { i with behind := b :: i.behind }) items)

/-- All pairs of a list of words. -/
def addPairs (items : List Item) : List Str → List Item
  | a :: b :: rest => addPairs (addPair items a b) rest
  | _ => items

/-- Takes things that nothing has to come before, in turn; gives their names and what is left. -/
def release : Nat → List Str → List Item → List Str × List Item
  | 0, _, items => ([], items)
  | _, [], items => ([], items)
  | fuel + 1, name :: queue, items =>
    let behind := ((items.find? (·.name == name)).map (·.behind)).getD []
    let items := items.filter (·.name != name)
    let (items, freed) := behind.foldl (fun (acc : List Item × List Str) b =>
      let items := change b (fun i => { i with waits := i.waits - 1 }) acc.1
      let free := items.any fun i => i.name = b && i.waits = 0
      (items, if free then acc.2 ++ [b] else acc.2)) (items, [])
    let (names, left) := release fuel (queue ++ freed) items
    (name :: names, left)

def tsort (args : List Str) : Tool Unit := do
  let w ← words [] true 1 args
  match w.operands with
  | _ :: extra :: _ => misuse 1 ("extra operand " ++ Str.toString (marked extra))
  | _ => pure ()
  let path := w.operands.headD ['-']
  let s ← contents [path]
  if (← desk).status != 0 then quit 1
  let names := (Text.splitOnChar ' ' (s.map fun c => if Str.isSpace c then ' ' else c)).filter (!·.isEmpty)
  if names.length % 2 = 1 then
    die 1 (labelled path ++ ": input contains an odd number of tokens".toList)
  let items := addPairs [] names
  let (order, left) := release (items.length + 1) ((items.filter (·.waits = 0)).map (·.name)) items
  put (Str.unlines order)
  if !left.isEmpty then
    fail (labelled path ++ ": input contains a loop:".toList)
    left.forM fun i => warn i.name
    put (Str.unlines (left.map (·.name)))

end Transcripts.Tool.Sort
