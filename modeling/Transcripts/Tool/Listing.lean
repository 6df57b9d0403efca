import Transcripts.Mode
import Transcripts.Tool.Order

/-!
# Listings

The names in directories, in rows, columns or lines with what is known of each file.
-/
namespace Transcripts.Tool.Listing

/-- How names are laid out. -/
inductive Format where
  | single | columns | rows | commas | long
deriving Repr, DecidableEq

/-- How names are written. -/
inductive Quoting where
  /-- As they are. -/
  | literal
  /-- As a shell would read them, between quotes only where it has to be. -/
  | shell
  | shellAlways
  /-- Between double quotes, with escapes. -/
  | double
  /-- With escapes. -/
  | escapes
deriving Repr, DecidableEq

/-- What names are put in order by. -/
inductive Sorting where
  | name | time | size | extension | version | width | nothing
deriving Repr, DecidableEq

structure Style where
  format : Format
  quoting : Quoting
  sorting : Sorting := .name
  reverse : Bool := false
  /-- Names that start with a dot are shown, and those of the directory itself and of the one above. -/
  hidden : Bool := false
  dots : Bool := false
  /-- Marks behind names: for directories only, or also for other kinds and programs. -/
  slashes : Bool := false
  marks : Bool := false
  programs : Bool := false
  width : Nat := 80
  dirsFirst : Bool := false
  /-- Directories themselves are shown, and not what they hold. -/
  asFiles : Bool := false
  recursive : Bool := false
  follows : Bool := false
  /-- Bytes that cannot be shown are replaced. -/
  hidesOdd : Bool := false
  inode : Bool := false
  blocks : Bool := false
  owner : Bool := true
  group : Bool := true
  ending : Char := '\n'
  ignored : List Str := []

/-- A file of a listing. -/
structure Entry where
  name : Str
  node : Nat
  content : Files.Content
  mode : Nat
  time : Nat
  links : Nat := 1

namespace Entry

def isDir (e : Entry) : Bool :=
  match e.content with
  | .directory .. => true
  | _ => false

def size (e : Entry) : Nat :=
  match e.content with
  | .file bs => bs.length
  | .directory .. => 4096
  | .link target => target.length
  | .program _ => 65536
  | _ => 0

/-- The space that a file takes, in units of 1024 bytes. -/
def blocks (e : Entry) : Nat :=
  match e.content with
  | .link _ => 0
  | _ => (e.size + 4095) / 4096 * 4

/-- The letter of a kind of file. -/
def letter (e : Entry) : Char :=
  match e.content with
  | .directory .. => 'd'
  | .link _ => 'l'
  | .fifo => 'p'
  | .device _ => 'c'
  | _ => '-'

/-- The mark behind a name. -/
def mark (s : Style) (e : Entry) : Str :=
  match e.content with
  | .directory .. => if s.slashes || s.marks then ['/'] else []
  | .link _ => if s.marks then ['@'] else []
  | .fifo => if s.marks then ['|'] else []
  | .device _ => []
  | _ => if s.marks && s.programs && e.mode &&& 0o111 != 0 then ['*'] else []

end Entry

/-! ## Names -/

/-- A name between double quotes, or without them, with escapes. -/
def escaped (also : Str) (s : Str) : Str :=
  s.flatMap fun c => if also.contains c then ['\\', c] else if isOdd c then escape c else [c]

def nameText (s : Style) (name : Str) : Str :=
  match s.quoting with
  | .literal => if s.hidesOdd then name.map fun c => if isOdd c then '?' else c else name
  | .shell =>
    let t := nameOf name
    if t != name || !s.marks && !s.slashes then t
    else if name.any fun c => (if s.marks then "*=>@|" else "").toList.contains c then quoted name else t
  | .shellAlways => quoted name
  | .double => '"' :: escaped ['"', '\\'] name ++ ['"']
  | .escapes => escaped ['\\', ' '] name

/-- A name with the mark behind it; a blank stands in front of it where others have quotes. -/
def cell (s : Style) (someQuoted : Bool) (e : Entry) : Str :=
  let t := nameText s e.name
  let aligned := s.quoting = .shell && (s.format = .columns || s.format = .rows || s.format = .long)
    && 0 < s.width
  let pad := aligned && someQuoted && t = e.name
  (if s.inode && s.format != .long then Str.decimal (e.node + 1) ++ [' '] else [])
    ++ (if s.blocks && s.format != .long then Str.decimal e.blocks ++ [' '] else [])
    ++ (if pad then [' '] else []) ++ t ++ e.mark s

/-! ## Order -/

/-- What follows the last dot of a name. -/
def extension (s : Str) : Str := if s.contains '.' then '.' :: (s.reverse.takeWhile (· != '.')).reverse else []

def compareBy (s : Style) (a b : Entry) : Ordering :=
  let byName := Order.byBytes a.name b.name
  match s.sorting with
  | .name => byName
  | .time => (compare b.time a.time).then byName
  | .size => (compare b.size a.size).then byName
  | .extension => (Order.byBytes (extension a.name) (extension b.name)).then byName
  | .version => (Order.byVersion a.name b.name).then byName
  | .width => (compare (nameText s a.name).length (nameText s b.name).length).then byName
  | .nothing => .eq

def sorted (s : Style) (es : List Entry) : List Entry :=
  es.mergeSort fun a b =>
    let o := compareBy s a b
    let o := if s.reverse then o.swap else o
    let dirs := if s.dirsFirst then compare (!a.isDir).toNat (!b.isDir).toNat else .eq
    dirs.then o != .gt

/-! ## Layout -/

/-- Blanks from one column to another, with tabs where they reach further. -/
def indent : Nat → Nat → Nat → Str
  | 0, _, _ => []
  | fuel + 1, from_, to_ =>
    if to_ ≤ from_ then []
    else if (from_ + 1) / 8 < to_ / 8 then '\t' :: indent fuel (from_ + (8 - from_ % 8)) to_
    else ' ' :: indent fuel (from_ + 1) to_

/-- The widths of columns for cells that are laid out in so many of them; `down` tells whether they go
down the columns. -/
def columnWidths (down : Bool) (widths : List Nat) (cols : Nat) : List Nat :=
  let n := widths.length
  let rows := (n + cols - 1) / cols
  let placed := widths.zipIdx.map fun (w, i) =>
    let col := if down then i / rows else i % cols
    (col, w + if col + 1 = cols then 0 else 2)
  (List.range cols).map fun c => placed.foldl (fun m (col, w) => if col = c then max m w else m) 3

/-- The most columns that fit, with their widths. -/
def fitColumns (down : Bool) (width : Nat) (widths : List Nat) : Nat → Nat × List Nat
  | 0 => (1, columnWidths down widths 1)
  | cols + 1 =>
    let ws := columnWidths down widths (cols + 1)
    if cols = 0 || ws.foldl (· + ·) 0 < width then (cols + 1, ws) else fitColumns down width widths cols

/-- Cells in columns, from the left to the right in rows, or downwards. -/
def grid (down : Bool) (width : Nat) (cells : List Str) : Str :=
  let widths := cells.map List.length
  let n := cells.length
  let (cols, ws) := fitColumns down width widths (max 1 (min n (width / 3)))
  let rows := (n + cols - 1) / cols
  let lines := (List.range rows).map fun r =>
    let row := (List.range cols).filterMap fun c =>
      (cells[if down then c * rows + r else r * cols + c]?).map fun cell => (c, cell)
    let (text, _) := row.zipIdx.foldl (fun (acc : Str × Nat) ((c, cell), i) =>
      let (text, pos) := acc
      let wide := (ws[c]?).getD 0
      let space := if i + 1 = row.length then [] else indent (wide + 1) (pos + cell.length) (pos + wide)
      (text ++ cell ++ space, pos + wide)) ([], 0)
    text ++ ['\n']
  lines.flatten

/-- Cells in lines with commas between them. -/
def commas (width : Nat) (cells : List Str) : Str :=
  let (text, _) := cells.zipIdx.foldl (fun (acc : Str × Nat) (cell, i) =>
    let (text, pos) := acc
    let len := if width = 0 then 0 else cell.length
    if i = 0 then (cell, len)
    else if width = 0 || pos + len + 2 < width then (text ++ [',', ' '] ++ cell, pos + 2 + len)
    else (text ++ [',', '\n'] ++ cell, len)) ([], 0)
  text ++ ['\n']

/-- The number of directories in a directory, and of the names that it has itself. -/
def linksOf (fs : Files) (id : Nat) : Nat :=
  match fs.entries? id with
  | some es => 2 + es.countP fun (_, k) => fs.isDir k
  | none => 1

/-- The date of files, which is not known. -/
def date : Str := "Jan  1 00:00".toList

/-- Lines with all that is known of each file. -/
def longLines (s : Style) (someQuoted : Bool) (es : List Entry) : Str :=
  let wide (f : Entry → Nat) : Nat := es.foldl (fun n e => max n (Str.decimal (f e)).length) 0
  es.flatMap fun e =>
    (if s.inode then Str.padStart (wide (·.node + 1)) ' ' (Str.decimal (e.node + 1)) ++ [' '] else [])
      ++ (if s.blocks then Str.padStart (wide (·.blocks)) ' ' (Str.decimal e.blocks) ++ [' '] else [])
      ++ [e.letter] ++ Mode.shown e.mode ++ [' ']
      ++ Str.padStart (wide (·.links)) ' ' (Str.decimal e.links)
      ++ (if s.owner then " root".toList else []) ++ (if s.group then " root".toList else [])
      ++ [' '] ++ Str.padStart (wide (·.size)) ' ' (Str.decimal e.size) ++ [' '] ++ date ++ [' ']
      ++ cell s someQuoted e
      ++ (match e.content with
        | .link target => " -> ".toList ++ nameText s target
        | _ => []) ++ [s.ending]

/-- Files laid out. -/
def layout (s : Style) (es : List Entry) : Str :=
  let someQuoted := es.any fun e => nameText s e.name != e.name
  let cells := es.map (cell s someQuoted)
  if es.isEmpty then []
  else
    match s.format with
    | .single => cells.flatMap (· ++ [s.ending])
    | .columns => if s.width = 0 then Text.join [' ', ' '] cells ++ ['\n'] else grid true s.width cells
    | .rows => if s.width = 0 then Text.join [' ', ' '] cells ++ ['\n'] else grid false s.width cells
    | .commas => commas s.width cells
    | .long => longLines s someQuoted es

/-! ## Directories -/

def entryOf (fs : Files) (name : Str) (id : Nat) : Entry :=
  let n := (fs.node? id).getD { content := .file [], mode := 0 }
  { name, node := id, content := n.content, mode := n.mode, time := n.time, links := linksOf fs id }

/-- What a directory holds, as far as it is shown. -/
def entriesOf (s : Style) (fs : Files) (dir : Nat) : List Entry :=
  let own : List (Str × Nat) := if s.dots then [(['.'], dir), (['.', '.'], fs.parentOf dir)] else []
  let all := own ++ ((fs.entries? dir).getD []).filter fun (name, _) =>
    (s.hidden || name.head? != some '.') && !s.ignored.contains name
  sorted s (all.map fun (name, id) => entryOf fs name id)

/-- What stands above the files of a directory. -/
def totalLine (s : Style) (es : List Entry) : Str :=
  if s.format = .long || s.blocks then
    "total ".toList ++ Str.decimal (es.foldl (fun n e => n + e.blocks) 0) ++ ['\n']
  else []

/-- The title of a directory. -/
def titleOf (s : Style) (path : Str) : Str :=
  (match s.quoting with
    | .shell => labelled path
    | _ => nameText s path) ++ [':', '\n']

/-- A directory, and those below it if they are shown too; `first` tells whether nothing stands above. -/
def showDir (s : Style) (fs : Files) (titles : Bool) : Nat → Bool → Str → Nat → Str
  | 0, _, _, _ => []
  | depth + 1, first, path, dir =>
    let es := entriesOf s fs dir
    let own := (if first then [] else ['\n']) ++ (if titles then titleOf s path else [])
      ++ totalLine s es ++ layout s es
    let below := if !s.recursive then [] else
      (es.filter fun e => e.isDir && e.name != ['.'] && e.name != ['.', '.']).flatMap fun e =>
        showDir s fs titles depth false
          ((if path.getLast? = some '/' then path else path ++ ['/']) ++ e.name) e.node
    own ++ below

/-! ## The tool -/

def forms : List OptionForm :=
  switches ["a:all", "A:almost-all", "b:escape", "B:ignore-backups", "c", "C", "d:directory", "f", "F", "g",
    "G:no-group", "h:human-readable", "H:dereference-command-line", "i:inode", "k:kibibytes", "l",
    "L:dereference", "m", "n:numeric-uid-gid", "N:literal", "o", "p", "q:hide-control-chars",
    "Q:quote-name", "r:reverse", "R:recursive", "s:size", "S", "t", "u", "U", "v", "x", "X", "Z:context",
    "1", "zero", "group-directories-first", "file-type", "full-time", "show-control-chars", "author",
    "si", "dereference-command-line-symlink-to-dir"]
    ++ values ["I:ignore", "T:tabsize", "w:width", "hide", "sort", "time", "time-style", "format",
      "quoting-style", "block-size", "indicator-style"]
    ++ [.long "color" .maybe, .long "classify" .maybe, .long "hyperlink" .maybe]

/-- The last of some options, with what it means. -/
def lastOf {α : Type} (w : Words) (table : List (String × α)) : Option α :=
  (w.last? (table.map (·.1))).bind fun id => table.lookup id

/-- The words that an option has, with what each of them means. -/
def wordOf {α : Type} (w : Words) (id : String) (table : List (String × α)) : Tool (Option α) := do
  match w.value? id with
  | none => return none
  | some s =>
    match table.lookup (Str.toString s) with
    | some a => return some a
    | none => do
      warn ("invalid argument ".toList ++ marked s ++ Str.ofString (" for '--" ++ id ++ "'"))
      say (hint (← desk).name)
      quit 2

def styleOf (w : Words) (bare : Format) : Tool Style := do
  let v ← view
  let env := (← desk).env
  let toTerminal := v.isTerminal 1
  let named ← wordOf w "format" [("verbose", Format.long), ("long", .long), ("commas", .commas),
    ("horizontal", .rows), ("across", .rows), ("vertical", .columns), ("single-column", .single)]
  let sorting ← wordOf w "sort" [("none", Sorting.nothing), ("time", .time), ("size", .size),
    ("extension", .extension), ("version", .version), ("width", .width), ("name", .name)]
  let quoting ← wordOf w "quoting-style" [("literal", Quoting.literal), ("shell", .shell),
    ("shell-always", .shellAlways), ("shell-escape", .shell), ("shell-escape-always", .shellAlways),
    ("c", .double), ("escape", .escapes), ("locale", .double), ("clocale", .double)]
  let marks ← wordOf w "indicator-style" [("none", (false, false)), ("slash", (true, false)),
    ("file-type", (true, true)), ("classify", (true, true))]
  let format := match lastOf w [("1", Format.single), ("C", .columns), ("x", .rows), ("m", .commas),
      ("l", .long), ("g", .long), ("n", .long), ("o", .long), ("full-time", .long)] with
    | some .single => if ["l", "g", "n", "o", "full-time"].any w.has then .long else .single
    | some f => f
    | none => named.getD (if w.has "zero" then .single else bare)
  let width ← match w.value? "w" with
    | none =>
      let given := (env.lookup "COLUMNS".toList).bind Str.nat?
      pure (match given with
        | some n => if n = 0 then 80 else n
        | none => if toTerminal && v.terminal.columns != 0 then v.terminal.columns else 80)
    | some s =>
      match Str.nat? s with
      | some n => pure n
      | none => die 2 ("invalid line width: ".toList ++ marked s)
  let unsorted := w.has "f"
  return {
    format, width
    quoting := (lastOf w [("N", Quoting.literal), ("Q", .double), ("b", .escapes)] <|> quoting).getD
      (if toTerminal && !w.has "zero" then .shell else .literal)
    sorting := (lastOf w [("t", Sorting.time), ("S", .size), ("U", .nothing), ("X", .extension),
      ("v", .version), ("f", .nothing)] <|> sorting).getD .name
    reverse := w.has "r", hidden := w.has "a" || w.has "A" || unsorted
    dots := (w.last? ["a", "A"] = some "a") || unsorted
    slashes := w.has "p" || (marks.map (·.1)).getD false
    marks := w.has "F" || w.has "classify" || w.has "file-type" || (marks.map (·.2)).getD false
    programs := w.has "F" || w.has "classify" || w.value? "indicator-style" = some "classify".toList
    dirsFirst := w.has "group-directories-first", asFiles := w.has "d", recursive := w.has "R"
    follows := w.has "L" || w.has "H"
    hidesOdd := w.has "q" || (toTerminal && !w.has "show-control-chars"), inode := w.has "i", blocks := w.has "s"
    owner := !w.has "g", group := !(w.has "G" || w.has "o")
    ending := if w.has "zero" then '\x00' else '\n', ignored := w.valuesOf "I" ++ w.valuesOf "hide" }

/-- Shows what the paths of a call lead to. -/
def list (bare : Bool → Format) (args : List Str) : Tool Unit := do
  let w ← words forms true 2 args
  let s ← styleOf w (bare ((← view).isTerminal 1))
  let v ← view
  let fs := v.files
  let paths := if w.operands.isEmpty then [['.']] else w.operands
  let found ← paths.filterMapM fun path => do
    let followed := s.follows || !(s.format = .long || s.asFiles || s.marks)
    let r : Except SystemFault Nat := match fs.find v.here path true with
      | .ok id =>
        if followed || (fs.isDir id && !s.asFiles && s.format != .long) then .ok id
        else fs.find v.here path false
      | .error _ => fs.find v.here path false
    match r with
    | .ok id => return some (entryOf fs path id)
    | .error f => do
      warn (faultOf "cannot access " path f)
      note 2
      return none
  let found := sorted s found
  let files := if s.asFiles then found else found.filter (!·.isDir)
  let dirs := if s.asFiles then [] else found.filter (·.isDir)
  put (layout s files)
  let titles := 1 < paths.length || s.recursive
  dirs.zipIdx.forM fun (e, i) =>
    put (showDir s fs titles 200 (i = 0 && files.isEmpty) e.name e.node)

def ls (args : List Str) : Tool Unit := list (fun tty => if tty then .columns else .single) args

def dir (args : List Str) : Tool Unit := list (fun _ => .columns) args

/-! ## What is known of a file -/

/-- The words for a kind of file. -/
def kindOf (e : Entry) : String :=
  match e.content with
  | .directory .. => "directory"
  | .link _ => "symbolic link"
  | .fifo => "fifo"
  | .device _ => "character special file"
  | .file [] => "regular empty file"
  | _ => "regular file"

/-- The bits of a kind of file. -/
def kindBits (e : Entry) : Nat :=
  match e.content with
  | .directory .. => 0o040000
  | .link _ => 0o120000
  | .fifo => 0o010000
  | .device _ => 0o020000
  | _ => 0o100000

/-- What a letter of a format stands for. -/
def detail (e : Entry) (c : Char) : Str :=
  match c with
  | 'n' => e.name
  | 'N' => match e.content with
    | .link target => quoted e.name ++ " -> ".toList ++ quoted target
    | _ => nameOf e.name
  | 's' => Str.decimal e.size
  | 'a' => Nat.toDigits 8 e.mode
  | 'A' => e.letter :: Mode.shown e.mode
  | 'F' => (kindOf e).toList
  | 'f' => Nat.toDigits 16 (kindBits e + e.mode)
  | 'h' => Str.decimal e.links
  | 'u' => ['0']
  | 'g' => ['0']
  | 'U' => "root".toList
  | 'G' => "root".toList
  | 'b' => Str.decimal (e.blocks * 2)
  | 'B' => "512".toList
  | 'o' => "4096".toList
  | 'i' => Str.decimal (e.node + 1)
  | '%' => ['%']
  | _ => ['?']

/-- A format with what it stands for; escapes count if they are asked for. -/
def formatted (escapes : Bool) (e : Entry) : Nat → Str → Str
  | 0, _ => []
  | _, [] => []
  | fuel + 1, '%' :: rest =>
    let width := rest.takeWhile fun c => c.isDigit || c = '-'
    match rest.drop width.length with
    | c :: rest =>
      let text := detail e c
      let n := Str.ofDigits 10 (width.filter Char.isDigit)
      (if width.head? = some '-' then Str.padEnd n ' ' text else Str.padStart n ' ' text)
        ++ formatted escapes e fuel rest
    | [] => ['%']
  | fuel + 1, '\\' :: c :: rest =>
    if !escapes then '\\' :: formatted escapes e fuel (c :: rest)
    else (match c with
      | 'n' => '\n'
      | 't' => '\t'
      | c => c) :: formatted escapes e fuel rest
  | fuel + 1, c :: rest => c :: formatted escapes e fuel rest

def stat (args : List Str) : Tool Unit := do
  let w ← words (switches ["L:dereference", "f:file-system", "t:terse"] ++ values ["c:format", "printf"]) true 1 args
  if w.operands.isEmpty then misuse 1 "missing operand"
  let v ← view
  w.operands.forM fun path =>
    match v.files.find v.here path (w.has "L") with
    | .error f => fail (faultOf "cannot statx " path f)
    | .ok id =>
      let e := entryOf v.files path id
      match w.value? "printf", w.value? "c" with
      | some s, _ => put (formatted true e (s.length + 1) s)
      | none, some s => put (formatted false e (s.length + 1) s ++ ['\n'])
      | none, none =>
        put (formatted true e 100 "  File: %N\\n  Size: %s\\tBlocks: %b\\tIO Block: %o   %F\\n".toList)

end Transcripts.Tool.Listing
