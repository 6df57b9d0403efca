import Transcripts.Tool

/-!
# Filled paragraphs

Paragraphs are broken into lines so that the sum of what speaks against each break is least.
-/
namespace Transcripts.Tool.Fill

/-- A word with the blanks behind it. -/
structure Word where
  text : Str
  space : Nat
  /-- Whether it opens a parenthesis. -/
  opens : Bool
  /-- Whether it ends in punctuation. -/
  punct : Bool
  /-- Whether it ends in what ends a sentence. -/
  period : Bool
  /-- Whether it ends a sentence. -/
  final : Bool

/-- How paragraphs are told apart and filled. -/
structure Style where
  width : Nat
  goal : Nat
  /-- Lines are broken but not joined. -/
  splits : Bool := false
  /-- The first two lines of a paragraph have indents of their own. -/
  crown : Bool := false
  /-- The first line of a paragraph differs from the others. -/
  tagged : Bool := false
  /-- One blank between words, two between sentences. -/
  uniform : Bool := false

/-! ## Costs -/

def square (n : Int) : Int := n * n

def shortCost (n : Int) : Int := square (n * 10)

def raggedCost (n : Int) : Int := shortCost n / 2

def lineCost : Int := square 70

def widowCost (n : Int) : Int := square 200 / (n + 2)

def orphanCost (n : Int) : Int := square 150 / (n + 2)

def sentenceBonus : Int := square 50

def noBreakCost : Int := square 600

def parenBonus : Int := square 40

def punctBonus : Int := square 40

/-- What speaks against a line that starts with a word; the words before it come last first. -/
def baseCost (before : List Word) (w : Word) : Int :=
  let previous := match before with
    | [] => 0
    | p :: rest =>
      if p.period then (if p.final then -sentenceBonus else noBreakCost)
      else if p.punct then -punctBonus
      else
        match rest with
        | q :: _ => if q.final then widowCost p.text.length else 0
        | [] => 0
  let own := if w.opens then -parenBonus else if w.final then orphanCost w.text.length else 0
  lineCost + previous + own

/-- The best way to go on from a word: its cost, the length of its line, and the number of words in
it. -/
structure Way where
  cost : Int
  length : Nat
  words : Nat

/-- Tries lines of more and more words; `later` are the ways from the words behind the line. -/
def tryLines (s : Style) (first : Bool) (last : Nat) (len count : Nat) (space : Nat) :
    List (Word × Way) → Option Way → Option Way
  | [], best => better len count 0 best
  | (w, way) :: rest, best =>
    let short := shortCost ((s.goal : Int) - len)
    let ragged := if way.words = rest.length + 1 then 0 else raggedCost ((len : Int) - way.length)
    let best := better len count (short + ragged + way.cost) best
    let len := len + space + w.text.length
    if len < s.width then tryLines s first last len (count + 1) w.space rest best else best
where
  better (len count : Nat) (cost : Int) (best : Option Way) : Option Way :=
    let cost := if first && 0 < last then cost + raggedCost ((len : Int) - last) else cost
    match best with
    | some b => if cost < b.cost then some ⟨cost, len, count⟩ else best
    | none => some ⟨cost, len, count⟩

/-- The best ways from all words; `before` are the words in front, last first. -/
def ways (s : Style) (firstIndent otherIndent last : Nat) : List Word → List Word → List (Word × Way)
  | _, [] => []
  | before, w :: rest =>
    let later := ways s firstIndent otherIndent last (w :: before) rest
    let first := before.isEmpty
    let indent := if first then firstIndent else otherIndent
    let way := (tryLines s first last (indent + w.text.length) 1 w.space later none).getD ⟨0, 0, 1⟩
    (w, { way with cost := way.cost + baseCost before w }) :: later

/-- Blanks from one column on, with tabs if the text has any. -/
def blanks (tabs : Bool) (column count : Nat) : Str :=
  let stop := column + count
  let tab := stop / 8 * 8
  if tabs && column + 1 < tab then
    List.replicate (tab / 8 - column / 8) '\t' ++ List.replicate (stop - tab) ' '
  else List.replicate count ' '

/-- One line. -/
def lineOf (tabs : Bool) (indent : Nat) (ws : List Word) : Str × Nat :=
  let start := blanks tabs 0 indent
  let (text, column) := ws.zipIdx.foldl (fun (acc : Str × Nat) (w, i) =>
    let (text, column) := acc
    let space := if i + 1 = ws.length then 0 else w.space
    let behind := column + w.text.length
    (text ++ w.text ++ blanks tabs behind space, behind + space)) (start, indent)
  (text ++ ['\n'], column)

/-- The lines of a paragraph, and the length of the last one. -/
def linesOf (tabs : Bool) (otherIndent : Nat) : Nat → Nat → Nat → List (Word × Way) → Str × Nat
  | 0, _, last, _ => ([], last)
  | _, _, last, [] => ([], last)
  | fuel + 1, indent, _, (w, way) :: rest =>
    let all := (w, way) :: rest
    let (line, length) := lineOf tabs indent ((all.take way.words).map (·.1))
    let (more, last) := linesOf tabs otherIndent fuel otherIndent length (all.drop way.words)
    (line ++ more, last)

/-! ## Paragraphs -/

/-- A line of the input: its indent and its words with the blanks behind them. -/
structure Line where
  indent : Nat
  words : List (Str × Nat)

/-- Skips blanks; gives the column behind them. -/
def skipBlanks (column : Nat) : Str → Nat × Str
  | ' ' :: cs => skipBlanks (column + 1) cs
  | '\t' :: cs => skipBlanks ((column / 8 + 1) * 8) cs
  | cs => (column, cs)

/-- The words of a line. -/
def wordsOf : Nat → Nat → Str → List (Str × Nat)
  | 0, _, _ => []
  | _, _, [] => []
  | fuel + 1, column, s =>
    let text := s.takeWhile (!Str.isSpace ·)
    let (next, rest) := skipBlanks (column + text.length) (s.drop text.length)
    if text.isEmpty then wordsOf fuel column (s.drop 1)
    else (text, next - (column + text.length)) :: wordsOf fuel next rest

def readLine (s : Str) : Line :=
  let (indent, rest) := skipBlanks 0 s
  ⟨indent, wordsOf (s.length + 1) indent rest⟩

def isPunct (c : Char) : Bool := '!' ≤ c && c ≤ '~' && !c.isAlphanum

/-- The words of a line as they go into a paragraph. -/
def marked (uniform : Bool) (l : Line) : List Word :=
  let n := l.words.length
  l.words.zipIdx.map fun ((text, space), i) =>
    let core := (text.reverse.dropWhile fun c => [')', ']', '\'', '"'].contains c)
    let core := if core.isEmpty then text.take 1 else core
    let period := (core.head?.map fun c => ['.', '?', '!'].contains c).getD false
    let ends := i + 1 = n
    let final := period && (ends || 1 < space)
    { text
      space := if ends || uniform then (if final then 2 else 1) else space
      opens := (text.head?.map fun c => ['(', '[', '\'', '\x60', '"'].contains c).getD false
      punct := (text.getLast?.map isPunct).getD false
      period, final }

/-- The last word of a paragraph ends a sentence. -/
def closed : List Word → List Word
  | [] => []
  | [w] => [{ w with period := true, final := true }]
  | w :: rest => w :: closed rest

/-- What stays the same from one paragraph to the next. -/
structure Progress where
  otherIndent : Nat := 0

/-- The indent of the lines of a paragraph behind the first one. -/
def otherIndentOf (s : Style) (before : Nat) (first : Nat) (next : Option Line) : Nat :=
  if s.splits then first
  else if s.crown then (next.map (·.indent)).getD first
  else if s.tagged then
    match next with
    | some l => if l.indent != first then l.indent
      else if before = first then (if first = 0 then 3 else 0) else before
    | none => if before = first then (if first = 0 then 3 else 0) else before
  else first

/-- The lines that go on a paragraph, and those behind it. -/
def bodyOf (s : Style) (first other : Nat) (ls : List Line) : List Line × List Line :=
  let goesOn (l : Line) : Bool := !l.words.isEmpty && l.indent = other
  if s.splits then ([], ls)
  else if s.crown || s.tagged then
    match ls with
    | l :: _ =>
      if l.words.isEmpty || (s.tagged && !s.crown && l.indent = first) then ([], ls)
      else (ls.takeWhile goesOn, ls.dropWhile goesOn)
    | [] => ([], [])
  else (ls.takeWhile goesOn, ls.dropWhile goesOn)

/-- Fills all paragraphs. -/
def fill (s : Style) (tabs : Bool) : Nat → Nat → List Line → Str
  | 0, _, _ => []
  | _, _, [] => []
  | fuel + 1, before, l :: rest =>
    if l.words.isEmpty then '\n' :: fill s tabs fuel before rest
    else
      let next := rest.head?.filter (!·.words.isEmpty)
      let other := otherIndentOf s before l.indent next
      let (body, rest) := bodyOf s l.indent other rest
      let ws := closed ((l :: body).flatMap (marked s.uniform))
      let (text, _) := linesOf tabs other (ws.length + 1) l.indent 0 (ways s l.indent other 0 [] ws)
      text ++ fill s tabs fuel other rest

/-! ## The tool -/

def forms : List OptionForm :=
  switches ["c:crown-margin", "s:split-only", "t:tagged-paragraph", "u:uniform-spacing"]
    ++ values ["w:width", "g:goal", "p:prefix"]

/-- The greatest width. -/
def widthLimit : Nat := 2500

def fmt (args : List Str) : Tool Unit := do
  let args := match args with
    | ('-' :: ds) :: rest => if !ds.isEmpty && ds.all Char.isDigit then ("-w".toList ++ ds) :: rest else args
    | _ => args
  let w ← words forms true 1 args
  let number (id : String) (limit : Nat) : Tool (Option Nat) := do
    match w.value? id with
    | none => return none
    | some s =>
      match Str.nat? s with
      | some n =>
        if n ≤ limit then return some n
        else die 1 ("invalid width: ".toList ++ Tool.marked s
          ++ ": Numerical result out of range".toList)
      | none => die 1 ("invalid width: ".toList ++ Tool.marked s)
  let width? ← number "w" widthLimit
  let goal? ← number "g" (width?.getD 75)
  let width := width?.getD (match goal? with
    | some g => g + 10
    | none => 75)
  let style : Style :=
    { width, goal := goal?.getD (width * 187 / 200), splits := w.has "s", crown := w.has "c"
      tagged := w.has "t", uniform := w.has "u" }
  let paths := if w.operands.isEmpty then [['-']] else w.operands
  paths.forM fun path => do
    match ← openOr path fun f =>
        fail ("cannot open ".toList ++ quoted path ++ Str.ofString (" for reading: " ++ f.message)) with
    | none => return ()
    | some fd =>
      match ← readAll fd with
      | .error f => fail (Str.ofString ("read error: " ++ f.message))
      | .ok s => do
        let ls := (Str.lines s).map readLine
        put (fill style (s.contains '\t') (ls.length + 1) 0 ls)
        release path fd

end Transcripts.Tool.Fill
