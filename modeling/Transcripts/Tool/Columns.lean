import Transcripts.Tool

/-!
# Columns

Tools for parts of lines: some of their fields or bytes, lines side by side, lines of a limited width, and
blanks that stand for tabs.
-/
namespace Transcripts.Tool.Columns

/-! ## Ranges -/

/-- Places from one to another, counted from one; without an end they go on. -/
structure Range where
  first : Nat
  last : Option Nat
deriving Repr, DecidableEq

namespace Range

def has (r : Range) (n : Nat) : Bool := r.first ≤ n && r.last.all (n ≤ ·)

/-- The range that a part of a list writes, or what is wrong with it. -/
def parse (noun numbered : String) (s : Str) : Except Str Range :=
  let lhs := s.takeWhile Char.isDigit
  let zero : Except Str Range := .error (Str.ofString (numbered ++ " are numbered from 1"))
  let invalid (rest : Str) : Except Str Range :=
    .error (Str.ofString ("invalid " ++ (if noun = "field" then "field value" else "byte/character position")
      ++ " ") ++ marked rest)
  let lo := Str.ofDigits 10 lhs
  match s.drop lhs.length with
  | [] => if lo = 0 then zero else .ok ⟨lo, some lo⟩
  | '-' :: rest =>
    if !lhs.isEmpty && lo = 0 then zero
    else
      let rhs := rest.takeWhile Char.isDigit
      let first := if lhs.isEmpty then 1 else lo
      match rest.drop rhs.length with
      | [] =>
        if rhs.isEmpty then
          if lhs.isEmpty then .error "invalid range with no endpoint: -".toList else .ok ⟨first, none⟩
        else
          let hi := Str.ofDigits 10 rhs
          if hi < first then .error "invalid decreasing range".toList else .ok ⟨first, some hi⟩
      | '-' :: _ => .error (Str.ofString (if noun = "field" then "invalid field range"
          else "invalid byte or character range"))
      | more => invalid more
  | more => invalid more

/-- The ranges of a list. -/
def parseList (noun numbered : String) (s : Str) : Except Str (List Range) :=
  (Text.splitOnChar ',' (s.map fun c => if c = ' ' ∨ c = '\t' then ',' else c)).mapM
    (parse noun numbered)

/-- Whether a range comes no later than another one. -/
def le (a b : Range) : Bool := a.first ≤ b.first

/-- Joins ranges that overlap; they come in order. -/
def joined : List Range → List Range
  | a :: rest =>
    match joined rest with
    | b :: more =>
      if a.last.all (b.first ≤ ·) then
        let last := match a.last, b.last with
          | some x, some y => some (max x y)
          | _, _ => none
        ⟨a.first, last⟩ :: more
      else a :: b :: more
    | [] => [a]
  | [] => []

/-- The places that no range has. -/
def others (from_ : Nat) : List Range → List Range
  | [] => [⟨from_, none⟩]
  | r :: rest =>
    let before := if from_ < r.first then [⟨from_, some (r.first - 1)⟩] else []
    match r.last with
    | none => before
    | some n => before ++ others (n + 1) rest

end Range

/-! ## Parts of lines -/

/-- How parts of lines are chosen. -/
structure Choice where
  ranges : List Range
  fields : Bool
  delimiter : Char := '\t'
  /-- What is written between the parts, if it was said. -/
  between : Option Str := none
  /-- Lines without a delimiter are left out. -/
  onlyDelimited : Bool := false

/-- The chosen bytes of a line. -/
def Choice.bytes (c : Choice) (line : Str) : Str :=
  let parts := c.ranges.filterMap fun r =>
    let part := (line.drop (r.first - 1)).take (match r.last with
      | some n => n + 1 - r.first
      | none => line.length)
    if part.isEmpty then none else some part
  Text.join (c.between.getD []) parts

/-- The chosen fields of a line, or the line if it has no delimiter. -/
def Choice.parts (c : Choice) (line : Str) : Option Str :=
  if !line.contains c.delimiter then (if c.onlyDelimited then none else some line)
  else
    let fields := Text.splitOnChar c.delimiter line
    let chosen := (fields.zipIdx 1).filterMap fun (f, n) => if c.ranges.any (·.has n) then some f else none
    some (Text.join (c.between.getD [c.delimiter]) chosen)

/-- Ends the work over a list of parts. -/
def refuse {α : Type} (message : Str) : Tool α := do
  warn message
  say (hint (← desk).name)
  quit 1

def cut (args : List Str) : Tool Unit := do
  let w ← words (values ["b:bytes", "c:characters", "d:delimiter", "f:fields", "output-delimiter"]
    ++ switches ["n", "s:only-delimited", "complement", "z:zero-terminated"]) true 1 args
  let lists := w.options.filter fun o => ["b", "c", "f"].contains o.1
  match lists with
  | [] => refuse "you must specify a list of bytes, characters, or fields".toList
  | _ :: _ :: _ => refuse "only one list may be specified".toList
  | [(kind, list)] => do
    let fields := kind == "f"
    match w.value? "d" with
    | some (_ :: _ :: _) => refuse "the delimiter must be a single character".toList
    | _ => pure ()
    if w.has "d" && !fields then
      refuse "an input delimiter may be specified only when operating on fields".toList
    if w.has "s" && !fields then
      refuse "suppressing non-delimited lines makes sense\n\tonly when operating on fields".toList
    let parsed := if fields then Range.parseList "field" "fields" (list.getD [])
      else Range.parseList "byte" "byte/character positions" (list.getD [])
    match parsed with
    | .error message => refuse message
    | .ok ranges => do
      let ranges := Range.joined (ranges.mergeSort Range.le)
      let choice : Choice :=
        { ranges := if w.has "complement" then Range.others 1 ranges else ranges
          fields, delimiter := ((w.value? "d").getD ['\t']).headD '\x00'
          between := w.value? "output-delimiter", onlyDelimited := w.has "s" }
      let mark := if w.has "z" then '\x00' else '\n'
      eachFile w.operands fun _ fd => eachPiece fd mark fun p => do
        let line := Str.chomp mark p
        match if fields then choice.parts line else some (choice.bytes line) with
        | some s => put (s ++ [mark])
        | none => pure ()
        return true

/-! ## Lines side by side -/

/-- The delimiters that a list writes; none where nothing is to stand. -/
def delimiters : Str → Option (List (Option Char))
  | [] => some []
  | '\\' :: [] => none
  | '\\' :: c :: rest =>
    let d : Option Char := if c = '0' then none
      else some ((([('n', '\n'), ('t', '\t'), ('b', '\x08'), ('f', '\x0c'), ('r', '\r'), ('v', '\x0b')] :
        List (Char × Char)).lookup c).getD c)
    (delimiters rest).map (d :: ·)
  | c :: rest => (delimiters rest).map (some c :: ·)

/-- Joins texts by delimiters that are used in turn. -/
def joinBy (ds : List (Option Char)) (items : List Str) : Str :=
  (items.zipIdx.map fun (s, i) =>
    if i = 0 then s else (((ds[(i - 1) % ds.length]?).getD none).toList) ++ s).flatten

/-- The lines of files; those that are the input get its lines in turn. -/
def columnsOf (paths : List Str) (mark : Char) : Tool (List (List Str)) := do
  let inputs := paths.countP (· = ['-'])
  let shared ← if inputs = 0 then pure [] else do
    match ← readAll 0 with
    | .ok s => pure ((Str.pieces mark s).map (Str.chomp mark))
    | .error f => do
      failAt ['-'] f
      pure []
  let share (k : Nat) : List Str :=
    (shared.zipIdx.filter fun (_, i) => i % inputs = k).map (·.1)
  let (_, columns) ← paths.foldlM (fun (k, acc) path => do
    if path = ['-'] then return (k + 1, acc ++ [share k])
    else
      match ← openRead path with
      | .error f => do
        failAt path f
        quit 1
      | .ok fd => do
        match ← readAll fd with
        | .error f => do
          failAt path f
          return (k, acc ++ [[]])
        | .ok s => do
          close fd
          return (k, acc ++ [(Str.pieces mark s).map (Str.chomp mark)])) (0, [])
  return columns

def paste (args : List Str) : Tool Unit := do
  let w ← words (switches ["s:serial", "z:zero-terminated"] ++ values ["d:delimiters"]) true 1 args
  let list := (w.value? "d").getD ['\t']
  match delimiters (if list.isEmpty then "\\0".toList else list) with
  | none => die 1 ("delimiter list ends with an unescaped backslash: ".toList ++ labelled list)
  | some ds => do
    let mark := if w.has "z" then '\x00' else '\n'
    let paths := if w.operands.isEmpty then [['-']] else w.operands
    if w.has "s" then
      eachFile paths fun _ fd => do
        match ← readAll fd with
        | .error f => return .error f
        | .ok s => do
          put (joinBy ds ((Str.pieces mark s).map (Str.chomp mark)) ++ [mark])
          return .ok ()
    else do
      let columns ← columnsOf paths mark
      let height := columns.foldl (fun n c => max n c.length) 0
      (List.range height).forM fun i =>
        put (joinBy ds (columns.map fun column => column[i]?.getD []) ++ [mark])

/-! ## Lines of a limited width -/

/-- The column behind a character. -/
def columnAfter (bytes : Bool) (column : Nat) (c : Char) : Nat :=
  if bytes then column + 1
  else if c = '\x08' then column - 1
  else if c = '\r' then 0
  else if c = '\t' then column - column % 8 + 8
  else column + 1

def columnOf (bytes : Bool) (s : Str) : Nat := s.foldl (columnAfter bytes) 0

/-- Breaks a line.  The argument holds the characters of the open line, last first. -/
def foldLine (width : Nat) (bytes spaces : Bool) : Nat → Str → Str → Str
  | 0, open_, s => open_.reverse ++ s
  | _, open_, [] => open_.reverse
  | fuel + 1, open_, c :: cs =>
    if width < columnAfter bytes (columnOf bytes open_.reverse) c then
      let tail := open_.takeWhile fun d => d != ' ' && d != '\t'
      let front := open_.drop tail.length
      if spaces && !front.isEmpty then
        front.reverse ++ '\n' :: foldLine width bytes spaces fuel tail (c :: cs)
      else if open_.isEmpty then foldLine width bytes spaces fuel [c] cs
      else open_.reverse ++ '\n' :: foldLine width bytes spaces fuel [] (c :: cs)
    else foldLine width bytes spaces fuel (c :: open_) cs

def fold (args : List Str) : Tool Unit := do
  let args := args.map fun a =>
    match a with
    | '-' :: ds => if !ds.isEmpty && ds.all Char.isDigit then "-w".toList ++ ds else a
    | _ => a
  let w ← words (switches ["b:bytes", "s:spaces"] ++ values ["w:width"]) true 1 args
  let text := (w.value? "w").getD "80".toList
  match Str.nat? text with
  | none => die 1 ("invalid number of columns: ".toList ++ marked text)
  | some 0 => die 1 ("invalid number of columns: ".toList ++ marked text)
  | some width =>
    eachFile w.operands fun _ fd => eachPiece fd '\n' fun p => do
      let line := Str.chomp '\n' p
      put (foldLine width (w.has "b") (w.has "s") (3 * line.length + 3) [] line ++ p.drop line.length)
      return true

/-! ## Tabs -/

/-- Where tabs lead to: single columns, and behind them columns at equal distances. -/
structure Stops where
  single : List Nat := []
  /-- The distance of those behind them, if there are any. -/
  every : Option Nat := some 8

/-- The next stop behind a column. -/
def Stops.next? (t : Stops) (column : Nat) : Option Nat :=
  match t.single.find? (column < ·) with
  | some n => some n
  | none => t.every.map fun d => column - column % d + d

/-- The stops that a list writes. -/
def Stops.parse (s : Str) : Except Str Stops := do
  let parts := (Text.splitOnChar ',' (s.map fun c => if c = ' ' ∨ c = '\t' then ',' else c)).filter
    (!·.isEmpty)
  let numbers ← parts.mapM fun p =>
    match Str.nat? p with
    | some n => .ok n
    | none => .error ("tab size contains invalid character(s): ".toList
        ++ marked (p.dropWhile Char.isDigit))
  if numbers.contains 0 then .error "tab size cannot be 0".toList
  else if (numbers.zip (numbers.drop 1)).any fun (a, b) => b ≤ a then
    .error "tab sizes must be ascending".toList
  else
    match numbers with
    | [] => .ok {}
    | [n] => .ok { every := some n }
    | ns => .ok { single := ns, every := none }

/-- The stops that a call asks for. -/
def stopsOf (w : Words) : Tool Stops := do
  match w.value? "t" with
  | none => return {}
  | some s =>
    match Stops.parse s with
    | .ok t => return t
    | .error message => die 1 message

/-- A line with blanks in the place of tabs. -/
def expandLine (t : Stops) (initial : Bool) : Nat → Bool → Str → Str
  | _, _, [] => []
  | column, leading, c :: cs =>
    if c = '\t' && (leading || !initial) then
      let next := (t.next? column).getD (column + 1)
      List.replicate (next - column) ' ' ++ expandLine t initial next leading cs
    else if c = '\x08' then c :: expandLine t initial (column - 1) false cs
    else c :: expandLine t initial (column + 1) (leading && (c = ' ' || c = '\t')) cs

/-- Old words for the distance of tabs, written as options. -/
def modernStops (args : List Str) : List Str :=
  args.map fun a =>
    match a with
    | '-' :: ds => if !ds.isEmpty && ds.all (fun c => c.isDigit || c = ',') then "-t".toList ++ ds else a
    | _ => a

def expand (args : List Str) : Tool Unit := do
  let w ← words (switches ["i:initial"] ++ values ["t:tabs"]) true 1 (modernStops args)
  let t ← stopsOf w
  eachFile w.operands fun _ fd => eachPiece fd '\n' fun p => do
    put (expandLine t (w.has "i") 0 true p)
    return true

/-- Blanks from one column to another, with tabs where they save something. -/
def blanks (t : Stops) : Nat → Nat → Nat → Str
  | 0, column, stop => List.replicate (stop - column) ' '
  | fuel + 1, column, stop =>
    match t.next? column with
    | some next =>
      if next ≤ stop then
        (if next = column + 1 && (t.next? next).any (stop < ·) then [' '] else ['\t'])
          ++ blanks t fuel next stop
      else List.replicate (stop - column) ' '
    | none => List.replicate (stop - column) ' '

/-- A line with tabs in the place of blanks; the arguments are the present column and the column where
the open blanks start. -/
def unexpandLine (t : Stops) (everywhere : Bool) : Nat → Nat → Bool → Str → Str
  | column, start, _, [] => blanks t (column - start) start column
  | column, start, on, c :: cs =>
    if on && c = ' ' then unexpandLine t everywhere (column + 1) start on cs
    else if on && c = '\t' then
      unexpandLine t everywhere ((t.next? column).getD (column + 1)) start on cs
    else
      let next := if c = '\x08' then column - 1 else column + 1
      (if on then blanks t (column - start) start column else [])
        ++ c :: unexpandLine t everywhere next next (on && everywhere) cs

def unexpand (args : List Str) : Tool Unit := do
  let w ← words (switches ["a:all", "first-only"] ++ values ["t:tabs"]) true 1 (modernStops args)
  let t ← stopsOf w
  let everywhere := (w.has "a" || w.has "t") && !w.has "first-only"
  eachFile w.operands fun _ fd => eachPiece fd '\n' fun p => do
    let line := Str.chomp '\n' p
    put (unexpandLine t everywhere 0 0 true line ++ p.drop line.length)
    return true

end Transcripts.Tool.Columns
