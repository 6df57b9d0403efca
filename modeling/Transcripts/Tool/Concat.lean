import Transcripts.Tool

/-!
# Whole texts

Tools that pass on all of their input: as it is, made visible, numbered, backwards, or to several places.
-/
namespace Transcripts.Tool.Concat

/-! ## Joining files -/

/-- How lines are passed on. -/
structure Look where
  numbers : Bool := false
  /-- Lines that hold nothing have no number. -/
  skipsEmpty : Bool := false
  squeezes : Bool := false
  ends : Bool := false
  tabs : Bool := false
  shows : Bool := false

/-- Where the output stands between two characters. -/
structure Cursor where
  number : Nat := 0
  atStart : Bool := true
  /-- How many empty lines came last. -/
  empty : Nat := 0

/-- Whether anything is to be done about characters. -/
def Look.isPlain (l : Look) : Bool :=
  !(l.numbers || l.squeezes || l.ends || l.tabs || l.shows)

/-- A character below those that need more than seven bits, as it is seen. -/
def visibleLow (c : Char) : Str :=
  if c < ' ' then ['^', Char.ofNat (c.toNat + 64)] else if c = '\x7f' then ['^', '?'] else [c]

/-- A character as it is seen. -/
def visible (l : Look) (c : Char) : Str :=
  if c = '\t' then (if l.tabs then ['^', 'I'] else [c])
  else if !l.shows then [c]
  else if 128 ≤ c.toNat then 'M' :: '-' :: visibleLow (Char.ofNat (c.toNat - 128))
  else visibleLow c

/-- The number in front of a line. -/
def label (n : Nat) : Str := Str.padStart 6 ' ' (Str.decimal n) ++ ['\t']

/-- Characters as they are passed on. -/
def render (l : Look) (k : Cursor) : Str → Str × Cursor
  | [] => ([], k)
  | c :: cs =>
    if c = '\n' then
      if k.atStart && l.squeezes && 0 < k.empty then render l { k with empty := k.empty + 1 } cs
      else
        let numbered := k.atStart && l.numbers && !l.skipsEmpty
        let next : Cursor :=
          { number := if numbered then k.number + 1 else k.number
            empty := if k.atStart then k.empty + 1 else 0 }
        let (rest, last) := render l next cs
        ((if numbered then label next.number else []) ++ (if l.ends then ['$', '\n'] else ['\n']) ++ rest, last)
    else
      let numbered := k.atStart && l.numbers
      let next : Cursor :=
        { number := if numbered then k.number + 1 else k.number, atStart := false, empty := 0 }
      let (rest, last) := render l next cs
      let shown := if c = '\r' && l.ends && cs.head? = some '\n' then ['^', 'M'] else visible l c
      ((if numbered then label next.number else []) ++ shown ++ rest, last)

/-- Passes on what can be read of one input. -/
def pass (l : Look) (fd : Nat) : Nat → Cursor → Tool (Except SystemFault Unit × Cursor)
  | 0, k => return (.ok (), k)
  | fuel + 1, k => do
    match ← readSome fd with
    | .error f => return (.error f, k)
    | .ok [] => return (.ok (), k)
    | .ok s =>
      if l.isPlain then do
        putNow s
        if (← desk).fault.isSome then return (.ok (), k) else pass l fd fuel k
      else do
        let (shown, k) := render l k s
        putNow shown
        pass l fd fuel k

/-- Whether an input is the file that the output goes to, with something left to be read. -/
def feedsItself (fd : Nat) : Tool Bool := do
  let v ← view
  match v.lead? fd, v.lead? 1 with
  | some (.node a), some (.node b) =>
    if a != b then return false
    else
      match ← ask (Process.tell fd) with
      | .ok place => return place < ((v.files.bytes? a).getD []).length
      | .error _ => return false
  | _, _ => return false

def catFiles (l : Look) : List Str → Cursor → Tool Unit
  | [], _ => return ()
  | path :: rest, k => do
    match ← openOr path (failAt path) with
    | none => catFiles l rest k
    | some fd => do
      if ← feedsItself fd then
        fail (labelled path ++ ": input file is output file".toList)
        release path fd
        catFiles l rest k
      else
        let (r, k) ← pass l fd rounds k
        match r with
        | .ok _ => release path fd
        | .error f => do
          failAt path f
          release path fd
        catFiles l rest k

def catForms : List OptionForm := switches ["A:show-all", "b:number-nonblank", "e", "E:show-ends",
  "n:number", "s:squeeze-blank", "t", "T:show-tabs", "u", "v:show-nonprinting"]

/-- Writes files one behind the other. -/
def cat (args : List Str) : Tool Unit := do
  let w ← words catForms true 1 args
  let has (ids : List String) : Bool := ids.any w.has
  let l : Look :=
    { numbers := has ["n", "b"], skipsEmpty := w.has "b", squeezes := w.has "s"
      ends := has ["A", "e", "E"], tabs := has ["A", "t", "T"], shows := has ["A", "e", "t", "v"] }
  catFiles l (if w.operands.isEmpty then [['-']] else w.operands) {}

/-! ## Backwards -/

/-- Cuts a text behind each separator. -/
def cutBehind (sep : Str) : Nat → Str → Str → List Str
  | 0, open_, s => [open_.reverse ++ s]
  | fuel + 1, open_, s =>
    match s with
    | [] => if open_.isEmpty then [] else [open_.reverse]
    | c :: cs =>
      if sep.isPrefixOf s then (open_.reverse ++ sep) :: cutBehind sep fuel [] (s.drop sep.length)
      else cutBehind sep fuel (c :: open_) cs

/-- Cuts a text in front of each separator. -/
def cutBefore (sep : Str) : Nat → Str → Str → List Str
  | 0, open_, s => [open_.reverse ++ s]
  | fuel + 1, open_, s =>
    match s with
    | [] => if open_.isEmpty then [] else [open_.reverse]
    | c :: cs =>
      if sep.isPrefixOf s then
        let rest := cutBefore sep fuel sep.reverse (s.drop sep.length)
        if open_.isEmpty then rest else open_.reverse :: rest
      else cutBefore sep fuel (c :: open_) cs

/-- Writes each file with its last line first. -/
def tac (args : List Str) : Tool Unit := do
  let w ← words (switches ["b:before", "r:regex"] ++ values ["s:separator"]) true 1 args
  let sep := (w.value? "s").getD ['\n']
  let sep := if sep.isEmpty then ['\x00'] else sep
  (if w.operands.isEmpty then [['-']] else w.operands).forM fun path => do
    match ← openOr path fun f => fail ("failed to open ".toList ++ quoted path ++ Str.ofString (" for reading: " ++ f.message)) with
    | none => return ()
    | some fd =>
      match ← readAll fd with
      | .error f => fail (labelled path ++ Str.ofString (": read error: " ++ f.message))
      | .ok s => do
        let ps := if w.has "b" then cutBefore sep (s.length + 1) [] s else cutBehind sep (s.length + 1) [] s
        put ps.reverse.flatten
        release path fd

/-- Writes each line backwards. -/
def rev (args : List Str) : Tool Unit := do
  let w ← words [] true 1 args
  (if w.operands.isEmpty then [['-']] else w.operands).forM fun path => do
    match ← openOr path fun f => fail ("cannot open ".toList ++ path ++ Str.ofString (": " ++ f.message)) with
    | none => return ()
    | some fd => do
      let _ ← eachPiece fd '\n' fun p => do
        let line := Str.chomp '\n' p
        put (line.reverse ++ p.drop line.length)
        return true
      release path fd

/-! ## Several places -/

/-- Writes a text to some descriptors, each with its name. -/
def spread (s : Str) (targets : List (Str × Nat)) : Tool Unit :=
  targets.forM fun (name, fd) => do
    match ← putTo fd s with
    | .ok _ => return ()
    | .error f => failAt name f

/-- Copies the input to the output and to files. -/
def tee (args : List Str) : Tool Unit := do
  let w ← words (switches ["a:append", "i:ignore-interrupts", "p"] ++ [.long "output-error" .maybe]) true 1 args
  if w.has "i" then
    let _ ← ask (Process.provide .interrupt .ignored)
    pure ()
  let access := if w.has "a" then Files.Access.append else Files.Access.write
  let targets ← w.operands.filterMapM fun path => do
    match ← ask (Process.openPath path access) with
    | .ok fd => return some (path, fd)
    | .error f => do
      failAt path f
      return none
  let rec copy (fuel : Nat) : Tool Unit :=
    match fuel with
    | 0 => return ()
    | fuel + 1 => do
      match ← readSome 0 with
      | .error f => fail (Str.ofString ("read error: " ++ f.message))
      | .ok [] => return ()
      | .ok s => do
        spread s (("standard output".toList, 1) :: targets)
        copy fuel
  copy rounds

end Transcripts.Tool.Concat
