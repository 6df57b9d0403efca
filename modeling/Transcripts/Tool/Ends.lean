import Transcripts.Tool

/-!
# Starts and ends of texts

The first or last lines or bytes of files, counted from either side.
-/
namespace Transcripts.Tool.Ends

/-- A part of a text: so many lines or bytes, counted from one of its sides. -/
structure Part where
  count : Nat := 10
  bytes : Bool := false
  /-- All but so many, counted from the other side. -/
  allBut : Bool := false
  /-- What ends a line. -/
  mark : Char := '\n'

/-- Whether titles are written: if it was said so, or else if there are several files. -/
def titled (w : Words) : Bool :=
  match w.last? ["q", "v"] with
  | some "v" => true
  | some _ => false
  | none => 1 < w.operands.length

/-- The title of a file; all but the first stand behind an empty line. -/
def title (first : Bool) (path : Str) : Str :=
  (if first then [] else ['\n']) ++ "==> ".toList ++ titleOf path ++ " <==\n".toList

/-- Reports that an input cannot be read. -/
def unreadable (path : Str) (f : SystemFault) : Tool Unit :=
  fail (faultOf "error reading " (titleOf path) f)

/-- Does something with each file, under its title where titles are written. -/
def eachTitled (w : Words) (f : Str → Nat → Tool Unit) : Tool Unit := do
  let rec go (first : Bool) : List Str → Tool Unit
    | [] => return ()
    | path :: rest => do
      let refuse (e : SystemFault) : Tool Unit :=
        fail ("cannot open ".toList ++ quoted path ++ Str.ofString (" for reading: " ++ e.message))
      match ← openOr path refuse with
      | none => go first rest
      | some fd => do
        if titled w then put (title first path)
        f path fd
        release path fd
        go false rest
  go true (if w.operands.isEmpty then [['-']] else w.operands)

/-- The part that the last of the options for it asks for. -/
def partOf (w : Words) (read : Str → Bool → Tool Part) : Tool Part := do
  match w.last? ["n", "c"] with
  | some "c" => read ((w.value? "c").getD []) true
  | some _ => read ((w.value? "n").getD []) false
  | none => return {}

/-- Ends the work over a count that is none. -/
def badCount {α : Type} (s : Str) (bytes : Bool) : Tool α :=
  die 1 (Str.ofString ("invalid number of " ++ (if bytes then "bytes" else "lines") ++ ": ") ++ marked s)

/-! ## Starts -/

/-- Takes lines from the start: the lines, how many are still wanted, and what is left. -/
def takeLines (mark : Char) : Nat → Str → Str × Nat × Str
  | 0, s => ([], 0, s)
  | n + 1, [] => ([], n + 1, [])
  | n + 1, c :: cs =>
    let (line, left, rest) := takeLines mark (if c = mark then n else n + 1) cs
    (c :: line, left, rest)

/-- How much is read at once. -/
def readSize : Nat := 8192

/-- Writes lines from the start. -/
def firstLines (path : Str) (fd : Nat) (mark : Char) : Nat → Nat → Tool Unit
  | 0, _ => return ()
  | _, 0 => return ()
  | fuel + 1, n => do
    match ← readUpTo fd readSize with
    | .error f => unreadable path f
    | .ok [] => return ()
    | .ok s => do
      let (taken, left, rest) := takeLines mark n s
      put taken
      if left = 0 then unread fd rest.length else firstLines path fd mark fuel left

/-- Writes bytes from the start. -/
def firstBytes (path : Str) (fd : Nat) : Nat → Nat → Tool Unit
  | 0, _ => return ()
  | _, 0 => return ()
  | fuel + 1, n => do
    match ← readUpTo fd (min n readSize) with
    | .error f => unreadable path f
    | .ok [] => return ()
    | .ok s => do
      put s
      firstBytes path fd fuel (n - s.length)

/-- A text without its last lines or bytes. -/
def allButLast (p : Part) (s : Str) : Str :=
  if p.bytes then s.take (s.length - p.count)
  else
    let ps := Str.pieces p.mark s
    (ps.take (ps.length - p.count)).flatten

/-- Writes the start of what a path leads to. -/
def start (p : Part) (path : Str) (fd : Nat) : Tool Unit := do
  if p.allBut then
    match ← readAll fd with
    | .error f => unreadable path f
    | .ok s => put (allButLast p s)
  else if p.bytes then firstBytes path fd rounds p.count
  else firstLines path fd p.mark rounds p.count

def forms : List OptionForm :=
  values ["n:lines", "c:bytes"] ++ switches ["q:quiet", "v:verbose", "z:zero-terminated"]
    ++ [⟨"q", none, "silent", .nothing⟩]

/-- An old word for a count: digits, and what may follow them. -/
def oldCount? (word : Str) : Option (Str × Str) :=
  match word with
  | '-' :: rest =>
    let ds := rest.takeWhile Char.isDigit
    if ds.isEmpty then none else some (ds, rest.drop ds.length)
  | _ => none

/-- The words of a call with an old count written as options. -/
def modern (args : List Str) : List Str :=
  match args with
  | word :: rest =>
    match oldCount? word with
    | some (ds, more) =>
      if more.all fun c => ['b', 'c', 'k', 'l', 'm', 'q', 'v', 'z'].contains c then
        let option := if more.any fun c => c = 'c' ∨ c = 'b' ∨ c = 'k' ∨ c = 'm' then "-c" else "-n"
        let unit := more.filter fun c => c = 'b' ∨ c = 'k' ∨ c = 'm'
        let others := more.filter fun c => c = 'q' ∨ c = 'v' ∨ c = 'z'
        [option.toList, ds ++ unit] ++ others.map (fun c => ['-', c]) ++ rest
      else args
    | none => args
  | [] => []

def head (args : List Str) : Tool Unit := do
  let w ← words forms true 1 (modern args)
  let p ← partOf w fun s bytes =>
    let (allBut, body) := match s with
      | '-' :: rest => (true, rest)
      | _ => (false, s)
    match size? body with
    | some count => return { count, bytes, allBut }
    | none => badCount body bytes
  let p := if w.has "z" then { p with mark := '\x00' } else p
  eachTitled w (start p)

/-! ## Ends -/

/-- The last lines or bytes of a text, or those from some place on. -/
def lastPart (p : Part) (s : Str) : Str :=
  if p.bytes then (if p.allBut then s.drop (p.count - 1) else s.drop (s.length - p.count))
  else
    let ps := Str.pieces p.mark s
    (if p.allBut then ps.drop (p.count - 1) else ps.drop (ps.length - p.count)).flatten

/-- Passes on what is still added to a file. -/
def follow (fd : Nat) : Nat → Tool Unit
  | 0 => return ()
  | fuel + 1 => do
    match ← readSome fd with
    | .error _ => return ()
    | .ok [] => do
      let v ← view
      let _ ← ask (Process.sleep (v.now + 1000))
      follow fd fuel
    | .ok s => do
      putNow s
      follow fd fuel

def finish (w : Words) (p : Part) (path : Str) (fd : Nat) : Tool Unit := do
  match ← readAll fd with
  | .error f => unreadable path f
  | .ok s => do
    putNow (lastPart p s)
    if w.has "f" || w.has "F" then
      match ← ask (Process.tell fd) with
      | .ok _ => follow fd rounds
      | .error _ => pure ()

/-- The words of a call with an old count, from either side, written as options. -/
def modernEnd (args : List Str) : List Str :=
  match args with
  | ('+' :: ds) :: rest =>
    if !ds.isEmpty && ds.all Char.isDigit then ["-n".toList, '+' :: ds] ++ rest else args
  | word :: rest =>
    match oldCount? word with
    | some (ds, []) => ["-n".toList, ds] ++ rest
    | some (ds, ['c']) => ["-c".toList, ds] ++ rest
    | some (ds, ['l']) => ["-n".toList, ds] ++ rest
    | some (ds, ['f']) => ["-f".toList, "-n".toList, ds] ++ rest
    | _ => args
  | [] => []

def tail (args : List Str) : Tool Unit := do
  let w ← words (forms ++ switches ["f", "F", "retry"] ++ [.long "follow" .maybe]
    ++ values ["s:sleep-interval", "pid", "max-unchanged-stats"]) true 1 (modernEnd args)
  let p ← partOf w fun s bytes =>
    let (allBut, body) := match s with
      | '+' :: rest => (true, rest)
      | '-' :: rest => (false, rest)
      | _ => (false, s)
    match size? body with
    | some count => return { count, bytes, allBut }
    | none => badCount body bytes
  let p := if w.has "z" then { p with mark := '\x00' } else p
  eachTitled w (finish w p)

end Transcripts.Tool.Ends
