import Transcripts.Tool

/-!
# Files side by side

Two sorted files are gone through together: what only one of them has, what both have, and lines that
share a field.
-/
namespace Transcripts.Tool.Merge

/-- The pieces of a file. -/
def piecesOf (mark : Char) (path : Str) : Tool (List Str) := do
  match ← openOr path fun f => do
      failAt path f
      quit 1 with
  | none => return []
  | some fd =>
    match ← readAll fd with
    | .error f => do
      failAt path f
      quit 1
    | .ok s => do
      release path fd
      return (Str.pieces mark s).map (Str.chomp mark)

/-- The two files that a call names. -/
def twoFiles (w : Words) (mark : Char) : Tool (List Str × List Str) := do
  let usage (message : Str) : Tool (List Str × List Str) := do
    warn message
    say (hint (← desk).name)
    quit 1
  match w.operands with
  | [] => usage "missing operand".toList
  | [a] => usage ("missing operand after ".toList ++ marked a)
  | [a, b] => do
    let xs ← piecesOf mark a
    let ys ← piecesOf mark b
    return (xs, ys)
  | _ :: _ :: c :: _ => usage ("extra operand ".toList ++ marked c)

/-! ## Common lines -/

/-- Which file has a line. -/
inductive Owner where
  | first | second | both
deriving Repr, DecidableEq

/-- The lines of two sorted files, each with the files that have it. -/
def common : Nat → List Str → List Str → List (Owner × Str)
  | 0, _, _ => []
  | _, [], ys => ys.map (.second, ·)
  | _, xs, [] => xs.map (.first, ·)
  | fuel + 1, x :: xs, y :: ys =>
    if x = y then (.both, x) :: common fuel xs ys
    else if x < y then (.first, x) :: common fuel xs (y :: ys)
    else (.second, y) :: common fuel (x :: xs) ys

/-- The place of the first line that comes before its predecessor, if there is one. -/
def disorder (xs : List Str) : Option Nat :=
  ((xs.zip (xs.drop 1)).zipIdx.find? fun ((a, b), _) => b < a).map fun (_, i) => i + 1

def comm (args : List Str) : Tool Unit := do
  let w ← words (switches ["1", "2", "3", "check-order", "nocheck-order", "total", "z:zero-terminated"]
    ++ values ["output-delimiter"]) true 1 args
  let mark := if w.has "z" then '\x00' else '\n'
  let (xs, ys) ← twoFiles w mark
  let sep := (w.value? "output-delimiter").getD ['\t']
  let tabs (ids : List String) : Str := (ids.filter (!w.has ·)).flatMap fun _ => sep
  let lines := common (xs.length + ys.length + 1) xs ys
  lines.forM fun (owner, line) =>
    match owner with
    | .first => if w.has "1" then return () else put (line ++ [mark])
    | .second => if w.has "2" then return () else put (tabs ["1"] ++ line ++ [mark])
    | .both => if w.has "3" then return () else put (tabs ["1", "2"] ++ line ++ [mark])
  if w.has "total" then
    let count (o : Owner) : Str := Str.decimal (lines.countP (·.1 == o))
    put (count .first ++ sep ++ count .second ++ sep ++ count .both ++ sep ++ "total".toList ++ [mark])
  if lines.any (·.1 != .both) && !w.has "nocheck-order" then
    [(1, xs), (2, ys)].forM fun (n, zs) =>
      if (disorder zs).isSome then fail (Str.ofString s!"file {n} is not in sorted order") else return ()
    if (← desk).status != 0 then fail "input is not in sorted order".toList

/-! ## Lines with a common field -/

/-- What a line of the output holds. -/
inductive Item where
  | key
  /-- A field of one of the files. -/
  | field (second : Bool) (n : Nat)
deriving Repr, DecidableEq

structure Join where
  /-- The fields that are compared, counted from zero. -/
  keys : Nat × Nat := (0, 0)
  delimiter : Option Char := none
  /-- What stands for a field that is missing. -/
  empty : Str := []
  format : Option (List Item) := none
  ignoresCase : Bool := false
  /-- Whether lines of each file that nothing goes with are shown, and those of both. -/
  single : Bool × Bool := (false, false)
  paired : Bool := true

/-- The fields of a line. -/
def Join.fields (j : Join) (line : Str) : List Str :=
  match j.delimiter with
  | some d => Text.splitOnChar d line
  | none => (Text.splitOnChar ' ' (line.map fun c => if c = '\t' then ' ' else c)).filter (!·.isEmpty)

def Join.fold (j : Join) (s : Str) : Str := if j.ignoresCase then Str.lower s else s

/-- A line of the output for lines of both files, or of one of them. -/
def Join.line (j : Join) (a b : Option (List Str)) : Str :=
  let sep := [j.delimiter.getD ' ']
  let field (line : Option (List Str)) (n : Nat) : Str :=
    let s := ((line.bind (·[n]?)).getD [])
    if s.isEmpty then j.empty else s
  let key : Str := match a with
    | some x => field (some x) j.keys.1
    | none => field b j.keys.2
  let rest (line : Option (List Str)) (k : Nat) : List Str :=
    ((line.getD []).zipIdx.filter (·.2 != k)).map fun (s, _) => if s.isEmpty then j.empty else s
  match j.format with
  | some items => Text.join sep (items.map fun i => match i with
    | .key => key
    | .field false n => field a n
    | .field true n => field b n)
  | none => Text.join sep (key :: rest a j.keys.1 ++ rest b j.keys.2)

/-- Lines whose fields are compared: the key and the fields. -/
abbrev Keyed := List (Str × List Str)

/-- The lines of the output. -/
def Join.lines (j : Join) : Nat → Keyed → Keyed → List Str
  | 0, _, _ => []
  | _, [], ys => if j.single.2 then ys.map fun y => j.line none (some y.2) else []
  | _, xs, [] => if j.single.1 then xs.map fun x => j.line (some x.2) none else []
  | fuel + 1, x :: xs, y :: ys =>
    if x.1 < y.1 then
      (if j.single.1 then [j.line (some x.2) none] else []) ++ j.lines fuel xs (y :: ys)
    else if y.1 < x.1 then
      (if j.single.2 then [j.line none (some y.2)] else []) ++ j.lines fuel (x :: xs) ys
    else
      let as := (x :: xs).takeWhile (·.1 == x.1)
      let bs := (y :: ys).takeWhile (·.1 == x.1)
      (if j.paired then as.flatMap fun a => bs.map fun b => j.line (some a.2) (some b.2) else [])
        ++ j.lines fuel ((x :: xs).drop as.length) ((y :: ys).drop bs.length)

/-- The items of a format. -/
def itemsOf (s : Str) : Option (List Item) :=
  ((Text.splitOnChar ',' (s.map fun c => if c = ' ' then ',' else c)).filter (!·.isEmpty)).mapM fun part =>
    match part with
    | ['0'] => some .key
    | '1' :: '.' :: ds => (Str.nat? ds).bind fun n => if n = 0 then none else some (.field false (n - 1))
    | '2' :: '.' :: ds => (Str.nat? ds).bind fun n => if n = 0 then none else some (.field true (n - 1))
    | _ => none

/-- A number of a field, counted from zero. -/
def fieldNumber (s : Str) : Tool Nat := do
  match Str.nat? s with
  | some (n + 1) => return n
  | _ => die 1 ("invalid field number: ".toList ++ marked s)

def join (args : List Str) : Tool Unit := do
  let w ← words (values ["1", "2", "j", "t", "a", "v", "o", "e"]
    ++ switches ["i:ignore-case", "check-order", "nocheck-order", "header", "z:zero-terminated"]) true 1 args
  let key (id : String) : Tool Nat := do
    match w.value? id <|> w.value? "j" with
    | some s => fieldNumber s
    | none => return 0
  let k1 ← key "1"
  let k2 ← key "2"
  let asked (id : String) (n : String) : Bool := (w.valuesOf id).contains n.toList
  let format ← match w.value? "o" with
    | none => pure none
    | some s =>
      match itemsOf s with
      | some items => pure (some items)
      | none => die 1 ("invalid field specifier: ".toList ++ marked s)
  let delimiter ← match w.value? "t" with
    | none => pure none
    | some [] => pure (some '\n')
    | some [c] => pure (some c)
    | some ['\\', '0'] => pure (some '\x00')
    | some s => die 1 ("multi-character tab ".toList ++ marked s)
  let j : Join :=
    { keys := (k1, k2), delimiter, empty := (w.value? "e").getD [], format, ignoresCase := w.has "i"
      single := (asked "a" "1" || asked "v" "1", asked "a" "2" || asked "v" "2"), paired := !w.has "v" }
  let mark := if w.has "z" then '\x00' else '\n'
  let (xs, ys) ← twoFiles w mark
  let (heads, xs, ys) := if w.has "header" then (([xs.head?, ys.head?] : List (Option Str)), xs.drop 1, ys.drop 1)
    else ([], xs, ys)
  match heads with
  | [a, b] => put (j.line (a.map j.fields) (b.map j.fields) ++ [mark])
  | _ => pure ()
  let keyed (k : Nat) (ls : List Str) : Keyed := ls.map fun l =>
    let fs := j.fields l
    (j.fold ((fs[k]?).getD []), fs)
  (j.lines (xs.length + ys.length + 1) (keyed k1 xs) (keyed k2 ys)).forM fun l => put (l ++ [mark])
  if !w.has "nocheck-order" then
    [(0, xs, k1), (1, ys, k2)].forM fun (i, ls, k) =>
      match disorder ((keyed k ls).map (·.1)) with
      | none => return ()
      | some n =>
        let place := (w.operands[i]?).getD []
        fail (place ++ Str.ofString s!":{n + 1}: is not sorted: " ++ (ls[n]?).getD [])
    if (← desk).status != 0 then fail "input is not in sorted order".toList

end Transcripts.Tool.Merge
