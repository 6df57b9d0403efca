import Transcripts.Tool

/-!
# Counts

How many lines, words and bytes files have, and how wide their lines are.
-/
namespace Transcripts.Tool.Count

/-- What is counted. -/
structure Counts where
  lines : Nat := 0
  words : Nat := 0
  bytes : Nat := 0
  /-- The width of the widest line. -/
  width : Nat := 0
deriving Repr, DecidableEq

namespace Counts

def add (a b : Counts) : Counts :=
  ⟨a.lines + b.lines, a.words + b.words, a.bytes + b.bytes, max a.width b.width⟩

end Counts

/-- Counts while a text is gone through. -/
structure Cursor where
  counts : Counts := {}
  inWord : Bool := false
  /-- The column in the open line. -/
  column : Nat := 0

def Cursor.step (k : Cursor) (c : Char) : Cursor :=
  let n := { k.counts with bytes := k.counts.bytes + 1 }
  let ended : Counts := { n with width := max n.width k.column }
  if c = '\n' then { counts := { ended with lines := n.lines + 1 } }
  else if c = '\r' ∨ c = '\x0c' then { counts := ended }
  else if c = '\t' then { counts := n, column := k.column + 8 - k.column % 8 }
  else if c = ' ' then { counts := n, column := k.column + 1 }
  else if c = '\x0b' then { counts := n, column := k.column }
  else
    { counts := { n with words := if k.inWord then n.words else n.words + 1 }, inWord := true
      column := if isOdd c then k.column else k.column + 1 }

/-- The counts of a text. -/
def ofText (s : Str) : Counts :=
  let k := s.foldl Cursor.step {}
  { k.counts with width := max k.counts.width k.column }

/-- What is shown of counts, in order. -/
def shown (w : Words) (n : Counts) : List Nat :=
  let all := [("l", n.lines), ("w", n.words), ("m", n.bytes), ("c", n.bytes), ("L", n.width)]
  let ids := all.map (·.1)
  let asked := if ids.any w.has then w.has else ["l", "w", "c"].contains
  (all.filter fun (id, _) => asked id).map (·.2)

/-- A row of counts, each as wide as it has to be. -/
def row (width : Nat) (ns : List Nat) (name : Option Str) : Str :=
  Text.join [' '] (ns.map fun n => Str.padStart width ' ' (Str.decimal n))
    ++ (match name with
      | some s => ' ' :: s
      | none => []) ++ ['\n']

/-- The width of counts: that of the sum of all sizes, but some columns more where a size is not
known. -/
def widthOf (v : Process.View) (single : Bool) (paths : List (Option Str)) : Nat :=
  if single then 1
  else
    let sizes : List (Option (Option Nat)) := paths.map fun p =>
      let node := match p with
        | some path => if path = ['-'] then none else some (v.files.find v.here path true).toOption
        | none => none
      match node with
      | some none => none
      | some (some id) => some ((v.files.bytes? id).map List.length)
      | none =>
        match v.lead? 0 with
        | some (.node id) => some ((v.files.bytes? id).map List.length)
        | _ => some none
    let total := sizes.foldl (fun n s => n + ((s.bind id).getD 0)) 0
    max (Str.decimal total).length (if sizes.contains (some none) then 7 else 1)

def wc (args : List Str) : Tool Unit := do
  let w ← words (switches ["c:bytes", "m:chars", "l:lines", "w:words", "L:max-line-length"]
    ++ values ["files0-from", "total"]) true 1 args
  let paths : List (Option Str) := if w.operands.isEmpty then [none] else w.operands.map some
  let width := widthOf (← view) (paths.length = 1 && (shown w {}).length = 1) paths
  let total ← paths.foldlM (fun (sum : Counts) path => do
    let name := path.getD ['-']
    match ← openOr name (failAt name) with
    | none => return sum
    | some fd => do
      let n ← match ← readAll fd with
        | .ok s => pure (ofText s)
        | .error f => do
          failAt name f
          pure {}
      release name fd
      put (row width (shown w n) path)
      return sum.add n) {}
  let when := Str.toString ((w.value? "total").getD "auto".toList)
  if when = "always" ∨ (when != "never" ∧ 1 < paths.length) then
    put (row width (shown w total) (some "total".toList))

end Transcripts.Tool.Count
