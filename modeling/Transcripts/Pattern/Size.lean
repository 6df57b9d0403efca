import Transcripts.Pattern.Node

/-!
# Size

A pattern that takes too much memory is refused.  What counts is a program that reads bytes: one that
reads forward and reports its groups, and one that reads backward.  Both are only counted here, step
by step in the order in which they would be built, because equal steps of a set of characters are
shared through a table of bounded size and what the table still knows depends on the numbers of the
steps.
-/
namespace Transcripts.Pattern

open Transcripts.Unicode (Ranges)

/-! ## Characters byte by byte

The encodings of a set of characters, as a list of byte strings in which every byte may vary within an
interval of its own.  An interval of characters is cut until the encodings of each part are all
combinations of bytes between those of its first and those of its last character. -/

/-- An interval of bytes. -/
abbrev ByteSpan := UInt8 × UInt8

/-- Code points whose encodings are equally long, and that are characters. -/
def lengthBlocks : List (Nat × Nat) :=
  [(0, 0x7F), (0x80, 0x7FF), (0x800, 0xD7FF), (0xE000, 0xFFFF), (0x10000, 0x10FFFF)]

/-- Cuts an interval at multiples of the given sizes, the smallest first: what reaches beyond one
block is the rest of the first block, whole blocks and the beginning of the last one. -/
def alignedParts : List Nat → Nat → Nat → List (Nat × Nat)
  | [], lo, hi => [(lo, hi)]
  | size :: sizes, lo, hi =>
    if lo / size = hi / size then [(lo, hi)]
    else
      let first := (lo + size - 1) / size * size
      let past := (hi + 1) / size * size
      (if lo < first then [(lo, first - 1)] else [])
        ++ (if first < past then alignedParts sizes first (past - 1) else [])
        ++ (if past ≤ hi then [(past, hi)] else [])

/-- The encodings of the characters of a part. -/
def encodedPart (part : Nat × Nat) : List ByteSpan :=
  (String.utf8EncodeChar (Char.ofNat part.1)).zip (String.utf8EncodeChar (Char.ofNat part.2))

/-- The encodings of a set of characters, in order.  Bytes after the first carry six bits each. -/
def encodedSet (set : Ranges) : List (List ByteSpan) :=
  set.flatMap fun (lo, hi) =>
    lengthBlocks.flatMap fun (first, last) =>
      let lo := max lo first
      let hi := min hi last
      if lo ≤ hi then (alignedParts [64, 4096, 262144] lo hi).map encodedPart else []

/-! ## Programs that read bytes -/

/-- What was built so far: the number of steps, and the bytes held beyond the fixed size of a step. -/
structure Tally where
  steps : Nat := 0
  extra : Nat := 0
deriving Repr, DecidableEq

namespace Tally

/-- The memory taken, in bytes. -/
def size (t : Tally) : Nat := 32 * t.steps + t.extra

/-- The largest size of a program. -/
def limit : Nat := 10485760

/-- Adds a step that holds a number of intervals of bytes. -/
def add (t : Tally) (spans : Nat := 0) : Tally := ⟨t.steps + 1, t.extra + 8 * spans⟩

/-- Adds ways that lead on from a choice. -/
def ways (t : Tally) (n : Nat) : Tally := { t with extra := t.extra + 4 * n }

/-- Repeats what is built; beyond the limit, one more round tells nothing new. -/
def rounds (f : Tally → Tally) : Nat → Tally → Tally
  | 0, t => t
  | n + 1, t => if limit < t.size then t else rounds f n (f t)

end Tally

/-! ## Shared steps -/

/-- A table from keys to the numbers of steps.  Each key has one place, and a new key takes the place
of an older one. -/
structure StepTable where
  places : Array (Option (List UInt64 × Nat))

namespace StepTable

def empty (places : Nat) : StepTable := ⟨Array.replicate places none⟩

/-- The place of a key. -/
def place (table : StepTable) (key : List UInt64) : Nat :=
  (key.foldl (fun h x => (h ^^^ x) * 0x100000001B3) 0xCBF29CE484222325).toNat % table.places.size

/-- The step of a key, if the table still knows it. -/
def get? (table : StepTable) (key : List UInt64) : Option Nat :=
  match table.places[table.place key]? with
  | some (some (known, step)) => if known = key then some step else none
  | _ => none

def insert (table : StepTable) (key : List UInt64) (step : Nat) : StepTable :=
  ⟨table.places.setIfInBounds (table.place key) (some (key, step))⟩

end StepTable

/-- What was built of a set, and the table of its steps. -/
structure SetTally where
  tally : Tally
  table : StepTable

/-- The step of a key: the known one, or a new one that holds a number of intervals. -/
def SetTally.step (s : SetTally) (key : List UInt64) (spans : Nat) : Nat × SetTally :=
  match s.table.get? key with
  | some step => (step, s)
  | none => (s.tally.steps, ⟨s.tally.add spans, s.table.insert key s.tally.steps⟩)

/-- Builds a set for reading backward: a choice between encodings, each of them from its last byte. -/
def backwardSet (encodings : List (List ByteSpan)) (t : Tally) : Tally :=
  let last := t.steps + 1
  let built := encodings.foldl (fun (s : SetTally) spans =>
    let (_, s) := spans.foldl (fun (next, s) (lo, hi) =>
      SetTally.step s [next.toUInt64, lo.toUInt64, hi.toUInt64] 0) (last, s)
    { s with tally := s.tally.ways 1 }) ⟨t.add.add, .empty 1000⟩
  built.tally

/-- Builds a step for the first bytes of some encodings, after the steps for the bytes that follow
each of them; encodings that start alike stand side by side. -/
def forwardStep (last : Nat) : Nat → List (List ByteSpan) → SetTally → Nat × SetTally
  | 0, _, s => (last, s)
  | depth + 1, encodings, s =>
    let (key, s) := (encodings.splitBy fun a b => a.head? == b.head?).foldl
      (fun ((key, s) : List UInt64 × SetTally) alike =>
        match alike.head? with
        | some ((lo, hi) :: _) =>
          let (next, s) := forwardStep last depth (alike.map List.tail) s
          (key ++ [lo.toUInt64, hi.toUInt64, next.toUInt64], s)
        | _ => (key, s)) ([], s)
    if key.isEmpty then (last, s) else s.step key (key.length / 3)

/-- Builds a set for reading forward. -/
def forwardSet (encodings : List (List ByteSpan)) (t : Tally) : Tally :=
  (forwardStep t.steps 4 encodings ⟨t.add, .empty 10000⟩).2.tally

/-! ## Literals -/

/-- Cuts a list of literals where one is used up.  Literals that are used up before any other count
once. -/
def literalGroups (literals : List (List UInt8)) : List (List (List UInt8)) :=
  let literals := literals.dropWhile List.isEmpty
    |> if literals.head?.any List.isEmpty then ([] :: ·) else id
  literals.foldr (fun l groups =>
    if l.isEmpty then [] :: groups
    else match groups with
      | [] => [[l]]
      | group :: rest => (l :: group) :: rest) [[]]

/-- Builds a choice between literals as a tree: literals share what they start with, unless one that
ends there stands between them.  The first argument bounds their length. -/
def literalTree : Nat → List (List UInt8) → Tally → Tally
  | 0, _, t => t
  | depth + 1, literals, t =>
    if literals.all List.isEmpty then t
    else
      let groups := literalGroups literals
      let t := groups.foldl (fun t group =>
        let firsts := (group.filterMap List.head?).eraseDups
        let t := firsts.foldl (fun t b =>
          literalTree depth ((group.filter (·.head? == some b)).map List.tail) t) t
        match firsts.length with
        | 0 => t
        | 1 => t.add.ways 1
        | n => (t.add n).ways 1) t
      t.add.ways (groups.length - 1)

/-! ## Nodes -/

/-- How a node is built. -/
structure Plan where
  /-- Whether the last step is a choice, which takes one more way to lead on. -/
  endsInChoice : Bool := false
  /-- The bytes of a node that matches these and no others. -/
  literal : Option (List UInt8) := none
  build : Tally → Tally

namespace Plan

/-- The ways that have to be added to lead on from the end. -/
def exits (p : Plan) : Nat := if p.endsInChoice then 1 else 0

/-- A single step. -/
def one : Plan where build t := t.add

/-- Given bytes, one after the other. -/
def ofBytes (bs : List UInt8) : Plan where
  literal := some bs
  build t := ⟨t.steps + bs.length, t.extra⟩

/-- A step that reads one byte of a set, and the step where it ends. -/
def ofSpans (n : Nat) : Plan where build t := t.add.add n

/-- A set of characters. -/
def ofChars (backward : Bool) (set : Ranges) : Plan :=
  match set with
  | [(lo, hi)] =>
    if lo = hi then ofBytes (String.utf8EncodeChar (Char.ofNat lo)) else wide
  | _ => wide
where
  wide : Plan :=
    if set.all (·.2 < 0x80) then ofSpans set.length
    else
      let encodings := encodedSet set
      ⟨false, none, if backward then backwardSet encodings else forwardSet encodings⟩

/-- A set of bytes. -/
def ofByteSet (set : Ranges) : Plan :=
  match set with
  | [(lo, hi)] => if lo = hi then ofBytes [lo.toUInt8] else ofSpans 1
  | _ => ofSpans set.length

/-- Two plans in the order of reading. -/
def followedBy (p q : Plan) : Plan where
  endsInChoice := q.endsInChoice
  build t := (q.build (p.build t)).ways p.exits

/-- Two plans in the order of the pattern. -/
def seq (backward : Bool) (p q : Plan) : Plan :=
  { (if backward then q.followedBy p else p.followedBy q) with
    literal := match p.literal, q.literal with
      | some a, some b => some (a ++ b)
      | _, _ => none }

/-- A choice between plans. -/
def choice (backward : Bool) (ps : List Plan) : Plan :=
  match ps with
  | [p] => p
  | ps =>
    match ps.mapM Plan.literal with
    | some literals =>
      let literals := if backward then literals.map List.reverse else literals
      let depth := literals.foldl (fun n l => max n l.length) 0 + 1
      { build := fun t => literalTree depth literals t.add }
    | none =>
      match ps with
      | p :: q :: rest =>
        { build := fun t =>
            let t := (q.build (p.build t)).add.add.ways (2 + p.exits + q.exits)
            rest.foldl (fun t r => (r.build t).ways (1 + r.exits)) t }
      | _ => one

/-- A plan a number of times in a row. -/
def copies (n : Nat) (p : Plan) : Plan :=
  match n with
  | 0 => one
  | n + 1 =>
    { endsInChoice := p.endsInChoice
      build := fun t => Tally.rounds (fun t => (p.build t).ways p.exits) n (p.build t) }

/-- A repetition; whether every round reads something decides how one without end is built. -/
def repeated (least : Nat) (most : Option Nat) (reads : Bool) (p : Plan) : Plan :=
  match least, most with
  | 0, none =>
    if reads then
      { endsInChoice := true, build := fun t => (p.build t.add).ways (1 + p.exits) }
    else { build := fun t => (p.build t).add.add.add.ways (4 + p.exits) }
  | 1, none => { endsInChoice := true, build := fun t => (p.build t).add.ways (1 + p.exits) }
  | n + 1, none =>
    { endsInChoice := true
      build := fun t => (p.build ((p.copies n).build t)).add.ways (1 + 2 * p.exits) }
  | 0, some 1 => { build := fun t => (p.build t.add).add.ways (2 + p.exits) }
  | n, some m =>
    if n = m then p.copies n
    else
      { build := fun t =>
          let t := ((p.copies n).build t).add.ways (if n = 0 then 0 else p.exits)
          Tally.rounds (fun t => (p.build t.add).ways (2 + p.exits)) (m - n) t }

end Plan

/-- The plans of the alternatives of a node. -/
def Node.plans (backward : Bool) : Node → List Plan
  | .empty => [.one]
  | .char set => [.ofChars backward set]
  | .byte set => [.ofByteSet set]
  | .look _ => [.one]
  | .seq a b =>
    [.seq backward (.choice backward (a.plans backward)) (.choice backward (b.plans backward))]
  | .alt a b => .choice backward (a.plans backward) :: b.plans backward
  | .repetition least most _ sub =>
    [.repeated least most (!sub.nullable) (.choice backward (sub.plans backward))]
  | .capture _ sub =>
    let p := Plan.choice backward (sub.plans backward)
    if backward then [{ p with literal := none }]
    else [{ build := fun t => (p.build t.add).add.ways p.exits }]

/-- Whether a match can only begin where the input begins. -/
def Node.startsText : Node → Bool
  | .look l => l = .start
  | .seq a b => a.startsText || (a.onlyEmpty && b.startsText)
  | .alt a b => a.startsText && b.startsText
  | .repetition least _ _ sub => least != 0 && sub.startsText
  | .capture _ sub => sub.startsText
  | _ => false

/-- Whether a match can only end where the input ends. -/
def Node.endsText : Node → Bool
  | .look l => l = .finish
  | .seq a b => b.endsText || (b.onlyEmpty && a.endsText)
  | .alt a b => a.endsText && b.endsText
  | .repetition least _ _ sub => least != 0 && sub.endsText
  | .capture _ sub => sub.endsText
  | _ => false

/-- The size of the program of a node.  If a match may begin anywhere, the program starts by skipping
bytes; reading forward, it reports where the match starts and ends. -/
def Node.size (backward : Bool) (n : Node) : Nat :=
  let fixed := if backward then n.endsText else n.startsText
  let skip : Tally := if fixed then .add {} else ⟨3, 16⟩
  let p := Plan.choice backward (n.plans backward)
  let t := if backward then (p.build skip).add else (p.build skip.add).add.add
  (t.ways p.exits).size

/-- Whether a node takes too much memory, read forward or backward. -/
def Node.isTooLarge (n : Node) : Bool :=
  Tally.limit < n.size false || Tally.limit < n.size true

end Transcripts.Pattern
