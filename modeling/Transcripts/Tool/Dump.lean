import Transcripts.Tool

/-!
# Dumps

Bytes are shown in rows, each row in one or several forms: as numbers of some size in some base, as
characters, or by the names of characters.
-/
namespace Transcripts.Tool.Dump

/-- How the bytes of a row are shown. -/
inductive Form where
  | names
  | characters
  /-- Numbers without a sign in a base, filled up with zeros or not. -/
  | natural (base : Nat) (zeros : Bool)
  /-- Decimal numbers with a sign. -/
  | signed
deriving Repr, DecidableEq

/-- A form with the size of what it shows. -/
structure Spec where
  form : Form
  size : Nat
  /-- Characters follow behind the row. -/
  trailer : Bool := false
deriving Repr, DecidableEq

/-- The digits of the greatest number of some bytes. -/
def digitsOf (base size : Nat) : Nat := (Nat.toDigits base (Nat.pow 256 size - 1)).length

/-- The width of one item. -/
def Spec.width (s : Spec) : Nat :=
  match s.form with
  | .names => 3
  | .characters => 3
  | .natural base _ => digitsOf base s.size
  | .signed => (Nat.toDigits 10 (Nat.pow 256 s.size / 2)).length + 1

/-- The names of characters that cannot be shown. -/
def charNames : List String :=
  ["nul", "soh", "stx", "etx", "eot", "enq", "ack", "bel", "bs", "ht", "nl", "vt", "ff", "cr", "so", "si",
    "dle", "dc1", "dc2", "dc3", "dc4", "nak", "syn", "etb", "can", "em", "sub", "esc", "fs", "gs", "rs",
    "us", "sp"]

/-- The escapes of characters that have one. -/
def escapes : List (Char × String) :=
  [('\x00', "\\0"), ('\x07', "\\a"), ('\x08', "\\b"), ('\x0c', "\\f"), ('\n', "\\n"), ('\r', "\\r"),
    ('\t', "\\t"), ('\x0b', "\\v")]

/-- The number of some bytes, the lowest first. -/
def numberOf (bs : Str) : Nat := bs.foldr (fun c n => n * 256 + c.toNat) 0

/-- One item. -/
def Spec.item (s : Spec) (bs : Str) : Str :=
  let c := bs.headD '\x00'
  match s.form with
  | .names =>
    let n := c.toNat % 128
    if n = 127 then "del".toList else ((charNames[n]?).map String.toList).getD [Char.ofNat n]
  | .characters =>
    match escapes.lookup c with
    | some e => e.toList
    | none => if isOdd c then Str.padStart 3 '0' (Nat.toDigits 8 c.toNat) else [c]
  | .natural base zeros =>
    let ds := Nat.toDigits base (numberOf bs)
    if zeros then Str.padStart (digitsOf base s.size) '0' ds else ds
  | .signed =>
    let n := numberOf bs
    let limit := Nat.pow 256 s.size
    Str.integer (if limit / 2 ≤ n then (n : Int) - limit else n)

/-- How a dump is laid out. -/
structure Layout where
  specs : List Spec
  row : Nat := 16
  /-- The base and the width of addresses. -/
  address : Option (Nat × Nat) := some (8, 7)
  /-- Rows that repeat are shown too. -/
  repeats : Bool := false

def Layout.addressOf (l : Layout) (n : Nat) : Str :=
  match l.address with
  | some (base, width) => Str.padStart width '0' (Nat.toDigits base n)
  | none => []

/-- The width of a row of the widest form. -/
def Layout.rowWidth (l : Layout) : Nat :=
  l.specs.foldl (fun n s => max n ((s.width + 1) * (l.row / s.size))) 0

/-- Cuts into items. -/
def items (size : Nat) : Nat → Str → List Str
  | 0, _ => []
  | fuel + 1, bs => if bs.isEmpty then [] else bs.take size :: items size fuel (bs.drop size)

/-- One form of a row.  The bytes that are missing in the last item count as zeros. -/
def Layout.formOf (l : Layout) (s : Spec) (bs : Str) : Str :=
  let fields := l.row / s.size
  let pad := l.rowWidth - s.width * fields
  let cells := (items s.size (bs.length + 1) bs).zipIdx.map fun (item, k) =>
    let i := fields - k
    Str.padStart (pad * i / fields - pad * (i - 1) / fields + s.width) ' ' (s.item (Str.padEnd s.size '\x00' item))
  let trailer := if !s.trailer then [] else
    let blank := (l.row - bs.length) / s.size
    List.replicate (blank * s.width + pad * blank / fields) ' '
      ++ "  >".toList ++ bs.map (fun c => if isOdd c then '.' else c) ++ ['<']
  cells.flatten ++ trailer

/-- A row in all forms. -/
def Layout.rowOf (l : Layout) (place : Nat) (bs : Str) : Str :=
  let margin := List.replicate (l.addressOf 0).length ' '
  (l.specs.zipIdx.map fun (s, i) =>
    (if i = 0 then l.addressOf place else margin) ++ l.formOf s bs ++ ['\n']).flatten

/-- All rows; those that repeat the one before are shown by a star. -/
def Layout.rows (l : Layout) : Nat → Nat → Option Str → Bool → Str → Str
  | 0, _, _, _, _ => []
  | fuel + 1, place, before, starred, bs =>
    let row := bs.take l.row
    if row.isEmpty then []
    else
      let rest := bs.drop l.row
      if !l.repeats && before = some row && row.length = l.row then
        (if starred then [] else ['*', '\n']) ++ l.rows fuel (place + l.row) before true rest
      else l.rowOf place row ++ l.rows fuel (place + l.row) (some row) false rest

/-- A dump, with the address behind it. -/
def Layout.dump (l : Layout) (start : Nat) (bs : Str) : Str :=
  l.rows (bs.length + 1) start none false bs
    ++ (if l.address.isSome then l.addressOf (start + bs.length) ++ ['\n'] else [])

/-! ## Reading forms -/

/-- The size that is written behind a letter. -/
def sizeOf (s : Str) : Option (Nat × Str) :=
  match s with
  | 'C' :: rest => some (1, rest)
  | 'S' :: rest => some (2, rest)
  | 'I' :: rest => some (4, rest)
  | 'L' :: rest => some (8, rest)
  | s =>
    let ds := s.takeWhile Char.isDigit
    if ds.isEmpty then some (4, s)
    else
      let n := Str.ofDigits 10 ds
      if [1, 2, 4, 8].contains n then some (n, s.drop ds.length) else none

/-- The form of a letter for numbers. -/
def numberForm (c : Char) : Option Form :=
  match c with
  | 'd' => some .signed
  | 'o' => some (.natural 8 true)
  | 'u' => some (.natural 10 false)
  | 'x' => some (.natural 16 true)
  | _ => none

/-- The forms that a text asks for. -/
def specsOf (all : Str) : Nat → Str → Except Str (List Spec)
  | 0, _ => .ok []
  | _, [] => .ok []
  | fuel + 1, c :: rest => do
    let (form, size, rest) ← match c with
      | 'a' => pure (Form.names, 1, rest)
      | 'c' => pure (Form.characters, 1, rest)
      | c =>
        match numberForm c with
        | some form =>
          match sizeOf rest with
          | some (n, rest) => pure (form, n, rest)
          | none => .error ("invalid type string ".toList ++ marked all
              ++ ";\nthis system doesn't provide a ".toList ++ rest.takeWhile Char.isDigit
              ++ "-byte integral type".toList)
        | none => .error ("invalid character '".toList ++ [c] ++ "' in type string ".toList ++ marked all)
    let (trailer, rest) := match rest with
      | 'z' :: more => (true, more)
      | rest => (false, rest)
    return ⟨form, size, trailer⟩ :: (← specsOf all fuel rest)

/-- Options that stand for forms. -/
def shorthands : List (String × String) :=
  [("a", "a"), ("b", "o1"), ("c", "c"), ("d", "u2"), ("D", "u4"), ("h", "x2"), ("H", "x4"), ("i", "dI"),
    ("I", "d8"), ("l", "dL"), ("L", "d8"), ("o", "o2"), ("O", "o4"), ("s", "d2"), ("x", "x2"), ("X", "x4"),
    ("B", "o2")]

/-- A number of bytes, in any base and with a unit. -/
def byteCount? (s : Str) : Option Nat :=
  match s with
  | '0' :: 'x' :: ds =>
    let run := ds.takeWhile fun c => (Str.digit? c).any (· < 16)
    if run.length = ds.length && !run.isEmpty then some (Str.ofDigits 16 run) else none
  | '0' :: ds =>
    let run := ds.takeWhile fun c => '0' ≤ c && c ≤ '7'
    (unit? (ds.drop run.length)).map (Str.ofDigits 8 run * ·)
  | s => size? s

/-- Everything that some files hold, but for some bytes at the start. -/
def od (args : List Str) : Tool Unit := do
  let w ← words (shorthands.map (fun (id, _) => .short (id.toList.headD ' ') "" .nothing)
    ++ switches ["v:output-duplicates"] ++ values ["A:address-radix", "j:skip-bytes", "N:read-bytes",
      "t:format", "endian"] ++ [.short 'w' "width" .maybe, .short 'S' "strings" .value]) true 1 args
  let texts := w.options.filterMap fun (id, v) =>
    if id = "t" then v else (shorthands.lookup id).map String.toList
  let specs ← (if texts.isEmpty then ["o2".toList] else texts).mapM fun t =>
    match specsOf t (t.length + 1) t with
    | .ok specs => return specs
    | .error message => die 1 message
  let address ← match w.value? "A" with
    | none => pure (some (8, 7))
    | some ['d'] => pure (some (10, 7))
    | some ['o'] => pure (some (8, 7))
    | some ['x'] => pure (some (16, 6))
    | some ['n'] => pure none
    | some s => die 1 ("invalid output address radix '".toList ++ s.take 1
        ++ "'; it must be one character from [doxn]".toList)
  let number (id : String) : Tool (Option Nat) := do
    match w.value? id with
    | none => return none
    | some s =>
      match byteCount? s with
      | some n => return some n
      | none => die 1 (Str.ofString ("invalid -" ++ id ++ " argument ") ++ marked s)
  let skip := (← number "j").getD 0
  let limit ← number "N"
  let specs := specs.flatten
  let unit := specs.foldl (fun n s => Nat.lcm n s.size) 1
  let row ← match w.options.find? (·.1 == "w") with
    | none => pure (if unit ≤ 16 then 16 / unit * unit else unit)
    | some (_, none) => pure 32
    | some (_, some s) =>
      match Str.nat? s with
      | some n =>
        if n = 0 || n % unit != 0 then do
          warn (Str.ofString s!"warning: invalid width {n}; using {unit} instead")
          pure unit
        else pure n
      | none => die 1 ("invalid -w argument ".toList ++ marked s)
  let all ← contents w.operands
  if all.length < skip then die 1 "cannot skip past end of combined input".toList
  let bs := all.drop skip
  let bs := match limit with
    | some n => bs.take n
    | none => bs
  put ({ specs, row, address, repeats := w.has "v" : Layout }.dump skip bs)

end Transcripts.Tool.Dump
