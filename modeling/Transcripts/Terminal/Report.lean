import Transcripts.Str
import Transcripts.Terminal

/-!
# Settings as text

How the settings of a terminal are shown and changed by words.
-/
namespace Transcripts.Terminal.Report

/-- Where a mode acts. -/
inductive Kind where
  | control | input | output | local_
deriving Repr, DecidableEq

/-- A mode with the word that it is switched by. -/
structure Item where
  name : String
  mode : Mode
  kind : Kind
  /-- The mode is switched off by its word with a dash in front. -/
  reversible : Bool := true
  /-- How the mode is in a sane terminal, if that is fixed. -/
  sane : Option Bool := none
  /-- The mode has another word that it is shown by. -/
  hidden : Bool := false
  /-- The bits that stand for it. -/
  bits : Nat := 0

/-- An item that is switched off by a dash. -/
def flag (name : String) (mode : Mode) (kind : Kind) (sane : Option Bool) (bits : Nat) : Item :=
  { name, mode, kind, sane, bits }

/-- An item of which another one is chosen to switch it off. -/
def choice (name : String) (mode : Mode) (kind : Kind) (sane : Option Bool) (bits : Nat) : Item :=
  { name, mode, kind, sane, bits, reversible := false }

/-- One more word for a mode. -/
def another (name : String) (mode : Mode) (kind : Kind) : Item := { name, mode, kind, hidden := true }

/-- The modes in the order in which they are shown. -/
def items : List Item :=
  [flag "parenb" .parenb .control none 0x100, flag "parodd" .parodd .control none 0x200,
    flag "cmspar" .cmspar .control none 0x40000000, choice "cs5" .cs5 .control none 0,
    choice "cs6" .cs6 .control none 0x10, choice "cs7" .cs7 .control none 0x20,
    choice "cs8" .cs8 .control none 0x30, flag "hupcl" .hupcl .control none 0x400,
    another "hup" .hupcl .control, flag "cstopb" .cstopb .control none 0x40,
    flag "cread" .cread .control (some true) 0x80, flag "clocal" .clocal .control none 0x800,
    flag "crtscts" .crtscts .control none 0x80000000,
    flag "ignbrk" .ignbrk .input (some false) 0x1, flag "brkint" .brkint .input (some true) 0x2,
    flag "ignpar" .ignpar .input none 0x4, flag "parmrk" .parmrk .input none 0x8,
    flag "inpck" .inpck .input none 0x10, flag "istrip" .istrip .input none 0x20,
    flag "inlcr" .inlcr .input (some false) 0x40, flag "igncr" .igncr .input (some false) 0x80,
    flag "icrnl" .icrnl .input (some true) 0x100, flag "ixon" .ixon .input none 0x400,
    flag "ixoff" .ixoff .input (some false) 0x1000, another "tandem" .ixoff .input,
    flag "iuclc" .iuclc .input (some false) 0x200, flag "ixany" .ixany .input (some false) 0x800,
    flag "imaxbel" .imaxbel .input (some true) 0x2000, flag "iutf8" .iutf8 .input (some false) 0x4000,
    flag "opost" .opost .output (some true) 0x1, flag "olcuc" .olcuc .output (some false) 0x2,
    flag "ocrnl" .ocrnl .output (some false) 0x8, flag "onlcr" .onlcr .output (some true) 0x4,
    flag "onocr" .onocr .output (some false) 0x10, flag "onlret" .onlret .output (some false) 0x20,
    flag "ofill" .ofill .output (some false) 0x40, flag "ofdel" .ofdel .output (some false) 0x80,
    choice "nl1" .nl1 .output (some false) 0x100, choice "nl0" .nl0 .output (some true) 0,
    choice "cr3" .cr3 .output (some false) 0x600, choice "cr2" .cr2 .output (some false) 0x400,
    choice "cr1" .cr1 .output (some false) 0x200, choice "cr0" .cr0 .output (some true) 0,
    choice "tab3" .tab3 .output (some false) 0x1800, choice "tab2" .tab2 .output (some false) 0x1000,
    choice "tab1" .tab1 .output (some false) 0x800, choice "tab0" .tab0 .output (some true) 0,
    choice "bs1" .bs1 .output (some false) 0x2000, choice "bs0" .bs0 .output (some true) 0,
    choice "vt1" .vt1 .output (some false) 0x4000, choice "vt0" .vt0 .output (some true) 0,
    choice "ff1" .ff1 .output (some false) 0x8000, choice "ff0" .ff0 .output (some true) 0,
    flag "isig" .isig .local_ (some true) 0x1, flag "icanon" .icanon .local_ (some true) 0x2,
    flag "iexten" .iexten .local_ (some true) 0x8000, flag "echo" .echo .local_ (some true) 0x8,
    flag "echoe" .echoe .local_ (some true) 0x10, another "crterase" .echoe .local_,
    flag "echok" .echok .local_ (some true) 0x20, flag "echonl" .echonl .local_ (some false) 0x40,
    flag "noflsh" .noflsh .local_ (some false) 0x80, flag "xcase" .xcase .local_ (some false) 0x4,
    flag "tostop" .tostop .local_ (some false) 0x100, flag "echoprt" .echoprt .local_ (some false) 0x400,
    another "prterase" .echoprt .local_, flag "echoctl" .echoctl .local_ (some true) 0x200,
    another "ctlecho" .echoctl .local_, flag "echoke" .echoke .local_ (some true) 0x800,
    another "crtkill" .echoke .local_, flag "flusho" .flusho .local_ (some false) 0x1000,
    flag "extproc" .extproc .local_ (some false) 0x10000]

/-- The keys with the words that they are set by, and where they are kept. -/
def keys : List (String × Key × Nat) :=
  [("intr", .intr, 0), ("quit", .quit, 1), ("erase", .erase, 2), ("kill", .kill, 3), ("eof", .eof, 4),
    ("eol", .eol, 11), ("eol2", .eol2, 16), ("swtch", .swtch, 7), ("start", .start, 8),
    ("stop", .stop, 9), ("susp", .susp, 10), ("rprnt", .rprnt, 12), ("werase", .werase, 14),
    ("lnext", .lnext, 15), ("discard", .discard, 13), ("min", .min, 6), ("time", .time, 5)]

/-- Whether a key is a number and no byte. -/
def isNumber (k : Key) : Bool := k == .min || k == .time

/-! ## Showing -/

/-- A text that is built up from words, which are broken before the right edge. -/
structure Sheet where
  text : String := ""
  column : Nat := 0

def Sheet.add (width : Nat) (s : Sheet) (word : String) : Sheet :=
  if s.column = 0 then ⟨s.text ++ word, word.length⟩
  else if width < s.column + 1 + word.length then ⟨s.text ++ "\n" ++ word, word.length⟩
  else ⟨s.text ++ " " ++ word, s.column + 1 + word.length⟩

def Sheet.newline (s : Sheet) : Sheet := ⟨s.text ++ "\n", 0⟩

def Sheet.addAll (width : Nat) (s : Sheet) (words : List String) : Sheet :=
  words.foldl (Sheet.add width) s

/-- Words on lines of their own, if there are any. -/
def Sheet.line (width : Nat) (s : Sheet) (words : List String) : Sheet :=
  if words.isEmpty then s else (s.addAll width words).newline

/-- How the byte of a key is shown. -/
def visible (n : Nat) : String :=
  let low (n : Nat) : String :=
    if n < 32 then "^" ++ String.singleton (Char.ofNat (n + 64))
    else if n = 127 then "^?"
    else String.singleton (Char.ofNat n)
  if n = 0 then "<undef>" else if 128 ≤ n then "M-" ++ low (n - 128) else low n

/-- The speed of every line. -/
def speed : String := "speed 38400 baud;"

def keyWord (s : Settings) (name : String) (k : Key) : String :=
  name ++ " = " ++ visible (s.key k) ++ ";"

def waitWord (s : Settings) : String :=
  "min = " ++ toString (s.key .min) ++ "; time = " ++ toString (s.key .time) ++ ";"

/-- The items by the places where they act. -/
def byKind : List (List Item) :=
  [Kind.control, .input, .output, .local_].map fun k => items.filter fun i => i.kind == k && !i.hidden

/-- All settings. -/
def full (t : Terminal) (width : Nat) : String :=
  let s := t.settings
  let head := ({} : Sheet).line width
    [speed, "rows " ++ toString t.rows ++ ";", "columns " ++ toString t.columns ++ ";", "line = 0;"]
  let sheet := head.line width
    ((keys.filter (!isNumber ·.2.1)).map (fun (name, k, _) => keyWord s name k) ++ [waitWord s])
  let words (group : List Item) : List String := group.filterMap fun i =>
    if s.has i.mode then some i.name else if i.reversible then some ("-" ++ i.name) else none
  (byKind.foldl (fun sheet group => sheet.line width (words group)) sheet).text

/-- The settings that are not those of a sane terminal. -/
def unusual (t : Terminal) (width : Nat) : String :=
  let s := t.settings
  let head := ({} : Sheet).line width [speed, "line = 0;"]
  let changed := (keys.filter fun (_, k, _) => !isNumber k && s.key k != Settings.usual.key k).map
    fun (name, k, _) => keyWord s name k
  let sheet := head.line width (changed ++ if s.has .icanon then [] else [waitWord s])
  let words (group : List Item) : List String := group.filterMap fun i =>
    if s.has i.mode then if i.sane = some false then some i.name else none
    else if i.sane = some true ∧ i.reversible then some ("-" ++ i.name)
    else none
  (byKind.foldl (fun sheet group => sheet.line width (words group)) sheet).text

/-- The bits of the modes that are on, for one place. -/
def bitsOf (s : Settings) (k : Kind) : Nat :=
  items.foldl (fun n i => if i.kind = k ∧ !i.hidden ∧ s.has i.mode then n ||| i.bits else n)
    (if k = .control then 0xF else 0)

def hex (n : Nat) : String := String.ofList (Nat.toDigits 16 n)

/-- How many bytes there is room for. -/
def keyRoom : Nat := 32

/-- The settings in a form that can be set again. -/
def saved (s : Settings) : String :=
  let flags := [Kind.input, .output, .control, .local_].map (bitsOf s)
  let bytes := (List.range keyRoom).map fun place =>
    ((keys.find? fun (_, _, p) => p == place).map fun (_, k, _) => s.key k).getD 0
  String.intercalate ":" ((flags ++ bytes).map hex)

/-! ## Changing -/

/-- A number in hexadecimal digits. -/
def hex? (s : Str) : Option Nat :=
  if s.isEmpty || !s.all (fun c => c.isDigit || ('a' ≤ c && c ≤ 'f') || ('A' ≤ c && c ≤ 'F')) then none
  else some (Str.ofDigits 16 s)

/-- Whether bits for a place have an item on. -/
def Item.isOn (i : Item) (bits : Nat) : Bool :=
  let mask := match i.mode.choice? with
    | some ms => items.foldl (fun n j => if ms.contains j.mode then n ||| j.bits else n) 0
    | none => i.bits
  bits &&& mask == i.bits

/-- The settings that a saved form means. -/
def recover? (s : Str) : Option Settings := do
  let numbers ← (Text.splitOnChar ':' s).mapM hex?
  if numbers.length ≠ 4 + keyRoom then none
  let bits (k : Kind) : Nat := match k with
    | .input => numbers.getD 0 0
    | .output => numbers.getD 1 0
    | .control => numbers.getD 2 0
    | .local_ => numbers.getD 3 0
  some
    { modes := (items.filter fun i => !i.hidden && i.isOn (bits i.kind)).map (·.mode)
      keys := keys.map fun (_, k, place) => (k, numbers.getD (4 + place) 0) }

/-- Switches some modes. -/
def switchAll (s : Settings) (on off : List Mode) : Settings :=
  off.foldl Settings.switchOff (on.foldl Settings.switchOn s)

/-- The settings of a sane terminal, as far as they are fixed. -/
def sane (s : Settings) : Settings :=
  let s := items.foldl (fun s i => match i.sane with
    | some true => s.switchOn i.mode
    | some false => if i.reversible then s.switchOff i.mode else s
    | none => s) s
  { s with keys := Settings.usual.keys }

/-- Settings that no bytes are changed by, as far as a word says so. -/
def raw (s : Settings) : Settings :=
  let input := (items.filter (·.kind == .input)).map (·.mode)
  ((switchAll s [] (input ++ [.opost, .isig, .icanon, .xcase])).setKey .min 1).setKey .time 0

def cooked (s : Settings) : Settings :=
  switchAll s [.brkint, .ignpar, .istrip, .icrnl, .ixon, .opost, .isig, .icanon] []

/-- What a word for several settings does; it may be taken back by a dash. -/
def combination? (word : String) (off : Bool) (s : Settings) : Option Settings :=
  match word with
  | "evenp" => some (if off then switchAll s [.cs8] [.parenb] else switchAll s [.parenb, .cs7] [.parodd])
  | "parity" => some (if off then switchAll s [.cs8] [.parenb] else switchAll s [.parenb, .cs7] [.parodd])
  | "oddp" => some (if off then switchAll s [.cs8] [.parenb] else switchAll s [.cs7, .parodd, .parenb] [])
  | "nl" => some (if off then switchAll s [.icrnl, .onlcr] [.inlcr, .igncr, .ocrnl, .onlret]
      else switchAll s [] [.icrnl, .onlcr])
  | "cooked" => some (if off then raw s else cooked s)
  | "raw" => some (if off then cooked s else raw s)
  | "cbreak" => some (s.switch .icanon off)
  | "pass8" => some (if off then switchAll s [.parenb, .cs7, .istrip] []
      else switchAll s [.cs8] [.parenb, .istrip])
  | "litout" => some (if off then switchAll s [.parenb, .cs7, .istrip, .opost] []
      else switchAll s [.cs8] [.parenb, .istrip, .opost])
  | "decctlq" => some (s.switch .ixany off)
  | "tabs" => some (s.switchOn (if off then .tab3 else .tab0))
  | "lcase" => some (if off then switchAll s [] [.xcase, .iuclc, .olcuc]
      else switchAll s [.xcase, .iuclc, .olcuc] [])
  | "LCASE" => some (if off then switchAll s [] [.xcase, .iuclc, .olcuc]
      else switchAll s [.xcase, .iuclc, .olcuc] [])
  | "ek" => if off then none else
      some ((s.setKey .erase (Settings.usual.key .erase)).setKey .kill (Settings.usual.key .kill))
  | "sane" => if off then none else some (sane s)
  | "crt" => if off then none else some (switchAll s [.echoe, .echoctl, .echoke] [])
  | "dec" => if off then none else
      some (((switchAll s [.echoe, .echoctl, .echoke] [.ixany]).setKey .intr 3).setKey .erase 127
        |>.setKey .kill 21)
  | _ => none

/-- Why a word changes no setting. -/
inductive Fault where
  | unknown (word : Str)
  | missing (word : Str)
  | notANumber (word : Str)
deriving Repr, DecidableEq

def Fault.message : Fault → String
  | unknown word => "invalid argument '" ++ Str.toString word ++ "'"
  | missing word => "missing argument to '" ++ Str.toString word ++ "'"
  | notANumber word => "invalid integer argument: '" ++ Str.toString word ++ "'"

/-- A number: hexadecimal, octal or decimal by how it starts. -/
def number? (s : Str) : Option Nat :=
  match s with
  | '0' :: x :: rest =>
    if x = 'x' ∨ x = 'X' then hex? rest
    else if (x :: rest).all fun c => '0' ≤ c && c ≤ '7' then some (Str.ofDigits 8 (x :: rest))
    else none
  | s => Str.nat? s

/-- The byte that a word gives to a key. -/
def keyByte (word : Str) : Except Fault Nat :=
  match word with
  | [] => .ok 0
  | [c] => .ok c.toNat
  | ['^', '-'] => .ok 0
  | ['^', '?'] => .ok 127
  | '^' :: c :: _ => .ok (c.toNat &&& 0x9F)
  | word =>
    if word = "undef".toList then .ok 0
    else
      match number? word with
      | some n => if n < 256 then .ok n else .error (.notANumber word)
      | none => .error (.notANumber word)

/-- Changes the settings by one word, and perhaps by the next one as its value; also the words that are
left. -/
def changeOne (t : Terminal) (word : Str) (rest : List Str) : Except Fault (Terminal × List Str) :=
  let name := String.ofList word
  let (off, bare) := match word with
    | '-' :: bare => (true, String.ofList bare)
    | _ => (false, name)
  let s := t.settings
  let value : Except Fault (Str × List Str) := match rest with
    | v :: rest => .ok (v, rest)
    | [] => .error (.missing word)
  let number : Except Fault (Nat × List Str) := do
    let (v, rest) ← value
    match number? v with
    | some n => return (n, rest)
    | none => throw (.notANumber v)
  match items.find? fun i => i.name == bare && (!off || i.reversible) with
  | some i => .ok ({ t with settings := s.switch i.mode (!off) }, rest)
  | none =>
    match combination? bare off s with
    | some s => .ok ({ t with settings := s }, rest)
    | none =>
      match if off then none else keys.find? (·.1 == name) with
      | some (_, k, _) => do
        if isNumber k then
          let (n, rest) ← number
          return ({ t with settings := s.setKey k n }, rest)
        else
          let (v, rest) ← value
          return ({ t with settings := s.setKey k (← keyByte v) }, rest)
      | none =>
        if name = "rows" then number.map fun (n, rest) => ({ t with rows := n }, rest)
        else if name = "cols" ∨ name = "columns" then
          number.map fun (n, rest) => ({ t with columns := n }, rest)
        else if name = "line" ∨ name = "ispeed" ∨ name = "ospeed" then
          number.map fun (_, rest) => (t, rest)
        else if bare = "drain" then .ok (t, rest)
        else
          match recover? word with
          | some s => .ok ({ t with settings := s }, rest)
          | none => .error (.unknown word)

/-- Changes the settings by words. -/
def change (t : Terminal) : Nat → List Str → Except Fault Terminal
  | 0, _ => .ok t
  | _, [] => .ok t
  | fuel + 1, word :: rest => do
    let (t, rest) ← changeOne t word rest
    change t fuel rest

/-- The settings that a line without wires can take. -/
def possible (s : Settings) : Settings :=
  switchAll s [.cs8, .cread] [.parenb]

end Transcripts.Terminal.Report
