import Transcripts.Signal
import Transcripts.Terminal.Settings

/-!
# Terminals

What stands between a session and its interpreter.  Typed bytes are shown again as they are typed and
collected into lines, which the interpreter can read once they are complete; what the interpreter writes
gets its line ends completed.
-/
namespace Transcripts

open Transcripts.Text (Bytes)

structure Terminal where
  rows : Nat := 24
  columns : Nat := 80
  settings : Settings := .usual
  /-- The line that is being typed, last byte first. -/
  line : Bytes := []
  /-- What can be read: lines, and an empty entry for each end of the input. -/
  ready : List Bytes := []
  /-- The next byte loses its meaning. -/
  literal : Bool := false
  /-- A line is being taken back between marks. -/
  erasing : Bool := false
  /-- Nothing is shown until it is asked for again. -/
  stopped : Bool := false
  column : Nat := 0
  /-- The column that the line starts in. -/
  lineColumn : Nat := 0
  /-- What is to be shown of typed bytes, last byte first. -/
  echoed : Bytes := []
deriving Repr, DecidableEq

namespace Terminal

def has (t : Terminal) (m : Mode) : Bool := t.settings.has m

def isKey (t : Terminal) (k : Key) (b : UInt8) : Bool := t.settings.isKey k b

def isCanonical (t : Terminal) : Bool := t.has .icanon

/-! ## Output -/

def isControl (b : UInt8) : Bool := b < 0x20 || b = 0x7F

/-- Whether a byte only continues a character. -/
def continues (t : Terminal) (b : UInt8) : Bool := t.has .iutf8 && 0x80 ≤ b && b < 0xC0

def upperByte (b : UInt8) : UInt8 :=
  if (0x61 ≤ b && b ≤ 0x7A) || (0xE0 ≤ b && b ≤ 0xFE && b != 0xF7) then b - 0x20 else b

def lowerByte (b : UInt8) : UInt8 :=
  if (0x41 ≤ b && b ≤ 0x5A) || (0xC0 ≤ b && b ≤ 0xDE && b != 0xD7) then b + 0x20 else b

/-- Columns to the next tab stop. -/
def toTab (column : Nat) : Nat := 8 - column % 8

/-- What is shown for one byte, and the terminal after it. -/
def put (t : Terminal) (b : UInt8) : Bytes × Terminal :=
  if !t.has .opost then ([b], t)
  else if b = 0x0A then
    let t := if t.has .onlret then { t with column := 0 } else t
    if t.has .onlcr then ([0x0D, 0x0A], { t with column := 0, lineColumn := 0 })
    else ([b], { t with lineColumn := t.column })
  else if b = 0x0D then
    if t.has .onocr && t.column == 0 then ([], t)
    else if t.has .ocrnl then
      ([0x0A], if t.has .onlret then { t with column := 0, lineColumn := 0 } else t)
    else ([b], { t with column := 0, lineColumn := 0 })
  else if b = 0x09 then
    let n := toTab t.column
    (if t.has .tab3 then List.replicate n 0x20 else [b], { t with column := t.column + n })
  else if b = 0x08 then ([b], { t with column := t.column - 1 })
  else if isControl b then ([b], t)
  else
    ([if t.has .olcuc then upperByte b else b],
      if t.continues b then t else { t with column := t.column + 1 })

/-- What is shown for output, last byte first. -/
def putAll (t : Terminal) (shown : Bytes) : Bytes → Bytes × Terminal
  | [] => (shown, t)
  | b :: bs =>
    let (out, t) := t.put b
    putAll t (out.reverse ++ shown) bs

/-- What is shown for output, and the terminal after it. -/
def write (t : Terminal) (bs : Bytes) : Bytes × Terminal :=
  let (shown, t) := t.putAll [] bs
  (shown.reverse, t)

/-! ## Showing typed bytes -/

/-- Shows a byte as if it were written. -/
def echoRaw (t : Terminal) (b : UInt8) : Terminal :=
  let (out, t) := t.put b
  { t with echoed := out.reverse ++ t.echoed }

def echoAll (t : Terminal) (bs : Bytes) : Terminal := bs.foldl echoRaw t

/-- Shows a typed byte; a control byte by a mark and a letter. -/
def echoByte (t : Terminal) (b : UInt8) : Terminal :=
  if t.has .echoctl && isControl b && b != 0x09 then
    { t with echoed := (b ^^^ 0x40) :: 0x5E :: t.echoed, column := t.column + 2 }
  else t.echoRaw b

/-- Ends the marks around what was taken back. -/
def finishErasing (t : Terminal) : Terminal :=
  if t.erasing then { t.echoRaw 0x2F with erasing := false } else t

/-- Notes the column that a line starts in. -/
def markLine (t : Terminal) : Terminal :=
  if t.line.isEmpty then { t with lineColumn := t.column } else t

/-- Shows a byte of a line, if typed bytes are shown. -/
def echoTyped (t : Terminal) (b : UInt8) : Terminal :=
  if t.has .echo then t.finishErasing.markLine.echoByte b else t

/-- What was shown and is still held back. -/
def drain (t : Terminal) : Bytes × Terminal :=
  if t.stopped then ([], t) else (t.echoed.reverse, { t with echoed := [] })

/-! ## Taking back -/

/-- Whether a byte belongs to a word. -/
def isWordByte (b : UInt8) : Bool :=
  (0x30 ≤ b && b ≤ 0x39) || (0x41 ≤ b && b ≤ 0x5A) || (0x61 ≤ b && b ≤ 0x7A) || b = 0x5F
    || (0xC0 ≤ b && b != 0xD7 && b != 0xF7)

/-- The columns of a line back to the last tab, and whether there is one. -/
def columnsBack (t : Terminal) : Bytes → Nat × Bool
  | [] => (0, false)
  | b :: rest =>
    if b = 0x09 then (0, true)
    else
      let (n, tab) := columnsBack t rest
      if isControl b then (if t.has .echoctl then n + 2 else n, tab)
      else if t.continues b then (n, tab)
      else (n + 1, tab)

/-- Takes the showing of one character back, which came after the rest of the line. -/
def unshow (t : Terminal) (byErase : Bool) (char rest : Bytes) : Terminal :=
  let b := char.headD 0
  if !t.has .echo then t
  else if t.has .echoprt then
    let t := if t.erasing then t else { t.echoRaw 0x5C with erasing := true }
    (t.echoByte b).echoAll char.tail
  else if byErase && !t.has .echoe then t.echoByte (UInt8.ofNat (t.settings.key .erase))
  else if b = 0x09 then
    let (n, tab) := t.columnsBack rest
    let n := if tab then n else n + t.lineColumn
    let back := toTab n
    { t with echoed := List.replicate back 0x08 ++ t.echoed, column := t.column - back }
  else
    let blot : Bytes := [0x08, 0x20, 0x08]
    let t := if isControl b && t.has .echoctl then t.echoAll blot else t
    if !isControl b || t.has .echoctl then t.echoAll blot else t

/-- The last character of a line that is given last byte first, and the rest; none if it breaks off. -/
def lastChar (t : Terminal) : Bytes → Option (Bytes × Bytes)
  | [] => none
  | b :: rest =>
    if t.continues b then (lastChar t rest).map fun (char, rest) => (char ++ [b], rest)
    else some ([b], rest)

/-- What is taken back at once. -/
inductive Extent where
  | character | word | line
deriving Repr, DecidableEq

/-- Takes characters back. -/
def eraseFrom (extent : Extent) : Nat → Bool → Terminal → Terminal
  | 0, _, t => t
  | fuel + 1, inWord, t =>
    match t.lastChar t.line with
    | none => t
    | some (char, rest) =>
      let word := isWordByte (char.headD 0)
      if extent = .word && inWord && !word then t
      else
        let t := { t with line := rest }.unshow (extent == Extent.character) char rest
        if extent = .character then t else eraseFrom extent fuel (inWord || word) t

def erase (t : Terminal) (extent : Extent) : Terminal :=
  if t.line.isEmpty then t
  else if extent = .line && !t.has .echo then { t with line := [] }
  else if extent = .line && !(t.has .echok && t.has .echoke && t.has .echoe) then
    let t := ({ t with line := [] }.finishErasing).echoByte (UInt8.ofNat (t.settings.key .kill))
    if t.has .echok then t.echoRaw 0x0A else t
  else
    let t := eraseFrom extent (t.line.length + 1) false t
    if t.line.isEmpty && t.has .echo then t.finishErasing else t

/-! ## Typing -/

/-- Makes some bytes readable. -/
def push (t : Terminal) (bs : Bytes) : Terminal := { t with ready := t.ready ++ [bs] }

/-- Ends the line with some bytes more. -/
def endLine (t : Terminal) (bs : Bytes) : Terminal :=
  { t.push (t.line.reverse ++ bs) with line := [] }

/-- The most bytes that a line holds before its end. -/
def lineLimit : Nat := 4095

/-- Adds a byte to what is typed; what does not fit into a line is only shown. -/
def insert (t : Terminal) (b : UInt8) : Terminal :=
  if t.isCanonical then
    if t.line.length < lineLimit then { t with line := b :: t.line } else t
  else t.push [b]

/-- Types a byte that is no command. -/
def typeText (t : Terminal) (b : UInt8) : Terminal :=
  let t := if b = 0x0A && t.has .echo then t.finishErasing.echoRaw b else t.echoTyped b
  let t := if b = 0xFF && t.has .parmrk then t.insert b else t
  t.insert b

/-- The signal that a typed byte sends. -/
def signalOf (t : Terminal) (b : UInt8) : Option Signal :=
  if !t.has .isig then none
  else if t.isKey .intr b then some .interrupt
  else if t.isKey .quit b then some .quit
  else if t.isKey .susp b then some .suspend
  else none

/-- Forgets what was typed and what is still to be shown of it, unless it is to be kept. -/
def forget (t : Terminal) : Terminal :=
  if t.has .noflsh then t else { t with line := [], ready := [], echoed := [] }

/-- Does what a byte commands in lines that can be corrected; none if it is no command. -/
def edit? (t : Terminal) (b : UInt8) : Option Terminal :=
  let extended := t.has .iexten
  if t.isKey .erase b then some (t.erase .character)
  else if t.isKey .kill b then some (t.erase .line)
  else if t.isKey .werase b && extended then some (t.erase .word)
  else if t.isKey .lnext b && extended then
    let t := if t.has .echo then
        let t := t.finishErasing
        if t.has .echoctl then t.echoAll [0x5E, 0x08] else t
      else t
    some { t with literal := true }
  else if t.isKey .rprnt b && t.has .echo && extended then
    let t := (t.finishErasing.echoByte b).echoRaw 0x0A
    some (t.line.reverse.foldl echoByte t)
  else if b = 0x0A then
    let t := if t.has .echo || t.has .echonl then t.echoRaw b else t
    some (t.endLine [b])
  else if t.isKey .eof b then some (t.endLine [])
  else if t.isKey .eol b || (t.isKey .eol2 b && extended) then
    let t := if t.has .echo then t.markLine.echoByte b else t
    some (t.endLine [b])
  else none

/-- A byte as the terminal takes it: some modes change every byte. -/
def taken (t : Terminal) (b : UInt8) : UInt8 :=
  let b := if t.has .istrip then b &&& 0x7F else b
  if t.has .iuclc && t.has .iexten then lowerByte b else b

/-- Types a byte that has not lost its meaning. -/
def typeMeant (t : Terminal) (b : UInt8) : Terminal × Option Signal :=
  if t.has .ixon && t.isKey .start b then ({ t with stopped := false }, none)
  else if t.has .ixon && t.isKey .stop b then ({ t with stopped := true }, none)
  else
    match t.signalOf b with
    | some s =>
      let t := t.forget
      let t := if t.has .ixon then { t with stopped := false } else t
      (if t.has .echo then t.echoByte b else t, some s)
    | none =>
      let t := if t.has .ixon && t.has .ixany then { t with stopped := false } else t
      if b = 0x0D && t.has .igncr then (t, none)
      else
        let b := if b = 0x0D && t.has .icrnl then 0x0A
          else if b = 0x0A && t.has .inlcr then 0x0D
          else b
        match if t.isCanonical then t.edit? b else none with
        | some t => (t, none)
        | none => (t.typeText b, none)

/-- Types one byte. -/
def typeByte (t : Terminal) (b : UInt8) : Terminal × Option Signal :=
  let b := t.taken b
  if t.literal then ({ t with literal := false }.typeText b, none) else t.typeMeant b

/-- Types bytes in order, and collects the signals that are sent. -/
def type (t : Terminal) : Bytes → Terminal × List Signal
  | [] => (t, [])
  | b :: bs =>
    let (t, signal) := t.typeByte b
    let (t, signals) := type t bs
    (t, signal.toList ++ signals)

/-! ## Reading -/

/-- What reading comes to now. -/
inductive Reading where
  | bytes (bs : Bytes) (t : Terminal)
  /-- There is nothing to read yet, and perhaps some time after which the wait is over. -/
  | wait (millis : Option Nat)

/-- Takes at most some bytes of what can be read. -/
def read (t : Terminal) (count : Nat) : Reading :=
  if t.isCanonical then
    match t.ready with
    | [] => .wait none
    | bs :: rest =>
      if bs.length ≤ count then .bytes bs { t with ready := rest }
      else .bytes (bs.take count) { t with ready := bs.drop count :: rest }
  else
    let all := t.ready.flatten
    let least := min (t.settings.key .min) count
    let time := t.settings.key .time
    if !all.isEmpty && least ≤ all.length then
      let rest := all.drop count
      .bytes (all.take count) { t with ready := if rest.isEmpty then [] else [rest] }
    else if t.settings.key .min = 0 then
      if time = 0 then .bytes [] t else .wait (some (time * 100))
    else .wait none

/-- Changes the settings.  What was typed can be read in the new way. -/
def configure (t : Terminal) (s : Settings) : Terminal :=
  let wasCanonical := t.isCanonical
  let t := { t with settings := s }
  let t := if s.has .ixon then t else { t with stopped := false }
  if wasCanonical == t.isCanonical then t
  else
    let all := t.ready.flatten ++ t.line.reverse
    { t with ready := if all.isEmpty then [] else [all], line := [], literal := false, erasing := false }

end Terminal

end Transcripts
