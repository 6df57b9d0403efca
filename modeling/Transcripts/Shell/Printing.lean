import Transcripts.Files
import Transcripts.Format

/-!
# Printing

The escapes of the shell's printing commands, and what a format makes of its arguments.
-/
namespace Transcripts.Shell.Printing

open Transcripts.Format (Spec Quantity)

/-! ## Escapes -/

/-- The letters that escape a control character. -/
def controls : List (Char × Char) :=
  [('a', '\x07'), ('b', '\x08'), ('e', '\x1b'), ('f', '\x0c'), ('n', '\n'), ('r', '\r'), ('t', '\t'),
    ('v', '\x0b'), ('\\', '\\')]

/-- Octal digits at the start of a text, at most `n`. -/
def octal (n : Nat) (s : Str) : Str := (s.take n).takeWhile (Whole.isDigit 8)

/-- The character of an octal number. -/
def octalChar (ds : Str) : Char := Char.ofNat (Str.ofDigits 8 ds % 256)

/-- What stands for an escape, after its backslash, and what follows it. -/
def escape (s : Str) : Str × Str :=
  match s with
  | [] => (['\\'], [])
  | c :: rest =>
    match controls.lookup c with
    | some d => ([d], rest)
    | none =>
      let ds := octal 3 s
      if ds.isEmpty then (['\\'], s) else ([octalChar ds], s.drop ds.length)

/-- A text with its escapes replaced, and whether one of them ends all output.  An octal number may have
a zero more in front. -/
def unescape : Nat → Str → Str × Bool
  | 0, _ => ([], false)
  | fuel + 1, s =>
    match s with
    | [] => ([], false)
    | '\\' :: 'c' :: _ => ([], true)
    | '\\' :: '0' :: rest =>
      let ds := octal 3 rest
      let (more, stop) := unescape fuel (rest.drop ds.length)
      (octalChar ds :: more, stop)
    | '\\' :: rest =>
      let (shown, rest) := escape rest
      let (more, stop) := unescape fuel rest
      (shown ++ more, stop)
    | c :: rest =>
      let (more, stop) := unescape fuel rest
      (c :: more, stop)

/-! ## Formats -/

/-- Output while a format is followed: what was written last first, the arguments that are left, what
is said about them, and whether output has ended. -/
structure State where
  shown : List Str := []
  args : List Str
  warnings : List Str := []
  stopped : Bool := false
  /-- Why the format cannot be followed any further. -/
  fault : Option Str := none

namespace State

def write (st : State) (s : Str) : State := { st with shown := s :: st.shown }

def warn (st : State) (arg : Str) (words : String) : State :=
  { st with warnings := st.warnings ++ [arg ++ Str.ofString (": " ++ words)] }

/-- Says what is wrong with an argument that was to be a number. -/
def check (st : State) (arg rest : Str) (found inRange : Bool) : State :=
  if !rest.isEmpty then
    st.warn arg (if found then "not completely converted" else "expected numeric value")
  else if !inRange then st.warn arg SystemFault.outOfRange.message
  else st

/-- Takes the next argument. -/
def next (st : State) : Option Str × State := (st.args.head?, { st with args := st.args.drop 1 })

/-- The value of a character behind a quote. -/
def character? (arg : Str) : Option Int :=
  match arg with
  | '"' :: rest => some ((rest.head?.map Char.toNat).getD 0)
  | '\'' :: rest => some ((rest.head?.map Char.toNat).getD 0)
  | _ => none

/-- The next argument as a whole number; one with a sign has less room. -/
def whole (st : State) (signed : Bool) : Int × State :=
  match st.next with
  | (none, st) => (0, st)
  | (some arg, st) =>
    match character? arg with
    | some n => (n, st)
    | none =>
      let r := Whole.read .told arg
      let inRange := if signed then Whole.fits r.value
        else r.value.natAbs < 0x10000000000000000
      let value := if inRange then r.value
        else if signed then Whole.clamp r.value else 0xFFFFFFFFFFFFFFFF
      (value, st.check arg (if arg.isEmpty then [] else r.rest) r.found inRange)

/-- The next argument as a number with a fraction. -/
def real (st : State) : Quantity × State :=
  let zero : Quantity := .finite false 0 1
  match st.next with
  | (none, st) => (zero, st)
  | (some arg, st) =>
    match character? arg with
    | some n => (.finite false n.toNat 1, st)
    | none =>
      match Format.real? arg with
      | some (x, rest) => (Format.double.round x, st.check arg rest true true)
      | none => (zero, st.check arg arg false true)

end State

/-- A number in a format, or the next argument in place of a star. -/
def amount (st : State) (s : Str) : Option Int × State × Str :=
  match s with
  | '*' :: rest =>
    let (n, st) := st.whole true
    (some n, st, rest)
  | s =>
    let ds := s.takeWhile Char.isDigit
    (if ds.isEmpty then none else some (Str.ofDigits 10 ds : Nat), st, s.drop ds.length)

/-- Takes up a width and a precision. -/
def sized (spec : Spec) (width precision : Option Int) : Spec :=
  let n := width.getD 0
  { spec with
    left := spec.left || n < 0
    width := n.natAbs
    precision := precision.bind fun n => if n < 0 then none else some n.toNat }

/-- Follows one conversion, whose letter comes with the text from its percent sign on. -/
def convert (st : State) (spec : Spec) (letter : Char) (directive : Str) : State :=
  match letter with
  | 's' =>
    let (arg, st) := st.next
    st.write (Format.textOf spec (arg.getD []))
  | 'c' =>
    let (arg, st) := st.next
    let c := ((arg.getD []).head?).getD '\x00'
    st.write (Format.textOf { spec with precision := none } [c])
  | 'b' =>
    let (arg, st) := st.next
    let s := arg.getD []
    let (shown, stopped) := unescape (s.length + 1) s
    { st.write (Format.textOf spec shown) with stopped }
  | _ =>
    if ['d', 'i', 'o', 'u', 'x', 'X'].contains letter then
      let (n, st) := st.whole (letter == 'd' || letter == 'i')
      st.write (Format.wholeOf spec letter n)
    else if ['a', 'A', 'e', 'E', 'f', 'F', 'g', 'G'].contains letter then
      let (x, st) := st.real
      st.write (Format.realOf Format.double spec letter x)
    else { st with stopped := true, fault := some (directive ++ ": invalid directive".toList) }

/-- Follows a format once. -/
def pass : Nat → Str → State → State
  | 0, _, st => st
  | fuel + 1, s, st =>
    if st.stopped then st
    else
      match s with
      | [] => st
      | '\\' :: rest =>
        let (shown, rest) := escape rest
        pass fuel rest (st.write shown)
      | '%' :: '%' :: rest => pass fuel rest (st.write ['%'])
      | '%' :: rest =>
        let (spec, after) := Format.flags {} rest
        let (width, st, after) := amount st after
        let (precision, st, after) := match after with
          | '.' :: after =>
            let (n, st, after) := amount st after
            (some (n.getD 0), st, after)
          | after => (none, st, after)
        match after with
        | [] => { st with stopped := true, fault := some "missing format character".toList }
        | letter :: after =>
          let directive := '%' :: rest.take (rest.length - after.length)
          pass fuel after (convert st (sized spec width precision) letter directive)
      | s =>
        let text := s.takeWhile fun c => c != '\\' && c != '%'
        pass fuel (s.drop text.length) (st.write text)

/-- Follows a format again as long as it takes arguments and there are some. -/
def repeatPass (format : Str) : Nat → State → State
  | 0, st => st
  | n + 1, st =>
    let before := st.args.length
    let st := pass (format.length + 1) format st
    if st.stopped || st.args.isEmpty || st.args.length = before then st
    else repeatPass format n st

/-- What a format makes of arguments. -/
def format (fmt : Str) (args : List Str) : State := repeatPass fmt (args.length + 1) { args }

end Transcripts.Shell.Printing
