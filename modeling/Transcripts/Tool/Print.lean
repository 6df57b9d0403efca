import Transcripts.Shell.Printing
import Transcripts.Tool

/-!
# Printing words

Words written one behind the other, or as a format says.  Numbers with a fraction have the digits of the
longer form here, and escapes may be written in hexadecimal digits as well.
-/
namespace Transcripts.Tool.Print

open Transcripts.Format (Spec Quantity)

/-! ## Escapes -/

/-- The character of hexadecimal digits. -/
def hexChar (ds : Str) : Char := Char.ofNat (Str.ofDigits 16 ds % 256)

/-- What is left of a text behind its first `n` characters if they are digits of a base, and these. -/
def digitsOf (base n : Nat) (s : Str) : Str × Str :=
  let ds := (s.take n).takeWhile (Whole.isDigit base)
  (ds, s.drop ds.length)

/-- The escapes of words as they are: what is shown, and whether output ends. -/
def unescape : Nat → Str → Str × Bool
  | 0, _ => ([], false)
  | fuel + 1, s =>
    let go (shown rest : Str) : Str × Bool :=
      let (more, stop) := unescape fuel rest
      (shown ++ more, stop)
    match s with
    | [] => ([], false)
    | ['\\'] => (['\\'], false)
    | '\\' :: 'c' :: _ => ([], true)
    | '\\' :: 'x' :: rest =>
      let (ds, after) := digitsOf 16 2 rest
      if ds.isEmpty then go ['\\', 'x'] rest else go [hexChar ds] after
    | '\\' :: '0' :: rest =>
      let (ds, after) := digitsOf 8 3 rest
      go [Shell.Printing.octalChar ds] after
    | '\\' :: c :: rest =>
      let (ds, after) := digitsOf 8 3 (c :: rest)
      if !ds.isEmpty then go [Shell.Printing.octalChar ds] after
      else
        match Shell.Printing.controls.lookup c with
        | some d => go [d] rest
        | none => go ['\\', c] rest
    | c :: rest => go [c] rest

/-- Whether a word is options only. -/
def isEchoOption (w : Str) : Bool :=
  match w with
  | '-' :: c :: cs => (c :: cs).all fun c => c == 'n' || c == 'e' || c == 'E'
  | _ => false

def echo (args : List Str) : Tool Unit := do
  if args = ["--help".toList] || args = ["--version".toList] then quit 0
  let options := args.takeWhile isEchoOption
  let letters := (options.map (·.drop 1)).flatten
  let text := (args.drop options.length |>.intersperse [' ']).flatten
  let escapes := (letters.filter (· != 'n')).getLast? == some 'e'
  let (shown, stop) := if escapes then unescape (text.length + 1) text else (text, false)
  put shown
  if !stop && !letters.contains 'n' then put ['\n']

/-! ## Formats -/

/-- What is said of an argument, which has to be a number. -/
def complain (arg rest : Str) (inRange : Bool) : Tool Unit := do
  if !inRange then fail (marked arg ++ Str.ofString (": " ++ SystemFault.outOfRange.message))
  else if !rest.isEmpty then
    fail (marked arg ++ (if rest.length = arg.length then ": expected a numeric value"
      else ": value not completely converted").toList)

/-- The value of a character behind a quote, if an argument is one. -/
def character? (arg : Str) : Option (Nat × Str) :=
  match arg with
  | '"' :: c :: rest => some (c.toNat, rest)
  | '\'' :: c :: rest => some (c.toNat, rest)
  | _ => none

/-- Says that something follows a character. -/
def warnAfter (rest : Str) : Tool Unit := do
  if !rest.isEmpty then
    warn ("warning: ".toList ++ rest
      ++ ": character(s) following character constant have been ignored".toList)

/-- An argument as a whole number; one with a sign has less room. -/
def whole (signed : Bool) (arg : Str) : Tool Int := do
  match character? arg with
  | some (n, rest) => do
    warnAfter rest
    return n
  | none => do
    let r := Whole.read .told arg
    let inRange := if signed then Whole.fits r.value else r.value.natAbs < 0x10000000000000000
    complain arg r.rest inRange
    return if inRange then r.value
      else if signed then Whole.clamp r.value else 0xFFFFFFFFFFFFFFFF

/-- An argument as a number with a fraction. -/
def real (arg : Str) : Tool Quantity := do
  match character? arg with
  | some (n, rest) => do
    warnAfter rest
    return .finite false n 1
  | none =>
    match Format.real? arg with
    | none => do
      complain arg arg true
      return .finite false 0 1
    | some (x, rest) => do
      complain arg rest true
      return Format.extended.round x

/-- An escape in a format, behind its backslash: what is shown and what follows. -/
def formatEscape (s : Str) : Tool (Str × Str) := do
  let short : Tool (Str × Str) := die 1 "missing hexadecimal number in escape".toList
  let named (letter : Char) (size : Nat) (rest : Str) : Tool (Str × Str) := do
    let (ds, after) := digitsOf 16 size rest
    if ds.length < size then short
    else
      let n := Str.ofDigits 16 ds
      if (n ≤ 0x9f && n != 0x24 && n != 0x40 && n != 0x60) || (0xd800 ≤ n && n ≤ 0xdfff) then
        die 1 ("invalid universal character name \\".toList ++ letter :: ds)
      else if n < 0x80 then return ([Char.ofNat n], after)
      else if n < 0x10000 then
        return ("\\u".toList ++ Str.padStart 4 '0' (Str.upper (Nat.toDigits 16 n)), after)
      else return ("\\U".toList ++ Str.padStart 8 '0' (Str.upper (Nat.toDigits 16 n)), after)
  match s with
  | [] => return (['\\'], [])
  | 'x' :: rest => do
    let (ds, after) := digitsOf 16 2 rest
    if ds.isEmpty then short else return ([hexChar ds], after)
  | 'u' :: rest => named 'u' 4 rest
  | 'U' :: rest => named 'U' 8 rest
  | 'c' :: _ => do
    let d ← desk
    quit d.status
  | '"' :: rest => return (['"'], rest)
  | c :: rest => do
    let (ds, after) := digitsOf 8 3 s
    if !ds.isEmpty then return ([Shell.Printing.octalChar ds], after)
    else
      match Shell.Printing.controls.lookup c with
      | some d => return ([d], rest)
      | none => return (['\\', c], rest)

/-- Shows an argument with its escapes. -/
def putEscaped : Nat → Str → Tool Unit
  | 0, _ => return ()
  | fuel + 1, s =>
    match s with
    | [] => return ()
    | '\\' :: '0' :: rest => do
      let (ds, after) := digitsOf 8 3 rest
      put [Shell.Printing.octalChar ds]
      putEscaped fuel after
    | '\\' :: rest => do
      let (shown, after) ← formatEscape rest
      put shown
      putEscaped fuel after
    | c :: rest => do
      put [c]
      putEscaped fuel rest

/-- The letters of conversions. -/
def conversions : Str := "aAcdeEfFgGiosuxX".toList

/-- The conversions that some flag cannot stand with. -/
def refusedWith : List (Char × String) :=
  [('\'', "aAceEosxX"), ('#', "cdisu"), ('0', "cs"), ('.', "c")]

/-- Whether a conversion can stand with some flags. -/
def isAllowed (flags : Str) (letter : Char) : Bool :=
  conversions.contains letter && flags.all fun f =>
    match refusedWith.lookup f with
    | some refused => !refused.toList.contains letter
    | none => true

/-- A width or a precision: a number, or the next argument in place of a star. -/
def amount (s : Str) (args : List Str) : Tool (Option Int × Str × List Str) := do
  match s with
  | '*' :: rest =>
    match args with
    | [] => return (some 0, rest, [])
    | a :: args => do
      let n ← whole true a
      return (some n, rest, args)
  | s =>
    let (ds, rest) := (s.takeWhile Char.isDigit, s.dropWhile Char.isDigit)
    return (if ds.isEmpty then none else some (Str.ofDigits 10 ds : Nat), rest, args)

/-- Shows an argument by a conversion. -/
def convert (spec : Spec) (letter : Char) (arg : Str) : Tool Unit := do
  if letter = 's' then put (Format.textOf spec arg)
  else if letter = 'c' then put (Format.textOf { spec with precision := none } [arg.headD '\x00'])
  else if "diouxX".toList.contains letter then
    let n ← whole (letter == 'd' || letter == 'i') arg
    put (Format.wholeOf spec letter n)
  else
    let x ← real arg
    put (Format.realOf Format.extended spec letter x)

/-- Follows a format once, and gives the arguments that are left. -/
def pass : Nat → Str → List Str → Tool (List Str)
  | 0, _, args => return args
  | fuel + 1, s, args =>
    match s with
    | [] => return args
    | '\\' :: rest => do
      let (shown, after) ← formatEscape rest
      put shown
      pass fuel after args
    | '%' :: '%' :: rest => do
      put ['%']
      pass fuel rest args
    | '%' :: 'b' :: rest => do
      let arg := args.headD []
      putEscaped (arg.length + 1) arg
      pass fuel rest (args.drop 1)
    | '%' :: 'q' :: rest => do
      if !args.isEmpty then put (nameOf (args.headD []))
      pass fuel rest (args.drop 1)
    | '%' :: rest => do
      let (spec, after) := Format.flags {} rest
      let flags := rest.take (rest.length - after.length)
      let (width, after, args) ← amount after args
      let (precision, flags, after, args) ← (match after with
        | '.' :: after => do
          let (n, after, args) ← amount after args
          return (some (n.getD 0), '.' :: flags, after, args)
        | after => return (none, flags, after, args))
      let after := after.dropWhile fun c => "lLhjtz".toList.contains c
      match after with
      | [] => die 1 ('%' :: rest ++ ": invalid conversion specification".toList)
      | letter :: after =>
        if !isAllowed flags letter then
          die 1 ('%' :: rest.take (rest.length - after.length)
            ++ ": invalid conversion specification".toList)
        else
          convert (Shell.Printing.sized spec width precision) letter (args.headD [])
          pass fuel after (args.drop 1)
    | s => do
      let text := s.takeWhile fun c => c != '\\' && c != '%'
      put text
      pass fuel (s.drop text.length) args

/-- Follows a format as long as it takes arguments and there are some; gives those that are left. -/
def repeatPass (format : Str) : Nat → List Str → Tool (List Str)
  | 0, args => return args
  | n + 1, args => do
    let rest ← pass (format.length + 1) format args
    if rest.isEmpty || rest.length = args.length then return rest
    else repeatPass format n rest

def printf (args : List Str) : Tool Unit := do
  if args = ["--help".toList] || args = ["--version".toList] then quit 0
  let args := if args.head? = some ['-', '-'] then args.drop 1 else args
  match args with
  | [] => misuse 1 "missing operand"
  | format :: args => do
    let rest ← repeatPass format (args.length + 1) args
    match rest with
    | [] => return ()
    | extra :: _ => warn ("warning: ignoring excess arguments, starting with ".toList ++ marked extra)

end Transcripts.Tool.Print
