import Transcripts.Json

/-!
# Reading JSON

The grammar is read strictly: no control characters inside strings, no surrogate without its partner,
no leading zeros, nothing after the value.
-/
namespace Transcripts.Json

/-- Blanks between tokens. -/
def isSpace (c : Char) : Bool := c == ' ' || c == '\n' || c == '\t' || c == '\r'

def skipSpace (cs : List Char) : List Char := cs.dropWhile isSpace

/-- The value of a hexadecimal digit. -/
def hexValue? (c : Char) : Option Nat :=
  if '0' ≤ c ∧ c ≤ '9' then some (c.toNat - '0'.toNat)
  else if 'a' ≤ c ∧ c ≤ 'f' then some (c.toNat - 'a'.toNat + 10)
  else if 'A' ≤ c ∧ c ≤ 'F' then some (c.toNat - 'A'.toNat + 10)
  else none

/-- The number that four hexadecimal digits write. -/
def unit? (a b c d : Char) : Option Nat := do
  return (((← hexValue? a) * 16 + (← hexValue? b)) * 16 + (← hexValue? c)) * 16 + (← hexValue? d)

/-- The character of two surrogates, if they belong together. -/
def paired? (high low : Nat) : Option Char :=
  if 0xD800 ≤ high ∧ high < 0xDC00 ∧ 0xDC00 ≤ low ∧ low < 0xE000 then
    some (Char.ofNat (0x10000 + (high - 0xD800) * 0x400 + (low - 0xDC00)))
  else none

/-- The character that a letter after a backslash stands for. -/
def escape? : Char → Option Char
  | '"' => some '"'
  | '\\' => some '\\'
  | '/' => some '/'
  | 'b' => some '\x08'
  | 'f' => some '\x0c'
  | 'n' => some '\n'
  | 'r' => some '\r'
  | 't' => some '\t'
  | _ => none

/-- Reads a string after its opening quote; `done` holds its characters so far, last first. -/
def readString (done : List Char) : List Char → Option (List Char × List Char)
  | '"' :: cs => some (done.reverse, cs)
  | '\\' :: 'u' :: a :: b :: c :: d :: '\\' :: 'u' :: e :: f :: g :: h :: cs =>
    match unit? a b c d with
    | none => none
    | some u =>
      if u < 0xD800 ∨ 0xE000 ≤ u then
        readString (Char.ofNat u :: done) ('\\' :: 'u' :: e :: f :: g :: h :: cs)
      else
        match unit? e f g h >>= paired? u with
        | none => none
        | some x => readString (x :: done) cs
  | '\\' :: 'u' :: a :: b :: c :: d :: cs =>
    match unit? a b c d with
    | none => none
    | some u => if u < 0xD800 ∨ 0xE000 ≤ u then readString (Char.ofNat u :: done) cs else none
  | '\\' :: c :: cs =>
    match escape? c with
    | none => none
    | some x => readString (x :: done) cs
  | c :: cs => if c.toNat < 0x20 then none else readString (c :: done) cs
  | [] => none

/-- Reads digits. -/
def readDigits (cs : List Char) : List Char × List Char := cs.span Char.isDigit

/-- Reads the exponent of a number, if it has one. -/
def readExponent (cs : List Char) : Option (Option Int × List Char) :=
  match cs with
  | c :: cs' =>
    if c = 'e' ∨ c = 'E' then
      let (negative, cs') := match cs' with
        | '-' :: r => (true, r)
        | '+' :: r => (false, r)
        | r => (false, r)
      match readDigits cs' with
      | ([], _) => none
      | (ds, rest) =>
        let n : Int := Numeral.ofDigits ds
        some (some (if negative then -n else n), rest)
    else some (none, cs)
  | [] => some (none, [])

/-- Reads the digits after the point of a number, if it has one. -/
def readFraction (cs : List Char) : Option (Option (List Char) × List Char) :=
  match cs with
  | '.' :: cs' =>
    match readDigits cs' with
    | ([], _) => none
    | (ds, rest) => some (some ds, rest)
  | cs => some (none, cs)

/-- Reads a number. -/
def readNumber (cs : List Char) : Option (Numeral × List Char) := do
  let (negative, cs) := match cs with
    | '-' :: cs => (true, cs)
    | cs => (false, cs)
  let (whole, cs) := readDigits cs
  match whole with
  | [] => none
  | '0' :: _ :: _ => none
  | whole =>
    let (fraction, cs) ← readFraction cs
    let (exponent, cs) ← readExponent cs
    return (⟨negative, whole, fraction.getD [], exponent.getD 0,
      fraction.isNone && exponent.isNone⟩, cs)

/-- Passes over a text, if it comes next. -/
def expect (key cs : List Char) : Option (List Char) :=
  if key.isPrefixOf cs then some (cs.drop key.length) else none

mutual

/-- Reads a value.  Every value within another takes at least one character, so the number of
characters is fuel enough. -/
def readValue : Nat → List Char → Option (Json × List Char)
  | 0, _ => none
  | fuel + 1, cs =>
    match skipSpace cs with
    | 'n' :: cs => (expect "ull".toList cs).map (Json.null, ·)
    | 't' :: cs => (expect "rue".toList cs).map (Json.bool true, ·)
    | 'f' :: cs => (expect "alse".toList cs).map (Json.bool false, ·)
    | '"' :: cs => (readString [] cs).map fun (s, rest) => (Json.string (String.ofList s), rest)
    | '[' :: cs =>
      match skipSpace cs with
      | ']' :: rest => some (.array [], rest)
      | cs => (readItems fuel cs).map fun (items, rest) => (Json.array items, rest)
    | '\x7b' :: cs =>
      match skipSpace cs with
      | '\x7d' :: rest => some (.object [], rest)
      | cs => (readMembers fuel cs).map fun (members, rest) => (Json.object members, rest)
    | cs => (readNumber cs).map fun (n, rest) => (Json.number n, rest)

/-- Reads the items of an array, of which there is at least one, and its closing bracket. -/
def readItems : Nat → List Char → Option (List Json × List Char)
  | 0, _ => none
  | fuel + 1, cs => do
    let (item, cs) ← readValue fuel cs
    match skipSpace cs with
    | ']' :: rest => return ([item], rest)
    | ',' :: rest =>
      let (items, rest) ← readItems fuel rest
      return (item :: items, rest)
    | _ => none

/-- Reads the members of an object, of which there is at least one, and its closing brace. -/
def readMembers : Nat → List Char → Option (List (String × Json) × List Char)
  | 0, _ => none
  | fuel + 1, cs => do
    match skipSpace cs with
    | '"' :: cs =>
      let (name, cs) ← readString [] cs
      match skipSpace cs with
      | ':' :: cs =>
        let (value, cs) ← readValue fuel cs
        match skipSpace cs with
        | '\x7d' :: rest => return ([(String.ofList name, value)], rest)
        | ',' :: rest =>
          let (members, rest) ← readMembers fuel rest
          return ((String.ofList name, value) :: members, rest)
        | _ => none
      | _ => none
    | _ => none

end

/-! ## Passing over values

What is passed over is held to the grammar alone: a string may name half a character. -/

/-- Passes over a string after its opening quote. -/
def passString : List Char → Option (List Char)
  | '"' :: cs => some cs
  | '\\' :: 'u' :: a :: b :: c :: d :: cs => (unit? a b c d).bind fun _ => passString cs
  | '\\' :: c :: cs => (escape? c).bind fun _ => passString cs
  | c :: cs => if c.toNat < 0x20 then none else passString cs
  | [] => none

/-- Passes over a value that holds no others. -/
def passScalar : List Char → Option (List Char)
  | 'n' :: cs => expect "ull".toList cs
  | 't' :: cs => expect "rue".toList cs
  | 'f' :: cs => expect "alse".toList cs
  | '"' :: cs => passString cs
  | cs => (readNumber cs).map (·.2)

/-- Passes over the name of a member and its colon. -/
def passName (cs : List Char) : Option (List Char) :=
  match skipSpace cs with
  | '"' :: cs => (passString cs).bind fun cs => expect [':'] (skipSpace cs)
  | _ => none

mutual

/-- Passes over a value; `opened` holds the closing brackets of what it stands in, the nearest first. -/
def passValue (opened : List Char) : Nat → List Char → Option (List Char)
  | 0, _ => none
  | fuel + 1, cs =>
    match skipSpace cs with
    | '[' :: cs =>
      match skipSpace cs with
      | ']' :: cs => passRest opened fuel cs
      | cs => passValue (']' :: opened) fuel cs
    | '\x7b' :: cs =>
      match skipSpace cs with
      | '\x7d' :: cs => passRest opened fuel cs
      | cs => (passName cs).bind (passValue ('\x7d' :: opened) fuel)
    | cs => (passScalar cs).bind (passRest opened fuel)

/-- Passes over what follows a value up to the last closing bracket. -/
def passRest : List Char → Nat → List Char → Option (List Char)
  | [], _, cs => some cs
  | _ :: _, 0, _ => none
  | close :: opened, fuel + 1, cs =>
    match skipSpace cs with
    | ',' :: cs =>
      if close = ']' then passValue (close :: opened) fuel cs
      else (passName cs).bind (passValue (close :: opened) fuel)
    | c :: cs => if c = close then passRest opened fuel cs else none
    | [] => none

end

/-- Passes over a value. -/
def pass (cs : List Char) : Option (List Char) := passValue [] (2 * cs.length + 2) cs

/-- Reads a document: one value, and nothing after it. -/
def parse (text : String) : Option Json :=
  let cs := text.toList
  match readValue (2 * cs.length + 2) cs with
  | some (v, rest) => if (skipSpace rest).isEmpty then some v else none
  | none => none

end Transcripts.Json
