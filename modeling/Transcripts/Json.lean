import Transcripts.Number.Double

/-!
# JSON values

The values of a JSON document.  An object keeps its members in the order of the text, repeated names
included, and a number keeps its digits, so that a reader of typed data can decide what they mean.
-/
namespace Transcripts

/-- A number as it is written. -/
structure Numeral where
  negative : Bool
  whole : List Char
  /-- The digits after the point. -/
  fraction : List Char
  exponent : Int
  /-- Whether it is written without point and exponent. -/
  isWhole : Bool
deriving Repr, DecidableEq

inductive Json where
  | null
  | bool (b : Bool)
  | number (n : Numeral)
  | string (s : String)
  | array (items : List Json)
  | object (members : List (String × Json))
deriving Repr

namespace Numeral

open Transcripts.Number

/-- The number that some digits write. -/
def ofDigits (cs : List Char) : Nat := cs.foldl (fun n c => n * 10 + (c.toNat - '0'.toNat)) 0

/-- Digits that still fit a word of 64 bits, as a number, and how many of them there are. -/
def leadingWord (n count : Nat) : List Char → Nat × Nat
  | [] => (n, count)
  | c :: cs =>
    let n' := n * 10 + (c.toNat - '0'.toNat)
    if n' < 0x10000000000000000 then leadingWord n' (count + 1) cs else (n, count)

/-- An operation with a power of ten, rounded; a power that is infinite is the result itself. -/
def withTenTo (n : Nat) (f : Nat → Int → Double) : Double :=
  match Double.ofDecimal false 1 n with
  | .finite _ m e => f m e
  | x => x

/-- Scales a number by a power of ten.  Powers up to 308 are themselves rounded, and so is the result;
a number too small for one step is divided in several. -/
def scale (negative : Bool) : Nat → Double → Int → Double
  | fuel + 1, .finite _ m e, k =>
    if 0 ≤ k then
      if 308 < k then (if m = 0 then .finite negative 0 Double.leastExponent else .infinite negative)
      else withTenTo k.toNat (Double.mulMagnitude negative m e)
    else if -308 ≤ k then withTenTo (-k).toNat (Double.divMagnitude negative m e)
    else if m = 0 then .finite negative 0 Double.leastExponent
    else withTenTo 308 fun m' e' => scale negative fuel (Double.divMagnitude negative m e m' e') (k + 308)
  | _, x, _ => x

/-- The double precision number that a numeral means: as many of its digits as fit a word, rounded, and
then scaled. -/
def double (n : Numeral) : Double :=
  let digits := n.whole ++ n.fraction
  let (word, count) := leadingWord 0 0 digits
  let dropped : Int := (digits.length : Int) - count
  scale n.negative 400 (Double.ofNat word) (n.exponent - n.fraction.length + dropped)

/-- The whole number that a numeral without sign writes. -/
def nat? (n : Numeral) : Option Nat :=
  if n.isWhole && !n.negative then some (ofDigits n.whole) else none

end Numeral

namespace Json

def str? : Json → Option String
  | .string s => some s
  | _ => none

def bool? : Json → Option Bool
  | .bool b => some b
  | _ => none

def nat? : Json → Option Nat
  | .number n => n.nat?
  | _ => none

def items? : Json → Option (List Json)
  | .array items => some items
  | _ => none

/-- The member of an object with a name; of several, the last. -/
def get? (name : String) : Json → Option Json
  | .object members => members.reverse.lookup name
  | _ => none

/-- Puts a member into its place by name, over one of the same name. -/
def insertMember (name : String) (value : Json) :
    List (String × Json) → List (String × Json)
  | [] => [(name, value)]
  | (k, v) :: rest =>
    if name < k then (name, value) :: (k, v) :: rest
    else if name = k then (name, value) :: rest
    else (k, v) :: insertMember name value rest

mutual

/-- The value with the members of each object in order of their names, the last of each name only. -/
def canonical : Json → Json
  | .array items => .array (canonicalItems items)
  | .object members => .object (canonicalMembers members [])
  | v => v

def canonicalItems : List Json → List Json
  | [] => []
  | v :: rest => v.canonical :: canonicalItems rest

def canonicalMembers : List (String × Json) → List (String × Json) → List (String × Json)
  | [], done => done
  | (k, v) :: rest, done => canonicalMembers rest (insertMember k v.canonical done)

end

end Json

end Transcripts
