import Transcripts.Datum
import Transcripts.Number.Shortest

/-!
# Timeouts

How long to wait for a prompt.  A timeout is configured as a positive number of seconds or by the word
`none`, and held in whole nanoseconds.
-/
namespace Transcripts

open Transcripts.Number

/-- How long to wait for a prompt before giving up (`Timeout`). -/
inductive Timeout where
  /-- Give up after so many nanoseconds. -/
  | after (nanos : Nat)
  | never
deriving Repr, DecidableEq

/-- Why a value is no timeout. -/
inductive TimeoutFault where
  /-- A number that is not above zero, or not finite. -/
  | notPositive (x : Double)
  /-- A word other than `none`. -/
  | unknownWord (word : String)
  /-- Neither a number nor a word. -/
  | notATimeout
  /-- More seconds than a duration holds. -/
  | overflow
deriving Repr, DecidableEq

namespace Timeout

/-- Nanoseconds in a second. -/
def nanosPerSecond : Nat := 1000000000

/-- Durations hold fewer seconds than this. -/
def secondsLimit : Nat := 0x10000000000000000

/-- So many seconds (`Timeout.secs`). -/
def seconds (n : Nat) : Timeout := .after (n * nanosPerSecond)

/-- So many thousandths of a second (`Timeout.millis`). -/
def millis (n : Nat) : Timeout := .after (n * 1000000)

/-- The bound in nanoseconds, if there is one (`Timeout.duration`). -/
def nanos? : Timeout → Option Nat
  | .after n => some n
  | .never => none

/-! ## Reading -/

/-- The nearest number of nanoseconds to a number of seconds, if a duration holds it. -/
def nanosOf (mantissa : Nat) (exponent : Int) : Option Nat :=
  let (num, den) := Double.ratio mantissa exponent
  if secondsLimit * den ≤ num then none else some (roundDiv (num * nanosPerSecond) den)

/-- The timeout of a number of seconds. -/
def ofDouble : Double → Except TimeoutFault Timeout
  | .finite false m e =>
    if m = 0 then .error (.notPositive (.finite false m e))
    else
      match nanosOf m e with
      | some n => .ok (.after n)
      | none => .error .overflow
  | x => .error (.notPositive x)

/-- Whether a word is `none`, in small or capital letters. -/
def isNone (word : String) : Bool := word.toList.map Char.toLower == "none".toList

/-- The timeout that a word means. -/
def ofWord (word : String) : Except TimeoutFault Timeout :=
  if isNone word then .ok .never else .error (.unknownWord word)

/-- The timeout that a setting means (`Timeout.deserialize`). -/
def ofDatum : Datum → Except TimeoutFault Timeout
  | .number x => ofDouble x
  | .string s => ofWord s
  | _ => .error .notATimeout

/-! ## Writing -/

/-- A duration as a number of seconds: the whole seconds and the part below a second are rounded, and
so is their sum. -/
def toDouble (nanos : Nat) : Double :=
  Double.addMagnitude (Double.ofNat (nanos / nanosPerSecond))
    (Double.ofRatio false (nanos % nanosPerSecond) nanosPerSecond)

/-- The setting that a timeout is written as (`Timeout.serialize`). -/
def toDatum : Timeout → Datum
  | .after n => .number (toDouble n)
  | .never => .string "none"

/-- How a timeout is shown in messages (the display of `Timeout`). -/
def display : Timeout → String
  | .after n => String.ofList (toDouble n).plain ++ " seconds"
  | .never => "no timeout"

/-- How a timeout is written to a data file. -/
def dataForm : Timeout → String
  | .after n => String.ofList (toDouble n).dataForm
  | .never => "\"none\""

end Timeout

/-- What is said about a value that is no timeout; of other types nothing is said, and an overflow is no
answer at all. -/
def TimeoutFault.message? : TimeoutFault → Option String
  | .notPositive x =>
    some ("timeout must be a positive number of seconds, got " ++ String.ofList x.plain)
  | .unknownWord w =>
    some ("invalid timeout '" ++ w ++ "': use a number of seconds or \"none\"")
  | .notATimeout => none
  | .overflow => none

end Transcripts
