import Transcripts.Str

/-!
# Options

The words that a program is called with, sorted into options and operands.  Long options may be cut short
as long as they can be told apart.
-/
namespace Transcripts.Tool

/-- Whether an option has a value. -/
inductive Takes where
  | nothing | value
  /-- A value that follows at once, if there is one. -/
  | maybe
deriving Repr, DecidableEq

/-- An option: what it is known by, its letter and its name; either may be missing. -/
structure OptionForm where
  id : String
  letter : Option Char
  name : String
  takes : Takes
deriving Repr, DecidableEq

namespace OptionForm

/-- An option with a letter, by which it is known. -/
def short (c : Char) (name : String) (takes : Takes) : OptionForm :=
  ⟨String.singleton c, some c, name, takes⟩

/-- An option without a letter. -/
def long (name : String) (takes : Takes) : OptionForm := ⟨name, none, name, takes⟩

end OptionForm

/-- Options without values, each given by its letter and its name after a colon. -/
def switches (words : List String) : List OptionForm :=
  words.map fun w =>
    match w.toList with
    | c :: ':' :: name => .short c (String.ofList name) .nothing
    | [c] => .short c "" .nothing
    | _ => .long w .nothing

/-- Options with values. -/
def values (words : List String) : List OptionForm :=
  (switches words).map fun o => { o with takes := .value }

/-- What is wrong with an option. -/
inductive OptionFault where
  | invalid (c : Char)
  | needsValue (c : Char)
  | unrecognized (word : Str)
  | ambiguous (word : Str) (names : List String)
  | refusesValue (name : String)
  | nameNeedsValue (name : String)
deriving Repr, DecidableEq

def OptionFault.message : OptionFault → String
  | invalid c => "invalid option -- '" ++ Str.toString [c] ++ "'"
  | needsValue c => "option requires an argument -- '" ++ Str.toString [c] ++ "'"
  | unrecognized word => "unrecognized option '" ++ Str.toString word ++ "'"
  | ambiguous word names =>
    "option '" ++ Str.toString word ++ "' is ambiguous; possibilities:"
      ++ String.join (names.map fun n => " '--" ++ n ++ "'")
  | refusesValue name => "option '--" ++ name ++ "' doesn't allow an argument"
  | nameNeedsValue name => "option '--" ++ name ++ "' requires an argument"

/-- The options and operands of a call, in order. -/
structure Words where
  options : List (String × Option Str) := []
  operands : List Str := []

namespace Words

def has (w : Words) (id : String) : Bool := w.options.any (·.1 == id)

/-- The last value of an option. -/
def value? (w : Words) (id : String) : Option Str :=
  (w.options.reverse.find? (·.1 == id)).bind (·.2)

/-- All values of an option. -/
def valuesOf (w : Words) (id : String) : List Str :=
  w.options.filterMap fun (k, v) => if k = id then v else none

/-- The one of some options that was given last. -/
def last? (w : Words) (ids : List String) : Option String :=
  (w.options.reverse.find? fun o => ids.contains o.1).map (·.1)

def addOption (w : Words) (id : String) (v : Option Str) : Words :=
  { w with options := w.options ++ [(id, v)] }

end Words

/-- Takes a long option: its form, and the value that it has within its word. -/
def longOption (forms : List OptionForm) (word : Str) : Except OptionFault (OptionForm × Option Str) :=
  let body := word.drop 2
  let name := body.takeWhile (· != '=')
  let value := if body.contains '=' then some (body.drop (name.length + 1)) else none
  let named := forms.filter (!·.name.isEmpty)
  let check (f : OptionForm) : Except OptionFault (OptionForm × Option Str) :=
    if f.takes = .nothing && value.isSome then .error (.refusesValue f.name) else .ok (f, value)
  match named.find? (·.name == String.ofList name) with
  | some f => check f
  | none =>
    match named.filter fun f => name.isPrefixOf f.name.toList with
    | [] => .error (.unrecognized (if value.isSome then word.take (name.length + 2) else word))
    | f :: fs =>
      if fs.all fun g => g.id == f.id && g.takes == f.takes then check f
      else .error (.ambiguous (word.take (name.length + 2)) ((f :: fs).map (·.name)))

/-- Takes the letters of a word. -/
def letterOptions (forms : List OptionForm) (w : Words) : Str → Option Str →
    Except OptionFault (Words × Bool)
  | [], _ => .ok (w, false)
  | c :: rest, next =>
    match forms.find? (·.letter == some c) with
    | none => .error (.invalid c)
    | some f =>
      match f.takes with
      | .nothing => letterOptions forms (w.addOption f.id none) rest next
      | .maybe => .ok (w.addOption f.id (if rest.isEmpty then none else some rest), false)
      | .value =>
        if !rest.isEmpty then .ok (w.addOption f.id (some rest), false)
        else
          match next with
          | some v => .ok (w.addOption f.id (some v), true)
          | none => .error (.needsValue c)

/-- Sorts words.  Where `mixed` does not hold the first operand ends the options. -/
def sortWords (forms : List OptionForm) (mixed : Bool) : Nat → Words → List Str →
    Except OptionFault Words
  | 0, w, _ => .ok w
  | _, w, [] => .ok w
  | fuel + 1, w, word :: rest =>
    if word = ['-', '-'] then .ok { w with operands := w.operands ++ rest }
    else if word.startsWith "--" then
      match longOption forms word with
      | .error f => .error f
      | .ok (f, some v) => sortWords forms mixed fuel (w.addOption f.id (some v)) rest
      | .ok (f, none) =>
        if f.takes = .value then
          match rest with
          | v :: rest => sortWords forms mixed fuel (w.addOption f.id (some v)) rest
          | [] => .error (.nameNeedsValue f.name)
        else sortWords forms mixed fuel (w.addOption f.id none) rest
    else if word.head? = some '-' ∧ word.length ≠ 1 then
      match letterOptions forms w (word.drop 1) rest.head? with
      | .error f => .error f
      | .ok (w, used) => sortWords forms mixed fuel w (if used then rest.drop 1 else rest)
    else if mixed then sortWords forms mixed fuel { w with operands := w.operands ++ [word] } rest
    else .ok { w with operands := w.operands ++ word :: rest }

def Words.ofArgs (forms : List OptionForm) (mixed : Bool) (args : List Str) :
    Except OptionFault Words :=
  sortWords forms mixed (args.length + 1) {} args

/-! ## Sizes -/

/-- The letters of the powers of a thousand. -/
def powers : List Char := ['K', 'M', 'G', 'T', 'P', 'E', 'Z', 'Y', 'R', 'Q']

/-- What a unit behind a number means. -/
def unit? (s : Str) : Option Nat :=
  match s with
  | [] => some 1
  | ['b'] => some 512
  | c :: rest =>
    let c := if c = 'k' ∨ c = 'm' then c.toUpper else c
    (powers.idxOf? c).bind fun i =>
      if rest = [] ∨ rest = ['i', 'B'] then some (Nat.pow 1024 (i + 1))
      else if rest = ['B'] then some (Nat.pow 1000 (i + 1))
      else none

/-- A number that may have a unit. -/
def size? (s : Str) : Option Nat :=
  let ds := s.takeWhile Char.isDigit
  if ds.isEmpty then none else (unit? (s.drop ds.length)).map (Str.ofDigits 10 ds * ·)

end Transcripts.Tool
