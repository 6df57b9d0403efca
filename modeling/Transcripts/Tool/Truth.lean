import Transcripts.Shell.Condition
import Transcripts.Tool

/-!
# Truth

Tools that only succeed or fail, one of them by what a condition says.
-/
namespace Transcripts.Tool.Truth

open Transcripts.Process (View)

def succeed (_ : List Str) : Tool Unit := return ()

def refuse (_ : List Str) : Tool Unit := quit 1

/-! ## Conditions

Where the words of a condition are few, their number tells how they are read. -/

/-- Why a condition has no value. -/
inductive Fault where
  | missingAfter (word : Str)
  | unaryExpected (word : Str)
  | binaryExpected (word : Str)
  | notWhole (word : Str)
  | unclosed
  | unclosedAt (word : Str)
  | extra (word : Str)
deriving Repr, DecidableEq

def Fault.message : Fault → Str
  | missingAfter w => "missing argument after ".toList ++ marked w
  | unaryExpected w => marked w ++ ": unary operator expected".toList
  | binaryExpected w => marked w ++ ": binary operator expected".toList
  | notWhole w => "invalid integer ".toList ++ marked w
  | unclosed => "')' expected".toList
  | unclosedAt w => "')' expected, found ".toList ++ marked w
  | extra w => "extra argument ".toList ++ marked w

/-- What may stand around a number. -/
def isBlank (c : Char) : Bool := c == ' ' || c == '\t'

/-- A whole number of any size, with blanks around it. -/
def number (w : Str) : Except Fault Int :=
  let body := (w.dropWhile isBlank)
  let (negative, ds) := match body with
    | '-' :: rest => (true, rest)
    | '+' :: rest => (false, rest)
    | rest => (false, rest)
  let run := ds.takeWhile Char.isDigit
  if run.isEmpty || (ds.drop run.length).any (!isBlank ·) then .error (.notWhole w)
  else
    let n : Int := Str.ofDigits 10 run
    .ok (if negative then -n else n)

/-- Operators between numbers. -/
def comparisons : List (String × (Int → Int → Bool)) :=
  [("-eq", (· == ·)), ("-ne", (· != ·)), ("-lt", (· < ·)), ("-le", (· ≤ ·)), ("-gt", (· > ·)),
    ("-ge", (· ≥ ·))]

def isBinary (w : Str) : Bool :=
  ["=", "==", "!=", "-nt", "-ot", "-ef"].contains (String.ofList w)
    || (comparisons.map (·.1)).contains (String.ofList w)

/-- The operands and the words that follow, or the fault of there being none. -/
abbrev Reading := Except Fault (Bool × List Str)

/-- What a reading is about: the files, and the last word, which a fault may name. -/
structure Scene where
  view : View
  last : Str

/-- Takes an operator between two operands. -/
def binary (sc : Scene) (a op : Str) (rest : List Str) : Reading :=
  match rest with
  | [] => .error (.missingAfter op)
  | b :: rest =>
    match comparisons.lookup (String.ofList op) with
    | some f => do
      let m ← number a
      let n ← number b
      return (f m n, rest)
    | none =>
      let op := if op = ['=', '='] then ['='] else op
      match Shell.Condition.binary sc.view a op b with
      | .ok v => .ok (v, rest)
      | .error _ => .error (.binaryExpected op)

def isUnary (w : Str) : Bool :=
  match w with
  | ['-', _] => true
  | _ => false

/-- Takes an operator before an operand. -/
def unary (sc : Scene) (op : Str) (rest : List Str) : Reading :=
  let letter := op.getLast?.getD 'n'
  if !"erwxNOGfdsScbpLhugktnz".toList.contains letter then .error (.unaryExpected op)
  else
    match rest with
    | [] => .error (.missingAfter sc.last)
    | arg :: rest => do
      if letter = 't' then
        let n ← number arg
        return (0 ≤ n && sc.view.isTerminal n.toNat, rest)
      else
        match Shell.Condition.unary sc.view letter arg with
        | .ok v => return (v, rest)
        | .error _ => throw (.notWhole arg)

def one (_ : Scene) (w : Str) (rest : List Str) : Reading := .ok (!w.isEmpty, rest)

def two (sc : Scene) (a b : Str) (rest : List Str) : Reading :=
  if a = ['!'] then .ok (b.isEmpty, rest)
  else if isUnary a then unary sc a (b :: rest)
  else .error (.missingAfter sc.last)

mutual

/-- Alternatives. -/
def alternatives (sc : Scene) : Nat → List Str → Reading
  | 0, _ => .error .unclosed
  | fuel + 1, ws => do
    let (a, rest) ← conjuncts sc fuel ws
    match rest with
    | ['-', 'o'] :: rest => do
      let (b, rest) ← alternatives sc fuel rest
      return (a || b, rest)
    | rest => return (a, rest)

def conjuncts (sc : Scene) : Nat → List Str → Reading
  | 0, _ => .error .unclosed
  | fuel + 1, ws => do
    let (a, rest) ← term sc fuel ws
    match rest with
    | ['-', 'a'] :: rest => do
      let (b, rest) ← conjuncts sc fuel rest
      return (a && b, rest)
    | rest => return (a, rest)

def term (sc : Scene) : Nat → List Str → Reading
  | 0, _ => .error .unclosed
  | fuel + 1, ws =>
    match ws with
    | [] => .error (.missingAfter sc.last)
    | ['!'] :: rest => do
      let (a, rest) ← term sc fuel rest
      return (!a, rest)
    | ['('] :: rest => do
      let inner := (rest.drop 1).takeWhile (· != [')'])
      let n := if rest.isEmpty then 0 else if 4 ≤ inner.length + 1 then rest.length else inner.length + 1
      let (a, rest) ← counted sc fuel n rest
      match rest with
      | [] => throw .unclosed
      | [')'] :: rest => return (a, rest)
      | w :: _ => throw (.unclosedAt w)
    | w :: rest =>
      match rest with
      | op :: more =>
        if !more.isEmpty && isBinary op then binary sc w op more
        else if isUnary w then unary sc w rest
        else one sc w rest
      | [] => if isUnary w then unary sc w rest else one sc w rest

/-- Reads a condition of so many words. -/
def counted (sc : Scene) : Nat → Nat → List Str → Reading
  | 0, _, _ => .error .unclosed
  | fuel + 1, n, ws =>
    match n, ws with
    | 0, _ => .error (.missingAfter sc.last)
    | 1, w :: rest => one sc w rest
    | 2, a :: b :: rest => two sc a b rest
    | 3, a :: b :: c :: rest =>
      if isBinary b then binary sc a b (c :: rest)
      else if a = ['!'] then (two sc b c rest).map fun (v, rest) => (!v, rest)
      else if a = ['('] && c = [')'] then one sc b rest
      else if b = ['-', 'a'] || b = ['-', 'o'] then alternatives sc fuel ws
      else .error (.binaryExpected b)
    | 4, a :: b :: c :: d :: rest =>
      if a = ['!'] then (counted sc fuel 3 (b :: c :: d :: rest)).map fun (v, rest) => (!v, rest)
      else if a = ['('] && d = [')'] then two sc b c rest
      else alternatives sc fuel ws
    | _, ws => alternatives sc fuel ws

end

/-- The value of a condition. -/
def eval (v : View) (ws : List Str) : Except Fault Bool :=
  match ws.getLast? with
  | none => .ok false
  | some last =>
    match counted ⟨v, last⟩ (6 * ws.length + 6) ws.length ws with
    | .error f => .error f
    | .ok (a, []) => .ok a
    | .ok (_, w :: _) => .error (.extra w)

/-- Succeeds if a condition holds. -/
def decide (ws : List Str) : Tool Unit := do
  let v ← view
  match eval v ws with
  | .error f => die 2 f.message
  | .ok true => return ()
  | .ok false => quit 1

def test (args : List Str) : Tool Unit := decide args

/-- The condition between brackets. -/
def bracket (args : List Str) : Tool Unit := do
  if args.getLast? = some [']'] then decide args.dropLast
  else die 2 "missing ']'".toList

end Transcripts.Tool.Truth
