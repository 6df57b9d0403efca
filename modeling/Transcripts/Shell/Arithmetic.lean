import Transcripts.Whole
import Transcripts.Shell.Syntax

/-!
# Arithmetic of the shell

Expressions over whole numbers of 64 bits, in which variables stand for the numbers they hold.  An
expression gets its value while it is read, so that of two faults the first one counts.
-/
namespace Transcripts.Shell.Arithmetic

/-! ## Tokens -/

inductive Token where
  | number (n : Int)
  | name (s : Str)
  | sign (s : String)
  /-- A character with no meaning. -/
  | other
deriving Repr, DecidableEq

def isBlank (c : Char) : Bool := c == ' ' || c == '\t' || c == '\n'

/-- All signs, longer ones before their beginnings. -/
def signs : List String :=
  ["<<=", ">>=", "||", "&&", "==", "!=", "<=", ">=", "<<", ">>", "+=", "-=", "*=", "/=", "%=", "&=", "|=",
    "^=", "|", "^", "&", "<", ">", "+", "-", "*", "/", "%", "=", "?", ":", "(", ")", "!", "~"]

/-- The tokens of a text. -/
def tokens : Nat → Str → List Token
  | 0, _ => []
  | fuel + 1, cs =>
    match cs with
    | [] => []
    | c :: rest =>
      if isBlank c then tokens fuel rest
      else if c.isDigit then
        let r := Whole.read .told (c :: rest)
        .number (Whole.clamp r.value) :: tokens fuel r.rest
      else if isNameStart c then
        let name := (c :: rest).takeWhile isNameChar
        .name name :: tokens fuel ((c :: rest).drop name.length)
      else
        match signs.find? fun s => s.toList.isPrefixOf (c :: rest) with
        | some s => .sign s :: tokens fuel ((c :: rest).drop s.length)
        | none => .other :: tokens fuel rest

/-! ## Values -/

/-- Why an expression has no value. -/
inductive Fault where
  /-- Something else has to stand where the reading has come to. -/
  | expecting (what : String)
  | divisionByZero
  /-- A variable does not hold a number. -/
  | notANumber (text : Str)
deriving Repr, DecidableEq

/-- The number of 64 bits with a sign that a whole number is taken for. -/
def wrap (n : Int) : Int := Int.bmod n 0x10000000000000000

def truth (b : Bool) : Int := if b then 1 else 0

/-- A number as bits. -/
def bits (n : Int) : Nat := (n % 0x10000000000000000).toNat

/-- The value of an operator at two numbers. -/
def apply (op : String) (a b : Int) : Except Fault Int :=
  match op with
  | "+" => .ok (wrap (a + b))
  | "-" => .ok (wrap (a - b))
  | "*" => .ok (wrap (a * b))
  | "/" => if b = 0 then .error .divisionByZero else .ok (wrap (Int.tdiv a b))
  | "%" => if b = 0 then .error .divisionByZero else .ok (wrap (Int.tmod a b))
  | "==" => .ok (truth (a == b))
  | "!=" => .ok (truth (a != b))
  | "<=" => .ok (truth (a ≤ b))
  | ">=" => .ok (truth (b ≤ a))
  | "<" => .ok (truth (a < b))
  | ">" => .ok (truth (b < a))
  | "|" => .ok (wrap (bits a ||| bits b))
  | "^" => .ok (wrap (bits a ^^^ bits b))
  | "&" => .ok (wrap (bits a &&& bits b))
  | "<<" => .ok (wrap (a * Int.ofNat (Nat.pow 2 (bits b % 64))))
  | ">>" => .ok (wrap (Int.fdiv a (Int.ofNat (Nat.pow 2 (bits b % 64)))))
  | _ => .ok b

/-- How strongly an operator binds its operands. -/
def strength? (op : String) : Option Nat :=
  [("*", 8), ("/", 8), ("%", 8), ("+", 7), ("-", 7), ("<<", 6), (">>", 6), ("<=", 5), (">=", 5), ("<", 5),
    (">", 5), ("==", 4), ("!=", 4), ("&", 3), ("^", 2), ("|", 1)].lookup op

/-- The signs that give a variable a value, and the operator that makes it out of the old one. -/
def assignments : List (String × String) :=
  [("=", ""), ("+=", "+"), ("-=", "-"), ("*=", "*"), ("/=", "/"), ("%=", "%"), ("&=", "&"), ("|=", "|"),
    ("^=", "^"), ("<<=", "<<"), (">>=", ">>")]

/-- Variables with the texts they hold. -/
abbrev Store := List (Str × Str)

/-- The number that a variable holds; one that holds nothing holds zero. -/
def Store.number (store : Store) (name : Str) : Except Fault Int :=
  let text := (store.lookup name).getD []
  if text.all Str.isSpace then .ok 0
  else
    match Whole.whole? .told text with
    | some n => .ok n
    | none => .error (.notANumber text)

/-! ## Reading -/

/-- What is still to be read, and what variables hold. -/
structure Reading where
  left : List Token
  store : Store
  /-- Variables that were given values, in order. -/
  changes : List (Str × Str) := []

abbrev Read := ExceptT Fault (StateM Reading)

namespace Read

def peek : Read (Option Token) := do return (← get).left.head?

def advance : Read Unit := modify fun r => { r with left := r.left.drop 1 }

/-- Passes over a sign that comes next. -/
def accept (s : String) : Read Bool := do
  if (← peek) = some (.sign s) then
    advance
    return true
  return false

def demand (s : String) (what : String) : Read Unit := do
  if !(← accept s) then throw (.expecting what)

def assign (name : Str) (n : Int) : Read Unit :=
  modify fun r => { r with
    store := (name, Str.integer n) :: r.store, changes := r.changes ++ [(name, Str.integer n)] }

def number (name : Str) : Read Int := do
  match (← get).store.number name with
  | .ok n => return n
  | .error f => throw f

def applied (op : String) (a b : Int) : Read Int :=
  match apply op a b with
  | .ok n => return n
  | .error f => throw f

end Read

open Read

mutual

/-- An expression.  Where `skips` holds its value is of no interest, and nothing comes of it. -/
def expression (skips : Bool) : Nat → Read Int
  | 0 => throw (.expecting "primary")
  | fuel + 1 => do
    match (← get).left with
    | .name name :: .sign s :: _ =>
      match assignments.lookup s with
      | some op => do
        advance
        advance
        let n ← expression skips fuel
        if skips then return n
        let n ← if op = "" then pure n else do
          let old ← number name
          applied op old n
        assign name n
        return n
      | none => choice skips fuel
    | _ => choice skips fuel

def choice (skips : Bool) : Nat → Read Int
  | 0 => throw (.expecting "primary")
  | fuel + 1 => do
    let c ← disjunction skips fuel
    if ← accept "?" then do
      let a ← expression (skips || c == 0) fuel
      demand ":" "':'"
      let b ← choice (skips || c != 0) fuel
      return if c = 0 then b else a
    else return c

def disjunction (skips : Bool) : Nat → Read Int
  | 0 => throw (.expecting "primary")
  | fuel + 1 => do
    let a ← conjunction skips fuel
    if ← accept "||" then do
      let b ← disjunction (skips || a != 0) fuel
      return truth (a != 0 || b != 0)
    else return a

def conjunction (skips : Bool) : Nat → Read Int
  | 0 => throw (.expecting "primary")
  | fuel + 1 => do
    let a ← operation skips 0 fuel
    if ← accept "&&" then do
      let b ← conjunction (skips || a == 0) fuel
      return truth (a != 0 && b != 0)
    else return a

/-- Operands with operators between them that bind at least so strongly. -/
def operation (skips : Bool) (least : Nat) : Nat → Read Int
  | 0 => throw (.expecting "primary")
  | fuel + 1 => do
    let a ← operand skips fuel
    moreOperands skips least a fuel

def moreOperands (skips : Bool) (least : Nat) (a : Int) : Nat → Read Int
  | 0 => throw (.expecting "primary")
  | fuel + 1 => do
    match ← peek with
    | some (.sign op) =>
      match strength? op with
      | some n =>
        if least ≤ n then do
          advance
          let b ← operation skips (n + 1) fuel
          let c ← if skips then pure b else applied op a b
          moreOperands skips least c fuel
        else return a
      | none => return a
    | _ => return a

def operand (skips : Bool) : Nat → Read Int
  | 0 => throw (.expecting "primary")
  | fuel + 1 => do
    match ← peek with
    | some (.number n) => do
      advance
      return n
    | some (.name name) => do
      advance
      if skips then return 0 else number name
    | some (.sign s) =>
      if s = "(" then do
        advance
        let n ← expression skips fuel
        demand ")" "')'"
        return n
      else if ["!", "~", "-", "+"].contains s then do
        advance
        let n ← operand skips fuel
        return match s with
          | "!" => truth (n == 0)
          | "~" => wrap (-n - 1)
          | "-" => wrap (-n)
          | _ => n
      else throw (.expecting "primary")
    | _ => throw (.expecting "primary")

end

/-- A whole expression. -/
def wholeExpression : Read Int := do
  let n ← expression false (40 * ((← get).left.length + 1))
  if (← peek).isSome then throw (.expecting "EOF")
  return n

/-- The value of the expression that a text writes, and the variables that it gives values. -/
def value (text : Str) (store : Store) : Except Fault Int × List (Str × Str) :=
  let (n, r) := wholeExpression.run.run { left := tokens (text.length + 1) text, store }
  (n, r.changes)

end Transcripts.Shell.Arithmetic
