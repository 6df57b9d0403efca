import Transcripts.Whole
import Transcripts.Process

/-!
# Conditions

The tests of texts, numbers and files that scripts ask for, written as a list of words.
-/
namespace Transcripts.Shell.Condition

open Transcripts.Process (View)

/-- Why a condition has no value. -/
inductive Fault where
  | notANumber (word : Str)
  | unexpectedOperator (word : Str)
  | operandMissing (op : Str)
  | unclosed
deriving Repr, DecidableEq

def Fault.message : Fault → Str
  | notANumber word => "Illegal number: ".toList ++ word
  | unexpectedOperator word =>
    if word.isEmpty then "unexpected operator".toList else word ++ ": unexpected operator".toList
  | operandMissing op => op ++ ": argument expected".toList
  | unclosed => "closing paren expected".toList

/-! ## Words -/

/-- What a word can be. -/
inductive Sign where
  | unary | binary | not_ | both | either | open_ | close
deriving Repr, DecidableEq

def unaryLetters : List Char :=
  ['r', 'w', 'x', 'e', 'f', 'd', 'c', 'b', 'p', 'u', 'g', 'k', 's', 't', 'z', 'n', 'h', 'O', 'G', 'L', 'S']

def binarySigns : List String :=
  ["=", "!=", "<", ">", "-eq", "-ne", "-ge", "-gt", "-le", "-lt", "-nt", "-ot", "-ef"]

/-- The sign that a word is, if it is one. -/
def sign? (w : Str) : Option Sign :=
  match w with
  | ['!'] => some .not_
  | ['('] => some .open_
  | [')'] => some .close
  | ['-', 'a'] => some .both
  | ['-', 'o'] => some .either
  | ['-', c] => if unaryLetters.contains c then some .unary else none
  | w => if binarySigns.contains (String.ofList w) then some .binary else none

def isBinary (w : Str) : Bool := sign? w == some .binary

/-- The sign that the first word is, in view of the words behind it. -/
def leading (ws : List Str) : Option Sign :=
  match ws with
  | [] => none
  | w :: rest =>
    match sign? w, rest with
    | some .unary, [] => none
    | some .unary, [_] => some .unary
    | some .unary, next :: _ => if isBinary next then none else some .unary
    | some .open_, [] => none
    | s, _ => s

/-! ## Values -/

def number (w : Str) : Except Fault Int :=
  match Whole.whole? .decimal w with
  | some n => .ok n
  | none => .error (.notANumber w)

/-- Whether somebody who may do everything can do something to a node. -/
def fileTest (v : View) (letter : Char) (path : Str) : Bool :=
  let follow := letter != 'L' && letter != 'h'
  match v.files.find v.here path follow with
  | .error _ => false
  | .ok id =>
    match v.files.node? id with
    | none => false
    | some n =>
      match letter, n.content with
      | 'f', .file _ => true
      | 'f', .program _ => true
      | 'd', .directory .. => true
      | 'c', .device _ => true
      | 'p', .fifo => true
      | 'p', .device (.descriptor k) => v.lead? k == some .pipe
      | 'L', .link _ => true
      | 'h', .link _ => true
      | 's', .file bs => !bs.isEmpty
      | 's', .directory .. => true
      | 's', .program _ => true
      | 'x', .directory .. => true
      | 'x', _ => n.mode &&& 0o111 != 0
      | 'u', _ => n.mode &&& 0o4000 != 0
      | 'g', _ => n.mode &&& 0o2000 != 0
      | 'k', _ => n.mode &&& 0o1000 != 0
      | c, _ => ['e', 'r', 'w', 'O', 'G'].contains c

/-- The value of an operator before an operand. -/
def unary (v : View) (letter : Char) (arg : Str) : Except Fault Bool :=
  match letter with
  | 'n' => .ok (!arg.isEmpty)
  | 'z' => .ok arg.isEmpty
  | 't' => do
    let n ← number arg
    return 0 ≤ n && v.isTerminal n.toNat
  | letter => .ok (fileTest v letter arg)

/-- The node of a path and the time of its last change. -/
def nodeAt (v : View) (path : Str) : Option (Nat × Nat) := do
  let id ← (v.files.find v.here path true).toOption
  let n ← v.files.node? id
  return (id, n.time)

/-- The value of an operator between operands. -/
def binary (v : View) (a op b : Str) : Except Fault Bool :=
  match String.ofList op with
  | "=" => .ok (a == b)
  | "!=" => .ok (a != b)
  | "<" => .ok (a < b)
  | ">" => .ok (b < a)
  | "-nt" => .ok (match nodeAt v a, nodeAt v b with
    | some x, some y => y.2 < x.2
    | _, _ => false)
  | "-ot" => .ok (match nodeAt v a, nodeAt v b with
    | some x, some y => x.2 < y.2
    | _, _ => false)
  | "-ef" => .ok (match nodeAt v a, nodeAt v b with
    | some x, some y => x.1 == y.1
    | _, _ => false)
  | op => do
    let m ← number a
    let n ← number b
    return match op with
      | "-eq" => m == n
      | "-ne" => m != n
      | "-gt" => n < m
      | "-ge" => n ≤ m
      | "-lt" => m < n
      | _ => m ≤ n

/-! ## Reading

Each part of a condition is read from the word it starts with, and leaves the words from its own last one
on. -/

mutual

def alternatives (v : View) : Nat → List Str → Except Fault (Bool × List Str)
  | 0, _ => .error .unclosed
  | fuel + 1, ws => do
    let (a, last) ← conjuncts v fuel ws
    if leading (last.drop 1) = some .either then do
      let (b, last) ← alternatives v fuel (last.drop 2)
      return (a || b, last)
    else return (a, last)

def conjuncts (v : View) : Nat → List Str → Except Fault (Bool × List Str)
  | 0, _ => .error .unclosed
  | fuel + 1, ws => do
    let (a, last) ← negated v fuel ws
    if leading (last.drop 1) = some .both then do
      let (b, last) ← conjuncts v fuel (last.drop 2)
      return (a && b, last)
    else return (a, last)

def negated (v : View) : Nat → List Str → Except Fault (Bool × List Str)
  | 0, _ => .error .unclosed
  | fuel + 1, ws => do
    if leading ws = some .not_ then
      match ws.drop 1 with
      | [] => return (true, ws)
      | rest => do
        let (a, last) ← negated v fuel rest
        return (!a, last)
    else primary v fuel ws

def primary (v : View) : Nat → List Str → Except Fault (Bool × List Str)
  | 0, _ => .error .unclosed
  | fuel + 1, ws => do
    match ws with
    | [] => return (false, [])
    | w :: rest =>
      match leading ws with
      | some .open_ =>
        if leading rest = some .close then return (false, rest)
        else do
          let (a, last) ← alternatives v fuel rest
          if leading (last.drop 1) = some .close then return (a, last.drop 1)
          else throw .unclosed
      | some .unary =>
        match rest with
        | [] => throw (.operandMissing w)
        | arg :: _ => do
          let a ← unary v (w.getLast?.getD 'n') arg
          return (a, rest)
      | _ =>
        match rest with
        | op :: more =>
          if leading rest = some .binary then
            match more with
            | [] => throw (.operandMissing op)
            | b :: _ => do
              let a ← binary v w op b
              return (a, more)
          else return (!w.isEmpty, ws)
        | [] => return (!w.isEmpty, ws)

end

/-- The value of what words say, of which at most one may be left over. -/
def whole (v : View) (ws : List Str) : Except Fault Bool := do
  let (a, last) ← alternatives v (8 * ws.length + 8) ws
  match last with
  | w :: _ :: _ => throw (.unexpectedOperator w)
  | _ => return a

/-- The value of a condition.  Three or four words are read in the way that makes most sense. -/
def eval (v : View) : Nat → List Str → Except Fault Bool
  | 0, _ => .error .unclosed
  | fuel + 1, ws =>
    let enclosed := ws.head? = some ['('] ∧ ws.getLast? = some [')']
    let outer (ws : List Str) : Except Fault Bool :=
      if enclosed then whole v (ws.drop 1).dropLast
      else if ws.head? = some ['!'] then (eval v fuel (ws.drop 1)).map (!·)
      else whole v ws
    match ws with
    | [] => .ok false
    | [a, op, b] => if isBinary op then binary v a op b else outer [a, op, b]
    | [a, b, c, d] => outer [a, b, c, d]
    | ws => whole v ws

end Transcripts.Shell.Condition
