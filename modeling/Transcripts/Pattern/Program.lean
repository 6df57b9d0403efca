import Transcripts.Pattern.Node

/-!
# Programs

A pattern is matched by a program: steps that read a character or a byte, test a condition or choose
between two ways.  A node is compiled together with the step that comes after it, so that each node
has one place to start and hands over to one place when it is done.
-/
namespace Transcripts.Pattern

open Transcripts.Unicode (Ranges)

/-- One step; numbers are places in the program. -/
inductive Inst where
  | accept
  | fail
  | char (set : Ranges) (next : Nat)
  | byte (set : Ranges) (next : Nat)
  | look (l : Look) (next : Nat)
  /-- The first way is tried before the second. -/
  | split (first second : Nat)
deriving Repr, DecidableEq

/-- The steps compiled so far. -/
abbrev Code := Array Inst

/-- A choice between going on with a body and leaving it; a lazy choice leaves first. -/
def Inst.choose (greedy : Bool) (body leave : Nat) : Inst :=
  if greedy then .split body leave else .split leave body

/-- Adds a step; the result is its place. -/
def Code.add (code : Code) (i : Inst) : Nat × Code := (code.size, code.push i)

/-- Compiles `n` bodies in a row before `next`. -/
def Code.copies (body : Nat → Code → Nat × Code) : Nat → Nat → Code → Nat × Code
  | 0, next, code => (next, code)
  | n + 1, next, code =>
    let (entry, code) := copies body n next code
    body entry code

/-- Compiles up to `n` bodies before `next`, each of which can be the first to be left out. -/
def Code.optional (body : Nat → Code → Nat × Code) (greedy : Bool) : Nat → Nat → Code → Nat × Code
  | 0, next, code => (next, code)
  | n + 1, next, code =>
    let (inner, code) := optional body greedy n next code
    let (entry, code) := body inner code
    code.add (.choose greedy entry next)

/-- Compiles one or more bodies before `next`: after each round a choice goes back or on.  The result
is the place of the body and the place of the choice. -/
def Code.loop (body : Nat → Code → Nat × Code) (greedy : Bool) (next : Nat) (code : Code) :
    Nat × Nat × Code :=
  let (choice, code) := code.add .fail
  let (entry, code) := body choice code
  (entry, choice, code.set! choice (.choose greedy entry next))

/-- Compiles a node before the step at `next`; the result is the place to start.

A repetition without end starts at its choice if every round reads something.  If a round can read
nothing, it is one or more rounds or none, so that a round that reads nothing is left at once. -/
def Node.emit : Node → Nat → Code → Nat × Code
  | .empty, next, code => (next, code)
  | .char set, next, code => code.add (.char set next)
  | .byte set, next, code => code.add (.byte set next)
  | .look l, next, code => code.add (.look l next)
  | .seq a b, next, code =>
    let (entry, code) := b.emit next code
    a.emit entry code
  | .alt a b, next, code =>
    let (first, code) := a.emit next code
    let (second, code) := b.emit next code
    code.add (.split first second)
  | .repetition least most greedy sub, next, code =>
    match most with
    | some m =>
      let (entry, code) := Code.optional sub.emit greedy (m - least) next code
      Code.copies sub.emit least entry code
    | none =>
      let (entry, choice, code) := Code.loop sub.emit greedy next code
      if least = 0 then
        if sub.nullable then code.add (.choose greedy entry next) else (choice, code)
      else Code.copies sub.emit (least - 1) entry code
  | .capture _ sub, next, code => sub.emit next code

/-- A program and the place where it starts. -/
structure Program where
  code : Code
  start : Nat
deriving Repr

/-- The program of a node.  Its step 0 accepts. -/
def Node.program (n : Node) : Program :=
  let (start, code) := n.emit 0 #[.accept]
  ⟨code, start⟩

end Transcripts.Pattern
