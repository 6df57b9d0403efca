import Transcripts.Unicode.Ranges

/-!
# Meaning of patterns

A pattern with its flags applied and its classes worked out: what is left are characters, bytes,
conditions on a place, sequences, choices and repetitions.  The constructors that build larger nodes
keep them in a normal shape: sequences and choices are nested to the right, sequences hold no empty
member, and the members that all choices start with are shared.
-/
namespace Transcripts.Pattern

open Transcripts.Unicode (Ranges)

/-- A condition on a place in the input. -/
inductive Look where
  | start | finish
  | lineStart | lineEnd
  | lineStartCrlf | lineEndCrlf
  | boundary (unicode : Bool) | noBoundary (unicode : Bool)
  | wordStart (unicode : Bool) | wordEnd (unicode : Bool)
  | wordStartHalf (unicode : Bool) | wordEndHalf (unicode : Bool)
deriving Repr, DecidableEq

/-- Whether a condition asks for words of all scripts. -/
def Look.isWide : Look → Bool
  | .boundary u => u
  | .noBoundary u => u
  | .wordStart u => u
  | .wordEnd u => u
  | .wordStartHalf u => u
  | .wordEndHalf u => u
  | _ => false

/-- A pattern by its meaning. -/
inductive Node where
  /-- Matches the empty text. -/
  | empty
  /-- Matches one character of a set. -/
  | char (set : Ranges)
  /-- Matches one byte of a set. -/
  | byte (set : Ranges)
  | look (l : Look)
  | seq (a b : Node)
  /-- The first alternative is preferred. -/
  | alt (a b : Node)
  /-- A greedy repetition prefers more rounds, a lazy one fewer. -/
  | repetition (least : Nat) (most : Option Nat) (greedy : Bool) (sub : Node)
  | capture (index : Nat) (sub : Node)
deriving Repr, DecidableEq

namespace Node

/-- Matches nothing. -/
def never : Node := .char []

/-! ## Views -/

/-- The members of a sequence. -/
def members : Node → List Node
  | .empty => []
  | .seq a b => a :: b.members
  | n => [n]

/-- The alternatives of a choice. -/
def branches : Node → List Node
  | .alt a b => a :: b.branches
  | n => [n]

/-- The conditions in a node. -/
def looks : Node → List Look
  | .look l => [l]
  | .seq a b => a.looks ++ b.looks
  | .alt a b => a.looks ++ b.looks
  | .repetition _ _ _ sub => sub.looks
  | .capture _ sub => sub.looks
  | _ => []

/-- The sequence of some nodes, none of which is itself a sequence. -/
def ofMembers : List Node → Node
  | [] => .empty
  | [n] => n
  | n :: rest => .seq n (ofMembers rest)

/-- The choice between some nodes, none of which is itself a choice. -/
def ofBranches : List Node → Node
  | [] => never
  | [n] => n
  | n :: rest => .alt n (ofBranches rest)

/-! ## Lengths -/

/-- Whether the empty text can match. -/
def nullable : Node → Bool
  | .empty => true
  | .char _ => false
  | .byte _ => false
  | .look _ => true
  | .seq a b => a.nullable && b.nullable
  | .alt a b => a.nullable || b.nullable
  | .repetition least _ _ sub => least == 0 || sub.nullable
  | .capture _ sub => sub.nullable

/-- Whether no text but the empty one can match. -/
def onlyEmpty : Node → Bool
  | .empty => true
  | .char _ => false
  | .byte _ => false
  | .look _ => true
  | .seq a b => a.onlyEmpty && b.onlyEmpty
  | .alt a b => a.onlyEmpty && b.onlyEmpty
  | .repetition _ most _ sub => most == some 0 || sub.onlyEmpty
  | .capture _ sub => sub.onlyEmpty

/-! ## Building -/

/-- Two nodes in sequence. -/
def concat (a b : Node) : Node := ofMembers (a.members ++ b.members)

/-- A repetition.  One round is the node itself and no round is the empty text; of what matches the
empty text only, a second round adds nothing. -/
def repeated (least : Nat) (most : Option Nat) (greedy : Bool) (sub : Node) : Node :=
  let (least, most) :=
    if sub.onlyEmpty then (min least 1, some (min (most.getD 1) 1)) else (least, most)
  if least = 0 ∧ most = some 0 then .empty
  else if least = 1 ∧ most = some 1 then sub
  else .repetition least most greedy sub

/-- What two lists start with in common. -/
def common {α : Type} [DecidableEq α] : List α → List α → List α
  | a :: as, b :: bs => if a = b then a :: common as bs else []
  | _, _ => []

/-- What all of some lists start with. -/
def commonAll {α : Type} [DecidableEq α] : List (List α) → List α
  | [] => []
  | xs :: rest => rest.foldl common xs

/-- Whether a node matches one given character or byte. -/
def isLiteral : Node → Bool
  | .char [(lo, hi)] => lo == hi
  | .byte [(lo, hi)] => lo == hi
  | _ => false

/-- The members of a sequence, those in a row that are literal taken together. -/
def parts (n : Node) : List (List Node) := n.members.splitBy fun a b => a.isLiteral && b.isLiteral

/-- The set of a node that matches a single character. -/
def charSet? : Node → Option Ranges
  | .char set => some set
  | .byte set => if set.all (·.2 < 0x80) then some set else none
  | _ => none

/-- The set of a node that matches a single byte. -/
def byteSet? : Node → Option Ranges
  | .byte set => some set
  | .char set => if set.all (·.2 < 0x80) then some set else none
  | _ => none

/-- The choice between some nodes.  Choices among them are flattened, a choice between single
characters is one set, and if all are sequences that start alike, the common start comes before the
choice between the rests. -/
def choiceFuel : Nat → List Node → Node
  | 0, ns => ofBranches ns
  | fuel + 1, ns =>
    let ns := ns.flatMap branches
    match ns with
    | [] => never
    | [n] => n
    | ns =>
      match ns.mapM charSet? with
      | some sets => .char (sets.foldl Ranges.union [])
      | none =>
        match ns.mapM byteSet? with
        | some sets => .byte (sets.foldl Ranges.union [])
        | none =>
          let sequences := ns.map parts
          let shared := if sequences.all (2 ≤ ·.length) then commonAll sequences else []
          if shared.isEmpty then ofBranches ns
          else
            let rests := sequences.map fun s => ofMembers (s.drop shared.length).flatten
            concat (ofMembers shared.flatten) (choiceFuel fuel rests)

/-- The choice between some nodes; sharing a start shortens every one of them. -/
def choice (ns : List Node) : Node :=
  choiceFuel (ns.foldl (fun total n => total + n.members.length) 1) ns

end Node

end Transcripts.Pattern
