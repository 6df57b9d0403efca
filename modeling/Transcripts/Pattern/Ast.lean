/-!
# The syntax of patterns

What a pattern says, before flags are applied and classes are worked out: one constructor for each
construct of the notation.
-/
namespace Transcripts.Pattern

/-- Why a text is no pattern. -/
inductive Fault where
  | groupUnclosed | groupUnopened | groupName | groupNameRepeated
  | flagUnknown | flagRepeated | flagDangling | flagUnclosed
  | repetitionMissing | repetitionUnclosed | repetitionCount | repetitionOrder
  | escapeUnclosed | escapeUnknown | escapeHex | escapeProperty
  | classUnclosed | classRange | classEscape
  | boundaryUnclosed | boundaryUnknown
  | lookAround | backReference | nesting
  | notText | bytesOnly | propertyUnknown | tooLarge
deriving Repr, DecidableEq

/-- The letters between a group's question mark and its colon. -/
inductive Flag where
  | ignoreCase | multiLine | dotAll | swapGreed | unicode | crlf | verbose
deriving Repr, DecidableEq

/-- One item of a list of flags: all flags after the negation are switched off. -/
inductive FlagItem where
  | negation
  | flag (f : Flag)
deriving Repr, DecidableEq

/-- A character written in a pattern; `byte` tells that it is written by two hexadecimal digits, which
outside Unicode mode stand for a byte. -/
structure Literal where
  char : Char
  byte : Bool
deriving Repr, DecidableEq

/-- The classes written by one letter. -/
inductive Shorthand where
  | digit | space | word
deriving Repr, DecidableEq

/-- The classes written by a name between colons. -/
inductive NamedClass where
  | alnum | alpha | ascii | blank | cntrl | digit | graph | lower | print | punct | space | upper
  | word | xdigit
deriving Repr, DecidableEq

/-- A question for a property of characters: a bare name, or a property and its value. -/
inductive PropertyQuery where
  | named (name : String)
  | valued (name value : String)
deriving Repr, DecidableEq

/-- How two sets inside brackets are combined. -/
inductive SetOp where
  | inter | diff | symmDiff
deriving Repr, DecidableEq

/-- What stands between brackets. -/
inductive ClassSet where
  | empty
  | char (l : Literal)
  | range (lo hi : Literal)
  | named (c : NamedClass) (negated : Bool)
  | shorthand (c : Shorthand) (negated : Bool)
  | property (q : PropertyQuery) (negated : Bool)
  | nested (negated : Bool) (set : ClassSet)
  | union (a b : ClassSet)
  | op (o : SetOp) (a b : ClassSet)
deriving Repr

/-- The conditions on a place between two characters, as they are written. -/
inductive Anchor where
  | lineStart | lineEnd | textStart | textEnd
  | boundary | noBoundary | wordStart | wordEnd | wordStartHalf | wordEndHalf
deriving Repr, DecidableEq

/-- A pattern as it is written. -/
inductive Ast where
  | empty
  | flags (items : List FlagItem)
  | char (l : Literal)
  | dot
  | anchor (a : Anchor)
  | shorthand (c : Shorthand) (negated : Bool)
  | property (q : PropertyQuery) (negated : Bool)
  | brackets (negated : Bool) (set : ClassSet)
  | repetition (least : Nat) (most : Option Nat) (greedy : Bool) (sub : Ast)
  | capture (index : Nat) (sub : Ast)
  | group (items : List FlagItem) (sub : Ast)
  | seq (a b : Ast)
  | alt (a b : Ast)
deriving Repr

/-- The sequence of some patterns. -/
def Ast.concat : List Ast → Ast
  | [] => .empty
  | [a] => a
  | a :: rest => .seq a (concat rest)

/-- The choice between some patterns. -/
def Ast.choice : List Ast → Ast
  | [] => .empty
  | [a] => a
  | a :: rest => .alt a (choice rest)

/-- The union of the items of a set. -/
def ClassSet.ofItems : List ClassSet → ClassSet
  | [] => .empty
  | [a] => a
  | a :: rest => .union a (ofItems rest)

/-! ## Nesting -/

/-- How deep sets are nested; a union counts once however many items it has. -/
def ClassSet.depth (inUnion : Bool) : ClassSet → Nat
  | .nested _ set => 1 + set.depth false
  | .union a b => (if inUnion then 0 else 1) + max (a.depth true) (b.depth true)
  | .op _ a b => 1 + max (a.depth false) (b.depth false)
  | _ => 0

/-- The construct whose further members do not count as nested in it. -/
inductive Spine where
  | none | seq | alt
deriving DecidableEq

/-- How deep a pattern is nested; a sequence and a choice count once however long they are. -/
def Ast.depth (spine : Spine) : Ast → Nat
  | .brackets _ set => 1 + set.depth false
  | .repetition _ _ _ sub => 1 + sub.depth .none
  | .capture _ sub => 1 + sub.depth .none
  | .group _ sub => 1 + sub.depth .none
  | .seq a b => (if spine = .seq then 0 else 1) + max (a.depth .none) (b.depth .seq)
  | .alt a b => (if spine = .alt then 0 else 1) + max (a.depth .none) (b.depth .alt)
  | _ => 0

/-- The deepest nesting that is read. -/
def nestingLimit : Nat := 250

end Transcripts.Pattern
