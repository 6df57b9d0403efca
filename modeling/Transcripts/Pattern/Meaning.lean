import Transcripts.Pattern.Ast
import Transcripts.Pattern.Node
import Transcripts.Pattern.Size
import Transcripts.Text.Lines
import Transcripts.Unicode.Age
import Transcripts.Unicode.Boundary
import Transcripts.Unicode.CaseFold
import Transcripts.Unicode.Category
import Transcripts.Unicode.Property
import Transcripts.Unicode.Script
import Transcripts.Unicode.Word

/-!
# From syntax to meaning

Flags are carried through a pattern from left to right and forgotten at the end of the group they
stand in.  A pattern for text must not match bytes that are no text; a pattern for bytes may.
-/
namespace Transcripts.Pattern

open Transcripts.Unicode (Ranges)

/-- What the input of a pattern may be. -/
inductive Mode where
  | text | bytes
deriving Repr, DecidableEq

/-- The state of the flags. -/
structure Flags where
  ignoreCase : Bool := false
  multiLine : Bool := false
  dotAll : Bool := false
  swapGreed : Bool := false
  unicode : Bool := true
  crlf : Bool := false
deriving Repr, DecidableEq

/-- Switches one flag.  Verbose mode is a matter of reading only. -/
def Flags.set (fs : Flags) (on : Bool) : Flag → Flags
  | .ignoreCase => { fs with ignoreCase := on }
  | .multiLine => { fs with multiLine := on }
  | .dotAll => { fs with dotAll := on }
  | .swapGreed => { fs with swapGreed := on }
  | .unicode => { fs with unicode := on }
  | .crlf => { fs with crlf := on }
  | .verbose => fs

/-- Applies a list of flags. -/
def Flags.apply (fs : Flags) (items : List FlagItem) : Flags :=
  (items.foldl (fun (on, fs) item =>
    match item with
    | .negation => (false, fs)
    | .flag f => (on, fs.set on f)) (true, fs)).2

/-! ## Classes -/

/-- The basic characters of a named class. -/
def NamedClass.ranges : NamedClass → Ranges
  | .alnum => [(0x30, 0x39), (0x41, 0x5A), (0x61, 0x7A)]
  | .alpha => [(0x41, 0x5A), (0x61, 0x7A)]
  | .ascii => [(0x00, 0x7F)]
  | .blank => [(0x09, 0x09), (0x20, 0x20)]
  | .cntrl => [(0x00, 0x1F), (0x7F, 0x7F)]
  | .digit => [(0x30, 0x39)]
  | .graph => [(0x21, 0x7E)]
  | .lower => [(0x61, 0x7A)]
  | .print => [(0x20, 0x7E)]
  | .punct => [(0x21, 0x2F), (0x3A, 0x40), (0x5B, 0x60), (0x7B, 0x7E)]
  | .space => [(0x09, 0x0D), (0x20, 0x20)]
  | .upper => [(0x41, 0x5A)]
  | .word => [(0x30, 0x39), (0x41, 0x5A), (0x5F, 0x5F), (0x61, 0x7A)]
  | .xdigit => [(0x30, 0x39), (0x41, 0x46), (0x61, 0x66)]

/-- The characters of a one-letter class. -/
def Shorthand.ranges (unicode : Bool) : Shorthand → Ranges
  | .digit => if unicode then Unicode.digitRanges else NamedClass.digit.ranges
  | .space => if unicode then Text.blankRanges else NamedClass.space.ranges
  | .word => if unicode then Unicode.wordRanges else NamedClass.word.ranges

/-- The form in which names of properties are compared: basic small letters without blanks, hyphens
and underscores. -/
def foldNameChars (cs : List Char) : List Char :=
  (cs.filter fun c => !(c == ' ' || c == '_' || c == '-') && c.toNat < 0x80).map Char.toLower

/-- The folded form of a name.  A leading `is` does not count, but in the name `isc`. -/
def foldName (name : String) : String :=
  match name.toList with
  | i :: s :: rest =>
    let folded := foldNameChars rest
    if i.toLower = 'i' ∧ s.toLower = 's' ∧ folded ≠ ['c'] then String.ofList folded
    else String.ofList (foldNameChars (i :: s :: rest))
  | cs => String.ofList (foldNameChars cs)

/-- The sets that count as general categories without being one. -/
def broadCategory (name : String) : Option Ranges :=
  match name with
  | "any" => some Ranges.allChars
  | "ascii" => some [(0, 0x7F)]
  | "assigned" => some (Unicode.category "Cn").complementChars
  | name => Unicode.categoryNamed name

/-- The characters for which a property has a value, both given by their folded names. -/
def valuedProperty (property value : String) : Option Ranges :=
  match property with
  | "gc" | "generalcategory" => broadCategory value
  | "sc" | "script" => Unicode.scriptNamed value
  | "scx" | "scriptextensions" => Unicode.extensionNamed value
  | "age" => Unicode.ageNamed value
  | "gcb" | "graphemeclusterbreak" => Unicode.clusterBreakNamed value
  | "wb" | "wordbreak" => Unicode.wordBreakNamed value
  | "sb" | "sentencebreak" => Unicode.sentenceBreakNamed value
  | _ => none

/-- The characters that have a property.  Three short names are kept for categories. -/
def namedProperty (name : String) : Option Ranges :=
  (if name = "cf" ∨ name = "sc" ∨ name = "lc" then none else Unicode.propertyNamed name)
    <|> broadCategory name <|> Unicode.scriptNamed name

/-- The characters that a query asks for. -/
def PropertyQuery.ranges (q : PropertyQuery) : Except Fault Ranges :=
  let found := match q with
    | .named name => namedProperty (foldName name)
    | .valued property value => valuedProperty (foldName property) (foldName value)
  match found with
  | some rs => .ok rs
  | none => .error .propertyUnknown

/-- Closes a set under case where the flags ask for it. -/
def Flags.fold (fs : Flags) (rs : Ranges) : Ranges :=
  if !fs.ignoreCase then rs else if fs.unicode then rs.closeFold else rs.closeFoldBasic

/-- Takes what is not in a set, for a negated one. -/
def Flags.negate (fs : Flags) (negated : Bool) (rs : Ranges) : Ranges :=
  if !negated then rs else if fs.unicode then rs.complementChars else rs.complementBytes

/-- Refuses a set of bytes that are no characters, in a pattern for text. -/
def checkText (mode : Mode) (fs : Flags) (rs : Ranges) : Except Fault Ranges :=
  if mode = .text && !fs.unicode && rs.any (fun r => 0x7F < r.2) then .error .notText else .ok rs

/-- The set of a property, closed and negated as asked. -/
def propertySet (fs : Flags) (q : PropertyQuery) (negated : Bool) : Except Fault Ranges := do
  if !fs.unicode then throw .bytesOnly
  return fs.negate negated (fs.fold (← q.ranges))

/-- The set of a one-letter class. -/
def shorthandSet (mode : Mode) (fs : Flags) (c : Shorthand) (negated : Bool) :
    Except Fault Ranges :=
  checkText mode fs (fs.negate negated (c.ranges fs.unicode))

/-- The number for which a literal stands in a set. -/
def literalPoint (mode : Mode) (fs : Flags) (l : Literal) : Except Fault Nat :=
  let n := l.char.toNat
  if fs.unicode then .ok n
  else if n < 0x80 then .ok n
  else if !l.byte then .error .bytesOnly
  else if mode = .text then .error .notText
  else .ok n

/-- The set that stands between brackets. -/
def ClassSet.ranges (mode : Mode) (fs : Flags) : ClassSet → Except Fault Ranges
  | .empty => .ok []
  | .char l => do
    let n ← literalPoint mode fs l
    return [(n, n)]
  | .range lo hi => do
    let a ← literalPoint mode fs lo
    let b ← literalPoint mode fs hi
    return if fs.unicode then Ranges.inter [(a, b)] Ranges.allChars else [(a, b)]
  | .named c negated => checkText mode fs (fs.negate negated (fs.fold c.ranges))
  | .shorthand c negated => shorthandSet mode fs c negated
  | .property q negated => propertySet fs q negated
  | .nested negated set => do
    let rs ← set.ranges mode fs
    checkText mode fs (fs.negate negated (fs.fold rs))
  | .union a b => do
    let xs ← a.ranges mode fs
    let ys ← b.ranges mode fs
    return xs.union ys
  | .op o a b => do
    let xs := fs.fold (← a.ranges mode fs)
    let ys := fs.fold (← b.ranges mode fs)
    return match o with
      | .inter => xs.inter ys
      | .diff => xs.diff ys
      | .symmDiff => xs.symmDiff ys

/-- The node of a set of characters or, outside Unicode mode, of bytes. -/
def setNode (fs : Flags) (rs : Ranges) : Node := if fs.unicode then .char rs else .byte rs

/-- The node of a literal. -/
def literalNode (mode : Mode) (fs : Flags) (l : Literal) : Except Fault Node :=
  let n := l.char.toNat
  if !fs.unicode && l.byte && 0x80 ≤ n then
    if mode = .text then .error .notText else .ok (.byte [(n, n)])
  else .ok (.char (if fs.unicode || n < 0x80 then fs.fold [(n, n)] else [(n, n)]))

/-- The node of a dot: any character or byte, with or without the end of a line. -/
def dotNode (mode : Mode) (fs : Flags) : Except Fault Node :=
  if mode = .text && !fs.unicode then .error .notText
  else
    let lineEnd : Ranges :=
      if fs.dotAll then [] else if fs.crlf then [(0x0A, 0x0A), (0x0D, 0x0D)] else [(0x0A, 0x0A)]
    .ok (setNode fs (fs.negate true lineEnd))

/-- The condition for which an anchor stands. -/
def Flags.look (fs : Flags) : Anchor → Look
  | .lineStart =>
    if !fs.multiLine then .start else if fs.crlf then .lineStartCrlf else .lineStart
  | .lineEnd =>
    if !fs.multiLine then .finish else if fs.crlf then .lineEndCrlf else .lineEnd
  | .textStart => .start
  | .textEnd => .finish
  | .boundary => .boundary fs.unicode
  | .noBoundary => .noBoundary fs.unicode
  | .wordStart => .wordStart fs.unicode
  | .wordEnd => .wordEnd fs.unicode
  | .wordStartHalf => .wordStartHalf fs.unicode
  | .wordEndHalf => .wordEndHalf fs.unicode

/-! ## Patterns -/

/-- The alternatives of a pattern, and the flags after it. -/
def Ast.alternatives (mode : Mode) : Ast → Flags → Except Fault (List Node × Flags)
  | .empty, fs => .ok ([.empty], fs)
  | .flags items, fs => .ok ([.empty], fs.apply items)
  | .char l, fs => do return ([← literalNode mode fs l], fs)
  | .dot, fs => do return ([← dotNode mode fs], fs)
  | .anchor a, fs => .ok ([.look (fs.look a)], fs)
  | .shorthand c negated, fs => do
    return ([setNode fs (← shorthandSet mode fs c negated)], fs)
  | .property q negated, fs => do return ([.char (← propertySet fs q negated)], fs)
  | .brackets negated set, fs => do
    let rs ← set.ranges mode fs
    return ([setNode fs (← checkText mode fs (fs.negate negated (fs.fold rs)))], fs)
  | .repetition least most greedy sub, fs => do
    let (ns, fs') ← sub.alternatives mode fs
    return ([Node.repeated least most (greedy != fs.swapGreed) (Node.choice ns)], fs')
  | .capture index sub, fs => do
    let (ns, _) ← sub.alternatives mode fs
    return ([.capture index (Node.choice ns)], fs)
  | .group items sub, fs => do
    let (ns, _) ← sub.alternatives mode (fs.apply items)
    return ([Node.choice ns], fs)
  | .seq a b, fs => do
    let (xs, fs) ← a.alternatives mode fs
    let (ys, fs) ← b.alternatives mode fs
    return ([(Node.choice xs).concat (Node.choice ys)], fs)
  | .alt a b, fs => do
    let (xs, fs) ← a.alternatives mode fs
    let (ys, fs) ← b.alternatives mode fs
    return (xs ++ ys, fs)

/-- The meaning of a pattern. -/
def Ast.node (mode : Mode) (fs : Flags) (a : Ast) : Except Fault Node := do
  let (ns, _) ← a.alternatives mode fs
  let n := Node.choice ns
  if n.isTooLarge then throw .tooLarge
  return n

end Transcripts.Pattern
