import Transcripts.Pattern.Ast
import Transcripts.Text.Lines
import Transcripts.Unicode.Word

/-!
# Reading patterns

From the text of a pattern to its syntax.  In verbose mode blanks and comments between the constructs
are passed over, and so they are inside most constructs: each reader is told the mode.
-/
namespace Transcripts.Pattern

open Transcripts.Text (isBlank)
open Transcripts.Unicode (isLetter isLetterOrNumber)

/-! ## Characters -/

/-- Passes over blanks and comments. -/
def skipComments (inComment : Bool) : List Char → List Char
  | [] => []
  | c :: cs =>
    if inComment then skipComments (c != '\n') cs
    else if isBlank c then skipComments false cs
    else if c = '#' then skipComments true cs
    else c :: cs

/-- Passes over what the mode ignores. -/
def skipIgnored (verbose : Bool) (cs : List Char) : List Char :=
  if verbose then skipComments false cs else cs

/-- Passes over one character and over what the mode ignores after it. -/
def advance (verbose : Bool) (cs : List Char) : List Char := skipIgnored verbose cs.tail

/-- The next character but one, with what the mode ignores before it left out.  A comment ends at the
first character of it that is no blank. -/
def peekPast (verbose : Bool) (cs : List Char) : Option Char :=
  if verbose then look false cs.tail else cs.tail.head?
where
  /-- The first character past the ignored ones. -/
  look (inComment : Bool) : List Char → Option Char
    | [] => none
    | c :: cs =>
      if isBlank c then
        look inComment cs
      else if !inComment && c == '#' then look true cs
      else some c

/-- Characters with a meaning of their own, which a backslash takes away. -/
def isMeta (c : Char) : Bool :=
  ['\\', '.', '+', '*', '?', '(', ')', '|', '[', ']', '\x7b', '\x7d', '^', '$', '#', '&', '-',
   '~'].contains c

/-- Characters that may stand after a backslash for themselves. -/
def isEscapable (c : Char) : Bool :=
  isMeta c || (c.toNat < 0x80 && !c.isAlphanum && c != '<' && c != '>')

/-- The value of a hexadecimal digit. -/
def hexDigit? (c : Char) : Option Nat :=
  if c.isDigit then some (c.toNat - '0'.toNat)
  else if 'a' ≤ c ∧ c ≤ 'f' then some (c.toNat - 'a'.toNat + 10)
  else if 'A' ≤ c ∧ c ≤ 'F' then some (c.toNat - 'A'.toNat + 10)
  else none

/-- The character with a code point. -/
def charOf? (n : Nat) : Except Fault Char :=
  if n.isValidChar then .ok (Char.ofNat n) else .error .escapeHex

/-! ## Numbers -/

/-- Reads a fixed number of hexadecimal digits. -/
def hexDigits (verbose : Bool) : Nat → Nat → List Char → Except Fault (Nat × List Char)
  | 0, n, cs => .ok (n, cs)
  | _ + 1, _, [] => .error .escapeUnclosed
  | k + 1, n, c :: cs =>
    match hexDigit? c with
    | none => .error .escapeHex
    | some d => hexDigits verbose k (n * 16 + d) (skipIgnored verbose cs)

/-- Reads hexadecimal digits up to a closing brace; `count` digits are read. -/
def hexBraced (verbose : Bool) : Nat → Nat → Nat → List Char → Except Fault (Nat × List Char)
  | 0, _, _, _ => .error .escapeUnclosed
  | _, _, _, [] => .error .escapeUnclosed
  | fuel + 1, count, n, c :: cs =>
    if c = '\x7d' then
      if count = 0 then .error .escapeHex else .ok (n, skipIgnored verbose cs)
    else
      match hexDigit? c with
      | none => .error .escapeHex
      | some d => hexBraced verbose fuel (count + 1) (n * 16 + d) (skipIgnored verbose cs)

/-- Reads decimal digits; `none` if there is none. -/
def decimalDigits (verbose : Bool) : Nat → Option Nat → List Char → Option Nat × List Char
  | fuel + 1, n, c :: cs =>
    if c.isDigit then
      decimalDigits verbose fuel (some (n.getD 0 * 10 + (c.toNat - '0'.toNat)))
        (skipIgnored verbose cs)
    else (n, c :: cs)
  | _, n, cs => (n, cs)

/-- Passes over blanks, and after each over what the mode ignores. -/
def skipBlanks (verbose : Bool) : Nat → List Char → List Char
  | fuel + 1, c :: cs => if isBlank c then skipBlanks verbose fuel (skipIgnored verbose cs) else c :: cs
  | _, cs => cs

/-- Reads a count, with blanks around it. -/
def decimal (verbose : Bool) (cs : List Char) : Except Fault (Nat × List Char) :=
  let cs := cs.dropWhile isBlank
  match decimalDigits verbose cs.length none cs with
  | (none, _) => .error .repetitionCount
  | (some n, rest) =>
    if n < 0x100000000 then .ok (n, skipBlanks verbose rest.length rest) else .error .repetitionCount

/-! ## Escapes -/

/-- What an escape stands for. -/
inductive Escaped where
  | char (l : Literal)
  | anchor (a : Anchor)
  | shorthand (c : Shorthand) (negated : Bool)
  | property (q : PropertyQuery) (negated : Bool)
deriving Repr

def Escaped.ast : Escaped → Ast
  | .char l => .char l
  | .anchor a => .anchor a
  | .shorthand c n => .shorthand c n
  | .property q n => .property q n

/-- Reads a code point, from the letter that tells how many digits it has without braces. -/
def readHex (verbose : Bool) (kind : Char) (cs : List Char) : Except Fault (Escaped × List Char) := do
  let digits := if kind = 'x' then 2 else if kind = 'u' then 4 else 8
  match skipIgnored verbose cs with
  | [] => throw .escapeUnclosed
  | '\x7b' :: cs =>
    let (n, rest) ← hexBraced verbose (cs.length + 1) 0 0 (skipIgnored verbose cs)
    return (.char ⟨← charOf? n, false⟩, rest)
  | cs =>
    let (n, rest) ← hexDigits verbose digits 0 cs
    return (.char ⟨← charOf? n, kind = 'x'⟩, rest)

/-- Reads the characters up to a closing brace, and passes over the brace. -/
def bracedName (verbose : Bool) : Nat → List Char → List Char → Except Fault (List Char × List Char)
  | fuel + 1, name, c :: cs =>
    if c = '\x7d' then .ok (name.reverse, cs)
    else bracedName verbose fuel (c :: name) (skipIgnored verbose cs)
  | _, _, _ => .error .escapeUnclosed

/-- Splits a text at the first occurrence of another. -/
def splitAtText (key cs : List Char) : Option (List Char × List Char) :=
  (Text.findSub key cs).map fun i => (cs.take i, cs.drop (i + key.length))

/-- The question that a name in braces asks; with the unequal sign it asks for the contrary. -/
def queryOf (name : List Char) : PropertyQuery :=
  let valued := fun (p : List Char × List Char) =>
    PropertyQuery.valued (String.ofList p.1) (String.ofList p.2)
  match splitAtText ['!', '='] name with
  | some p => valued p
  | none =>
    match splitAtText [':'] name with
    | some p => valued p
    | none =>
      match splitAtText ['='] name with
      | some p => valued p
      | none => .named (String.ofList name)

/-- Reads a property, after the letter that opens it. -/
def readProperty (verbose negated : Bool) (cs : List Char) : Except Fault (Escaped × List Char) := do
  match skipIgnored verbose cs with
  | [] => throw .escapeUnclosed
  | '\x7b' :: cs =>
    let (name, rest) ← bracedName verbose (cs.length + 1) [] (skipIgnored verbose cs)
    return (.property (queryOf name) negated, rest)
  | c :: cs =>
    if c = '\\' then throw .escapeProperty
    return (.property (.named (String.ofList [c])) negated, skipIgnored verbose cs)

/-- Characters of the name of a special word boundary. -/
def isBoundaryChar (c : Char) : Bool := c.isAlpha || c == '-'

/-- Reads the name of a special word boundary. -/
def boundaryName (verbose : Bool) : Nat → List Char → List Char → List Char × List Char
  | fuel + 1, name, c :: cs =>
    if isBoundaryChar c then boundaryName verbose fuel (c :: name) (skipIgnored verbose cs)
    else (name.reverse, c :: cs)
  | _, name, cs => (name.reverse, cs)

/-- Reads what follows the letter of a word boundary: nothing, the name of a special boundary in
braces, or a repetition, which is left in place. -/
def readBoundary (verbose : Bool) (cs : List Char) : Except Fault (Escaped × List Char) := do
  match cs with
  | '\x7b' :: inner =>
    let inner := skipIgnored verbose inner
    match inner with
    | [] => throw .boundaryUnclosed
    | c :: _ =>
      if !isBoundaryChar c then
        return (.anchor .boundary, cs)
      let (name, rest) := boundaryName verbose inner.length [] inner
      match rest with
      | '\x7d' :: rest =>
        match String.ofList name with
        | "start" => return (.anchor .wordStart, rest)
        | "end" => return (.anchor .wordEnd, rest)
        | "start-half" => return (.anchor .wordStartHalf, rest)
        | "end-half" => return (.anchor .wordEndHalf, rest)
        | _ => throw .boundaryUnknown
      | _ => throw .boundaryUnclosed
  | _ => return (.anchor .boundary, cs)

/-- Reads an escape, after its backslash. -/
def readEscape (verbose : Bool) : List Char → Except Fault (Escaped × List Char)
  | [] => .error .escapeUnclosed
  | c :: cs =>
    if c.isDigit then .error .backReference
    else if c = 'x' || c = 'u' || c = 'U' then readHex verbose c cs
    else if c = 'p' || c = 'P' then readProperty verbose (c = 'P') cs
    else if isEscapable c then .ok (.char ⟨c, false⟩, cs)
    else
      match c with
      | 'd' => .ok (.shorthand .digit false, cs)
      | 'D' => .ok (.shorthand .digit true, cs)
      | 's' => .ok (.shorthand .space false, cs)
      | 'S' => .ok (.shorthand .space true, cs)
      | 'w' => .ok (.shorthand .word false, cs)
      | 'W' => .ok (.shorthand .word true, cs)
      | 'a' => .ok (.char ⟨'\x07', false⟩, cs)
      | 'f' => .ok (.char ⟨'\x0c', false⟩, cs)
      | 't' => .ok (.char ⟨'\t', false⟩, cs)
      | 'n' => .ok (.char ⟨'\n', false⟩, cs)
      | 'r' => .ok (.char ⟨'\r', false⟩, cs)
      | 'v' => .ok (.char ⟨'\x0b', false⟩, cs)
      | 'A' => .ok (.anchor .textStart, cs)
      | 'z' => .ok (.anchor .textEnd, cs)
      | 'b' => readBoundary verbose cs
      | 'B' => .ok (.anchor .noBoundary, cs)
      | '<' => .ok (.anchor .wordStart, cs)
      | '>' => .ok (.anchor .wordEnd, cs)
      | _ => .error .escapeUnknown

/-! ## Classes in brackets -/

/-- The class with a name. -/
def NamedClass.ofName? : String → Option NamedClass
  | "alnum" => some .alnum
  | "alpha" => some .alpha
  | "ascii" => some .ascii
  | "blank" => some .blank
  | "cntrl" => some .cntrl
  | "digit" => some .digit
  | "graph" => some .graph
  | "lower" => some .lower
  | "print" => some .print
  | "punct" => some .punct
  | "space" => some .space
  | "upper" => some .upper
  | "word" => some .word
  | "xdigit" => some .xdigit
  | _ => none

/-- Reads a class named between colons, from its opening bracket; `none` if it is something else. -/
def namedClass? (cs : List Char) : Option (ClassSet × List Char) :=
  match cs with
  | '[' :: ':' :: cs =>
    let (negated, cs) := match cs with
      | '^' :: cs => (true, cs)
      | cs => (false, cs)
    match cs.span (· != ':') with
    | (name, ':' :: ']' :: rest) =>
      (NamedClass.ofName? (String.ofList name)).map fun c => (.named c negated, rest)
    | _ => none
  | _ => none

/-- One end of a range, or an item of a set. -/
def readItem (verbose : Bool) : List Char → Except Fault (Escaped × List Char)
  | '\\' :: cs => readEscape verbose cs
  | c :: cs => .ok (.char ⟨c, false⟩, cs)
  | [] => .error .classUnclosed

/-- What may stand in a set by itself. -/
def Escaped.item : Escaped → Except Fault ClassSet
  | .char l => .ok (.char l)
  | .shorthand c n => .ok (.shorthand c n)
  | .property q n => .ok (.property q n)
  | .anchor _ => .error .classEscape

/-- What may be an end of a range. -/
def Escaped.literal : Escaped → Except Fault Literal
  | .char l => .ok l
  | _ => .error .classRange

/-- Reads an item or a range. -/
def readRange (verbose : Bool) (cs : List Char) : Except Fault (ClassSet × List Char) := do
  let (first, cs) ← readItem verbose cs
  match skipIgnored verbose cs with
  | [] => throw .classUnclosed
  | c :: rest =>
    let after := peekPast verbose (c :: rest)
    if c != '-' || after == some ']' || after == some '-' then
      return (← first.item, c :: rest)
    match skipIgnored verbose rest with
    | [] => throw .classUnclosed
    | rest =>
      let (last, rest) ← readItem verbose rest
      let lo ← first.literal
      let hi ← last.literal
      if hi.char < lo.char then throw .classRange
      return (.range lo hi, rest)

/-- Reads the hyphens that may open a set. -/
def leadingHyphens (verbose : Bool) :
    Nat → List ClassSet → List Char → Except Fault (List ClassSet × List Char)
  | fuel + 1, items, '-' :: cs =>
    match skipIgnored verbose cs with
    | [] => .error .classUnclosed
    | cs => leadingHyphens verbose fuel (.char ⟨'-', false⟩ :: items) cs
  | _, items, cs => .ok (items, cs)

/-- Reads the opening of a set: its bracket, its negation, and the hyphens or the closing bracket that
stand for themselves there. -/
def openSet (verbose : Bool) (cs : List Char) :
    Except Fault (Bool × List ClassSet × List Char) := do
  let cs := advance verbose cs
  if cs.isEmpty then throw .classUnclosed
  let (negated, cs) ← match cs with
    | '^' :: rest =>
      let rest := skipIgnored verbose rest
      if rest.isEmpty then throw .classUnclosed else pure (true, rest)
    | cs => pure (false, cs)
  let (items, cs) ← leadingHyphens verbose cs.length [] cs
  match items, cs with
  | [], ']' :: rest =>
    let rest := skipIgnored verbose rest
    if rest.isEmpty then throw .classUnclosed
    return (negated, [.char ⟨']', false⟩], rest)
  | items, cs => return (negated, items, cs)

/-- A set that is open: its items, last first, and the operation waiting for its right side. -/
structure OpenSet where
  negated : Bool
  items : List ClassSet
  waiting : Option (SetOp × ClassSet)

/-- All that the set holds so far. -/
def OpenSet.close (s : OpenSet) : ClassSet :=
  let last := ClassSet.ofItems s.items.reverse
  match s.waiting with
  | none => last
  | some (op, left) => .op op left last

/-- Adds an item. -/
def OpenSet.push (s : OpenSet) (item : ClassSet) : OpenSet := { s with items := item :: s.items }

/-- Starts the right side of an operation. -/
def OpenSet.operate (s : OpenSet) (op : SetOp) : OpenSet :=
  { s with items := [], waiting := some (op, s.close) }

/-- Reads a set to its closing bracket; `outer` are the sets around the one being read. -/
def readSet (verbose : Bool) :
    Nat → OpenSet → List OpenSet → List Char → Except Fault (Ast × List Char)
  | 0, _, _, _ => .error .classUnclosed
  | fuel + 1, cur, outer, cs => do
    match skipIgnored verbose cs with
    | [] => throw .classUnclosed
    | '[' :: rest =>
      match namedClass? ('[' :: rest) with
      | some (item, rest) => readSet verbose fuel (cur.push item) outer rest
      | none =>
        let (negated, items, rest) ← openSet verbose ('[' :: rest)
        readSet verbose fuel ⟨negated, items, none⟩ (cur :: outer) rest
    | ']' :: rest =>
      match outer with
      | [] => return (.brackets cur.negated cur.close, rest)
      | parent :: outer =>
        readSet verbose fuel (parent.push (.nested cur.negated cur.close)) outer rest
    | '&' :: '&' :: rest => readSet verbose fuel (cur.operate .inter) outer rest
    | '-' :: '-' :: rest => readSet verbose fuel (cur.operate .diff) outer rest
    | '~' :: '~' :: rest => readSet verbose fuel (cur.operate .symmDiff) outer rest
    | cs =>
      let (item, rest) ← readRange verbose cs
      readSet verbose fuel (cur.push item) outer rest

/-- Reads a class in brackets, from its opening bracket. -/
def readBrackets (verbose : Bool) (cs : List Char) : Except Fault (Ast × List Char) := do
  let (negated, items, rest) ← openSet verbose cs
  readSet verbose (cs.length + 1) ⟨negated, items, none⟩ [] rest

/-! ## Groups -/

/-- The flag with a letter. -/
def Flag.ofChar? : Char → Option Flag
  | 'i' => some .ignoreCase
  | 'm' => some .multiLine
  | 's' => some .dotAll
  | 'U' => some .swapGreed
  | 'u' => some .unicode
  | 'R' => some .crlf
  | 'x' => some .verbose
  | _ => none

/-- Reads flags up to a colon or a closing parenthesis, and passes over neither.  Each item may occur
once, and a negation must be followed by a flag. -/
def readFlags : List FlagItem → List Char → Except Fault (List FlagItem × List Char)
  | _, [] => .error .flagUnclosed
  | items, c :: cs =>
    if c = ':' || c = ')' then
      if items.head? = some .negation then .error .flagDangling
      else .ok (items.reverse, c :: cs)
    else if c = '-' then
      if items.contains .negation then .error .flagRepeated
      else readFlags (.negation :: items) cs
    else
      match Flag.ofChar? c with
      | none => .error .flagUnknown
      | some f =>
        if items.contains (.flag f) then .error .flagRepeated
        else readFlags (.flag f :: items) cs

/-- What a list of flags says about one of them. -/
def flagState (f : Flag) (items : List FlagItem) : Option Bool :=
  (items.foldl (fun (on, found) item =>
    match item with
    | .negation => (false, found)
    | .flag g => (on, if g = f then some on else found)) (true, none)).2

/-- Characters of the name of a group. -/
def isNameChar (first : Bool) (c : Char) : Bool :=
  if first then c == '_' || isLetter c
  else c == '_' || c == '.' || c == '[' || c == ']' || isLetterOrNumber c

/-- Reads the name of a group up to its closing angle bracket. -/
def readName (name : List Char) : List Char → Except Fault (String × List Char)
  | [] => .error .groupName
  | '>' :: cs => if name.isEmpty then .error .groupName else .ok (String.ofList name.reverse, cs)
  | c :: cs => if isNameChar name.isEmpty c then readName (c :: name) cs else .error .groupName

/-- What an opening parenthesis opens. -/
inductive Opening where
  | setFlags (items : List FlagItem)
  | capture (name : Option String)
  | plain (items : List FlagItem)

/-- Reads an opening, after its parenthesis. -/
def readOpening (verbose : Bool) (cs : List Char) : Except Fault (Opening × List Char) := do
  match skipIgnored verbose cs with
  | '?' :: '=' :: _ => throw .lookAround
  | '?' :: '!' :: _ => throw .lookAround
  | '?' :: '<' :: '=' :: _ => throw .lookAround
  | '?' :: '<' :: '!' :: _ => throw .lookAround
  | '?' :: 'P' :: '<' :: cs =>
    let (name, rest) ← readName [] cs
    return (.capture (some name), rest)
  | '?' :: '<' :: cs =>
    let (name, rest) ← readName [] cs
    return (.capture (some name), rest)
  | '?' :: cs =>
    if cs.isEmpty then throw .groupUnclosed
    let (items, rest) ← readFlags [] cs
    match rest with
    | ')' :: rest =>
      if items.isEmpty then throw .repetitionMissing
      return (.setFlags items, rest)
    | rest => return (.plain items, rest.tail)
  | cs => return (.capture none, cs)

/-! ## Patterns -/

/-- What closes a group: its number, or its flags. -/
inductive GroupKind where
  | capture (index : Nat)
  | plain (items : List FlagItem)

/-- A group that is open: what stood before it, last first, and the mode to go back to. -/
structure OpenGroup where
  kind : GroupKind
  items : List Ast
  choices : List Ast
  verbose : Bool

/-- A reader of patterns between two constructs. -/
structure Reader where
  rest : List Char
  verbose : Bool
  /-- The constructs of the open sequence, last first. -/
  items : List Ast
  /-- The choices before the open sequence, last first. -/
  choices : List Ast
  /-- The open groups, innermost first. -/
  groups : List OpenGroup
  captures : Nat
  names : List String

/-- The pattern read since the innermost open group. -/
def Reader.body (r : Reader) : Ast :=
  Ast.choice ((Ast.concat r.items.reverse :: r.choices).reverse)

def Reader.push (r : Reader) (a : Ast) (rest : List Char) : Reader :=
  { r with items := a :: r.items, rest := rest }

/-- Reads an opening parenthesis. -/
def Reader.open (r : Reader) (cs : List Char) : Except Fault Reader := do
  let (opening, rest) ← readOpening r.verbose cs
  match opening with
  | .setFlags items =>
    return { r with
      items := .flags items :: r.items, rest := rest
      verbose := (flagState .verbose items).getD r.verbose }
  | .capture name =>
    let names ← match name with
      | none => pure r.names
      | some n => if r.names.contains n then throw .groupNameRepeated else pure (n :: r.names)
    return { r with
      rest := rest, items := [], choices := [], captures := r.captures + 1, names := names
      groups := ⟨.capture (r.captures + 1), r.items, r.choices, r.verbose⟩ :: r.groups }
  | .plain items =>
    return { r with
      rest := rest, items := [], choices := []
      verbose := (flagState .verbose items).getD r.verbose
      groups := ⟨.plain items, r.items, r.choices, r.verbose⟩ :: r.groups }

/-- Reads a closing parenthesis. -/
def Reader.close (r : Reader) (rest : List Char) : Except Fault Reader :=
  match r.groups with
  | [] => .error .groupUnopened
  | g :: groups =>
    let a := match g.kind with
      | .capture index => Ast.capture index r.body
      | .plain items => Ast.group items r.body
    .ok { r with
      rest := rest, verbose := g.verbose, items := a :: g.items, choices := g.choices
      groups := groups }

/-- What a repetition applies to, and the items before it. -/
def Reader.operand (r : Reader) : Except Fault (Ast × List Ast) :=
  match r.items with
  | [] => .error .repetitionMissing
  | .flags _ :: _ => .error .repetitionMissing
  | a :: items => .ok (a, items)

/-- Reads the mark of a lazy repetition, if it is there. -/
def lazyMark : List Char → Bool × List Char
  | '?' :: cs => (false, cs)
  | cs => (true, cs)

/-- Reads one of the three short repetitions. -/
def Reader.repetition (r : Reader) (least : Nat) (most : Option Nat) (rest : List Char) :
    Except Fault Reader := do
  let (a, items) ← r.operand
  let (greedy, rest) := lazyMark rest
  return { r with items := .repetition least most greedy a :: items, rest := rest }

/-- Reads the bounds of a counted repetition and the mark after them, from behind its opening brace: the
least and the greatest count, and whether the repetition is greedy. -/
def readBounds (verbose : Bool) (cs : List Char) :
    Except Fault (Nat × Option Nat × Bool × List Char) := do
  let (least, cs) ← decimal verbose (skipIgnored verbose cs)
  let (most, cs) ← match cs with
    | ',' :: cs =>
      match skipIgnored verbose cs with
      | '\x7d' :: cs => pure (none, '\x7d' :: cs)
      | cs => do
        let (n, cs) ← decimal verbose cs
        pure (some n, cs)
    | cs => pure (some least, cs)
  match cs with
  | '\x7d' :: cs =>
    let (greedy, rest) := lazyMark (skipIgnored verbose cs)
    match most with
    | some n => if n < least then throw .repetitionOrder
    | none => pure ()
    return (least, most, greedy, rest)
  | _ => throw .repetitionUnclosed

/-- Reads a counted repetition, after its opening brace. -/
def Reader.counted (r : Reader) (cs : List Char) : Except Fault Reader := do
  let (a, items) ← r.operand
  let (least, most, greedy, rest) ← readBounds r.verbose cs
  return { r with items := .repetition least most greedy a :: items, rest := rest }

/-- Reads one construct, of which `c` is the first character. -/
def Reader.step (r : Reader) (c : Char) (cs : List Char) : Except Fault Reader :=
  match c with
  | '(' => r.open cs
  | ')' => r.close cs
  | '|' =>
    .ok { r with rest := cs, items := [], choices := Ast.concat r.items.reverse :: r.choices }
  | '[' => do
    let (a, rest) ← readBrackets r.verbose (c :: cs)
    return r.push a rest
  | '?' => r.repetition 0 (some 1) cs
  | '*' => r.repetition 0 none cs
  | '+' => r.repetition 1 none cs
  | '\x7b' => r.counted cs
  | '\\' => do
    let (e, rest) ← readEscape r.verbose cs
    return r.push e.ast rest
  | '.' => .ok (r.push .dot cs)
  | '^' => .ok (r.push (.anchor .lineStart) cs)
  | '$' => .ok (r.push (.anchor .lineEnd) cs)
  | c => .ok (r.push (.char ⟨c, false⟩) cs)

/-- Reads to the end of the text.  Each construct has at least one character, so the number of
characters is fuel enough. -/
def Reader.run : Nat → Reader → Except Fault Reader
  | 0, r => .ok r
  | fuel + 1, r =>
    match skipIgnored r.verbose r.rest with
    | [] => .ok { r with rest := [] }
    | c :: cs => do (← r.step c cs).run fuel

/-- The syntax of a pattern. -/
def read (text : List Char) : Except Fault Ast := do
  let r ← Reader.run (text.length + 1) ⟨text, false, [], [], [], 0, []⟩
  if !r.groups.isEmpty then throw .groupUnclosed
  let a := r.body
  if a.depth .none > nestingLimit then throw .nesting
  return a

end Transcripts.Pattern
