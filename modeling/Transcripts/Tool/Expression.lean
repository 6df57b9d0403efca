import Transcripts.Str

/-!
# Expressions

Regular expressions as tools write them, in the basic and in the extended notation.  Of all matches that
start at a place the longest one counts.
-/
namespace Transcripts.Tool

/-- What an expression asks of a text. -/
inductive Expression where
  | empty
  /-- One character of some kind. -/
  | one (p : Char → Bool)
  | seq (a b : Expression)
  | alt (a b : Expression)
  /-- Some repetitions; without a limit there may be any number. -/
  | times (least : Nat) (most : Option Nat) (e : Expression)
  | group (n : Nat) (e : Expression)
  /-- What a group has matched. -/
  | again (n : Nat)
  | lineStart | lineEnd
  /-- The start or the end of a word, or of either, or of neither. -/
  | wordStart | wordEnd | wordEdge | notWordEdge
  /-- The start and the end of the whole text. -/
  | textStart | textEnd

namespace Expression

/-! ## Matching -/

/-- Where a match stands: its place, and what the groups have matched. -/
structure Spot where
  place : Nat
  groups : List (Nat × Nat × Nat) := []
deriving DecidableEq

/-- The text in which something is looked for. -/
structure Subject where
  text : Array Char
  /-- Whether lines start and end within the text. -/
  lines : Bool := false
  /-- Whether small and capital letters are the same. -/
  foldsCase : Bool := false

def isWord (c : Char) : Bool := c.isAlphanum || c = '_'

def Subject.wordAt (s : Subject) (i : Nat) : Bool := (s.text[i]?).any isWord

def Subject.wordBefore (s : Subject) (i : Nat) : Bool := 0 < i && s.wordAt (i - 1)

/-- Keeps the first spot of each place. -/
def firstOfEach : List Spot → List Spot
  | [] => []
  | s :: rest => s :: (firstOfEach rest).filter (·.place != s.place)

/-- Repeats a step as often as it leads to new places; the longer ways come first. -/
def repeatFrom (step : Spot → List Spot) : Nat → List Nat → Spot → List Spot × List Nat
  | 0, seen, s => ([s], seen)
  | fuel + 1, seen, s =>
    if seen.contains s.place then ([], seen)
    else
      let (later, seen) := (step s).foldl (fun (acc : List Spot × List Nat) t =>
        let (found, seen) := repeatFrom step fuel acc.2 t
        (acc.1 ++ found, seen)) ([], s.place :: seen)
      (later ++ [s], seen)

/-- Repeats a step so many times. -/
def repeatExactly (step : Spot → List Spot) : Nat → Spot → List Spot
  | 0, s => [s]
  | n + 1, s => firstOfEach ((step s).flatMap (repeatExactly step n))

/-- Repeats a step at most so many times. -/
def repeatUpTo (step : Spot → List Spot) : Nat → Spot → List Spot
  | 0, s => [s]
  | n + 1, s =>
    firstOfEach ((((step s).filter (·.place != s.place)).flatMap (repeatUpTo step n)) ++ [s])

/-- The spots to which a match can lead. -/
def spots (t : Subject) : Expression → Spot → List Spot
  | empty, s => [s]
  | one p, s =>
    match t.text[s.place]? with
    | some c =>
      if p c || (t.foldsCase && (p c.toLower || p c.toUpper)) then [{ s with place := s.place + 1 }] else []
    | none => []
  | seq a b, s => firstOfEach ((spots t a s).flatMap (spots t b))
  | alt a b, s => firstOfEach (spots t a s ++ spots t b s)
  | times least most e, s =>
    let starts := repeatExactly (spots t e) least s
    match most with
    | some n => firstOfEach (starts.flatMap (repeatUpTo (spots t e) (n - least)))
    | none =>
      (starts.foldl (fun (acc : List Spot × List Nat) u =>
        let (found, seen) := repeatFrom (spots t e) (t.text.size + 2) acc.2 u
        (acc.1 ++ found, seen)) ([], [])).1
  | group n e, s =>
    (spots t e s).map fun u =>
      { u with groups := (n, s.place, u.place) :: u.groups.filter (·.1 != n) }
  | again n, s =>
    match s.groups.lookup n with
    | none => []
    | some (a, b) =>
      let part := t.text.extract a b
      let here := t.text.extract s.place (s.place + part.size)
      let same := if t.foldsCase then part.map Char.toLower == here.map Char.toLower else part == here
      if same then [{ s with place := s.place + part.size }] else []
  | lineStart, s => if s.place = 0 || (t.lines && t.text[s.place - 1]? = some '\n') then [s] else []
  | lineEnd, s =>
    if s.place = t.text.size || (t.lines && t.text[s.place]? = some '\n') then [s] else []
  | wordStart, s => if !t.wordBefore s.place && t.wordAt s.place then [s] else []
  | wordEnd, s => if t.wordBefore s.place && !t.wordAt s.place then [s] else []
  | wordEdge, s => if t.wordBefore s.place != t.wordAt s.place then [s] else []
  | notWordEdge, s => if t.wordBefore s.place = t.wordAt s.place then [s] else []
  | textStart, s => if s.place = 0 then [s] else []
  | textEnd, s => if s.place = t.text.size then [s] else []

/-- A match: where it starts and ends, and what the groups have matched. -/
structure Match where
  start : Nat
  stop : Nat
  groups : List (Nat × Nat × Nat)

/-- The longest match at a place. -/
def matchAt (e : Expression) (t : Subject) (start : Nat) : Option Match :=
  (spots t e ⟨start, []⟩).foldl (fun (best : Option Match) s =>
    if best.all (·.stop < s.place) then some ⟨start, s.place, s.groups⟩ else best) none

/-- The first match from a place on. -/
def findFrom (e : Expression) (t : Subject) : Nat → Nat → Option Match
  | 0, _ => none
  | fuel + 1, start =>
    if t.text.size < start then none
    else
      match e.matchAt t start with
      | some m => some m
      | none => findFrom e t fuel (start + 1)

def find (e : Expression) (t : Subject) (start : Nat) : Option Match :=
  e.findFrom t (t.text.size + 1 - start) start

/-! ## Reading -/

/-- What is wrong with an expression. -/
inductive Fault where
  | bracket | openGroup | closeGroup | openCount | badCount | backslash | backReference | range | className
  | repetition
deriving Repr, DecidableEq

def Fault.message : Fault → String
  | bracket => "Unmatched [, [^, [:, [., or [="
  | openGroup => "Unmatched ( or \\("
  | closeGroup => "Unmatched ) or \\)"
  | openCount => "Unmatched \\\x7b"
  | badCount => "Invalid content of \\\x7b\\\x7d"
  | backslash => "Trailing backslash"
  | backReference => "Invalid back reference"
  | range => "Invalid range end"
  | className => "Invalid character class name"
  | repetition => "Invalid preceding regular expression"

/-- The classes of characters, by their names. -/
def classes : List (String × (Char → Bool)) :=
  [("alpha", Char.isAlpha), ("digit", Char.isDigit), ("alnum", Char.isAlphanum), ("upper", Char.isUpper),
    ("lower", Char.isLower), ("space", Str.isSpace), ("blank", fun c => c = ' ' || c = '\t'),
    ("punct", fun c => '!' ≤ c && c ≤ '~' && !c.isAlphanum), ("print", fun c => ' ' ≤ c && c ≤ '~'),
    ("graph", fun c => '!' ≤ c && c ≤ '~'), ("cntrl", fun c => c < ' ' || c = '\x7f'),
    ("xdigit", fun c => (Str.digit? c).any (· < 16))]

/-- Takes the text up to a mark of two characters. -/
def upTo (a b : Char) : Str → Str → Option (Str × Str)
  | open_, c :: d :: rest => if c = a ∧ d = b then some (open_.reverse, rest) else upTo a b (c :: open_) (d :: rest)
  | _, _ => none

/-- Reads what may follow a character of a bracket: the end of a range. -/
def readRange (c : Char) (rest : Str) : Except Fault ((Char → Bool) × Str) :=
  match rest with
  | '-' :: ']' :: _ => .ok ((· == c), rest)
  | '-' :: d :: more =>
    let (d, more) := match d, more with
      | '[', '.' :: behind =>
        match upTo '.' ']' [] behind with
        | some ([e], behind) => (e, behind)
        | _ => (d, more)
      | d, more => (d, more)
    if d < c then .error .range else .ok ((fun x => c ≤ x && x ≤ d), more)
  | rest => .ok ((· == c), rest)

/-- Reads one item of a bracket. -/
def readItem (c : Char) (rest : Str) : Except Fault ((Char → Bool) × Str) :=
  match c, rest with
  | '[', ':' :: more =>
    match upTo ':' ']' [] more with
    | none => .error .bracket
    | some (name, more) =>
      match classes.lookup (String.ofList name) with
      | none => .error .className
      | some q => .ok (q, more)
  | '[', '=' :: more =>
    match upTo '=' ']' [] more with
    | some ([c], more) => .ok ((· == c), more)
    | _ => .error .bracket
  | '[', '.' :: more =>
    match upTo '.' ']' [] more with
    | some ([c], more) => readRange c more
    | _ => .error .bracket
  | c, rest => readRange c rest

/-- Reads the items of a bracket. -/
def readItems : Nat → Bool → (Char → Bool) → Str → Except Fault ((Char → Bool) × Str)
  | 0, _, _, _ => .error .bracket
  | _, _, _, [] => .error .bracket
  | fuel + 1, first, p, c :: rest =>
    if c = ']' && !first then .ok (p, rest)
    else
      match readItem c rest with
      | .error f => .error f
      | .ok (q, rest) => readItems fuel false (fun d => p d || q d) rest

/-- Reads a bracket behind its first character. -/
def readBracket (s : Str) : Except Fault (Expression × Str) :=
  match s with
  | '^' :: rest => (readItems (rest.length + 1) true (fun _ => false) rest).map fun (p, rest) =>
      (one fun c => !p c, rest)
  | s => (readItems (s.length + 1) true (fun _ => false) s).map fun (p, rest) => (one p, rest)

/-- How an expression is written. -/
structure Notation where
  extended : Bool
deriving Repr, DecidableEq

/-- A part of an expression. -/
inductive Token where
  | char (c : Char)
  | any
  | open_ | close | bar | star | plus | question | openCount | bracket
  | caret | dollar
  | escaped (c : Char)
deriving Repr, DecidableEq

/-- The token at the start of a text. -/
def token? (n : Notation) : Str → Except Fault (Option (Token × Str))
  | [] => .ok none
  | '\\' :: [] => .error .backslash
  | '\\' :: c :: rest =>
    let special : Option Token := if n.extended then none else
      match c with
      | '(' => some .open_
      | ')' => some .close
      | '|' => some .bar
      | '\x7b' => some .openCount
      | '+' => some .plus
      | '?' => some .question
      | _ => none
    .ok (some (special.getD (.escaped c), rest))
  | c :: rest =>
    let special : Option Token := match c with
      | '.' => some .any
      | '[' => some .bracket
      | '*' => some .star
      | '^' => some .caret
      | '$' => some .dollar
      | c => if !n.extended then none else
        match c with
        | '(' => some .open_
        | ')' => some .close
        | '|' => some .bar
        | '\x7b' => some .openCount
        | '+' => some .plus
        | '?' => some .question
        | _ => none
    .ok (some (special.getD (.char c), rest))

/-- The most repetitions that can be asked for. -/
def countLimit : Nat := 32767

/-- Reads a count behind its brace: the least and the most, and what follows. -/
def readCount (n : Notation) (s : Str) : Except Fault (Nat × Option Nat × Str) :=
  let low := s.takeWhile Char.isDigit
  let close (least : Nat) (most : Option Nat) (rest : Str) : Except Fault (Nat × Option Nat × Str) :=
    let closed := match n.extended, rest with
      | true, '\x7d' :: more => some more
      | false, '\\' :: '\x7d' :: more => some more
      | _, _ => none
    match closed with
    | some more => if most.any (· < least) || countLimit < least then .error .badCount else .ok (least, most, more)
    | none => .error (if rest.isEmpty then .openCount else .badCount)
  match s.drop low.length with
  | ',' :: rest =>
    let high := rest.takeWhile Char.isDigit
    close (Str.ofDigits 10 low) (if high.isEmpty then none else some (Str.ofDigits 10 high)) (rest.drop high.length)
  | rest =>
    if low.isEmpty then .error (if rest.isEmpty then .openCount else .badCount)
    else close (Str.ofDigits 10 low) (some (Str.ofDigits 10 low)) rest

/-- What an escape means that is no part of the notation. -/
def escape (groups : Nat) (c : Char) : Except Fault Expression :=
  match c with
  | 'w' => .ok (one isWord)
  | 'W' => .ok (one (!isWord ·))
  | 's' => .ok (one Str.isSpace)
  | 'S' => .ok (one (!Str.isSpace ·))
  | 'b' => .ok wordEdge
  | 'B' => .ok notWordEdge
  | '<' => .ok wordStart
  | '>' => .ok wordEnd
  | '\x60' => .ok textStart
  | '\'' => .ok textEnd
  | c =>
    if '1' ≤ c ∧ c ≤ '9' then
      let n := c.toNat - '0'.toNat
      if n ≤ groups then .ok (again n) else .error .backReference
    else .ok (one (· == c))

/-- Whether a dollar sign in front of a text ends what it stands in. -/
def endsHere (n : Notation) (rest : Str) : Bool :=
  n.extended || rest.isEmpty || Str.startsWith rest "\\)" || Str.startsWith rest "\\|"
    || rest.head? = some '\n'

/-- Reads alternatives up to the end of their group; gives the number of groups so far too. -/
def readAlternatives (n : Notation) : Nat → Nat → Nat → Str → Except Fault (Expression × Nat × Str)
  | 0, _, _, _ => .error .openGroup
  | fuel + 1, depth, groups, s => do
    let (e, groups, rest) ← readBranch fuel depth groups true empty none s
    match ← token? n rest with
    | some (.bar, more) => do
      let (f, groups, rest) ← readAlternatives n fuel depth groups more
      return (alt e f, groups, rest)
    | _ => return (e, groups, rest)
where
  /-- Reads what stands between two bars; `last` is the part that may still be repeated. -/
  readBranch : Nat → Nat → Nat → Bool → Expression → Option Expression → Str →
      Except Fault (Expression × Nat × Str)
    | 0, _, _, _, _, _, _ => .error .openGroup
    | fuel + 1, depth, groups, first, before, last, s => do
      let whole : Expression := match last with
        | some e => seq before e
        | none => before
      let go (e : Expression) (groups : Nat) (rest : Str) := readBranch fuel depth groups false whole (some e) rest
      let anchor (e : Expression) (rest : Str) := readBranch fuel depth groups (!n.extended && first) (seq whole e) none rest
      let repeated (least : Nat) (most : Option Nat) (rest : Str) :=
        match last with
        | some e => readBranch fuel depth groups false before (some (times least most e)) rest
        | none => readBranch fuel depth groups false before none rest
      match ← token? n s with
      | none => if depth = 0 then return (whole, groups, []) else throw .openGroup
      | some (t, rest) =>
        match t with
        | .bar => return (whole, groups, s)
        | .close =>
          if 0 < depth then return (whole, groups, s)
          else if n.extended then go (one (· == ')')) groups rest
          else throw .closeGroup
        | .open_ => do
          let k := groups + 1
          let (e, groups, rest) ← readAlternatives n fuel (depth + 1) k rest
          match ← token? n rest with
          | some (.close, more) => go (group k e) groups more
          | _ => throw .openGroup
        | .star =>
          if last.isNone && (!n.extended && first) then go (one (· == '*')) groups rest
          else repeated 0 none rest
        | .plus =>
          if last.isNone && !n.extended && first then go (one (· == '+')) groups rest else repeated 1 none rest
        | .question =>
          if last.isNone && !n.extended && first then go (one (· == '?')) groups rest
          else repeated 0 (some 1) rest
        | .openCount =>
          if last.isNone && n.extended && first then go (one (· == '\x7b')) groups rest
          else
            match readCount n rest with
            | .ok (least, most, rest) =>
              if last.isNone then throw .repetition else repeated least most rest
            | .error f =>
              if n.extended && f != .badCount then go (one (· == '\x7b')) groups rest
              else if n.extended && !((rest.head?.map Char.isDigit).getD false) then go (one (· == '\x7b')) groups rest
              else throw f
        | .caret =>
          if n.extended || first then anchor lineStart rest else go (one (· == '^')) groups rest
        | .dollar =>
          if endsHere n rest then anchor lineEnd rest else go (one (· == '$')) groups rest
        | .any => go (one fun c => c != '\x00') groups rest
        | .bracket => do
          let (e, rest) ← readBracket rest
          go e groups rest
        | .escaped c => do
          let e ← escape groups c
          go e groups rest
        | .char c => go (one (· == c)) groups rest

/-- The expression that a text writes, with the number of its groups. -/
def parse (n : Notation) (s : Str) : Except Fault (Expression × Nat) := do
  let (e, groups, rest) ← readAlternatives n (4 * s.length + 8) 0 0 s
  if rest.isEmpty then return (e, groups) else throw .closeGroup

/-- Exactly some text. -/
def literal (s : Str) : Expression := s.foldr (fun c e => seq (one (· == c)) e) empty

end Expression

end Transcripts.Tool
