import Transcripts.Tool

/-!
# Translating characters

Characters are replaced by others, taken away, or kept once where they repeat.  A set of characters is
written as a text with ranges, classes and repetitions.
-/
namespace Transcripts.Tool.Translate

/-- One item of a set. -/
inductive Item where
  | char (c : Char)
  | range (a b : Char)
  | class_ (name : String)
  /-- A character so many times; zero fills up the set. -/
  | times (c : Char) (n : Nat)
deriving Repr, DecidableEq

/-- A character of a set as it is written, and whether it was escaped. -/
structure Mark where
  char : Char
  escaped : Bool := false
deriving Repr, DecidableEq

/-- What letters mean behind a backslash. -/
def escapes : List (Char × Char) :=
  [('\\', '\\'), ('a', '\x07'), ('b', '\x08'), ('f', '\x0c'), ('n', '\n'), ('r', '\r'), ('t', '\t'),
    ('v', '\x0b')]

/-- Takes the escapes out of a text. -/
def marks : Nat → Str → List Mark
  | 0, _ => []
  | _, [] => []
  | _, ['\\'] => [⟨'\\', false⟩]
  | fuel + 1, '\\' :: c :: rest =>
    match escapes.lookup c with
    | some e => ⟨e, true⟩ :: marks fuel rest
    | none =>
      let ds := ((c :: rest).take 3).takeWhile fun d => '0' ≤ d && d ≤ '7'
      if ds.isEmpty then ⟨c, true⟩ :: marks fuel rest
      else
        let n := Str.ofDigits 8 ds
        let (n, ds) := if 255 < n then (Str.ofDigits 8 (ds.take 2), ds.take 2) else (n, ds)
        ⟨Char.ofNat n, true⟩ :: marks fuel ((c :: rest).drop ds.length)
  | fuel + 1, c :: rest => ⟨c, false⟩ :: marks fuel rest

/-- The characters in front of a mark of two characters, which are not escaped. -/
def upTo (a : Char) : List Mark → Option (List Mark × List Mark)
  | [] => none
  | m :: rest =>
    if m = ⟨a, false⟩ ∧ rest.head? = some ⟨']', false⟩ then some ([], rest.drop 1)
    else (upTo a rest).map fun (front, back) => (m :: front, back)

def classes : List (String × (Char → Bool)) :=
  [("alnum", Char.isAlphanum), ("alpha", Char.isAlpha), ("blank", fun c => c = ' ' || c = '\t'),
    ("cntrl", fun c => c < ' ' || c = '\x7f'), ("digit", Char.isDigit),
    ("graph", fun c => '!' ≤ c && c ≤ '~'), ("lower", Char.isLower), ("print", fun c => ' ' ≤ c && c ≤ '~'),
    ("punct", fun c => '!' ≤ c && c ≤ '~' && !c.isAlphanum), ("space", Str.isSpace),
    ("upper", Char.isUpper), ("xdigit", fun c => (Str.digit? c).any (· < 16))]

/-- A character as messages show it. -/
def shown (c : Char) : Str :=
  match escapes.find? (·.2 == c) with
  | some (e, _) => ['\\', e]
  | none => if isOdd c then '\\' :: Str.padStart 3 '0' (Nat.toDigits 8 c.toNat) else [c]

/-- The repetition that stands in brackets, if it is one. -/
def repetition? (ms : List Mark) : Option (Nat × List Mark) :=
  let front := ms.takeWhile (· != ⟨']', false⟩)
  let ds := front.map (·.char)
  if front.length = ms.length then none
  else
    let rest := ms.drop (front.length + 1)
    if ds.isEmpty then some (0, rest)
    else if ds.head? = some '0' && ds.all (fun c => '0' ≤ c && c ≤ '7') then some (Str.ofDigits 8 ds, rest)
    else if ds.all Char.isDigit then some (Str.ofDigits 10 ds, rest)
    else none

/-- The items of a set. -/
def items : Nat → List Mark → Except Str (List Item)
  | 0, _ => .ok []
  | _, [] => .ok []
  | fuel + 1, m :: rest => do
    let plain : Except Str (List Item) :=
      match rest with
      | ⟨'-', false⟩ :: e :: more =>
        if e.char < m.char then
          .error ("range-endpoints of '".toList ++ shown m.char ++ ['-'] ++ shown e.char
            ++ "' are in reverse collating sequence order".toList)
        else (items fuel more).map (.range m.char e.char :: ·)
      | rest => (items fuel rest).map (.char m.char :: ·)
    if m != ⟨'[', false⟩ then plain
    else
      match rest with
      | ⟨':', false⟩ :: more =>
        match upTo ':' more with
        | none => plain
        | some (name, more) =>
          let name := String.ofList (name.map (·.char))
          if (classes.lookup name).isSome then (items fuel more).map (.class_ name :: ·)
          else .error (Str.ofString ("invalid character class " ++ Str.toString (marked name.toList)))
      | ⟨'=', false⟩ :: more =>
        match upTo '=' more with
        | none => plain
        | some ([c], more) => (items fuel more).map (.char c.char :: ·)
        | some (cs, _) =>
          .error (cs.flatMap (fun c => shown c.char)
            ++ ": equivalence class operand must be a single character".toList)
      | c :: ⟨'*', false⟩ :: more =>
        match repetition? more with
        | some (n, more) => (items fuel more).map (.times c.char n :: ·)
        | none => plain
      | _ => plain

/-- All bytes. -/
def allChars : Str := (List.range 256).map Char.ofNat

def Item.chars : Item → Str
  | .char c => [c]
  | .range a b => (List.range (b.toNat + 1 - a.toNat)).map fun i => Char.ofNat (a.toNat + i)
  | .class_ name => allChars.filter ((classes.lookup name).getD fun _ => false)
  | .times c n => List.replicate n c

/-- The characters of a set, filled up to a length where it says so. -/
def expand (its : List Item) (length : Nat) : Str :=
  let fixed := its.foldl (fun n i => n + i.chars.length) 0
  its.flatMap fun i =>
    match i with
    | .times c 0 => List.replicate (length - fixed) c
    | i => i.chars

/-- Keeps one of the characters of a set that repeat; gives the last character too. -/
def squeeze (set : Str) : Option Char → Str → Str × Option Char
  | last, [] => ([], last)
  | last, c :: cs =>
    if last = some c && set.contains c then squeeze set last cs
    else
      let (rest, last) := squeeze set (some c) cs
      (c :: rest, last)

/-- What is done with characters. -/
structure Plan where
  deletes : Str := []
  map : List (Char × Char) := []
  squeezes : Str := []

def Plan.apply (p : Plan) (last : Option Char) (s : Str) : Str × Option Char :=
  let kept := if p.deletes.isEmpty then s else s.filter (!p.deletes.contains ·)
  let moved := if p.map.isEmpty then kept else kept.map fun c => (p.map.lookup c).getD c
  if p.squeezes.isEmpty then (moved, none) else squeeze p.squeezes last moved

/-- Takes the input through a plan. -/
def run (p : Plan) : Nat → Option Char → Tool Unit
  | 0, _ => return ()
  | fuel + 1, last => do
    match ← readSome 0 with
    | .error f => fail (Str.ofString ("read error: " ++ f.message))
    | .ok [] => return ()
    | .ok s => do
      let (out, last) := p.apply last s
      put out
      run p fuel last

/-- Ends the work of a call that makes no sense. -/
def refuse {α : Type} (message : Str) (more : Option String) : Tool α := do
  warn message
  match more with
  | some m => say (Str.ofString m)
  | none => pure ()
  say (hint (← desk).name)
  quit 1

def tr (args : List Str) : Tool Unit := do
  let w ← words (switches ["c:complement", "C", "d:delete", "s:squeeze-repeats", "t:truncate-set1"]) false 1 args
  let complement := w.has "c" || w.has "C"
  let deletes := w.has "d"
  let squeezes := w.has "s"
  let wanted := if deletes = squeezes then 2 else 1
  let read (s : Str) : Tool (List Item) := do
    let ms := marks (s.length + 1) s
    match items (ms.length + 1) ms with
    | .ok its => return its
    | .error message => die 1 message
  match w.operands with
  | [] => refuse "missing operand".toList none
  | [a] =>
    if wanted = 2 then
      refuse ("missing operand after ".toList ++ marked a) (some (if deletes then
          "Two strings must be given when both deleting and squeezing repeats."
        else "Two strings must be given when translating."))
  | [_, b] =>
    if deletes && !squeezes then
      refuse ("extra operand ".toList ++ marked b)
        (some "Only one string may be given when deleting without squeezing repeats.")
  | _ :: _ :: c :: _ => refuse ("extra operand ".toList ++ marked c) none
  let first ← read (w.operands.headD [])
  let second? ← match w.operands[1]? with
    | some s => do
      let its ← read s
      pure (some its)
    | none => pure none
  if first.any fun i => match i with
      | .times .. => true
      | _ => false then
    die 1 "the [c*] repeat construct may not appear in string1".toList
  let set := expand first 0
  let set := if complement then allChars.filter (!set.contains ·) else set
  match second? with
  | none => run (if deletes then { deletes := set } else { squeezes := set }) rounds none
  | some second =>
    if deletes then run { deletes := set, squeezes := expand second 0 } rounds none
    else do
      let cases (i : Item) : Bool := i = .class_ "upper" || i = .class_ "lower"
      if second.any fun i => match i with
          | .class_ _ => !cases i
          | _ => false then
        die 1 "when translating, the only character classes that may appear in\nstring2 are 'upper' and 'lower'".toList
      if (second.filter cases).length > (first.filter cases).length then
        die 1 "misaligned [:upper:] and/or [:lower:] construct".toList
      if 1 < (second.filter fun i => match i with
          | .times _ 0 => true
          | _ => false).length then
        die 1 "only one [c*] repeat construct may appear in string2".toList
      let to_ := expand second set.length
      if to_.isEmpty && !w.has "t" then die 1 "when not truncating set1, string2 must be non-empty".toList
      let set := if w.has "t" then set.take to_.length else set
      let filled := to_ ++ List.replicate (set.length - to_.length) ((to_.getLast?).getD ' ')
      run { map := (set.zip filled).reverse, squeezes := if squeezes then to_ else [] } rounds none

end Transcripts.Tool.Translate
