import Transcripts.Format
import Transcripts.Tool.Expression
import Transcripts.Tool

/-!
# Numbers

Sequences of numbers, factors of numbers, and the value of a term whose parts are the words of a call.
-/
namespace Transcripts.Tool.Numbers

open Format (Quantity)

/-! ## Sequences -/

/-- A number of a call, with how it is written. -/
structure Operand where
  value : Quantity
  /-- How wide it is. -/
  width : Nat
  /-- Its digits behind the point, if it is a plain decimal number. -/
  places : Option Nat

/-- The number that a word writes. -/
def Operand.parse (s : Str) : Option Operand :=
  match Format.real? s with
  | some (value, []) =>
    let body := s.dropWhile fun c => Str.isSpace c || c = '+'
    let lower := Str.lower body
    let hex := lower.contains 'x'
    let plain := !hex && !lower.contains 'i' && !lower.contains 'n'
    let mantissa := body.takeWhile fun c => c != 'e' && c != 'E'
    let exponent := if plain then (Str.int? (body.drop (mantissa.length + 1))).getD 0 else 0
    let fraction := ((mantissa.dropWhile (· != '.')).drop 1).length
    let hasPoint := mantissa.contains '.'
    let bare := (mantissa.dropWhile (· == '-')).head? = some '.'
    if !plain then some ⟨value, 0, none⟩
    else if mantissa.length != body.length then
      let places := ((fraction : Int) - exponent).toNat
      some ⟨value, mantissa.length - (if hasPoint then fraction + 1 else 0) + exponent.toNat
        + (if 0 < places then places + 1 else 0), some places⟩
    else
      let width := if hasPoint && fraction = 0 then body.length - 1 else body.length
      some ⟨value, if bare then width + 1 else width, some fraction⟩
  | _ => none

/-- A ratio, and whether it is below zero. -/
abbrev Ratio := Int × Nat

def ratio? : Quantity → Option Ratio
  | .finite negative num den => some (if negative then -(num : Int) else num, den)
  | _ => none

/-- How numbers are written. -/
structure Look where
  before : Str := []
  spec : Format.Spec := {}
  letter : Char := 'f'
  after : Str := []

def Look.write (l : Look) (negativeZero : Bool) (x : Ratio) : Str :=
  let real := Format.Grain.round Format.extended (.finite (x.1 < 0 || (negativeZero && x.1 = 0)) x.1.natAbs x.2)
  l.before ++ Format.realOf Format.extended l.spec l.letter real ++ l.after

/-- Percent signs that stand for themselves. -/
def unescaped : Str → Str
  | '%' :: '%' :: rest => '%' :: unescaped rest
  | c :: rest => c :: unescaped rest
  | [] => []

/-- The text in front of a conversion, and the conversion. -/
def splitFormat : Str → Str → Str × Str
  | open_, '%' :: '%' :: rest => splitFormat ('%' :: '%' :: open_) rest
  | open_, '%' :: rest => (open_.reverse, '%' :: rest)
  | open_, c :: rest => splitFormat (c :: open_) rest
  | open_, [] => (open_.reverse, [])

/-- The look that a format asks for, or what is wrong with it. -/
def Look.parse (format : Str) : Except Str Look :=
  let about (what : Str) : Except Str Look := .error ("format ".toList ++ marked format ++ what)
  match splitFormat [] format with
  | (_, []) => about " has no % directive".toList
  | (before, _ :: s) =>
    let flagText := s.takeWhile fun c => "'#0- +".toList.contains c
    let s := s.drop flagText.length
    let width := s.takeWhile Char.isDigit
    let s := s.drop width.length
    let (precision, s) := match s with
      | '.' :: rest => (some (Str.ofDigits 10 (rest.takeWhile Char.isDigit)), rest.dropWhile Char.isDigit)
      | s => (none, s)
    let s := match s with
      | 'L' :: rest => rest
      | s => s
    match s with
    | [] => about " ends in %".toList
    | c :: rest =>
      if !"aAeEfFgG".toList.contains c then about (" has unknown %".toList ++ [c] ++ " directive".toList)
      else
        match splitFormat [] rest with
        | (after, []) =>
          let has (d : Char) : Bool := flagText.contains d
          .ok { before := unescaped before, letter := c, after := unescaped after
                spec := { left := has '-', plus := has '+', space := has ' ', alternate := has '#'
                          zeros := has '0', width := Str.ofDigits 10 width, precision } }
        | _ => about " has too many % directives".toList

/-- The usual look for numbers from one to another. -/
def Look.usual (equalWidth : Bool) (first step last : Operand) : Look :=
  match first.places, step.places, last.places with
  | some p, some q, some r =>
    let places := max p q
    if equalWidth then
      let a := first.width + (places - p) + (if p = 0 && 0 < places then 1 else 0)
      let b := last.width + places - r
      let b := if 0 < r && places = 0 then b - 1 else b
      let b := if r = 0 && 0 < places then b + 1 else b
      { spec := { zeros := true, width := max a b, precision := some places } }
    else { spec := { precision := some places } }
  | _, _, _ => { letter := 'g' }

/-- Whether a number is beyond the last one. -/
def isBeyond (step x last : Ratio) : Bool :=
  if step.1 < 0 then x.1 * last.2 < last.1 * x.2 else last.1 * x.2 < x.1 * last.2

/-- Writes numbers in steps. -/
def count (l : Look) (sep : Str) (first step : Ratio) (last : Option Ratio) (negativeZero : Bool) :
    Nat → Nat → Tool Unit
  | 0, _ => return ()
  | fuel + 1, i => do
    let x : Ratio := (first.1 * step.2 + i * step.1 * first.2, first.2 * step.2)
    if last.any (isBeyond step x) then
      if 0 < i then put ['\n'] else return ()
    else do
      put ((if i = 0 then [] else sep) ++ l.write (negativeZero && i = 0) x)
      if (← desk).fault.isSome then return () else count l sep first step last negativeZero fuel (i + 1)

/-- Words up to the first that is a number below zero, and the others. -/
def splitNegative : List Str → List Str × List Str
  | [] => ([], [])
  | a :: rest =>
    match a with
    | '-' :: c :: _ =>
      if c = '.' || c.isDigit then ([], a :: rest)
      else if a = ['-', '-'] then ([a], rest)
      else if ["-f", "-s"].contains (String.ofList a) then
        match rest with
        | v :: rest =>
          let (front, back) := splitNegative rest
          (a :: v :: front, back)
        | [] => ([a], [])
      else
        let (front, back) := splitNegative rest
        (a :: front, back)
    | _ => ([], a :: rest)

def seq (args : List Str) : Tool Unit := do
  let (front, numbers) := splitNegative args
  let w ← words (switches ["w:equal-width"] ++ values ["f:format", "s:separator"]) false 1 front
  let numbers := w.operands ++ numbers
  let refuse {α : Type} (message : Str) : Tool α := do
    warn message
    say (hint (← desk).name)
    quit 1
  match numbers with
  | [] => refuse "missing operand".toList
  | _ :: _ :: _ :: extra :: _ => refuse ("extra operand ".toList ++ marked extra)
  | _ => pure ()
  let look? ← match w.value? "f" with
    | none => pure none
    | some s =>
      match Look.parse s with
      | .ok l => pure (some l)
      | .error message => die 1 message
  if look?.isSome && w.has "w" then
    refuse "format string may not be specified when printing equal width strings".toList
  let operands ← numbers.mapM fun s => do
    match Operand.parse s with
    | none => refuse ("invalid floating point argument: ".toList ++ marked s)
    | some o =>
      match o.value with
      | .nan _ => refuse ("invalid 'not-a-number' argument: ".toList ++ marked s)
      | _ => return o
  let one : Operand := ⟨.finite false 1 1, 1, some 0⟩
  let (first, step, last) := match operands with
    | [c] => (one, one, c)
    | [a, c] => (a, one, c)
    | [a, b, c] => (a, b, c)
    | _ => (one, one, one)
  match ratio? first.value, ratio? step.value with
  | some a, some b =>
    if b.1 = 0 then
      refuse ("invalid Zero increment value: ".toList ++ marked ((numbers[1]?).getD []))
    let l := look?.getD (Look.usual (w.has "w") first step last)
    let negativeZero := match first.value with
      | .finite true 0 _ => true
      | _ => false
    match last.value with
    | .infinite negative =>
      if negative = decide (b.1 < 0) then count l ((w.value? "s").getD ['\n']) a b none negativeZero rounds 0
    | v => count l ((w.value? "s").getD ['\n']) a b (ratio? v) negativeZero rounds 0
  | _, _ => return ()

/-! ## Factors -/

/-- The factors of a number from some divisor on. -/
def factorsFrom : Nat → Nat → Nat → List Nat
  | 0, _, n => [n]
  | fuel + 1, d, n =>
    if n < 2 then []
    else if n < d * d then [n]
    else if n % d = 0 then d :: factorsFrom fuel d (n / d)
    else factorsFrom fuel (if d = 2 then 3 else d + 2) n

/-- Writes a number with its factors. -/
def factorWord (s : Str) : Tool Unit := do
  let body := s.dropWhile fun c => c = ' ' || c = '\t'
  let body := if body.head? = some '+' then body.drop 1 else body
  match Str.nat? body with
  | none => fail (marked s ++ " is not a valid positive integer".toList)
  | some n =>
    putLine (Str.decimal n ++ ':' :: (factorsFrom 5000000 2 n).flatMap fun f => ' ' :: Str.decimal f)

def factor (args : List Str) : Tool Unit := do
  let w ← words (switches ["h:exponents"]) true 1 args
  if w.operands.isEmpty then
    let _ ← eachPiece 0 '\n' fun p => do
      ((Text.splitOnChar ' ' (p.map fun c => if Str.isSpace c then ' ' else c)).filter
        (!·.isEmpty)).forM factorWord
      return true
  else w.operands.forM factorWord

/-! ## Terms -/

/-- Why a term has no value. -/
inductive Fault where
  | unexpected (word : Str)
  | missingAfter (word : Str)
  | expectedClose (after : Str)
  | closeInstead (word : Str)
  | notInteger
  | divisionByZero
  | expression (f : Expression.Fault)

/-- The message of a fault and the status that the tool ends with. -/
def Fault.report : Fault → Str × Nat
  | unexpected w => ("syntax error: unexpected argument ".toList ++ marked w, 2)
  | missingAfter w => ("syntax error: missing argument after ".toList ++ marked w, 2)
  | expectedClose w => ("syntax error: expecting ')' after ".toList ++ marked w, 2)
  | closeInstead w => ("syntax error: expecting ')' instead of ".toList ++ marked w, 2)
  | notInteger => ("non-integer argument".toList, 2)
  | divisionByZero => ("division by zero".toList, 2)
  | expression f => (Str.ofString f.message, 2)

/-- The number that a value is. -/
def intOf (s : Str) : Option Int :=
  match s with
  | '-' :: ds => (Str.nat? ds).map fun n => -(n : Int)
  | ds => (Str.nat? ds).map fun n => (n : Int)

def isNull (s : Str) : Bool :=
  s.isEmpty || (let ds := if s.head? = some '-' then s.drop 1 else s
    !ds.isEmpty && ds.all (· == '0'))

/-- What an expression finds at the start of a text. -/
def matchValue (s pattern : Str) : Except Fault Str :=
  match Expression.parse ⟨false⟩ pattern with
  | .error f => .error (.expression f)
  | .ok (e, groups) =>
    match e.matchAt { text := s.toArray } 0 with
    | none => .ok (if groups = 0 then ['0'] else [])
    | some m =>
      if groups = 0 then .ok (Str.decimal m.stop)
      else
        match m.groups.lookup 1 with
        | some (a, b) => .ok ((s.drop a).take (b - a))
        | none => .ok []

/-- The place of the first character that is in a set, counted from one; zero if there is none. -/
def indexOf (s set : Str) : Nat :=
  match s.findIdx? set.contains with
  | some i => i + 1
  | none => 0

/-- What stands between two levels of operators: the value, the word before the rest, and the rest. -/
structure Read where
  value : Str
  before : Str
  rest : List Str

/-- The operators of each level, the loosest first. -/
def levels : List (List String) :=
  [["|"], ["&"], ["<", "<=", "=", "==", "!=", ">=", ">"], ["+", "-"], ["*", "/", "%"], [":"]]

/-- The value of two values; of those of which only one counts `live` tells whether it does. -/
def combine (live : Bool) (op : String) (a b : Str) : Except Fault Str :=
  if !live then .ok a
  else
    let truth (c : Bool) : Except Fault Str := .ok (if c then ['1'] else ['0'])
    let order : Ordering := match intOf a, intOf b with
      | some x, some y => compare x y
      | _, _ => if a < b then .lt else if b < a then .gt else .eq
    let number (f : Int → Int → Except Fault Int) : Except Fault Str :=
      match intOf a, intOf b with
      | some x, some y => (f x y).map Str.integer
      | _, _ => .error .notInteger
    match op with
    | "|" => .ok (if isNull a then (if isNull b then ['0'] else b) else a)
    | "&" => .ok (if isNull a || isNull b then ['0'] else a)
    | "<" => truth (order = .lt)
    | "<=" => truth (order != .gt)
    | "=" => truth (order = .eq)
    | "==" => truth (order = .eq)
    | "!=" => truth (order != .eq)
    | ">=" => truth (order != .lt)
    | ">" => truth (order = .gt)
    | "+" => number fun x y => .ok (x + y)
    | "-" => number fun x y => .ok (x - y)
    | "*" => number fun x y => .ok (x * y)
    | "/" => number fun x y => if y = 0 then .error .divisionByZero else .ok (Int.tdiv x y)
    | "%" => number fun x y => if y = 0 then .error .divisionByZero else .ok (Int.tmod x y)
    | _ => matchValue a b

mutual

/-- The value of a term at a level; `before` is the word in front.  What does not count is not `live`. -/
def term (live : Bool) : Nat → List (List String) → Str → List Str → Except Fault Read
  | 0, _, before, _ => .error (.missingAfter before)
  | _, [], before, [] => .error (.missingAfter before)
  | fuel + 1, [], _, w :: rest => do
    match String.ofList w, rest with
    | "(", rest => do
      let r ← term live fuel levels w rest
      match r.rest with
      | [')'] :: rest => return ⟨r.value, [')'], rest⟩
      | [] => throw (.expectedClose r.before)
      | other :: _ => throw (.closeInstead other)
    | ")", _ => throw (.unexpected w)
    | "+", [] => throw (.missingAfter w)
    | "+", v :: rest => return ⟨v, v, rest⟩
    | "length", rest => do
      let r ← term live fuel [] w rest
      return { r with value := Str.decimal r.value.length }
    | "match", rest => do
      let a ← term live fuel [] w rest
      let b ← term live fuel [] a.before a.rest
      let value ← combine live ":" a.value b.value
      return { b with value }
    | "index", rest => do
      let a ← term live fuel [] w rest
      let b ← term live fuel [] a.before a.rest
      return { b with value := Str.decimal (indexOf a.value b.value) }
    | "substr", rest => do
      let a ← term live fuel [] w rest
      let b ← term live fuel [] a.before a.rest
      let c ← term live fuel [] b.before b.rest
      let value := match intOf b.value, intOf c.value with
        | some i, some n => if i ≤ 0 ∨ n ≤ 0 then [] else (a.value.drop (i.toNat - 1)).take n.toNat
        | _, _ => []
      return { c with value }
    | _, rest => return ⟨w, w, rest⟩
  | fuel + 1, ops :: tighter, before, ws => do
    let first ← term live fuel tighter before ws
    operators live fuel ops tighter first

/-- Takes the operators of a level one after the other. -/
def operators (live : Bool) : Nat → List String → List (List String) → Read → Except Fault Read
  | 0, _, _, r => .ok r
  | fuel + 1, ops, tighter, r =>
    match r.rest with
    | w :: rest =>
      let op := String.ofList w
      if !ops.contains op then .ok r
      else do
        let skipped := (op = "|" && !isNull r.value) || (op = "&" && isNull r.value)
        let b ← term (live && !skipped) fuel tighter w rest
        let value ← combine live op r.value (if skipped then [] else b.value)
        operators live fuel ops tighter ⟨value, b.before, b.rest⟩
    | [] => .ok r

end

def expr (args : List Str) : Tool Unit := do
  let args := if args.head? = some ['-', '-'] then args.drop 1 else args
  if args = ["--help".toList] || args = ["--version".toList] then quit 0
  if args.isEmpty then misuse 2 "missing operand"
  let failed {α : Type} (f : Fault) : Tool α := die f.report.2 f.report.1
  match term true (40 * args.length + 40) levels [] args with
  | .error f => failed f
  | .ok r =>
    match r.rest with
    | extra :: _ => failed (.unexpected extra)
    | [] => do
      putLine r.value
      quit (if isNull r.value then 1 else 0)

end Transcripts.Tool.Numbers
