import Transcripts.Str

/-!
# Modes

Who may read, write and run a file, as a number of twelve bits, and the changes of it that words write.
-/
namespace Transcripts.Mode

/-- All bits. -/
def all : Nat := 0o7777

/-- The bits that are not in a set. -/
def without (bits : Nat) : Nat := all ^^^ (bits &&& all)

/-- What a change puts in. -/
inductive Value where
  | bits (n : Nat)
  /-- Bits, and those to run what can be run already. -/
  | bitsAndRun (n : Nat)
  /-- What others may do, whose bits these are. -/
  | copy (n : Nat)
deriving Repr, DecidableEq

structure Change where
  /-- The bits that are meant; none if nobody was named. -/
  affected : Nat
  op : Char
  value : Value
  /-- Bits that were written out, which directories keep otherwise. -/
  mentioned : Nat := 0
deriving Repr, DecidableEq

/-- Bits of a kind for everybody. -/
def forAll (n : Nat) : Nat := n * 0o111

/-- What directories keep unless it was mentioned. -/
def keptOfDir : Nat := 0o6000

/-- The mode after a change. -/
def Change.apply (c : Change) (isDir : Bool) (mask : Nat) (mode : Nat) : Nat :=
  let kept := if isDir then keptOfDir &&& without c.mentioned else 0
  let value := match c.value with
    | .bits n => n
    | .bitsAndRun n => if isDir || mode &&& 0o111 != 0 then n ||| 0o111 else n
    | .copy n =>
      let v := mode &&& n
      [4, 2, 1].foldl (fun m bit => if v &&& forAll bit != 0 then m ||| forAll bit else m) 0
  let value := value &&& (if c.affected = 0 then without mask else c.affected) &&& without kept
  match c.op with
  | '+' => mode ||| value
  | '-' => mode &&& without value
  | _ =>
    let preserved := (if c.affected = 0 then 0 else without c.affected) ||| kept
    (mode &&& preserved) ||| value

/-- The mode after changes in order. -/
def apply (cs : List Change) (isDir : Bool) (mask mode : Nat) : Nat :=
  cs.foldl (fun m c => c.apply isDir mask m) mode

/-- The bits of those who are named. -/
def who (c : Char) : Option Nat :=
  [('u', 0o4700), ('g', 0o2070), ('o', 0o1007), ('a', 0o7777)].lookup c

/-- The bits of those whose rights are copied. -/
def copied (c : Char) : Option Nat := [('u', 0o700), ('g', 0o070), ('o', 0o007)].lookup c

/-- The bits of a right. -/
def right (c : Char) : Option Nat :=
  [('r', 0o444), ('w', 0o222), ('x', 0o111), ('s', 0o6000), ('t', 0o1000), ('X', 0)].lookup c

def isOp (c : Char) : Bool := c == '=' || c == '+' || c == '-'

/-- A mode in octal digits. -/
def octal? (s : Str) : Option Nat :=
  if s.isEmpty || !s.all (fun c => '0' ≤ c && c ≤ '7') then none
  else
    let n := Str.ofDigits 8 s
    if n ≤ all then some n else none

/-- The changes that a clause asks for behind those who are named. -/
def clause (affected : Nat) : Nat → Str → Option (List Change)
  | 0, _ => none
  | _, [] => some []
  | fuel + 1, op :: rest =>
    if !isOp op then none
    else
      let body := rest.takeWhile (!isOp ·)
      let after := rest.drop body.length
      let go (c : Change) : Option (List Change) := (clause affected fuel after).map (c :: ·)
      match body with
      | [c] =>
        match copied c with
        | some n => go { affected, op, value := .copy n }
        | none => rights body go op
      | body =>
        if (body.head?.map Char.isDigit).getD false then
          if affected = 0 && after.isEmpty then
            (octal? body).map fun n => [{ affected := all, op, value := .bits n, mentioned := all }]
          else none
        else rights body go op
where
  rights (body : Str) (go : Change → Option (List Change)) (op : Char) : Option (List Change) :=
    if body.all fun c => (right c).isSome then
      let n := body.foldl (fun n c => n ||| (right c).getD 0) 0
      let mentioned := if affected = 0 then n else affected &&& n
      go { affected, op, mentioned, value := if body.contains 'X' then .bitsAndRun n else .bits n }
    else none

/-- The changes that a text writes. -/
def parse (s : Str) : Option (List Change) :=
  if (s.head?.map Char.isDigit).getD false then
    (octal? s).map fun n =>
      let mentioned := if 4 < s.length then all else n ||| 0o1777
      [{ affected := all, op := '=', value := .bits n, mentioned }]
  else
    ((Text.splitOnChar ',' s).mapM fun (part : Str) =>
      let names := part.takeWhile fun c => (who c).isSome
      let affected := names.foldl (fun n c => n ||| (who c).getD 0) 0
      let rest := part.drop names.length
      if rest.isEmpty then none else clause affected (rest.length + 1) rest).map List.flatten

/-- The rights in a mode as letters: three for each of three. -/
def rights (mode : Nat) : Str :=
  [6, 3, 0].flatMap fun shift =>
    let n := (mode >>> shift) &&& 7
    [if n &&& 4 != 0 then 'r' else '-', if n &&& 2 != 0 then 'w' else '-',
      if n &&& 1 != 0 then 'x' else '-']

/-- The rights as letters, with the other bits among them. -/
def shown (mode : Nat) : Str :=
  let special : List (Nat × Nat × Char) := [(2, 0o4000, 's'), (5, 0o2000, 's'), (8, 0o1000, 't')]
  special.foldl (fun s (i, bit, c) =>
    if mode &&& bit = 0 then s
    else s.set i (if s[i]? = some 'x' then c else c.toUpper)) (rights mode)

end Transcripts.Mode
