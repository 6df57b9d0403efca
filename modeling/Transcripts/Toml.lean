import Transcripts.Toml.Scalar
import Transcripts.Toml.Tree

/-!
# TOML documents

A document is read statement by statement: a header opens a table, and a key gets its value in the table
opened last.  What is wrong with a document is not said.
-/
namespace Transcripts.Toml

/-! ## Keys -/

/-- Whether a character may stand in a key without quotes. -/
def isBare (c : Char) : Bool := c.isAlphanum || c == '_' || c == '-'

/-- One part of a key. -/
def simpleKey : Reader String
  | [] => none
  | c :: cs =>
    if c = '"' ∨ c = '\'' then lineString (c :: cs)
    else
      match (c :: cs).span isBare with
      | ([], _) => none
      | (word, rest) => some (String.ofList word, rest)

/-- A key has fewer parts than this, and brackets are nested less deeply. -/
def depthLimit : Nat := 80

/-- Parts with dots between them.  The result is the path to the last part, and that part. -/
def keyFrom : Nat → Reader (List String × String)
  | 0, _ => none
  | fuel + 1, cs => do
    let (part, cs) ← simpleKey (skipSpace cs)
    match skipSpace cs with
    | '.' :: cs => do
      let ((path, key), rest) ← keyFrom fuel cs
      return ((part :: path, key), rest)
    | cs => return (([], part), cs)

def key : Reader (List String × String) := keyFrom (depthLimit - 1)

/-! ## Values -/

/-- The items of an array, up to its closing bracket; a comma may follow the last. -/
def items (value : Reader Datum) : Nat → Reader (List Datum)
  | 0, _ => none
  | fuel + 1, cs =>
    match skipLines cs with
    | ']' :: rest => some ([], rest)
    | cs => do
      let (v, cs) ← value cs
      match skipLines cs with
      | ',' :: cs => do
        let (vs, rest) ← items value fuel cs
        return (v :: vs, rest)
      | ']' :: rest => return ([v], rest)
      | _ => none

/-- A key and its value. -/
def pair (value : Reader Datum) : Reader (List String × String × Datum) := fun cs => do
  let ((path, k), cs) ← key cs
  let cs ← mark '=' cs
  let (v, cs) ← value (skipSpace cs)
  return ((path, k, v), cs)

/-- The entries of a table on one line, up to its closing brace; no comma follows the last. -/
def inlinePairs (value : Reader Datum) (node : Node) : Nat → Reader Node
  | 0, _ => none
  | fuel + 1, cs => do
    let ((path, k, v), cs) ← pair value cs
    let node ← node.put path k v
    match skipSpace cs with
    | ',' :: cs => inlinePairs value node fuel cs
    | '\x7d' :: rest => return (node, rest)
    | _ => none

/-- A table on one line, after its opening brace. -/
def inlineTable (value : Reader Datum) : Reader Datum := fun cs =>
  match skipSpace cs with
  | '\x7d' :: rest => some (.table .inline [], rest)
  | cs =>
    (inlinePairs value .empty (cs.length + 1) cs).map fun (node, rest) => (node.datum .inline, rest)

/-- A value that holds no others. -/
def scalar : Reader Datum
  | [] => none
  | 't' :: 'r' :: 'u' :: 'e' :: rest => some (.bool true, rest)
  | 'f' :: 'a' :: 'l' :: 's' :: 'e' :: rest => some (.bool false, rest)
  | c :: rest =>
    if c = '"' ∨ c = '\'' then (string (c :: rest)).map fun (s, rest) => (.string s, rest)
    else momentOrNumber (c :: rest)

/-- A value in which brackets are nested up to some depth. -/
def valueTo : Nat → Reader Datum
  | 0, '[' :: _ => none
  | 0, '\x7b' :: _ => none
  | depth + 1, '[' :: rest =>
    (items (valueTo depth) (rest.length + 1) rest).map fun (vs, rest) => (.list .inline vs, rest)
  | depth + 1, '\x7b' :: rest => inlineTable (valueTo depth) rest
  | _, cs => scalar cs

def value : Reader Datum := valueTo (depthLimit - 1)

/-! ## Documents -/

/-- A document while it is read: its root, and the path to the table opened last. -/
structure Draft where
  root : Node := .empty
  current : List String := []

/-- Reads a header after its opening brackets. -/
def header (d : Draft) (repeated : Bool) (cs : List Char) : Option (Draft × List Char) := do
  let ((path, k), cs) ← key cs
  let cs ← mark ']' cs
  let cs ← if repeated then mark ']' cs else some cs
  let cs ← endLine cs
  let root ← d.root.modify false (if repeated then Node.openElement k else Node.openTable k) path
  return (⟨root, path ++ [k]⟩, cs)

/-- Reads one statement. -/
def statement (d : Draft) : List Char → Option (Draft × List Char)
  | '[' :: '[' :: cs => header d true cs
  | '[' :: cs => header d false cs
  | cs => do
    let ((path, k, v), cs) ← pair value cs
    let cs ← endLine cs
    let root ← d.root.modify false (Node.put path k v) d.current
    return (⟨root, d.current⟩, cs)

/-- Reads statements up to the end. -/
def statements (d : Draft) : Nat → List Char → Option Draft
  | 0, _ => none
  | fuel + 1, cs =>
    match skipLines cs with
    | [] => some d
    | cs => (statement d cs).bind fun (d, rest) => statements d fuel rest

/-- The text without the mark of its byte order. -/
def withoutMark : List Char → List Char
  | '\ufeff' :: cs => cs
  | cs => cs

/-- The table that a document describes. -/
def parse (text : String) : Option Datum :=
  let cs := withoutMark text.toList
  (statements {} (cs.length + 1) cs).map (·.root.datum .headed)

end Transcripts.Toml
