import Transcripts.Json.Printer
import Transcripts.Json.Reader

/-!
# Sections

Keyed blocks of text in order.  Insertion and appending keep the keys distinct; a section file is taken
as it is, so that a key it repeats has an entry for each time.
-/
namespace Transcripts

/-- One keyed block of text (`Section`). -/
structure Section where
  key : String
  text : String
deriving Repr, DecidableEq

/-- Keyed blocks of text, in order (`Sections`). -/
structure Sections where
  entries : List Section
deriving Repr, DecidableEq

namespace Sections

def empty : Sections := ⟨[]⟩

/-- Gives a key its text in the first entry that has the key, or in a new last one. -/
def put (key text : String) : List Section → List Section
  | [] => [⟨key, text⟩]
  | s :: rest => if s.key = key then ⟨s.key, text⟩ :: rest else s :: put key text rest

/-- Inserts or replaces; a replaced entry keeps its place (`Sections.insert`). -/
def insert (s : Sections) (key text : String) : Sections := ⟨put key text s.entries⟩

/-- Whether some entry has a key (`Sections.contains_key`). -/
def contains (s : Sections) (key : String) : Bool := s.entries.any (·.key == key)

/-- Adds a section after all others; a key that is present is refused and returned (`Sections.append`). -/
def append (s : Sections) (key text : String) : Except String Sections :=
  if s.contains key then .error key else .ok ⟨s.entries ++ [⟨key, text⟩]⟩

/-- The text of the first entry with a key (`Sections.get`). -/
def get? (s : Sections) (key : String) : Option String :=
  (s.entries.find? (·.key == key)).map (·.text)

def size (s : Sections) : Nat := s.entries.length

def isEmpty (s : Sections) : Bool := s.entries.isEmpty

def keys (s : Sections) : List String := s.entries.map (·.key)

/-- Keys and texts, in order (`Sections.iter`). -/
def pairs (s : Sections) : List (String × String) := s.entries.map fun e => (e.key, e.text)

/-- Inserts keys and texts one by one (`Sections.from_iter`). -/
def ofPairs (pairs : List (String × String)) : Sections :=
  pairs.foldl (fun s p => s.insert p.1 p.2) empty

/-- Inserts the entries of a list one by one (`Sections.from`). -/
def ofList (entries : List Section) : Sections := ofPairs (entries.map fun e => (e.key, e.text))

/-! ## Section files -/

/-- The values of all members with a name. -/
def valuesOf (name : String) (members : List (String × Json)) : List Json :=
  (members.filter (·.1 == name)).map (·.2)

/-- One entry: an object with a key and a text, each given once and other members ignored, or the two
in a row. -/
def entry? : Json → Option Section
  | .object members =>
    match valuesOf "key" members, valuesOf "text" members with
    | [.string k], [.string t] => some ⟨k, t⟩
    | _, _ => none
  | .array [.string k, .string t] => some ⟨k, t⟩
  | _ => none

/-- The sections of a JSON array, entry by entry (the derived `Sections.deserialize`). -/
def ofJson? : Json → Option Sections
  | .array items => (items.mapM entry?).map Sections.mk
  | _ => none

/-- Reads a string. -/
def readText (cs : List Char) : Option (String × List Char) :=
  match Json.skipSpace cs with
  | '"' :: cs => (Json.readString [] cs).map fun (s, rest) => (String.ofList s, rest)
  | _ => none

/-- Passes over a mark. -/
def readMark (c : Char) (cs : List Char) : Option (List Char) :=
  Json.expect [c] (Json.skipSpace cs)

/-- Reads the members of an entry, of which there is at least one, and its closing brace.  The key and
the text are each given once; other members are passed over. -/
def readMembers : Nat → Option String → Option String → List Char → Option (Section × List Char)
  | 0, _, _, _ => none
  | fuel + 1, key, text, cs => do
    let (name, cs) ← readText cs
    let cs ← readMark ':' cs
    let (key, text, cs) ←
      match name, key, text with
      | "key", none, text => (readText cs).map fun (k, cs) => (some k, text, cs)
      | "text", key, none => (readText cs).map fun (t, cs) => (key, some t, cs)
      | "key", _, _ => none
      | "text", _, _ => none
      | _, key, text => (Json.pass cs).map fun cs => (key, text, cs)
    match Json.skipSpace cs with
    | ',' :: cs => readMembers fuel key text cs
    | '\x7d' :: cs =>
      match key, text with
      | some k, some t => some (⟨k, t⟩, cs)
      | _, _ => none
    | _ => none

/-- Reads an entry: an object, or a key and a text in a row. -/
def readEntry (cs : List Char) : Option (Section × List Char) :=
  match Json.skipSpace cs with
  | '\x7b' :: cs => readMembers cs.length none none cs
  | '[' :: cs => do
    let (k, cs) ← readText cs
    let (t, cs) ← readText (← readMark ',' cs)
    return (⟨k, t⟩, ← readMark ']' cs)
  | _ => none

/-- Reads entries, of which there is at least one, and the closing bracket. -/
def readEntries : Nat → List Char → Option (List Section × List Char)
  | 0, _ => none
  | fuel + 1, cs => do
    let (e, cs) ← readEntry cs
    match Json.skipSpace cs with
    | ',' :: cs => (readEntries fuel cs).map fun (es, rest) => (e :: es, rest)
    | ']' :: cs => some ([e], cs)
    | _ => none

/-- Reads an array of entries. -/
def readArray (cs : List Char) : Option (List Section × List Char) := do
  let cs ← readMark '[' cs
  match Json.skipSpace cs with
  | ']' :: cs => some ([], cs)
  | cs => readEntries cs.length cs

/-- The sections that the text of a section file holds.  Members that are passed over need to follow
the grammar, but need not make sense. -/
def parse? (text : String) : Option Sections :=
  match readArray text.toList with
  | some (es, rest) => if (Json.skipSpace rest).isEmpty then some ⟨es⟩ else none
  | none => none

/-- One entry as a JSON object, with a given name for its text. -/
def entryJson (textName : String) (e : Section) : Json :=
  .object [("key", .string e.key), (textName, .string e.text)]

/-- The text of a section file. -/
def toJson (s : Sections) : String :=
  (Json.array (s.entries.map (entryJson "text"))).compact

/-- The text of a transcript file, which ends in a line feed (`write_transcripts`). -/
def transcriptFile (s : Sections) : String :=
  String.ofList ((Json.array (s.entries.map (entryJson "transcript"))).pretty 0 ++ ['\n'])

end Sections

end Transcripts
