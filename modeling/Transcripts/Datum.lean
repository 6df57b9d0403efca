import Transcripts.Json

/-!
# Typed data

What a section of configuration holds, whichever notation it was written in.  A reader of settings
takes a datum apart and says at which setting it failed.
-/
namespace Transcripts

open Transcripts.Number (Double)

/-- How a list or a table is written, which decides what is made of more than is asked for. -/
inductive Form where
  /-- In the notation that writes `null`: nothing may be left over. -/
  | strict
  /-- Between brackets, where a list may go on, but one entry is one entry. -/
  | inline
  /-- Under headers, where a list and a table may go on. -/
  | headed
deriving Repr, DecidableEq

/-- A value of a data file. -/
inductive Datum where
  /-- An option that is left open; only some notations can say so. -/
  | null
  | bool (b : Bool)
  | number (x : Double)
  | string (s : String)
  /-- A date or a time of day; no setting is one. -/
  | moment
  | list (form : Form) (items : List Datum)
  /-- Settings by name, in the order in which they were written. -/
  | table (form : Form) (entries : List (String × Datum))
deriving Repr

namespace Datum

def str? : Datum → Option String
  | .string s => some s
  | _ => none

def bool? : Datum → Option Bool
  | .bool b => some b
  | _ => none

def strings? : Datum → Option (List String)
  | .list _ items => items.mapM str?
  | _ => none

/-- Whether a datum says nothing beyond being there: `null`, or an empty list or table in a notation
without `null`. -/
def isNothing : Datum → Bool
  | .null => true
  | .list form items => form != .strict && items.isEmpty
  | .table form entries => form != .strict && entries.isEmpty
  | _ => false

/-- The only entry of a table, or the first one of a table that may go on. -/
def onlyEntry? : Datum → Option (String × Datum)
  | .table _ [entry] => some entry
  | .table .headed (entry :: _) => some entry
  | _ => none

/-- A text, or an option that is left open. -/
def optional? : Datum → Option (Option String)
  | .null => some none
  | .string s => some (some s)
  | _ => none

mutual

/-- The datum that a JSON value means. -/
def ofJson : Json → Datum
  | .null => .null
  | .bool b => .bool b
  | .number n => .number n.double
  | .string s => .string s
  | .array items => .list .strict (ofItems items)
  | .object members => .table .strict (ofMembers members)

def ofItems : List Json → List Datum
  | [] => []
  | v :: rest => ofJson v :: ofItems rest

def ofMembers : List (String × Json) → List (String × Datum)
  | [] => []
  | (k, v) :: rest => (k, ofJson v) :: ofMembers rest

end

end Datum

end Transcripts
