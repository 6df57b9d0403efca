import Transcripts.Datum

/-!
# Tables of TOML

A document builds up tables: by headers, by the names on the way to a header, and by keys with dots.
Each may be opened once, and a table that another form has opened is closed to dotted keys.
-/
namespace Transcripts.Toml

/-- A part of a document while it is read. -/
inductive Node where
  /-- A value, to which nothing is added. -/
  | value (d : Datum)
  /-- A table: whether a header has still to open it, and whether dotted keys have made it. -/
  | table (implicit dotted : Bool) (entries : List (String × Node))
  /-- Tables under one repeated header, the current one first. -/
  | tables (elements : List Node)

/-- The entries of a table. -/
abbrev Entries := List (String × Node)

/-- Changes the entry with a key, in its place, or adds one at the end. -/
def Entries.update (key : String) (f : Option Node → Option Node) : Entries → Option Entries
  | [] => (f none).map fun n => [(key, n)]
  | (k, n) :: rest =>
    if k = key then (f (some n)).map fun n => (k, n) :: rest
    else (Entries.update key f rest).map ((k, n) :: ·)

namespace Node

/-- A table without entries that a header has opened. -/
def empty : Node := .table false false []

/-- Changes the table at the end of a path.  Missing tables are made on the way; of repeated tables the
current one is meant.  Dotted keys do not pass a table that a header has opened. -/
def modify (dotted : Bool) (f : Node → Option Node) : List String → Node → Option Node
  | [], node => f node
  | key :: path, .table i d entries =>
    (Entries.update key (fun
      | none => modify dotted f path (.table true dotted [])
      | some (.tables (n :: rest)) => (modify dotted f path n).map fun n => .tables (n :: rest)
      | some (.table i' d' es) =>
        if dotted && !i' then none else modify dotted f path (.table i' d' es)
      | some _ => none) entries).map (.table i d)
  | _ :: _, _ => none

/-- Gives a key of the table a value.  A dotted key belongs into a table that dotted keys have made, and
a plain one into any other. -/
def assign (isDotted : Bool) (key : String) (d : Datum) : Node → Option Node
  | .table i dotted entries =>
    if dotted != isDotted then none
    else
      (Entries.update key (fun
        | none => some (.value d)
        | some _ => none) entries).map (.table i dotted)
  | _ => none

/-- Gives a value to a key with dots. -/
def put (path : List String) (key : String) (d : Datum) (node : Node) : Option Node :=
  node.modify true (assign (!path.isEmpty) key d) path

/-- Opens a table: a new one, or one that headers have passed through. -/
def openTable (key : String) : Node → Option Node
  | .table i d entries =>
    match entries.lookup key with
    | none => some (.table i d (entries ++ [(key, empty)]))
    | some (.table true false es) =>
      some (.table i d (entries.filter (·.1 != key) ++ [(key, .table false false es)]))
    | some _ => none
  | _ => none

/-- Opens one more of some repeated tables. -/
def openElement (key : String) : Node → Option Node
  | .table i d entries =>
    (Entries.update key (fun
      | none => some (.tables [empty])
      | some (.tables elements) => some (.tables (empty :: elements))
      | some _ => none) entries).map (.table i d)
  | _ => none

mutual

/-- The datum that a part of a document has become, where tables are in a given form. -/
def datum (form : Form) : Node → Datum
  | .value d => d
  | .table _ _ entries => .table form (datumEntries form entries)
  | .tables elements => .list form (datumElements form elements).reverse

def datumEntries (form : Form) : Entries → List (String × Datum)
  | [] => []
  | (k, n) :: rest => (k, n.datum form) :: datumEntries form rest

def datumElements (form : Form) : List Node → List Datum
  | [] => []
  | n :: rest => n.datum form :: datumElements form rest

end

end Node

end Transcripts.Toml
