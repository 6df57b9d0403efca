import Transcripts.Str

/-!
# Files

The files that programs see: directories, texts, links and devices, each of them a node with a number.  A
path is followed from a directory part by part, and each part but the last has to lead to a directory.
-/
namespace Transcripts

open Transcripts.Text (Bytes)

/-- Why the system refuses what a program asks for. -/
inductive SystemFault where
  | missing | interrupted | inputOutput | noDevice | argumentsTooLong | notAProgram | badDescriptor
  | noChild | tryAgain | denied | busy | alreadyThere | crossDevice | notDirectory | isDirectory | invalid
  | notATerminal | textBusy | noSpace | noSeek | brokenPipe | nameTooLong | notEmpty | linkLoop
  | noProcess | notPermitted | tooManyLinks | outOfRange
deriving Repr, DecidableEq

namespace SystemFault

/-- The number and the words of each fault. -/
def entry : SystemFault → Nat × String
  | notPermitted => (1, "Operation not permitted")
  | missing => (2, "No such file or directory")
  | noProcess => (3, "No such process")
  | interrupted => (4, "Interrupted system call")
  | inputOutput => (5, "Input/output error")
  | noDevice => (6, "No such device or address")
  | argumentsTooLong => (7, "Argument list too long")
  | notAProgram => (8, "Exec format error")
  | badDescriptor => (9, "Bad file descriptor")
  | noChild => (10, "No child processes")
  | tryAgain => (11, "Resource temporarily unavailable")
  | denied => (13, "Permission denied")
  | busy => (16, "Device or resource busy")
  | alreadyThere => (17, "File exists")
  | crossDevice => (18, "Invalid cross-device link")
  | notDirectory => (20, "Not a directory")
  | isDirectory => (21, "Is a directory")
  | invalid => (22, "Invalid argument")
  | notATerminal => (25, "Inappropriate ioctl for device")
  | textBusy => (26, "Text file busy")
  | noSpace => (28, "No space left on device")
  | noSeek => (29, "Illegal seek")
  | tooManyLinks => (31, "Too many links")
  | brokenPipe => (32, "Broken pipe")
  | outOfRange => (34, "Numerical result out of range")
  | nameTooLong => (36, "File name too long")
  | notEmpty => (39, "Directory not empty")
  | linkLoop => (40, "Too many levels of symbolic links")

def number (f : SystemFault) : Nat := f.entry.1

def message (f : SystemFault) : String := f.entry.2

end SystemFault

/-- What is no file but can be opened like one. -/
inductive Device where
  /-- Takes everything and holds nothing. -/
  | null
  /-- Holds zeros without end. -/
  | zero
  /-- Holds zeros, and has no room. -/
  | full
  /-- Holds bytes without a pattern. -/
  | noise
  /-- The terminal of a session. -/
  | terminal
  /-- What a descriptor of the process leads to. -/
  | descriptor (n : Nat)
deriving Repr, DecidableEq

namespace Files

/-- What a node holds. -/
inductive Content where
  | file (bs : Bytes)
  /-- The directory above, and names with their nodes. -/
  | directory (parent : Nat) (entries : List (Str × Nat))
  /-- A path that stands for this one. -/
  | link (target : Str)
  | device (d : Device)
  | fifo
  /-- A program of the system. -/
  | program (name : Str)
deriving Repr, DecidableEq

structure Node where
  content : Content
  /-- Who may read, write and run it. -/
  mode : Nat
  /-- When it was changed last. -/
  time : Nat := 0
deriving Repr, DecidableEq

end Files

structure Files where
  nodes : Array Files.Node
deriving Repr, DecidableEq

namespace Files

/-- The node that absolute paths start from. -/
def root : Nat := 0

def node? (fs : Files) (id : Nat) : Option Node := fs.nodes[id]?

def content? (fs : Files) (id : Nat) : Option Content := (fs.node? id).map (·.content)

/-- The names in a directory with their nodes. -/
def entries? (fs : Files) (id : Nat) : Option (List (Str × Nat)) :=
  match fs.content? id with
  | some (.directory _ entries) => some entries
  | _ => none

def isDir (fs : Files) (id : Nat) : Bool := (fs.entries? id).isSome

/-- The content of a file. -/
def bytes? (fs : Files) (id : Nat) : Option Bytes :=
  match fs.content? id with
  | some (.file bs) => some bs
  | _ => none

/-- Whether a node may be run: no directory, and its mode says so. -/
def isRunnable (fs : Files) (id : Nat) : Bool :=
  match fs.node? id with
  | some n =>
    match n.content with
    | .directory .. => false
    | _ => n.mode &&& 0o111 != 0
  | none => false

/-! ## Paths -/

/-- The most bytes of a name. -/
def nameLimit : Nat := 255

/-- Paths have fewer bytes than this. -/
def pathLimit : Nat := 4096

/-- The most links that are followed on one way. -/
def linkLimit : Nat := 40

/-- The parts of a path.  A slash at the end asks for a directory. -/
def parts (path : Str) : List Str :=
  let names := (Text.splitOnChar '/' path).filter (!·.isEmpty)
  if path.getLast? = some '/' then names ++ [['.']] else names

/-- Where a path starts. -/
def startOf (here : Nat) (path : Str) : Nat := if path.head? = some '/' then root else here

/-- Follows parts of a path, and the links among them; a link at the end only if asked to. -/
def walk (fs : Files) (follow : Bool) : Nat → Nat → Nat → List Str → Except SystemFault Nat
  | 0, _, _, _ => .error .linkLoop
  | _, _, here, [] => .ok here
  | fuel + 1, links, here, part :: rest =>
    match fs.content? here with
    | some (.directory parent entries) =>
      if part = ['.'] then walk fs follow fuel links here rest
      else if part = ['.', '.'] then walk fs follow fuel links parent rest
      else if nameLimit < part.length then .error .nameTooLong
      else
        match entries.lookup part with
        | none => .error .missing
        | some id =>
          match fs.content? id with
          | some (.link target) =>
            if rest.isEmpty && !follow then .ok id
            else if links = 0 then .error .linkLoop
            else walk fs follow fuel (links - 1) (startOf here target) (parts target ++ rest)
          | _ => walk fs follow fuel links id rest
    | _ => .error .notDirectory

/-- More than all steps of a way. -/
def walkLimit : Nat := 200000

/-- The node that a path leads to from a directory. -/
def find (fs : Files) (here : Nat) (path : Str) (follow : Bool) : Except SystemFault Nat :=
  if path.isEmpty then .error .missing
  else if pathLimit ≤ path.length then .error .nameTooLong
  else fs.walk follow walkLimit linkLimit (startOf here path) (parts path)

/-- A name in a directory that there may be or not. -/
structure Spot where
  dir : Nat
  name : Str
  /-- Whether the path asks for a directory. -/
  slash : Bool

/-- The directory and the name that a path ends in; none at the root. -/
def spot (fs : Files) (here : Nat) (path : Str) : Except SystemFault (Option Spot) := do
  if path.isEmpty then throw .missing
  if pathLimit ≤ path.length then throw .nameTooLong
  let bare := (path.reverse.dropWhile (· == '/')).reverse
  let name := (bare.reverse.takeWhile (· != '/')).reverse
  if name.isEmpty then return none
  let dir ← fs.walk true walkLimit linkLimit (startOf here path)
    ((Text.splitOnChar '/' (bare.take (bare.length - name.length))).filter (!·.isEmpty))
  if !fs.isDir dir then throw .notDirectory
  if nameLimit < name.length then throw .nameTooLong
  return some ⟨dir, name, bare.length < path.length⟩

/-- The node at a spot. -/
def at? (fs : Files) (s : Spot) : Option Nat :=
  match fs.content? s.dir with
  | some (.directory parent entries) =>
    if s.name = ['.'] then some s.dir
    else if s.name = ['.', '.'] then some parent
    else entries.lookup s.name
  | _ => none

/-- The directory above. -/
def parentOf (fs : Files) (id : Nat) : Nat :=
  match fs.content? id with
  | some (.directory parent _) => parent
  | _ => root

/-- The names on the way from the root to a directory, last first. -/
def namesUp (fs : Files) : Nat → Nat → List Str
  | 0, _ => []
  | fuel + 1, id =>
    if id = root then []
    else
      let up := fs.parentOf id
      match ((fs.entries? up).getD []).find? (·.2 == id) with
      | some (name, _) => name :: namesUp fs fuel up
      | none => []

/-- The path of a directory. -/
def pathOf (fs : Files) (id : Nat) : Str :=
  '/' :: Text.join ['/'] (fs.namesUp (fs.nodes.size + 1) id).reverse

/-- Whether a directory is another one or lies below it. -/
def isBelow (fs : Files) (id above : Nat) : Nat → Bool
  | 0 => false
  | fuel + 1 => id == above || (id != root && isBelow fs (fs.parentOf id) above fuel)

/-- Puts a name into its place in a list without repetitions. -/
def insertName (name : Str) : List Str → List Str
  | [] => [name]
  | x :: rest =>
    if name < x then name :: x :: rest
    else if name = x then x :: rest
    else x :: insertName name rest

/-- The names in a directory, in order. -/
def names (fs : Files) (id : Nat) : List Str :=
  (((fs.entries? id).getD []).map (·.1)).foldr insertName []

/-! ## Changes -/

def set (fs : Files) (id : Nat) (n : Node) : Files := ⟨fs.nodes.setIfInBounds id n⟩

def modify (fs : Files) (id : Nat) (f : Node → Node) : Files := ⟨fs.nodes.modify id f⟩

/-- Changes the names in a directory. -/
def changeEntries (fs : Files) (dir time : Nat) (f : List (Str × Nat) → List (Str × Nat)) : Files :=
  fs.modify dir fun n =>
    match n.content with
    | .directory parent entries => { n with content := .directory parent (f entries), time }
    | _ => n

/-- Gives a node a name in a directory. -/
def enter (fs : Files) (dir : Nat) (name : Str) (id time : Nat) : Files :=
  fs.changeEntries dir time fun es => es.filter (·.1 != name) ++ [(name, id)]

/-- Takes a name out of a directory. -/
def leave (fs : Files) (dir : Nat) (name : Str) (time : Nat) : Files :=
  fs.changeEntries dir time (·.filter (·.1 != name))

/-- Adds a node under a name. -/
def add (fs : Files) (dir : Nat) (name : Str) (n : Node) : Nat × Files :=
  let id := fs.nodes.size
  (id, (⟨fs.nodes.push n⟩ : Files).enter dir name id n.time)

/-- How a path is opened. -/
structure Access where
  reads : Bool := false
  writes : Bool := false
  /-- Everything is written behind the end. -/
  appends : Bool := false
  /-- A file that is not there is made. -/
  creates : Bool := false
  /-- What a file holds is taken away. -/
  truncates : Bool := false
  /-- There must be no such file. -/
  exclusive : Bool := false
deriving Repr, DecidableEq

namespace Access

def read : Access := { reads := true }

def write : Access := { writes := true, creates := true, truncates := true }

def append : Access := { writes := true, creates := true, appends := true }

end Access

/-- Follows a link that leads nowhere yet, and makes a file at its end. -/
def make (fs : Files) (mode time : Nat) : Nat → Nat → Str → Except SystemFault (Nat × Files)
  | 0, _, _ => .error .linkLoop
  | fuel + 1, here, path =>
    match fs.spot here path with
    | .error f => .error f
    | .ok none => .error .isDirectory
    | .ok (some s) =>
      if s.slash then .error .isDirectory
      else
        match fs.at? s with
        | some id =>
          match fs.content? id with
          | some (.link target) => make fs mode time fuel s.dir target
          | _ => .ok (id, fs)
        | none => .ok (fs.add s.dir s.name { content := .file [], mode, time })

/-- Opens a path: the node, and the files after it. -/
def openAt (fs : Files) (here : Nat) (path : Str) (a : Access) (mode time : Nat) :
    Except SystemFault (Nat × Files) :=
  match fs.find here path true with
  | .ok id =>
    if a.creates && a.exclusive then .error .alreadyThere
    else
      match fs.content? id with
      | some (.directory ..) => if a.writes || a.creates then .error .isDirectory else .ok (id, fs)
      | some (.program _) => if a.writes then .error .textBusy else .ok (id, fs)
      | some (.file bs) =>
        if a.truncates && !bs.isEmpty then
          .ok (id, fs.modify id fun n => { n with content := .file [], time })
        else .ok (id, fs)
      | _ => .ok (id, fs)
  | .error .missing => if a.creates then fs.make mode time linkLimit here path else .error .missing
  | .error f => .error f

/-- Makes a directory. -/
def makeDir (fs : Files) (here : Nat) (path : Str) (mode time : Nat) : Except SystemFault Files :=
  match fs.spot here path with
  | .error f => .error f
  | .ok none => .error .alreadyThere
  | .ok (some s) =>
    if (fs.at? s).isSome then .error .alreadyThere
    else .ok (fs.add s.dir s.name { content := .directory s.dir [], mode, time }).2

/-- Makes a node that is no directory. -/
def makeNode (fs : Files) (here : Nat) (path : Str) (n : Node) : Except SystemFault Files :=
  match fs.spot here path with
  | .error f => .error f
  | .ok none => .error .alreadyThere
  | .ok (some s) =>
    if (fs.at? s).isSome then .error .alreadyThere
    else if s.slash then .error .missing
    else .ok (fs.add s.dir s.name n).2

/-- Takes a name away that is no directory's. -/
def unlink (fs : Files) (here : Nat) (path : Str) (time : Nat) : Except SystemFault Files :=
  match fs.spot here path with
  | .error f => .error f
  | .ok none => .error .isDirectory
  | .ok (some s) =>
    match fs.at? s with
    | none => .error .missing
    | some id =>
      if fs.isDir id then .error .isDirectory
      else if s.slash then .error .notDirectory
      else .ok (fs.leave s.dir s.name time)

/-- Takes an empty directory away. -/
def removeDir (fs : Files) (here : Nat) (path : Str) (time : Nat) : Except SystemFault Files :=
  match fs.spot here path with
  | .error f => .error f
  | .ok none => .error .busy
  | .ok (some s) =>
    if s.name = ['.'] then .error .invalid
    else if s.name = ['.', '.'] then .error .notEmpty
    else
      match fs.at? s with
      | none => .error .missing
      | some id =>
        match fs.entries? id with
        | none => .error .notDirectory
        | some [] => .ok (fs.leave s.dir s.name time)
        | some _ => .error .notEmpty

/-- Gives a node one more name. -/
def hardLink (fs : Files) (here : Nat) (old new : Str) (time : Nat) : Except SystemFault Files :=
  match fs.find here old false, fs.spot here new with
  | .error f, _ => .error f
  | .ok _, .error f => .error f
  | .ok _, .ok none => .error .alreadyThere
  | .ok id, .ok (some s) =>
    if (fs.at? s).isSome then .error .alreadyThere
    else if fs.isDir id then .error .notPermitted
    else if s.slash then .error .missing
    else .ok (fs.enter s.dir s.name id time)

/-- Moves a node to another name; what had the name is gone. -/
def rename (fs : Files) (here : Nat) (old new : Str) (time : Nat) : Except SystemFault Files :=
  match fs.spot here old, fs.spot here new with
  | .error f, _ => .error f
  | _, .error f => .error f
  | .ok (some a), .ok (some b) =>
    if a.name = ['.'] ∨ a.name = ['.', '.'] ∨ b.name = ['.'] ∨ b.name = ['.', '.'] then .error .busy
    else
      match fs.at? a with
      | none => .error .missing
      | some id =>
        let isDir := fs.isDir id
        if !isDir && (a.slash || b.slash) then .error .notDirectory
        else if isDir && fs.isBelow b.dir id (fs.nodes.size + 1) then .error .invalid
        else
          let go : Files :=
            let fs := (fs.leave a.dir a.name time).enter b.dir b.name id time
            if isDir then fs.modify id fun n =>
              match n.content with
              | .directory _ es => { n with content := .directory b.dir es }
              | _ => n
            else fs
          match fs.at? b with
          | none => .ok go
          | some other =>
            if other = id then .ok fs
            else
              match fs.entries? other with
              | some es =>
                if !isDir then .error .isDirectory
                else if es.isEmpty then .ok go
                else .error .notEmpty
              | none => if isDir then .error .notDirectory else .ok go
  | _, _ => .error .busy

/-! ## Whole contents -/

/-- What is read from a path. -/
def read (fs : Files) (here : Nat) (path : Str) : Except SystemFault Bytes := do
  let id ← fs.find here path true
  match fs.content? id with
  | some (.file bs) => return bs
  | some (.directory ..) => throw .isDirectory
  | some (.device .terminal) => throw .noDevice
  | _ => return []

/-- Adds directories on a way as far as they are missing, and gives the last of them. -/
def provide (fs : Files) : Nat → List Str → Nat × Files
  | here, [] => (here, fs)
  | here, name :: rest =>
    match ((fs.entries? here).getD []).lookup name with
    | some id => provide fs id rest
    | none =>
      let (id, fs) := fs.add here name { content := .directory here [], mode := 0o755 }
      provide fs id rest

/-- Puts a node at a place, with the directories that it needs. -/
def put (fs : Files) (here : Nat) (path : List Str) (n : Node) : Files :=
  let (dir, fs) := fs.provide here path.dropLast
  (fs.add dir (path.getLast?.getD []) n).2

/-- Puts a file at a path, with the directories that it needs. -/
def putFile (fs : Files) (here : Nat) (path : Str) (bs : Bytes) : Files :=
  fs.put (startOf here path) ((parts path).filter (· != ['.'])) { content := .file bs, mode := 0o644 }

/-- The files below a directory, by their paths from there; directories are entered down to some depth. -/
def contents (fs : Files) : Nat → Nat → List (Str × Bytes)
  | 0, _ => []
  | depth + 1, dir =>
    ((fs.entries? dir).getD []).flatMap fun (name, id) =>
      match fs.content? id with
      | some (.file bs) => [(name, bs)]
      | some (.directory ..) => (contents fs depth id).map fun (path, bs) => (name ++ '/' :: path, bs)
      | _ => []

/-! ## The usual files -/

def empty : Files := ⟨#[{ content := .directory root [], mode := 0o755 }]⟩

/-- The devices of a system, by their names. -/
def devices : List (String × Device) :=
  [("null", .null), ("zero", .zero), ("full", .full), ("tty", .terminal), ("urandom", .noise),
    ("random", .noise), ("stdin", .descriptor 0), ("stdout", .descriptor 1),
    ("stderr", .descriptor 2)]

/-- The directories of a system that hold nothing of interest. -/
def bareDirs : List (List String) :=
  [["etc"], ["home"], ["opt"], ["root"], ["tmp"], ["usr", "bin"], ["usr", "lib"], ["usr", "local", "bin"],
    ["usr", "sbin"], ["usr", "share"], ["var", "tmp"], ["dev", "fd"]]

/-- The descriptors that have a path of their own. -/
def shownDescriptors : List Nat := List.range 10

/-- The files of any system, with the programs that it has. -/
def system (programs : List String) : Files :=
  let place (names : List String) : List Str := names.map Str.ofString
  let fs := bareDirs.foldl (fun fs d => (fs.provide root (place d)).2) empty
  let fs := devices.foldl (fun fs (name, d) =>
    fs.put root (place ["dev", name]) { content := .device d, mode := 0o666 }) fs
  let fs := shownDescriptors.foldl (fun fs n =>
    fs.put root (place ["dev", "fd"] ++ [Str.decimal n])
      { content := .device (.descriptor n), mode := 0o600 }) fs
  let fs := ["bin", "lib", "sbin"].foldl (fun fs name =>
    fs.put root (place [name]) { content := .link (Str.ofString ("usr/" ++ name)), mode := 0o777 }) fs
  programs.foldl (fun fs name =>
    fs.put root (place ["usr", "bin", name])
      { content := .program (Str.ofString name), mode := 0o755 }) fs

/-- A system with files at paths that are taken from a directory, which is there in any case. -/
def ofList (programs : List String) (dir : String) (files : List (String × Bytes)) : Files :=
  let (here, fs) := (system programs).provide root (parts (Str.ofString dir))
  files.foldl (fun fs (path, bs) => fs.putFile here (Str.ofString path) bs) fs

end Files

end Transcripts
