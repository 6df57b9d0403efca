import Transcripts.Mode
import Transcripts.Tool.Names

/-!
# Managing files

Files and directories are made, taken away, copied, moved, linked and given other rights.
-/
namespace Transcripts.Tool.Manage

open Names (lastPart withoutSlashes)

/-- Changes the files. -/
def change (f : Files → Nat → Nat → Except SystemFault Files) : Tool (Except SystemFault Unit) :=
  ask (Process.change f)

/-- The node that a path leads to. -/
def nodeAt (path : Str) (follow : Bool) : Tool (Except SystemFault Nat) := do
  let v ← view
  return v.files.find v.here path follow

def isDir (path : Str) : Tool Bool := do
  match ← nodeAt path true with
  | .ok id => return (← view).files.isDir id
  | .error _ => return false

/-- A path in a directory. -/
def inDir (dir name : Str) : Str := if dir.getLast? = some '/' then dir ++ name else dir ++ '/' :: name

/-- Asks a question, and whether the answer is yes. -/
def confirm (question : Str) : Tool Bool := do
  let d ← desk
  flush
  let _ ← putTo 2 (Str.ofString d.name ++ ": ".toList ++ question ++ "? ".toList)
  match ← readUpTo 0 1024 with
  | .ok (c :: _) => return c = 'y' || c = 'Y'
  | _ => return false

/-- Ends the work of a call without enough operands. -/
def requireOperands (w : Words) : Tool Unit :=
  if w.operands.isEmpty then misuse 1 "missing operand" else return ()

/-! ## Directories -/

/-- The mode that a call asks for. -/
def modeOf (w : Words) (plain : Nat) : Tool (Option Nat) := do
  match w.value? "m" with
  | none => return none
  | some s =>
    match Mode.parse s with
    | some cs => return some (Mode.apply cs true (← view).mask plain)
    | none => die 1 ("invalid mode ".toList ++ marked s)

/-- Gives a path other rights. -/
def setMode (path : Str) (mode : Nat) : Tool (Except SystemFault Unit) :=
  change fun fs here _ => (fs.find here path true).map fun id => fs.modify id fun n => { n with mode }

/-- Makes a directory. -/
def makeOne (path : Str) (mode : Nat) : Tool (Except SystemFault Unit) := do
  let mask := (← view).mask
  change fun fs here now => fs.makeDir here path (mode &&& (0o7777 - mask)) now

/-- The paths on the way to a path, the shortest first. -/
def pathsTo (path : Str) : List Str :=
  let bare := withoutSlashes path
  let cuts := (List.range bare.length).filter fun i => 0 < i && bare[i]? = some '/' && bare[i - 1]? != some '/'
  cuts.map (bare.take ·) ++ [bare]

/-- Makes the directories on the way to a path that are not there; tells of those that were made. -/
def makeAll (told : Str → Tool Unit) (mode : Nat) : List Str → Tool (Except (Str × SystemFault) Unit)
  | [] => return .ok ()
  | path :: rest => do
    match ← makeOne path (if rest.isEmpty then mode else 0o777) with
    | .ok _ => do
      told path
      makeAll told mode rest
    | .error f => do
      if ← isDir path then makeAll told mode rest
      else
        let f := if f = .alreadyThere && !rest.isEmpty then .notDirectory else f
        return .error (path, f)

def mkdir (args : List Str) : Tool Unit := do
  let w ← words (switches ["p:parents", "v:verbose", "Z:context"] ++ values ["m:mode"]) true 1 args
  requireOperands w
  let mode ← modeOf w 0o777
  let told (path : Str) : Tool Unit := do
    if w.has "v" then putLine (Str.ofString (← desk).name ++ ": created directory ".toList ++ quoted path)
  w.operands.forM fun path => do
    let failed (path : Str) (f : SystemFault) : Tool Unit := cannot "create directory" path f
    let settle : Tool Unit := do
      match mode with
      | some m => let _ ← setMode path m
      | none => pure ()
    if w.has "p" then
      match ← makeAll told 0o777 (pathsTo path) with
      | .ok _ => settle
      | .error (p, f) => failed p f
    else
      match ← makeOne path 0o777 with
      | .ok _ => do
        told path
        settle
      | .error f => failed path f

def rmdir (args : List Str) : Tool Unit := do
  let w ← words (switches ["p:parents", "v:verbose", "ignore-fail-on-non-empty"]) true 1 args
  requireOperands w
  let remove (path : Str) (what : String) : Tool Bool := do
    if w.has "v" then putLine (Str.ofString (← desk).name ++ ": removing directory, ".toList ++ quoted path)
    match ← change fun fs here now => fs.removeDir here path now with
    | .ok _ => return true
    | .error f => do
      if !(w.has "ignore-fail-on-non-empty" && f = .notEmpty) then fail (faultOf what path f)
      return false
  w.operands.forM fun path => do
    if ← remove path "failed to remove " then
      if w.has "p" then
        let up := (pathsTo path).dropLast.reverse
        let _ ← up.foldlM (fun going p => if going then remove p "failed to remove directory " else return false) true

/-! ## Taking away -/

/-- What a file is called in questions. -/
def kindOf (fs : Files) (id : Nat) : String :=
  match fs.content? id with
  | some (.file bs) => if bs.isEmpty then "regular empty file" else "regular file"
  | some (.link _) => "symbolic link"
  | some .fifo => "fifo"
  | some (.device _) => "character special file"
  | _ => "regular file"

/-- What is asked for when files are taken away. -/
structure Removal where
  recursive : Bool
  dirs : Bool
  force : Bool
  asks : Bool
  verbose : Bool

/-- Takes away a file or a directory. -/
def removePath (r : Removal) : Nat → Str → Tool Unit
  | 0, _ => return ()
  | fuel + 1, path => do
    match ← nodeAt path false with
    | .error f => if r.force && f = .missing then return () else cannot "remove" path f
    | .ok id => do
      let fs := (← view).files
      let removed (f : Files → Nat → Nat → Except SystemFault Files) (what : String) : Tool Unit := do
        match ← change f with
        | .ok _ => if r.verbose then putLine (Str.ofString what ++ quoted path)
        | .error f => cannot "remove" path f
      match fs.entries? id with
      | some entries => do
        if !r.recursive && !(r.dirs && entries.isEmpty) then
          cannot "remove" path (if r.dirs then .notEmpty else .isDirectory)
        else if r.recursive && lastPart path = ['.'] || lastPart path = ['.', '.'] then
          fail ("refusing to remove '.' or '..' directory: skipping ".toList ++ quoted path)
        else do
          let enter ← if r.asks && !entries.isEmpty then confirm ("descend into directory ".toList ++ quoted path)
            else pure true
          if enter then
            entries.forM fun (name, _) => removePath r fuel (inDir path name)
            let go ← if r.asks then confirm ("remove directory ".toList ++ quoted path) else pure true
            if go then removed (fun fs here now => fs.removeDir here path now) "removed directory "
      | none => do
        let go ← if r.asks then confirm (Str.ofString ("remove " ++ kindOf fs id ++ " ") ++ quoted path) else pure true
        if go then removed (fun fs here now => fs.unlink here path now) "removed "

def rm (args : List Str) : Tool Unit := do
  let w ← words (switches ["f:force", "i", "I", "r:recursive", "R", "d:dir", "v:verbose", "one-file-system",
    "no-preserve-root"] ++ [.long "interactive" .maybe, .long "preserve-root" .maybe]) true 1 args
  let asks := match w.last? ["f", "i", "I", "interactive"] with
    | some "i" => true
    | some "interactive" => match w.value? "interactive" with
      | none => true
      | some v => v = "always".toList || v = "yes".toList
    | _ => false
  let force := w.last? ["f", "i", "I", "interactive"] = some "f"
  if w.operands.isEmpty then if force then quit 0 else misuse 1 "missing operand"
  let recursive := w.has "r" || w.has "R"
  if recursive && w.operands.any fun p => p.all (· == '/') && !p.isEmpty then
    warn "it is dangerous to operate recursively on '/'".toList
    die 1 "use --no-preserve-root to override this failsafe".toList
  let n := w.operands.length
  let go ← if w.last? ["f", "i", "I"] = some "I" && (recursive || 3 < n) then
      confirm (Str.ofString (s!"remove {n} argument" ++ (if n = 1 then "" else "s")
        ++ (if recursive then " recursively" else "")))
    else pure true
  if go then
    w.operands.forM (removePath ⟨recursive, w.has "d", force, asks, w.has "v"⟩ 1000)

def unlink (args : List Str) : Tool Unit := do
  let w ← words [] true 1 args
  requireOperands w
  match w.operands with
  | _ :: extra :: _ => misuse 1 ("extra operand " ++ Str.toString (marked extra))
  | _ => pure ()
  w.operands.forM fun path => do
    match ← change fun fs here now => fs.unlink here path now with
    | .ok _ => return ()
    | .error f => cannot "unlink" path f

/-! ## Copying and moving -/

/-- Where files go: each with its new path. -/
def targets (w : Words) (single : Bool) : Tool (List (Str × Str)) := do
  let usage {α : Type} (message : Str) : Tool α := do
    warn message
    say (hint (← desk).name)
    quit 1
  let into (dir : Str) (paths : List Str) : List (Str × Str) :=
    paths.map fun p => (p, inDir dir (lastPart p))
  match w.value? "t" with
  | some dir =>
    if w.operands.isEmpty then usage "missing file operand".toList
    match ← nodeAt dir true with
    | .error f => die 1 (faultOf "target directory " dir f)
    | .ok _ =>
      if ← isDir dir then return into dir w.operands
      else die 1 (faultOf "target directory " dir .notDirectory)
  | none =>
    match w.operands.reverse with
    | [] => usage "missing file operand".toList
    | [a] =>
      if single then return [(a, lastPart a)]
      else usage ("missing destination file operand after ".toList ++ quoted a)
    | [b, a] => do
      let into? ← if w.has "T" then pure false else isDir b
      return if into? then into b [a] else [(a, b)]
    | dir :: rest =>
      if w.has "T" then usage ("extra operand ".toList ++ quoted dir)
      match ← nodeAt dir true with
      | .error f => die 1 (faultOf "target " dir f)
      | .ok _ =>
        if ← isDir dir then return into dir rest.reverse
        else die 1 (faultOf "target " dir .notDirectory)

/-- What is asked for when files are copied. -/
structure Copying where
  recursive : Bool
  /-- Links are copied as links. -/
  links : Bool
  asks : Bool
  keepsOld : Bool
  verbose : Bool
  preserves : Bool
  hard : Bool
  symbolic : Bool
  force : Bool
  newer : Bool

/-- Tells where something went. -/
def told (c : Copying) (a b : Str) : Tool Unit := do
  if c.verbose then putLine (quoted a ++ " -> ".toList ++ quoted b)

/-- Copies what a file holds. -/
def copyFile (c : Copying) (a b : Str) (n : Files.Node) : Tool Unit := do
  let isNew := !(← nodeAt b true).isOk
  match ← openRead a with
  | .error f => fail ("cannot open ".toList ++ quoted a ++ Str.ofString (" for reading: " ++ f.message))
  | .ok fd => do
    match ← ask (Process.openPath b { writes := true, creates := true, truncates := true }) with
    | .error f => do
      close fd
      if f = .isDirectory then fail (faultOf "cannot create regular file " b .isDirectory)
      else fail (faultOf "cannot create regular file " b f)
    | .ok out => do
      match ← readAll fd with
      | .error f => fail (faultOf "error reading " a f)
      | .ok s => do
        match ← putTo out s with
        | .ok _ => pure ()
        | .error f => fail (faultOf "error writing " b f)
      close fd
      close out
      let v ← view
      if isNew || c.preserves then
        let mode := if c.preserves then n.mode else n.mode &&& (0o7777 - v.mask)
        let _ ← setMode b (mode &&& (if c.preserves then 0o7777 else 0o777))
      if c.preserves then
        let _ ← change fun fs here _ => (fs.find here b true).map fun id =>
          fs.modify id fun m => { m with time := n.time }

/-- Copies a file or a directory. -/
def copyPath (c : Copying) : Nat → Str → Str → Tool Unit
  | 0, _, _ => return ()
  | fuel + 1, a, b => do
    match ← nodeAt a (!c.links) with
    | .error f => cannot "stat" a f
    | .ok id => do
      let v ← view
      let fs := v.files
      let there := (fs.find v.here b true).toOption
      match fs.node? id with
      | none => return ()
      | some n =>
        match n.content with
        | .directory _ entries => do
          if !c.recursive then
            fail ("-r not specified; omitting directory ".toList ++ quoted a)
          else
            match there with
            | some t =>
              if !fs.isDir t then
                fail ("cannot overwrite non-directory ".toList ++ quoted b ++ " with directory ".toList ++ quoted a)
              else if t = id || fs.isBelow t id (fs.nodes.size + 1) then
                fail ("cannot copy a directory, ".toList ++ quoted a ++ ", into itself, ".toList ++ quoted b)
              else entries.forM fun (name, _) => copyPath c fuel (inDir a name) (inDir b name)
            | none =>
              let above := match fs.spot v.here b with
                | .ok (some s) => fs.isBelow s.dir id (fs.nodes.size + 1)
                | _ => false
              if above then
                fail ("cannot copy a directory, ".toList ++ quoted a ++ ", into itself, ".toList ++ quoted b)
              else
                match ← change fun fs here now => fs.makeDir here b (n.mode &&& (0o7777 - v.mask)) now with
                | .error f => fail (faultOf "cannot create directory " b f)
                | .ok _ => do
                  told c a b
                  entries.forM fun (name, _) => copyPath c fuel (inDir a name) (inDir b name)
        | content =>
          match there with
          | some t =>
            if t = id then
              if !c.hard then
                fail (quoted a ++ " and ".toList ++ quoted b ++ " are the same file".toList)
            else if fs.isDir t then
              fail ("cannot overwrite directory ".toList ++ quoted b ++ " with non-directory".toList)
            else if c.keepsOld then return ()
            else if c.newer && n.time ≤ ((fs.node? t).map (·.time)).getD 0 then return ()
            else do
              let go ← if c.asks then confirm ("overwrite ".toList ++ quoted b) else pure true
              if go then transfer a b n content true
          | none => transfer a b n content false
where
  /-- Makes the copy of what is no directory. -/
  transfer (a b : Str) (n : Files.Node) (content : Files.Content) (replaces : Bool) : Tool Unit := do
    let made (r : Except SystemFault Unit) (what : String) : Tool Unit := do
      match r with
      | .ok _ => told c a b
      | .error f => fail (faultOf what b f)
    let clear : Tool Unit := do
      if replaces && (c.force || !(c.hard || c.symbolic)) then
        let _ ← change fun fs here now => fs.unlink here b now
    if c.hard then
      clear
      made (← change fun fs here now => fs.hardLink here a b now) "cannot create hard link "
    else if c.symbolic then
      clear
      made (← change fun fs here now => fs.makeNode here b { content := .link a, mode := 0o777, time := now })
        "cannot create symbolic link "
    else
      match content with
      | .link target => do
        clear
        made (← change fun fs here now => fs.makeNode here b { content := .link target, mode := 0o777, time := now })
          "cannot create symbolic link "
      | .fifo =>
        if c.recursive then
          made (← change fun fs here now => fs.makeNode here b { n with time := now }) "cannot create fifo "
        else copyFile c a b n
      | _ => do
        told c a b
        copyFile c a b n

def copyForms : List OptionForm :=
  switches ["a:archive", "f:force", "i:interactive", "H", "l:link", "L:dereference", "n:no-clobber",
    "P:no-dereference", "d", "p", "r:recursive", "R", "s:symbolic-link", "T:no-target-directory",
    "u", "v:verbose", "x:one-file-system", "parents", "b", "Z"]
    ++ values ["t:target-directory", "S:suffix"]
    ++ [.long "preserve" .maybe, .long "update" .maybe, .long "backup" .maybe, .long "reflink" .maybe,
      .long "sparse" .value, .long "no-preserve" .value]

def cp (args : List Str) : Tool Unit := do
  let w ← words copyForms true 1 args
  let recursive := w.has "a" || w.has "r" || w.has "R"
  let c : Copying :=
    { recursive
      links := match w.last? ["a", "d", "P", "L", "H"] with
        | some "L" => false
        | some "H" => false
        | some _ => true
        | none => recursive
      asks := w.last? ["f", "i", "n"] = some "i", keepsOld := w.last? ["i", "n"] = some "n"
      verbose := w.has "v", preserves := w.has "a" || w.has "p" || w.has "preserve", hard := w.has "l"
      symbolic := w.has "s", force := w.has "f", newer := w.has "u" || w.has "update" }
  let pairs ← targets w false
  pairs.forM fun (a, b) => do
    if b.getLast? = some '/' && !(← isDir a) && (← nodeAt a true).isOk && !(← isDir b) then
      fail (faultOf "cannot create regular file " b .notDirectory)
    else copyPath c 100 a b

/-- Moves one thing. -/
def movePath (w : Words) (a b : Str) : Tool Unit := do
  match ← nodeAt a false with
  | .error f => cannot "stat" a f
  | .ok id => do
    let v ← view
    let fs := v.files
    let b := if fs.isDir id then withoutSlashes b else b
    let there := (fs.find v.here b false).toOption
    let mode := w.last? ["f", "i", "n"]
    let moves : Tool Unit := do
      match ← change fun fs here now => fs.rename here (withoutSlashes a) b now with
      | .ok _ => if w.has "v" then putLine ("renamed ".toList ++ quoted a ++ " -> ".toList ++ quoted b)
      | .error .invalid =>
        fail ("cannot move ".toList ++ quoted a ++ " to a subdirectory of itself, ".toList ++ quoted b)
      | .error f =>
        fail ("cannot move ".toList ++ quoted a ++ " to ".toList ++ quoted b ++ Str.ofString (": " ++ f.message))
    match there with
    | none => moves
    | some t =>
      if t = id then fail (quoted a ++ " and ".toList ++ quoted b ++ " are the same file".toList)
      else if mode = some "n" then return ()
      else if w.has "u" && ((fs.node? id).map (·.time)).getD 0 ≤ ((fs.node? t).map (·.time)).getD 0 then return ()
      else if fs.isDir t && !fs.isDir id then
        fail ("cannot overwrite directory ".toList ++ quoted b ++ " with non-directory ".toList ++ quoted a)
      else if !fs.isDir t && fs.isDir id then
        fail ("cannot overwrite non-directory ".toList ++ quoted b ++ " with directory ".toList ++ quoted a)
      else do
        let go ← if mode = some "i" then confirm ("overwrite ".toList ++ quoted b) else pure true
        if go then moves

def mv (args : List Str) : Tool Unit := do
  let w ← words (switches ["f:force", "i:interactive", "n:no-clobber", "T:no-target-directory", "u", "v:verbose",
    "b", "strip-trailing-slashes", "Z"] ++ values ["t:target-directory", "S:suffix"]
    ++ [.long "update" .maybe, .long "backup" .maybe]) true 1 args
  (← targets w false).forM fun (a, b) => movePath w a b

/-! ## Links -/

def ln (args : List Str) : Tool Unit := do
  let w ← words (switches ["s:symbolic", "f:force", "i:interactive", "n:no-dereference", "r:relative", "v:verbose",
    "T:no-target-directory", "L:logical", "P:physical", "b", "d:directory", "F"]
    ++ values ["t:target-directory", "S:suffix"]) true 1 args
  let symbolic := w.has "s"
  let what := if symbolic then "symbolic link" else "hard link"
  let pairs ← match w.operands, w.has "n" with
    | [a, b], true => do
      let v ← view
      match (v.files.find v.here b false).toOption.bind v.files.content? with
      | some (.link _) => pure [(a, b)]
      | _ => targets w true
    | _, _ => targets w true
  pairs.forM fun (a, b) => do
    let clear : Tool Unit := do
      if w.has "f" then
        let _ ← change fun fs here now => fs.unlink here b now
    let shown : Tool Unit := do
      if w.has "v" then
        putLine (quoted b ++ (if symbolic then " -> ".toList else " => ".toList) ++ quoted a)
    if symbolic then
      clear
      let v ← view
      let target := if w.has "r" then
          Names.relative (Names.resolvedAnyway v 100 (Names.upper b)) (Names.resolvedAnyway v 100 a)
        else a
      match ← change fun fs here now => fs.makeNode here b { content := .link target, mode := 0o777, time := now } with
      | .ok _ => shown
      | .error f => fail (faultOf ("failed to create " ++ what ++ " ") b f)
    else
      match ← nodeAt a (w.has "L") with
      | .error f => fail (faultOf "failed to access " a f)
      | .ok id => do
        let v ← view
        if v.files.isDir id then
          fail (nameOf a ++ ": hard link not allowed for directory".toList)
        else if v.files.find v.here b false |>.toOption |>.any (· == id) then
          if w.has "f" then fail (quoted a ++ " and ".toList ++ quoted b ++ " are the same file".toList)
          else fail (faultOf "failed to create hard link " b .alreadyThere)
        else do
          clear
          match ← change fun fs here now => fs.hardLink here a b now with
          | .ok _ => shown
          | .error f =>
            if f = .alreadyThere then fail (faultOf "failed to create hard link " b f)
            else fail ("failed to create hard link ".toList ++ quoted b ++ " => ".toList ++ quoted a
              ++ Str.ofString (": " ++ f.message))

def link (args : List Str) : Tool Unit := do
  let w ← words [] true 1 args
  match w.operands with
  | [a, b] =>
    match ← change fun fs here now => fs.hardLink here a b now with
    | .ok _ => return ()
    | .error f =>
      fail ("cannot create link ".toList ++ quoted b ++ " to ".toList ++ quoted a ++ Str.ofString (": " ++ f.message))
  | [] => misuse 1 "missing operand"
  | [a] => misuse 1 ("missing operand after " ++ Str.toString (marked a))
  | _ :: _ :: c :: _ => misuse 1 ("extra operand " ++ Str.toString (marked c))

/-! ## Times, sizes and rights -/

/-- Sets the time of a path. -/
def setTime (path : Str) (time : Option Nat) : Tool (Except SystemFault Unit) :=
  change fun fs here now =>
    (fs.find here path true).map fun id => fs.modify id fun n => { n with time := time.getD now }

def touch (args : List Str) : Tool Unit := do
  let w ← words (switches ["a", "c:no-create", "f", "h:no-dereference", "m"]
    ++ values ["d:date", "r:reference", "t", "time"]) true 1 args
  if w.operands.isEmpty then misuse 1 "missing file operand"
  let time ← match w.value? "r" with
    | none => pure none
    | some path =>
      match ← nodeAt path true with
      | .ok id => pure (((← view).files.node? id).map (·.time))
      | .error f => die 1 (faultOf "failed to get attributes of " path f)
  w.operands.forM fun path => do
    match ← nodeAt path true with
    | .ok _ => do
      let _ ← setTime path time
      return ()
    | .error .missing =>
      if w.has "c" then return ()
      else
        match ← ask (Process.openPath path { writes := true, creates := true }) with
        | .ok fd => do
          close fd
          if time.isSome then
            let _ ← setTime path time
        | .error f =>
          if f = .isDirectory then fail (faultOf "setting times of " path .missing) else cannot "touch" path f
    | .error f => cannot "touch" path f

/-- A size that a file is to have, from the one it has. -/
def newSize? (s : Str) (old : Nat) : Option Nat :=
  match s with
  | '+' :: rest => (size? rest).map (old + ·)
  | '-' :: rest => (size? rest).map (old - ·)
  | '<' :: rest => (size? rest).map (min old ·)
  | '>' :: rest => (size? rest).map (max old ·)
  | '/' :: rest => (size? rest).map fun n => if n = 0 then old else old / n * n
  | '%' :: rest => (size? rest).map fun n => if n = 0 then old else (old + n - 1) / n * n
  | s => size? s

def truncate (args : List Str) : Tool Unit := do
  let w ← words (switches ["c:no-create", "o:io-blocks"] ++ values ["s:size", "r:reference"]) true 1 args
  let size ← match w.value? "s", w.value? "r" with
    | some s, _ => pure s
    | none, some path =>
      match ← nodeAt path true with
      | .ok id => pure (Str.decimal (((← view).files.bytes? id).getD []).length)
      | .error f => die 1 (faultOf "cannot stat " path f)
    | none, none => misuse 1 "you must specify either '--size' or '--reference'"
  if (newSize? size 0).isNone then die 1 ("Invalid number: ".toList ++ marked size)
  if w.operands.isEmpty then misuse 1 "missing file operand"
  w.operands.forM fun path => do
    let there := (← nodeAt path true).isOk
    if !there && w.has "c" then return ()
    else
      match ← ask (Process.openPath path { writes := true, creates := true }) with
      | .error f => fail ("cannot open ".toList ++ quoted path ++ Str.ofString (" for writing: " ++ f.message))
      | .ok fd => do
        let v ← view
        let old := match v.lead? fd with
          | some (.node id) => ((v.files.bytes? id).getD []).length
          | _ => 0
        match ← ask (Process.resize fd ((newSize? size old).getD old)) with
        | .ok _ => pure ()
        | .error f => fail (faultOf "failed to truncate " path f)
        close fd

/-- Words of a call of which those that write a mode are no options. -/
def modeWords (args : List Str) : List Str × List Str :=
  let isMode (a : Str) : Bool :=
    match a with
    | '-' :: c :: _ => "rwxXstugoa,+=01234567".toList.contains c
    | _ => false
  match args.find? isMode with
  | some a => ([a], args.erase a)
  | none => ([], args)

/-- Changes the rights of a path, and of what is below it. -/
def changeMode (w : Words) (cs : List Mode.Change) (recursive : Bool) : Nat → Str → Tool Unit
  | 0, _ => return ()
  | fuel + 1, path => do
    match ← nodeAt path true with
    | .error f => if w.has "f" then note 1 else cannot "access" path f
    | .ok id => do
      let v ← view
      let fs := v.files
      let old := ((fs.node? id).map (·.mode)).getD 0
      let mode := Mode.apply cs (fs.isDir id) v.mask old
      let _ ← setMode path mode
      let text (m : Nat) : Str := Str.padStart 4 '0' (Nat.toDigits 8 m) ++ " (".toList ++ Mode.shown m ++ [')']
      if old != mode && (w.has "v" || w.has "c") then
        putLine ("mode of ".toList ++ quoted path ++ " changed from ".toList ++ text old ++ " to ".toList ++ text mode)
      else if w.has "v" then putLine ("mode of ".toList ++ quoted path ++ " retained as ".toList ++ text mode)
      if recursive then
        ((fs.entries? id).getD []).forM fun (name, child) =>
          match fs.content? child with
          | some (.link _) => return ()
          | _ => changeMode w cs recursive fuel (inDir path name)

def chmod (args : List Str) : Tool Unit := do
  let (mode?, args) := modeWords args
  let w ← words (switches ["c:changes", "f:silent", "v:verbose", "R:recursive", "no-preserve-root",
    "preserve-root"] ++ values ["reference"] ++ [⟨"f", none, "quiet", .nothing⟩]) true 1 args
  let operands := if mode?.isEmpty then w.operands else mode? ++ w.operands
  let (cs, paths) ← match w.value? "reference", operands with
    | some path, paths =>
      match ← nodeAt path true with
      | .ok id =>
        let mode := (((← view).files.node? id).map (·.mode)).getD 0
        pure ([({ affected := Mode.all, op := '=', value := .bits mode, mentioned := Mode.all } : Mode.Change)], paths)
      | .error f => die 1 (faultOf "failed to get attributes of " path f)
    | none, [] => misuse 1 "missing operand"
    | none, [m] => misuse 1 ("missing operand after " ++ Str.toString (marked m))
    | none, m :: paths =>
      match Mode.parse m with
      | some cs => pure (cs, paths)
      | none => misuse 1 ("invalid mode: " ++ Str.toString (marked m))
  paths.forM (changeMode w cs (w.has "R") 100)

def mkfifo (args : List Str) : Tool Unit := do
  let w ← words (switches ["Z"] ++ values ["m:mode"]) true 1 args
  requireOperands w
  let mode ← modeOf w 0o666
  w.operands.forM fun path => do
    let mask := (← view).mask
    let rights := mode.getD (0o666 &&& (0o7777 - mask))
    match ← change fun fs here now => fs.makeNode here path { content := .fifo, mode := rights, time := now } with
    | .ok _ => return ()
    | .error f => cannot "create fifo" path f

end Transcripts.Tool.Manage
