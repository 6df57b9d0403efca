import Transcripts.Tool

/-!
# Names of files

Parts of paths, and where paths lead to.
-/
namespace Transcripts.Tool.Names

/-- A path without the slashes at its end; one of them is left if there is nothing else. -/
def withoutSlashes (s : Str) : Str :=
  let t := (s.reverse.dropWhile (· == '/')).reverse
  if t.isEmpty && !s.isEmpty then ['/'] else t

/-- The last part of a path. -/
def lastPart (s : Str) : Str :=
  let t := withoutSlashes s
  if t = ['/'] then t else (t.reverse.takeWhile (· != '/')).reverse

/-- A path without its last part. -/
def upper (s : Str) : Str :=
  let t := withoutSlashes s
  if t = ['/'] then t
  else
    let front := (t.reverse.dropWhile (· != '/')).reverse
    if front.isEmpty then ['.'] else withoutSlashes front

/-- A name without an ending that is not all of it. -/
def withoutEnding (ending name : Str) : Str :=
  if !ending.isEmpty && ending.isSuffixOf name && name != ending then name.take (name.length - ending.length)
  else name

/-- What ends each line of the output. -/
def endOf (w : Words) : Str := if w.has "z" then ['\x00'] else ['\n']

def basename (args : List Str) : Tool Unit := do
  let w ← words (switches ["a:multiple", "z:zero"] ++ values ["s:suffix"]) false 1 args
  let several := w.has "a" || w.has "s"
  match w.operands with
  | [] => misuse 1 "missing operand"
  | path :: rest =>
    if several then
      (path :: rest).forM fun p => put (withoutEnding ((w.value? "s").getD []) (lastPart p) ++ endOf w)
    else
      match rest with
      | [] => put (lastPart path ++ endOf w)
      | [ending] => put (withoutEnding ending (lastPart path) ++ endOf w)
      | _ :: extra :: _ => misuse 1 ("extra operand " ++ Str.toString (marked extra))

def dirname (args : List Str) : Tool Unit := do
  let w ← words (switches ["z:zero"]) false 1 args
  if w.operands.isEmpty then misuse 1 "missing operand"
  w.operands.forM fun p => put (upper p ++ endOf w)

/-! ## Where paths lead to -/

/-- The path of a node that a path leads to, without links in it. -/
def resolved (v : Process.View) (path : Str) (lastMayMiss : Bool) : Except SystemFault Str :=
  match v.files.find v.here path true with
  | .ok id =>
    if v.files.isDir id then .ok (v.files.pathOf id) else nameAt Files.linkLimit v.here path
  | .error f => if lastMayMiss && f = .missing then nameAt Files.linkLimit v.here path else .error f
where
  /-- The path of a name in a directory, with links at its end followed. -/
  nameAt : Nat → Nat → Str → Except SystemFault Str
    | 0, _, _ => .error .linkLoop
    | fuel + 1, here, path =>
      match v.files.spot here path with
      | .error f => .error f
      | .ok none => .ok ['/']
      | .ok (some s) =>
        match (v.files.at? s).bind v.files.content? with
        | some (.link target) => nameAt fuel s.dir target
        | _ =>
          let dir := v.files.pathOf s.dir
          .ok ((if dir = ['/'] then dir else dir ++ ['/']) ++ s.name)

/-- A path with missing parts taken as they are written. -/
def resolvedAnyway (v : Process.View) : Nat → Str → Str
  | 0, path => path
  | fuel + 1, path =>
    match resolved v path true with
    | .ok s => s
    | .error _ =>
      let up := resolvedAnyway v fuel (upper path)
      let name := lastPart path
      if name = ['.'] then up else if name = ['.', '.'] then upper up
      else (if up = ['/'] then up else up ++ ['/']) ++ name

/-- A path from one directory to another. -/
def relative (from_ to_ : Str) : Str :=
  let parts (s : Str) : List Str := (Text.splitOnChar '/' s).filter (!·.isEmpty)
  let rec strip : List Str → List Str → List Str × List Str
    | a :: as, b :: bs => if a = b then strip as bs else (a :: as, b :: bs)
    | as, bs => (as, bs)
  let (up, down) := strip (parts from_) (parts to_)
  let all := up.map (fun _ => ['.', '.']) ++ down
  if all.isEmpty then ['.'] else Text.join ['/'] all

def readlink (args : List Str) : Tool Unit := do
  let w ← words (switches ["f:canonicalize", "e:canonicalize-existing", "m:canonicalize-missing",
    "n:no-newline", "q:quiet", "s:silent", "v:verbose", "z:zero"]) true 1 args
  if w.operands.isEmpty then misuse 1 "missing operand"
  let ending := if w.has "n" && w.operands.length = 1 then [] else endOf w
  w.operands.forM fun path => do
    let v ← view
    let failed (f : SystemFault) : Tool Unit := do
      if w.has "v" then failAt path f else note 1
    match w.last? ["f", "e", "m"] with
    | some "m" => put (resolvedAnyway v 100 path ++ ending)
    | some mode =>
      match resolved v path (mode = "f") with
      | .ok s => put (s ++ ending)
      | .error f => failed f
    | none =>
      match v.files.find v.here path false with
      | .error f => failed f
      | .ok id =>
        match v.files.content? id with
        | some (.link target) => put (target ++ ending)
        | _ => failed .invalid

def realpath (args : List Str) : Tool Unit := do
  let w ← words (switches ["e:canonicalize-existing", "m:canonicalize-missing", "L:logical", "P:physical",
    "q:quiet", "s:strip", "z:zero"] ++ values ["relative-to", "relative-base"]
    ++ [⟨"s", none, "no-symlinks", .nothing⟩]) true 1 args
  if w.operands.isEmpty then misuse 1 "missing operand"
  let v ← view
  w.operands.forM fun path => do
    let r := if w.has "m" then .ok (resolvedAnyway v 100 path) else resolved v path (!w.has "e")
    match r with
    | .ok s =>
      let s := match w.value? "relative-to" with
        | some base => relative (resolvedAnyway v 100 base) s
        | none => s
      put (s ++ endOf w)
    | .error f => if w.has "q" then note 1 else failAt path f

def pwd (args : List Str) : Tool Unit := do
  let w ← words (switches ["L:logical", "P:physical"]) true 1 args
  if !w.operands.isEmpty then warn "ignoring non-option arguments".toList
  let v ← view
  let here := v.files.pathOf v.here
  let given := ((← desk).env.lookup "PWD".toList).getD []
  let fits := w.last? ["L", "P"] = some "L" && given.head? = some '/'
    && (match v.files.find Files.root given true with
      | .ok id => id == v.here
      | .error _ => false)
  putLine (if fits then given else here)

end Transcripts.Tool.Names
