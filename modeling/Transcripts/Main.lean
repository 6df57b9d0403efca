import Transcripts.Command

/-!
# The program

Gathers the files that a run may look at, runs the command and does what it comes to.
-/
namespace Transcripts.Main

open Transcripts.Text (Bytes)

/-- The content of a file, if it can be read. -/
def content (path : String) : IO (Option Bytes) := do
  try return some (← IO.FS.readBinFile path).toList
  catch _ => return none

/-- Whether a path leads to a directory. -/
def isDirectory (path : String) : IO Bool := do
  try
    let _ ← IO.FS.realPath (path ++ "/.")
    return true
  catch _ => return false

/-- A variable and its value, from its entry in an environment. -/
def entry? (bs : Bytes) : Option (String × String) := do
  let text ← Text.text? bs
  let (name, value) ← Text.splitFirst '=' text.toList
  return (String.ofList name, String.ofList value)

/-- The entries of an environment, which end in zeros. -/
def entries (bs : Bytes) : List Bytes :=
  bs.foldr (fun b acc => if b = 0 then [] :: acc else match acc with
    | e :: rest => (b :: e) :: rest
    | [] => [[b]]) [[]]

/-- The environment of the program. -/
def environment : IO Environment := do
  return (entries ((← content "/proc/self/environ").getD [])).filterMap entry?

/-- Adds the files and the directories that are there. -/
def withPaths (files dirs : List String) (p : Command.Place) : IO Command.Place := do
  let found ← files.filterMapM fun path => do
    let full := Text.joinPath p.here path
    return (← content full).map (full, ·)
  let dirs ← dirs.filterM fun path => isDirectory (Text.joinPath p.here path)
  let withDirs := dirs.foldl (fun fs dir =>
    (fs.provide Files.root (Files.parts (Str.ofString (Text.joinPath p.here dir)))).2) p.files
  return { p with files := found.foldl (fun fs (path, bs) =>
    fs.putFile Files.root (Str.ofString path) bs) withDirs }

/-- What the command can see. -/
def place (words : List String) : IO Command.Place := do
  let here := (← IO.getEnv "PWD").getD "/"
  let p : Command.Place :=
    { here, files := Files.ofList Programs.names here [], env := ← environment }
  match Command.Options.parse words with
  | .error _ => return p
  | .ok o => do
    let p ← withPaths (o.sources p) [] p
    withPaths (o.scripts p) (o.directories p) p

/-- Directories are looked through down to this depth. -/
def depth : Nat := 100

/-- Writes the files that a run has changed. -/
def save (before after : Files) : IO Unit :=
  (after.contents depth Files.root).forM fun (path, bs) => do
    match before.read Files.root path with
    | .ok old => if old = bs then pure () else IO.FS.writeBinFile ("/" ++ Str.toString path) ⟨bs.toArray⟩
    | .error _ => IO.FS.writeBinFile ("/" ++ Str.toString path) ⟨bs.toArray⟩

/-- Runs the program, and gives its exit code. -/
def run (words : List String) : IO UInt32 := do
  let p ← place words
  let report := Command.run words p
  save p.files report.files
  IO.print report.output
  match report.failure with
  | some message => IO.eprintln ("Error: " ++ message)
  | none => pure ()
  return UInt32.ofNat report.exit

end Transcripts.Main

def main (args : List String) : IO UInt32 := Transcripts.Main.run args
