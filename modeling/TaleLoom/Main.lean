import TaleLoom.CommandLine.Basic
/-!
The program: it reads the files that the command line names, carries the command out, writes what
the run has changed, and prints. Notices and faults go to the error output.
-/

namespace TaleLoom.CommandLine

/-- What is printed where the command line cannot be understood. -/
def usage : String :=
  "usage: taleloom [switch ...] (resolve [text] | roll dice | sparks | context text | " ++
    "reset-consumption) [switch ...]"

/-- No command shows the time of day, so the clock stands still. -/
def clock : Clock := { moment := { year := 1970, month := 1, day := 1 }, millis := 0 }

def contentOf (bytes : ByteArray) : Content :=
  match String.fromUTF8? bytes with
  | some s => .text s
  | none => .bytes

/-- The tree with something at a path, and the folders that it needs. -/
def place (tree : FileTree) (file : Path) (content : Content) : FileTree :=
  match tree.makeFolders file with
  | .ok tree => { tree with files := Keyed.set file.steps content tree.files }
  | .error _ => tree

/-- The tree with the file at a path, if it is there. What cannot be read holds no text. -/
def fetch (tree : FileTree) (file : Path) : IO FileTree := do
  try
    return place tree file (contentOf (← IO.FS.readBinFile file.text))
  catch
    | .noFileOrDirectory .. => return tree
    | _ => return place tree file .bytes

/-- Writes the file at a path, where the run has changed it. -/
def keep (before after : FileTree) (file : Path) : IO Unit := do
  let content := after.content? file.steps
  if content = before.content? file.steps then return ()
  match content with
  | some (.text s) =>
    IO.FS.createDirAll file.folder.text
    IO.FS.writeFile file.text s
  | _ => return ()

/-- All of the input. -/
partial def readAll (input : IO.FS.Stream) (seen : String) : IO String := do
  let line ← input.getLine
  if line.isEmpty then return seen else readAll input (seen ++ line)

def freshSeed : IO Int := do
  return ((← IO.getRandomBytes 16).toList.foldl (fun n byte => n * 256 + byte.toNat) 0 : Nat)

def severityText : Severity → String
  | .warning => "WARNING "
  | .error => "ERROR "

/-- Writes what a run has changed, and the notices. -/
def settle (line : CommandLine) (before : FileTree) (desk : Desk) : IO Unit := do
  line.config.files.forM fun file => keep before desk.files file
  desk.notices.forM fun notice => IO.eprintln (severityText notice.severity ++ notice.text)

/-- Carries a command line out, on the files that it names. -/
def execute (line : CommandLine) : IO UInt32 := do
  let input ← if line.readsInput then readAll (← IO.getStdin) "" else pure ""
  let files ← line.config.files.foldlM fetch {}
  let source := Source.ofSeed (← freshSeed)
  match line.run input { Desk.start clock with source, files } with
  | .ok outcome desk =>
    settle line files desk
    IO.print outcome.printed
    return outcome.exit.toUInt32
  | .error fault desk =>
    settle line files desk
    IO.eprintln fault.message
    return 1

end TaleLoom.CommandLine

open TaleLoom in
def main (args : List String) : IO UInt32 := do
  match CommandLine.ofArguments args with
  | .ok line => line.execute
  | .error .help =>
    IO.println CommandLine.usage
    return 0
  | .error .usage =>
    IO.eprintln CommandLine.usage
    return 2
