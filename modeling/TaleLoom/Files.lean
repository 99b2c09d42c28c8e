import TaleLoom.Fault
import TaleLoom.Keyed
/-!
Files in folders, and paths to them. A path is kept without empty and `.` parts. A file is written
into a folder that is there; `makeFolders` makes the folders of a path.
-/

namespace TaleLoom

/-- A path: the mark of the root, or nothing for a path from the working folder, and its parts. -/
structure Path where
  root : String
  parts : List String
  deriving DecidableEq, Repr

namespace Path

def ofText (s : String) : Path :=
  let slashes := (s.toList.takeWhile (· == '/')).length
  { root := if slashes = 0 then "" else if slashes = 2 then "//" else "/"
    parts := ((s.splitOn "/").filter fun part => part != "" && part != ".") }

def text (p : Path) : String :=
  let s := p.root ++ "/".intercalate p.parts
  if s.isEmpty then "." else s

def isAbsolute (p : Path) : Bool := p.root != ""

/-- A path from a folder on; a path from the root stays what it is. -/
def join (folder p : Path) : Path :=
  if p.isAbsolute then p else { folder with parts := folder.parts ++ p.parts }

/-- The folder that holds what is at a path. -/
def folder (p : Path) : Path := { p with parts := p.parts.dropLast }

def name (p : Path) : String := p.parts.getLast?.getD ""

/-- The name without the last dot and what follows it, where the dot is neither its first nor its
last character. -/
def stem (p : Path) : String :=
  let cs := p.name.toList
  let ending := (cs.reverse.takeWhile (· != '.')).length
  let front := cs.length - ending - 1
  if cs.contains '.' && 0 < front && 0 < ending then String.ofList (cs.take front) else p.name

/-- The parts of a path with each step up taken. -/
def steps (p : Path) : List String :=
  p.parts.foldl (fun done part =>
    if part = ".." && !done.isEmpty && done.getLast? != some ".." then done.dropLast
    else done ++ [part]) (if p.isAbsolute then [p.root] else [])

end Path

/-- What a file holds. -/
inductive Content where
  | text (s : String)
  /-- Bytes that are no text. -/
  | bytes
  deriving DecidableEq, Repr

/-- Files and folders, each under the steps that lead to it. -/
structure FileTree where
  files : Keyed (List String) Content := []
  folders : List (List String) := []

namespace FileTree

def isFolder (tree : FileTree) (steps : List String) : Bool :=
  steps.isEmpty || tree.folders.contains steps

def content? (tree : FileTree) (steps : List String) : Option Content := Keyed.get? steps tree.files

/-- Something is at a path. -/
def isAt (tree : FileTree) (p : Path) : Bool :=
  tree.isFolder p.steps || (tree.content? p.steps).isSome

/-- The folders that hold what is at some steps, outermost first. -/
def holders (steps : List String) : List (List String) :=
  (List.range (steps.length - 1)).map fun i => steps.take (i + 1)

/-- Why the folder of a path cannot be entered, if so. -/
def blocked? (tree : FileTree) (steps : List String) : Option Fault :=
  (holders steps).findSome? fun holder =>
    if tree.isFolder holder then none
    else if (tree.content? holder).isSome then some .notAFolder
    else some .noSuchFile

/-- The text of the file at a path. -/
def read (tree : FileTree) (p : Path) : Except Fault String :=
  if tree.isFolder p.steps then .error .isFolder
  else match tree.blocked? p.steps with
    | some fault => .error fault
    | none =>
      match tree.content? p.steps with
      | some (.text s) => .ok s
      | some .bytes => .error .notText
      | none => .error .noSuchFile

/-- The tree after a file has been written. -/
def write (tree : FileTree) (p : Path) (content : Content) : Except Fault FileTree :=
  if tree.isFolder p.steps then .error .isFolder
  else match tree.blocked? p.steps with
    | some fault => .error fault
    | none => .ok { tree with files := Keyed.set p.steps content tree.files }

/-- The tree with the folders that a file at a path needs. -/
def makeFolders (tree : FileTree) (p : Path) : Except Fault FileTree :=
  (holders p.steps).foldlM (fun tree holder =>
    if tree.isFolder holder then .ok tree
    else if (tree.content? holder).isSome then .error .notAFolder
    else .ok { tree with folders := tree.folders ++ [holder] }) tree

end FileTree

end TaleLoom
