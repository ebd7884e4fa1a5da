/-!
# Folders

The files that a command sees: a tree of folders with files by name. Names go down and up the tree
step by step; what a name leads to may be a file, a folder, or nothing.

Two names of one file lead to one path if both begin at the root, or if both begin here, at the
folder that a command runs in, and lead equally far up from it. Where that folder stands below the
root is not known, so other names of one file count as names of two. There are no links.

* `Folder.resolve`: where a name leads.
* `Folder.openFile`: what stands under a name that is to be read.
* `Folder.create`: makes a file empty, or makes an empty file.
-/

namespace PatternSuite

/-- Why a file cannot be had. -/
inductive FileFault
  | notFound
  /-- A step of the name leads through a file. -/
  | notFolder
  /-- The name leads to a folder. -/
  | isFolder
  | nameTooLong
  deriving DecidableEq, Repr, Inhabited

namespace FileFault

/-- The number of the fault. -/
def code : FileFault → Nat
  | notFound => 2
  | notFolder => 20
  | isFolder => 21
  | nameTooLong => 36

/-- The kind of the fault. -/
def kind : FileFault → String
  | notFound => "NotFound"
  | notFolder => "NotADirectory"
  | isFolder => "IsADirectory"
  | nameTooLong => "InvalidFilename"

/-- The fault in words. -/
def describe : FileFault → String
  | notFound => "No such file or directory"
  | notFolder => "Not a directory"
  | isFolder => "Is a directory"
  | nameTooLong => "File name too long"

/-- The fault in words, with its number. -/
def message (f : FileFault) : String :=
  f.describe ++ " (os error " ++ toString f.code ++ ")"

end FileFault

/-- The steps from here, or from the root, to a file or folder. All steps upwards are in front. -/
abbrev Path := List String

/-- Files with their contents, and further folders. A folder that holds something need not be
listed. -/
structure Folder where
  files : List (Path × List UInt8) := []
  folders : List Path := []
  deriving Repr, Inhabited

/-- What can be opened for reading. A folder can be opened but not read. -/
inductive Opened
  | file (path : Path)
  | folder
  deriving DecidableEq, Repr, Inhabited

namespace Folder

/-- The steps of a name: what stands between slashes, without the steps that stay in place. A name
that begins with a slash begins at the root. -/
def steps (name : String) : List String :=
  let parts := (name.toList.splitOn '/').map String.ofList
  let inner := parts.filter fun s => s != "" && s != "."
  if name.toList.head? = some '/' then "/" :: inner else inner

/-- Takes one more step. A step upwards takes back the step that led down to the folder; there is
nothing above the root. -/
def go (p : Path) (step : String) : Path :=
  if step = ".." then
    match p.getLast? with
    | none => [".."]
    | some last => if last = ".." then p ++ [".."] else if last = "/" then p else p.dropLast
  else p ++ [step]

/-- Where a name leads, if its folders are there. -/
def resolve (name : String) : Path := (steps name).foldl go []

/-- The content of a file. -/
def content? (f : Folder) (p : Path) : Option (List UInt8) :=
  (f.files.find? fun e => e.1 == p).map (·.2)

/-- Is there a folder? Steps that only lead upwards always lead to one. -/
def isFolder (f : Folder) (p : Path) : Bool :=
  p.all (fun s => s == ".." || s == "/") || f.folders.contains p
    || (f.files.map (·.1) ++ f.folders).any fun q => p.isPrefixOf q && p != q

/-- The greatest number of bytes in a step. -/
def maxStep : Nat := 255

/-- The number of bytes that no name reaches. -/
def maxName : Nat := 4096

/-- Takes some steps, up to the folder of the last one. -/
def walk (f : Folder) (above : Path) : List String → Except FileFault Unit
  | [] => .ok ()
  | [last] => if maxStep < last.utf8ByteSize then .error .nameTooLong else .ok ()
  | step :: rest =>
    let here := go above step
    if maxStep < step.utf8ByteSize then .error .nameTooLong
    else if f.isFolder here then f.walk here rest
    else if (f.content? here).isSome then .error .notFolder
    else .error .notFound

/-- The path of a name, if the folder of its last step is there. -/
def locate (f : Folder) (name : String) : Except FileFault Path :=
  if name.isEmpty then .error .notFound
  else if maxName ≤ name.utf8ByteSize then .error .nameTooLong
  else (f.walk [] (steps name)).map fun _ => resolve name

/-- Does a name end in a slash, or stay in place with its last step? Then it can only lead to a
folder. -/
def namesFolder (name : String) : Bool :=
  ['/'].isSuffixOf name.toList || ['/', '.'].isSuffixOf name.toList

/-- Opens what stands under a name for reading. -/
def openFile (f : Folder) (name : String) : Except FileFault Opened := do
  let path ← f.locate name
  if f.isFolder path then return .folder
  else if (f.content? path).isSome then
    if namesFolder name then throw .notFolder else return .file path
  else throw .notFound

/-- Reads what was opened. -/
def read (f : Folder) : Opened → Except FileFault (List UInt8)
  | .file path => .ok ((f.content? path).getD [])
  | .folder => .error .isFolder

/-- Sets the content of a file. -/
def write (f : Folder) (path : Path) (bytes : List UInt8) : Folder :=
  if (f.content? path).isSome then
    { f with files := f.files.map fun e => if e.1 == path then (path, bytes) else e }
  else { f with files := f.files ++ [(path, bytes)] }

/-- Opens a file for writing: what was in it is gone. -/
def create (f : Folder) (name : String) : Except FileFault (Path × Folder) := do
  let path ← f.locate name
  if f.isFolder path || namesFolder name then throw .isFolder
  return (path, f.write path [])

end Folder

end PatternSuite
