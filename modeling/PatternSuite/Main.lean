import PatternSuite.Command.Program

/-!
# The executable

Reads from the disk what a command line names, runs the program on it, and writes back what has
changed.
-/

namespace PatternSuite

/-- Adds to a folder what stands under a path on the disk. -/
def surveyPath (f : Folder) (path : Path) : IO Folder := do
  try
    let bytes ← IO.FS.readBinFile ("/".intercalate path)
    return f.write path bytes.data.toList
  catch e =>
    match e with
    | .inappropriateType _ 21 _ => return { f with folders := path :: f.folders }
    | _ => return f

/-- Adds to a folder what stands on the disk under a name and under the folders above it. -/
def surveyName (f : Folder) (name : String) : IO Folder :=
  let steps := Folder.steps name
  (List.range steps.length).foldlM
    (fun f n => surveyPath f ((steps.take (n + 1)).foldl Folder.go [])) f

/-- The names that a command uses. -/
def Command.names : Command → List String
  | .check source output => source.config :: output.toList
  | .matchLines source input output _ => source.config :: (input.toList ++ output.toList)

/-- Reads a stream to its end. -/
partial def readStream (s : IO.FS.Stream) (done : List UInt8) : IO (List UInt8) := do
  let chunk ← s.read 65536
  if chunk.isEmpty then return done.reverse
  else readStream s (chunk.data.toList.reverse ++ done)

/-- Writes the files that differ. -/
def writeBack (before after : Folder) : IO Unit := do
  for (path, bytes) in after.files do
    if before.content? path ≠ some bytes then
      IO.FS.writeBinFile ("/".intercalate path) ⟨bytes.toArray⟩

/-- Runs the program on a command line that was understood. -/
def runInvocation (words : List String) (i : Invocation) : IO UInt32 := do
  let folder ← i.command.names.foldlM surveyName {}
  let input ← match i.command with
    | .matchLines _ name _ _ =>
      if (Surroundings.fileName? name).isNone then readStream (← IO.getStdin) [] else pure []
    | .check .. => pure []
  match Program.run words { folder, input } with
  | none => return UInt32.ofNat Program.usageCode
  | some e =>
    writeBack folder e.surroundings.folder
    (← IO.getStdout).putStr e.surroundings.output
    (← IO.getStderr).putStr e.errors
    return UInt32.ofNat e.code

end PatternSuite

/-- Runs the program. -/
def main (words : List String) : IO UInt32 := do
  match PatternSuite.Invocation.parse words with
  | some i => PatternSuite.runInvocation words i
  | none =>
    IO.eprintln ("usage: [-q] [-v]... [--ts] check|match --config FILE [--pcre-jit on|off] "
      ++ "[--input FILE] [--output FILE] [--captures]")
    return UInt32.ofNat PatternSuite.Program.usageCode
