import ComponentBuild.CommandLine.Program

/-!
The program on the files of this machine. What is below the working directory is read before the
run, and what the run changed is written after it. No generators come with the program.
-/

namespace ComponentBuild

def addFound (t : Tree) (p : Path) (content : Option ByteArray) : Tree :=
  let changed : Except FileError Tree := match content with
    | none => t.makeDirectories [] p
    | some bytes => t.put [] p bytes.data.toList
  match changed with
  | .ok t' => t'
  | .error _ => t

def readHost : IO Host := do
  let directory ← IO.currentDir
  let start := Path.ofText directory.toString
  let mut tree := addFound .empty start none
  for found in ← directory.walkDir do
    let content ← if ← found.isDir then pure none
      else try some <$> IO.FS.readBinFile found catch _ => pure (some ByteArray.empty)
    tree := addFound tree (.ofText found.toString) content
  let own := Path.ofText ((← IO.getEnv "HOME").getD "/")
  return ⟨tree, Path.settle [] start.segments, ⟨own, []⟩, [], fun c => !Text.isHalf (Text.codePoint c)⟩

def writeChanges (before after : Tree) : IO Unit := do
  for (location, node) in after.entries do
    match node with
    | .file content =>
      if before.node? location ≠ some node then
        IO.FS.writeBinFile (Path.ofLocation location).text ⟨content.toArray⟩
    | _ => pure ()

/-- Carries out a command line; the status says how the program ended. What it does not handle is
thrown. -/
def carryOut (arguments : List String) : IO UInt32 := do
  let host ← readHost
  let session := CommandLine.run host ⟨[], []⟩ arguments
  writeChanges host.tree session.tree
  IO.print session.output
  IO.eprint session.errors
  match session.ending with
  | .finished => return 0
  | .exited status => return status.toUInt32
  | .crashed crash => throw (IO.userError crash.message)

end ComponentBuild

def main (arguments : List String) : IO UInt32 := ComponentBuild.carryOut arguments
