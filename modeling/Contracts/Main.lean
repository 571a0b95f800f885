import Contracts.CommandLine

/-!
The program. It takes a picture of the files that a command is about, runs the command on the
picture, and writes what the command reports.

A directory is not listed by the program. Where a root is one, the names of the files below it
come in on the standard input, one on each line.
-/

namespace Contracts

/-- What is at a path: a file, a directory that seems empty, or nothing that can be read. -/
def nodeAt (path : String) : IO (Option DiskNode) := do
  try
    let bytes ← IO.FS.readBinFile path
    pure (some (.file bytes.toList))
  catch
    | .inappropriateType _ 21 _ => pure (some .empty)
    | _ => pure none

/-- Puts what is at a path on the picture of the disk. -/
def addPath (d : Disk) (path : String) : IO Disk := do
  match ← nodeAt path with
  | none => pure d
  | some node =>
    let path := Path.ofText path
    let start := if path.isAbsolute then [] else d.current.names
    pure { d with root := d.root.insert (start ++ path.names) node }

/-- The lines of a stream, up to its end. -/
partial def linesOf (input : IO.FS.Stream) : IO (List String) := do
  let line ← input.getLine
  if line.isEmpty then pure []
  else
    let rest ← linesOf input
    let text := String.ofList (line.toList.filter (· != '\n'))
    pure (if text.isEmpty then rest else text :: rest)

/-- The picture of the files that a command is about. -/
def pictureFor (command : Option Command) (input : IO.FS.Stream) : IO Disk := do
  let current := Path.ofText (toString (← IO.currentDir))
  let d : Disk := ⟨DiskNode.empty.insert current.names .empty, current⟩
  match command with
  | some (.parse file) => addPath d file.text
  | some (.check roots) =>
    let d ← roots.foldlM (fun d root => addPath d root.text) d
    let isDirectory (root : Path) : Bool :=
      match d.node? root with
      | .ok node => node.isDirectory
      | .error _ => false
    if roots.any isDirectory then (← linesOf input).foldlM addPath d else pure d
  | _ => pure d

end Contracts

open Contracts

def main (arguments : List String) : IO UInt32 := do
  let input ← IO.getStdin
  let command := Command.ofArguments? arguments
  if command = some .serve then let _ ← linesOf input
  let report := runArguments (← pictureFor command input) arguments
  (← IO.getStdout).putStr report.stdout
  (← IO.getStderr).putStr report.stderr
  pure (UInt32.ofNat report.exit)
