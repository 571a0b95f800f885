import Contracts.Path

/-!
Storage, from which documents are read that no editor has opened. It answers a read with a text
and a walk with the entries below some roots; it may also fail, or give way altogether. That ends
the task that asked, and no other one: a program that is built to stop then is not described.
-/

namespace Contracts

inductive FailureKind where
  | notFound
  | permissionDenied
  | notADirectory
  | isADirectory
  | invalidInput
  | invalidFilename
  | invalidData
deriving DecidableEq, Repr

structure StorageFailure where
  kind : FailureKind
  text : String
deriving DecidableEq, Repr

/-- The answer of a storage. -/
inductive Access (α : Type) where
  | ok (value : α)
  | failed (failure : StorageFailure)
  | crashed
deriving Repr

structure StorageEntry where
  path : Path
  isFile : Bool
deriving DecidableEq, Repr

structure Storage where
  read : Path → Access String
  walk : List Path → Access (List StorageEntry)

/-- Files in memory, with the faults that reads and walks of some paths meet. -/
structure MemoryFiles where
  files : List (Path × String)
  extraEntries : List StorageEntry
  deniedReads : List Path
  deniedWalks : List Path
  crashingReads : List Path
  crashingWalks : List Path

namespace MemoryFiles

/-- Puts a file in. If there is one with the same path, its text is replaced and its path stays as
it was written first. -/
def insert (m : MemoryFiles) (path : Path) (text : String) : MemoryFiles :=
  let files :=
    if m.files.any (·.1.same path) then
      m.files.map fun (other, old) => (other, if other.same path then text else old)
    else m.files ++ [(path, text)]
  { m with files }

def denied : StorageFailure := ⟨.permissionDenied, "denied"⟩

/-- The storage of the files. Directories are implied by the files in them. -/
def storage (m : MemoryFiles) : Storage where
  read path :=
    if m.crashingReads.any (·.same path) then .crashed
    else if m.deniedReads.any (·.same path) then .failed denied
    else
      match m.files.find? (·.1.same path) with
      | some (_, text) => .ok text
      | none => .failed ⟨.notFound, path.text⟩
  walk roots :=
    if m.crashingWalks.any fun p => roots.any (·.same p) then .crashed
    else if m.deniedWalks.any fun p => roots.any (·.same p) then .failed denied
    else
      let entries := m.files.map (fun f => ⟨f.1, true⟩) ++ m.extraEntries
      .ok (entries.filter fun e => roots.any (e.path.isBelow ·))

end MemoryFiles

end Contracts
