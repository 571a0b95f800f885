import Contracts.Store.Storage

/-!
A tree of directories and files, as a disk holds them, and what reading, walking and resolving
paths in it answers.
-/

namespace Contracts

inductive DiskNode where
  | file (bytes : List UInt8)
  | directory (children : List (List UInt8 × DiskNode))

namespace DiskNode

def isDirectory : DiskNode → Bool
  | .file _ => false
  | .directory _ => true

def children : DiskNode → List (List UInt8 × DiskNode)
  | .file _ => []
  | .directory children => children

def child? (node : DiskNode) (name : List UInt8) : Option DiskNode :=
  (node.children.find? (·.1 == name)).map (·.2)

def empty : DiskNode := .directory []

/-- Puts `node` at the end of a chain of names; directories on the way are made as needed. -/
def insert (into : DiskNode) (chain : List (List UInt8)) (node : DiskNode) : DiskNode :=
  match chain with
  | [] =>
    match node, into with
    | .directory [], .directory children => .directory children
    | _, _ => node
  | name :: names =>
    let below := ((into.child? name).getD .empty).insert names node
    .directory (into.children.filter (·.1 != name) ++ [(name, below)])

mutual

/-- The entries of a node at `path`: itself, and all below it. -/
def entries (path : Path) : DiskNode → List StorageEntry
  | .file _ => [⟨path, true⟩]
  | .directory children => ⟨path, false⟩ :: entriesOf path children

def entriesOf (path : Path) : List (List UInt8 × DiskNode) → List StorageEntry
  | [] => []
  | (name, node) :: rest => entries (path.child name) node ++ entriesOf path rest

end

end DiskNode

/-- A disk: its root, and the directory that relative paths start from. -/
structure Disk where
  root : DiskNode
  current : Path

namespace Disk

def noSuchFile : StorageFailure := ⟨.notFound, "No such file or directory (os error 2)"⟩

def notADirectory : StorageFailure := ⟨.notADirectory, "Not a directory (os error 20)"⟩

def isADirectory : StorageFailure := ⟨.isADirectory, "Is a directory (os error 21)"⟩

def zeroByte : StorageFailure := ⟨.invalidInput, "file name contained an unexpected NUL byte"⟩

def nameTooLong : StorageFailure := ⟨.invalidFilename, "File name too long (os error 36)"⟩

/-- The most bytes that a name may have. -/
def nameLimit : Nat := 255

/-- The most bytes that a path may have. -/
def pathLimit : Nat := 4095

def notText : StorageFailure := ⟨.invalidData, "stream did not contain valid UTF-8"⟩

/-- Follows stretches between slashes from the node at the end of `trail`, which holds the nodes
passed with their names, last first. -/
def follow (root : DiskNode) (trail : List (List UInt8 × DiskNode)) :
    List (List UInt8) → Except StorageFailure (List (List UInt8 × DiskNode))
  | [] => .ok trail
  | part :: parts =>
    let here := (trail.head?.map (·.2)).getD root
    if !here.isDirectory then .error notADirectory
    else if part = [] ∨ part = [Path.dot] then follow root trail parts
    else if part = [Path.dot, Path.dot] then follow root trail.tail parts
    else if nameLimit < part.length then .error nameTooLong
    else
      match here.child? part with
      | some node => follow root ((part, node) :: trail) parts
      | none => .error noSuchFile

/-- The node at a path, with the names that lead to it from the root. -/
def resolve (d : Disk) (path : Path) : Except StorageFailure (List (List UInt8 × DiskNode)) := do
  if path.bytes = [] then throw noSuchFile
  if path.bytes.contains 0 then throw zeroByte
  let start ← if path.isAbsolute then pure [] else follow d.root [] (Path.cut d.current.bytes)
  follow d.root start (Path.cut path.bytes)

def node? (d : Disk) (path : Path) : Except StorageFailure DiskNode := do
  if pathLimit < path.bytes.length ∧ !path.bytes.contains 0 then throw nameTooLong
  let trail ← d.resolve path
  pure ((trail.head?.map (·.2)).getD d.root)

/-- The path of what a path leads to, without dots and from the root on. It is found name by name,
so that the path may have any length. -/
def canonical (d : Disk) (path : Path) : Except StorageFailure Path := do
  let trail ← d.resolve path
  let names := trail.reverse.map (·.1)
  pure ⟨if names.isEmpty then [Path.slash] else names.flatMap (Path.slash :: ·)⟩

/-- The text of a file. -/
def read (d : Disk) (path : Path) : Except StorageFailure String := do
  match ← d.node? path with
  | .directory _ => throw isADirectory
  | .file bytes =>
    match Utf8.decode? bytes with
    | some text => pure text
    | none => throw notText

/-- The disk as a storage. A walk lists its roots themselves and the directories below them, and
leaves out what is missing. -/
def storage (d : Disk) : Storage where
  read path :=
    match d.read path with
    | .ok text => .ok text
    | .error failure => .failed failure
  walk roots :=
    .ok (roots.flatMap fun root =>
      match d.node? root with
      | .ok node => node.entries root
      | .error _ => [])

end Disk

end Contracts
