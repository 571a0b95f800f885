import Contracts.Source.Tree
import Contracts.Text.Utf8

/-!
Paths of files, as bytes with slashes between their components. Repeated slashes and single dots
inside a path do not count, so two paths are the same if their components are.
-/

namespace Contracts

structure Path where
  bytes : List UInt8
deriving DecidableEq, Repr

namespace Path

/-- A component of a path. -/
inductive Component where
  | root
  | current
  | parent
  | normal (name : List UInt8)
deriving DecidableEq, Repr

def ofText (s : String) : Path := ⟨Utf8.encode s⟩

def text (p : Path) : String := Utf8.display p.bytes

def slash : UInt8 := 0x2F

def dot : UInt8 := 0x2E

/-- The stretches of bytes between slashes. -/
def cut : List UInt8 → List (List UInt8)
  | [] => [[]]
  | b :: bs =>
    if b = slash then [] :: cut bs
    else
      match cut bs with
      | [] => [[b]]
      | part :: parts => (b :: part) :: parts

/-- What a stretch between slashes means; empty stretches and single dots mean nothing. -/
def componentOf? (part : List UInt8) : Option Component :=
  if part = [] ∨ part = [dot] then none
  else if part = [dot, dot] then some .parent
  else some (.normal part)

/-- The components of a path. A single dot counts where a relative path begins with it. -/
def components (p : Path) : List Component :=
  let parts := cut p.bytes
  let first : List Component :=
    if p.bytes.head? = some slash then [.root]
    else if parts.head? = some [dot] then [.current]
    else []
  first ++ parts.filterMap componentOf?

def isAbsolute (p : Path) : Bool := p.bytes.head? = some slash

/-- Whether two paths have the same components. -/
def same (a b : Path) : Bool := a.components == b.components

/-- Whether `p` is `dir` or lies below it. -/
def isBelow (p dir : Path) : Bool := dir.components.isPrefixOf p.components

/-- The last component, unless it leads upwards. -/
def fileName? (p : Path) : Option (List UInt8) :=
  match p.components.getLast? with
  | some (.normal name) => some name
  | _ => none

/-- What follows the last dot of a name; `none` if there is no dot, or only one in front. -/
def afterLastDot? (name : List UInt8) : Option (List UInt8) :=
  let tail := name.reverse.takeWhile (· != dot)
  if tail.length + 1 < name.length then some tail.reverse else none

def extension? (p : Path) : Option (List UInt8) := p.fileName?.bind afterLastDot?

/-- The names on the way along a path, without what stands for the place one is at. -/
def names (p : Path) : List (List UInt8) :=
  (cut p.bytes).filter fun part => part ≠ [] ∧ part ≠ [dot]

/-- A path for `name` in the directory `p`. -/
def child (p : Path) (name : List UInt8) : Path :=
  if p.bytes.getLast? = some slash ∨ p.bytes = [] then ⟨p.bytes ++ name⟩
  else ⟨p.bytes ++ slash :: name⟩

end Path

namespace Kind

/-- The kind of the files with an extension. -/
def ofExtension? (extension : String) : Option Kind :=
  if extension = "supr" then some .profile
  else if extension = "suma" then some .map
  else none

/-- The kind that an editor names in its language id. -/
def ofLanguage? (language : String) : Option Kind :=
  if language = "comlink-profile" then some .profile
  else if language = "comlink-map" then some .map
  else none

/-- The kind of a file by the extension of its path. -/
def ofPath? (p : Path) : Option Kind := do
  let extension ← p.extension?
  let extension ← Utf8.decode? extension
  ofExtension? extension

end Kind

end Contracts
