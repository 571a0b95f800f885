import Contracts.Editor.Written
import Contracts.Path

/-!
Settings that an editor hands over when it starts the server. If any of them cannot be read, all
of them are ignored.
-/

namespace Contracts

structure Settings where
  /-- At most this many diagnostics are shown for a document. -/
  maxProblems : Option Nat
  /-- Whether to scan the folders of the workspace at the start. -/
  bootstrap : Bool
  /-- Folders to scan beside those of the workspace. -/
  extraRoots : List Path
deriving DecidableEq, Repr

namespace Settings

def usual : Settings := ⟨none, true, []⟩

/-- How many numbers of 64 bits there are. -/
def countLimit : Nat := 18446744073709551616

/-- A whole number that fits in 64 bits. -/
def readCount? : Json → Option Nat
  | .int n => if 0 ≤ n ∧ n < countLimit then some n.toNat else none
  | _ => none

def readBool? : Json → Option Bool
  | .bool b => some b
  | _ => none

def readRoots? : Json → Option (List Path) := readList? fun j => (readText? j).map Path.ofText

/-- A value, or what is usual where it is absent. -/
def orUsual {α : Type} (usual : α) (read : Json → Option α) : Option Json → Option α
  | none => some usual
  | some j => read j

/-- The settings with the given values; `none` if one of them cannot be read. -/
def ofValues? (maxProblems bootstrap extraRoots : Option Json) : Option Settings := do
  let maxProblems ← readOptional? readCount? maxProblems
  let bootstrap ← orUsual true readBool? bootstrap
  let extraRoots ← orUsual [] readRoots? extraRoots
  pure ⟨maxProblems, bootstrap, extraRoots⟩

/-- Settings by name, or in the order of a list. -/
def read? : Json → Option Settings
  | .object fields =>
    let j := Json.object fields
    ofValues? (j.field? "maxProblems") (j.field? "bootstrap") (j.field? "extraRoots")
  | .list items => if items.length ≤ 3 then ofValues? items[0]? items[1]? items[2]? else none
  | _ => none

/-- The settings of an editor's options, if it gave any. -/
def ofOptions (options : Option Json) : Settings := (options.bind read?).getD usual

end Settings

end Contracts
