import Contracts.Text.Split

/-!
Names of contracts, written `name` or `scope/name`.
-/

namespace Contracts

structure DocumentName where
  scope : Option String
  name : String
deriving DecidableEq, Repr

namespace DocumentName

/-- The characters of names: lowercase ASCII letters, digits, `-` and `_`. -/
def isNameChar (c : Char) : Bool :=
  c.isLower || c.isDigit || c == '-' || c == '_'

def isPart (part : List Char) : Bool :=
  !part.isEmpty && part.all isNameChar

/-- Reads a name. A scope ends at the first slash, and neither part may be empty. -/
def ofText? (text : String) : Option DocumentName :=
  match splitFirst '/' text.toList with
  | some (scope, name) =>
    if isPart scope && isPart name then
      some ⟨some (String.ofList scope), String.ofList name⟩
    else none
  | none => if isPart text.toList then some ⟨none, text⟩ else none

def text (n : DocumentName) : String :=
  match n.scope with
  | none => n.name
  | some scope => scope ++ "/" ++ n.name

end DocumentName

end Contracts
