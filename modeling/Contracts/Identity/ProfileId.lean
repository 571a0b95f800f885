import Contracts.Identity.Name
import Contracts.Identity.Version

/-!
Identities of profiles, written `name@major.minor`, with a scope in front where there is one.
The same text, without the patch number, is the namespace by which maps find their profile.
-/

namespace Contracts

structure ProfileId where
  name : DocumentName
  version : Version
deriving DecidableEq, Repr

namespace ProfileId

/-- Reads a name and a version with the first at sign between them. -/
def ofText? (text : String) : Option ProfileId := do
  let (name, version) ← splitFirst '@' text.toList
  let name ← DocumentName.ofText? (String.ofList name)
  let version ← Version.ofText? (String.ofList version)
  pure ⟨name, version⟩

/-- The identity as text; the patch number is left out. -/
def text (id : ProfileId) : String :=
  id.name.text ++ "@" ++ id.version.shortText

/-- Whether two identities mean one contract: all but the patch number agrees. -/
def isCompatible (a b : ProfileId) : Bool :=
  a.name == b.name && a.version.major == b.version.major && a.version.minor == b.version.minor

end ProfileId

/-- The key under which maps look a profile up. -/
def namespaceText (name : DocumentName) (version : Version) : String :=
  let key := name.name ++ "@" ++ version.shortText
  match name.scope with
  | none => key
  | some scope => scope ++ "/" ++ key

end Contracts
