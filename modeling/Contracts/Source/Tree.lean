import Contracts.Identity.ProfileId
import Contracts.Text.Position

/-!
Trees of the two kinds of documents. A profile is a contract: usecases, models and fields. A map
implements a profile for one provider by maps and operations, whose bodies stay opaque but for
the calls of operations in them.
-/

namespace Contracts

/-- The kind of a document. -/
inductive Kind where
  | profile
  | map
deriving DecidableEq, Repr, Inhabited

/-- What a usecase promises about repeated calls. -/
inductive Safety where
  | safe
  | changing
  | idempotent
deriving DecidableEq, Repr

def Safety.text : Safety → String
  | .safe => "safe"
  | .changing => "unsafe"
  | .idempotent => "idempotent"

structure ProfileHeader where
  name : DocumentName
  version : Version
  location : Location
deriving DecidableEq, Repr

def ProfileHeader.id (h : ProfileHeader) : ProfileId := ⟨h.name, h.version⟩

/-- What a definition of a profile defines. -/
inductive ProfileItem where
  | usecase (safety : Option Safety)
  | model
  /-- A field with the name of its type; a type given by a body is written as an ellipsis. -/
  | field (type : Option String)
deriving DecidableEq, Repr

structure ProfileDefinition where
  item : ProfileItem
  name : String
  title : Option String
  location : Location
deriving DecidableEq, Repr

structure Profile where
  header : ProfileHeader
  definitions : List ProfileDefinition
  location : Location
deriving DecidableEq, Repr

structure MapHeader where
  profile : ProfileId
  provider : String
  variant : Option String
  location : Location
deriving DecidableEq, Repr

/-- A call of an operation, from the word `call` to the end of the operation's name. -/
structure CallSite where
  operation : String
  location : Location
deriving DecidableEq, Repr

/-- What a definition of a map defines. -/
inductive MapItem where
  | map
  | operation
deriving DecidableEq, Repr

structure MapDefinition where
  item : MapItem
  name : String
  calls : List CallSite
  location : Location
deriving DecidableEq, Repr

structure MapDocument where
  header : MapHeader
  definitions : List MapDefinition
  location : Location
deriving DecidableEq, Repr

inductive Tree where
  | profile (profile : Profile)
  | map (map : MapDocument)
deriving DecidableEq, Repr

namespace Tree

def location : Tree → Location
  | .profile p => p.location
  | .map m => m.location

/-- The location of the header. -/
def headerLocation : Tree → Location
  | .profile p => p.header.location
  | .map m => m.header.location

/-- The namespace that a profile defines, or that a map asks for. -/
def namespaceKey : Tree → String
  | .profile p => namespaceText p.header.name p.header.version
  | .map m => namespaceText m.header.profile.name m.header.profile.version

end Tree

end Contracts
