import Contracts.Source.Tree

/-!
The contract that a profile exposes to maps: its identity and the names it defines.
-/

namespace Contracts

structure Usecase where
  name : String
  safety : Option Safety
  title : Option String
deriving DecidableEq, Repr

structure Contract where
  profile : ProfileId
  usecases : List Usecase
  models : List String
  fields : List String
deriving DecidableEq, Repr

namespace Contract

def ofProfile (p : Profile) : Contract where
  profile := p.header.id
  usecases := p.definitions.filterMap fun d =>
    match d.item with
    | .usecase safety => some ⟨d.name, safety, d.title⟩
    | _ => none
  models := p.definitions.filterMap fun d =>
    match d.item with
    | .model => some d.name
    | _ => none
  fields := p.definitions.filterMap fun d =>
    match d.item with
    | .field _ => some d.name
    | _ => none

/-- The first usecase of a name. -/
def usecase? (c : Contract) (name : String) : Option Usecase :=
  c.usecases.find? (·.name == name)

end Contract

end Contracts
