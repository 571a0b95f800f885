import Contracts.Validation.Contract

/-!
Checking a map against a contract. The verdict lists the errors and warnings in the order in
which they are found: the header, the definitions, the calls, and then operations without a call.
-/

namespace Contracts

inductive IssueKind where
  | profileMismatch (expected actual : String)
  | usecaseNotFound (name profile : String)
  | duplicateMap (name : String)
  | duplicateOperation (name : String)
  | operationNotFound (name : String)
  | unusedOperation (name : String)
deriving DecidableEq, Repr

def IssueKind.message : IssueKind → String
  | .profileMismatch expected actual =>
    s!"map targets profile {expected} but the profile is {actual}"
  | .usecaseNotFound name profile => s!"usecase `{name}` is not defined in profile {profile}"
  | .duplicateMap name => s!"map for usecase `{name}` is defined more than once"
  | .duplicateOperation name => s!"operation `{name}` is defined more than once"
  | .operationNotFound name => s!"operation `{name}` is not defined"
  | .unusedOperation name => s!"operation `{name}` is never called"

/-- A problem and where it is, if it is at one place. -/
structure Issue where
  kind : IssueKind
  location : Option Location
deriving DecidableEq, Repr

structure Verdict where
  errors : List Issue
  warnings : List Issue
deriving DecidableEq, Repr

/-- A map passes if there is no error; warnings do not count. -/
def Verdict.passes (v : Verdict) : Bool := v.errors.isEmpty

namespace MapDocument

/-- The error of a header that asks for another profile. -/
def headerIssues (c : Contract) (h : MapHeader) : List Issue :=
  if h.profile.isCompatible c.profile then []
  else [⟨.profileMismatch h.profile.text c.profile.text, some h.location⟩]

/-- The errors of the definitions, where `maps` and `operations` are the names before them. -/
def definitionIssues (c : Contract) (maps operations : List String) :
    List MapDefinition → List Issue
  | [] => []
  | d :: ds =>
    match d.item with
    | .map =>
      (if d.name ∈ maps then [⟨.duplicateMap d.name, some d.location⟩] else []) ++
        (if (c.usecase? d.name).isNone then
          [⟨.usecaseNotFound d.name c.profile.text, some d.location⟩] else []) ++
        definitionIssues c (d.name :: maps) operations ds
    | .operation =>
      (if d.name ∈ operations then [⟨.duplicateOperation d.name, some d.location⟩] else []) ++
        definitionIssues c maps (d.name :: operations) ds

/-- The names of the operations that a map defines. -/
def operationNames (m : MapDocument) : List String :=
  (m.definitions.filter (·.item == .operation)).map (·.name)

/-- All calls in source order. -/
def calls (m : MapDocument) : List CallSite := m.definitions.flatMap (·.calls)

/-- The errors of calls of operations that are defined nowhere in the map. -/
def callIssues (m : MapDocument) : List Issue :=
  (m.calls.filter fun call => call.operation ∉ m.operationNames).map fun call =>
    ⟨.operationNotFound call.operation, some call.location⟩

/-- The warnings of operations that no call uses. -/
def unusedIssues (m : MapDocument) : List Issue :=
  (m.definitions.filter fun d =>
    d.item == .operation && !(m.calls.any (·.operation == d.name))).map fun d =>
    ⟨.unusedOperation d.name, some d.location⟩

/-- Checks a map against a contract. -/
def check (c : Contract) (m : MapDocument) : Verdict where
  errors := headerIssues c m.header ++ definitionIssues c [] [] m.definitions ++ m.callIssues
  warnings := m.unusedIssues

end MapDocument

end Contracts
