import Contracts.Store.Registry

/-!
The workspace: the registry with the storage behind it, and what activities may have to wait for.
-/

namespace Contracts

structure Workspace where
  registry : Registry
  storage : Storage
  /-- Whether the storage answers now. While it does not, reads and walks wait. -/
  storageReady : Bool
  /-- How many scans of the storage are under way. Questions about all documents wait until
  there are none. -/
  scans : Nat

namespace Workspace

def ofStorage (storage : Storage) : Workspace := ⟨.empty, storage, true, 0⟩

/-- What a call comes to that is answered at one go: its result, and the workspace after it. -/
abbrev Call := Except Error Document × Workspace

/-- The workspace after a call, for those who go on only if the call was accepted. -/
def Call.accepted : Call → Except Error (Document × Workspace)
  | (.ok d, w) => .ok (d, w)
  | (.error e, _) => .error e

instance : Coe Call (Except Error (Document × Workspace)) := ⟨Call.accepted⟩

/-- Registers a document that an editor opened. Its language decides on the kind, or else the end
of its uri. -/
def openDocument (w : Workspace) (uri : Uri) (language : String) (version : Int) (text : String) :
    Call :=
  match Kind.ofLanguage? language <|> Kind.ofUri? uri with
  | none => (.error (.unrecognizedKind uri), w)
  | some kind =>
    let (d, r) := w.registry.create uri kind version text
    (.ok d, { w with registry := r })

def changeDocument (w : Workspace) (uri : Uri) (edits : List Edit) (version : Int) : Call :=
  let (result, r) := w.registry.update uri edits version
  (result, { w with registry := r })

/-- Takes a document out that the editor closed. -/
def closeDocument (w : Workspace) (uri : Uri) : Call :=
  let (result, r) := w.registry.remove uri
  (result, { w with registry := r })

/-- One more scan is under way. -/
def enterScan (w : Workspace) : Workspace := { w with scans := w.scans + 1 }

/-- One scan less is under way. -/
def leaveScan (w : Workspace) : Workspace := { w with scans := w.scans - 1 }

end Workspace

end Contracts
