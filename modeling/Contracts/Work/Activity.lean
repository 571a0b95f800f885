import Contracts.Editor.Search
import Contracts.Work.Workspace

/-!
Activities: questions to the workspace that may have to wait.

An activity is a value that says what it has come to. One step takes it from one place where it
may wait to the next. It has no step while it has to wait; between steps anything else may happen
to the workspace.
-/

namespace Contracts

/-- What a task comes to by one step: more of it is left, or it is done. -/
inductive Turn (τ α : Type) where
  | more (task : τ)
  | done (value : α)

namespace Turn

variable {τ υ α β : Type}

def map (f : τ → υ) (g : α → β) : Turn τ α → Turn υ β
  | .more task => .more (f task)
  | .done value => .done (g value)

end Turn

/-- How far the loading of a document has come. -/
inductive Load where
  /-- The registry is about to be asked. -/
  | lookup
  /-- The document was not there, and its file is about to be read. -/
  | reading (kind : Kind) (path : Path)
deriving DecidableEq, Repr

/-- One step of loading the document at `uri`. When its file has been read, a document that was
registered in the meantime is kept. -/
def Load.step? (w : Workspace) (uri : Uri) :
    Load → Option (Workspace × Turn Load (Except Error Document))
  | .lookup =>
    match w.registry.get? uri with
    | some d => some (w, .done (.ok d))
    | none =>
      match Kind.ofUri? uri with
      | none => some (w, .done (.error (.unrecognizedKind uri)))
      | some kind =>
        match uri.filePath? with
        | none => some (w, .done (.error (.notAFile uri)))
        | some path => some (w, .more (.reading kind path))
  | .reading kind path =>
    if w.storageReady then
      match w.storage.read path with
      | .ok text =>
        let (d, r) := w.registry.createIfAbsent uri kind text
        some ({ w with registry := r }, .done (.ok d))
      | .failed failure => some (w, .done (.error (.storage path failure)))
      | .crashed => some (w, .done (.error .crashed))
    else none

inductive Activity where
  /-- The document at a uri, from storage if it is not registered. -/
  | load (uri : Uri) (stage : Load)
  /-- The outline of a document. -/
  | outline (uri : Uri) (stage : Load)
  /-- The diagnostics of a document; `none` before the scans are over. -/
  | diagnostics (uri : Uri) (stage : Option Load)
  /-- The symbols that match a query. After the scans are over: the documents still to look at,
  and what was found in the others. -/
  | search (query : String) (stage : Option (List Nat × List Hit))
  /-- The maps whose diagnostics depend on a profile. -/
  | dependents (uri : Uri)
  /-- Only waits until the scans are over. -/
  | barrier

inductive Answer where
  /-- A document as it is now, and whether it is the registered one. -/
  | document (document : Document) (registered : Bool)
  | outline (symbols : List Symbol)
  | diagnostics (diagnostics : List Diagnostic)
  | hits (hits : List Hit)
  | uris (uris : List Uri)
  | passed

namespace Workspace

/-- The symbols of one document that match a query. A text that cannot be read has none. -/
def searchDocument (w : Workspace) (query : String) (id : Nat) : List Hit × Workspace :=
  match w.registry.document? id with
  | none => ([], w)
  | some d =>
    match w.registry.outline d with
    | (.ok outline, r) => (search d.uri query outline, { w with registry := r })
    | (.error _, r) => ([], { w with registry := r })

/-- The maps that depend on the profile at `uri`: none for a map, and none for a profile that
cannot be read. -/
def dependentsOf (w : Workspace) (uri : Uri) : Except Error (List Uri) × Workspace :=
  match w.registry.get? uri with
  | none => (.error (.notFound uri), w)
  | some d =>
    match d.kind with
    | .map => (.ok [], w)
    | .profile =>
      match w.registry.namespaceKey d with
      | (.ok key, r) =>
        let (maps, r) := r.mapsTargeting key
        (.ok (maps.map (·.uri)), { w with registry := r })
      | (.error (.unreadable _), r) => (.ok [], { w with registry := r })
      | (.error e, r) => (.error e, { w with registry := r })

end Workspace

namespace Activity

/-- Goes on with `next` once a load is done, and ends with its error if it fails. -/
def afterLoad (step : Option (Workspace × Turn Load (Except Error Document)))
    (again : Load → Activity)
    (next : Workspace → Document → Workspace × Except Error Answer) :
    Option (Workspace × Turn Activity (Except Error Answer)) :=
  step.map fun
    | (w, .more stage) => (w, .more (again stage))
    | (w, .done (.error e)) => (w, .done (.error e))
    | (w, .done (.ok d)) => let (w, answer) := next w d; (w, .done answer)

/-- One step of an activity; `none` if it has to wait. -/
def step? (w : Workspace) : Activity → Option (Workspace × Turn Activity (Except Error Answer))
  | .load uri stage =>
    afterLoad (stage.step? w uri) (.load uri) fun w d =>
      (w, .ok (.document d (w.registry.isRegistered d.id)))
  | .outline uri stage =>
    afterLoad (stage.step? w uri) (.outline uri) fun w d =>
      let (result, r) := w.registry.outline d
      ({ w with registry := r },
        match result with
        | .ok symbols => .ok (.outline symbols)
        | .error e => .error (.unreadable e))
  | .diagnostics uri none =>
    if w.scans = 0 then some (w, .more (.diagnostics uri (some .lookup))) else none
  | .diagnostics uri (some stage) =>
    afterLoad (stage.step? w uri) (fun stage => .diagnostics uri (some stage)) fun w d =>
      let (ds, r) := w.registry.diagnose d
      ({ w with registry := r }, ds.map .diagnostics)
  | .search query none =>
    if w.scans = 0 then
      some (w, .more (.search query (some (w.registry.documents.map (·.id), []))))
    else none
  | .search _ (some ([], found)) => some (w, .done (.ok (.hits found)))
  | .search query (some (id :: ids, found)) =>
    let (hits, w) := w.searchDocument query id
    some (w, .more (.search query (some (ids, found ++ hits))))
  | .dependents uri =>
    if w.scans = 0 then
      let (uris, w) := w.dependentsOf uri
      some (w, .done (uris.map .uris))
    else none
  | .barrier => if w.scans = 0 then some (w, .done (.ok .passed)) else none

/-- A bound on the steps that an activity still has, while there are no more than so many
documents. -/
def budget (documents : Nat) : Activity → Nat
  | .load _ _ | .outline _ _ => 2
  | .diagnostics _ _ => 3
  | .search _ none => documents + 2
  | .search _ (some (ids, _)) => ids.length + 1
  | .dependents _ | .barrier => 1

end Activity

end Contracts
