import Contracts.Store.Document
import Contracts.Validation.Verdict

/-!
The registry of documents by uri.

Maps name their profile by its namespace only, so diagnostics of maps depend on other documents.
They are forgotten when a profile that they may depend on comes, goes or changes: maps that a
profile was found for go by the namespace, and maps without one at every such event.
-/

namespace Contracts

/-- The registered documents in the order of their uris, and documents outside the registry that
somebody still holds on to: those that were replaced, removed or never registered. -/
structure Registry where
  documents : List Document
  detached : List Document
  nextId : Nat

namespace Registry

def empty : Registry := ⟨[], [], 0⟩

def get? (r : Registry) (uri : Uri) : Option Document := r.documents.find? (·.uri == uri)

/-- The document of an id, registered or not. -/
def document? (r : Registry) (id : Nat) : Option Document :=
  (r.documents ++ r.detached).find? (·.id == id)

def isRegistered (r : Registry) (id : Nat) : Bool := r.documents.any (·.id == id)

/-- Changes the document of an id. -/
def modify (r : Registry) (id : Nat) (f : Document → Document) : Registry :=
  let change (d : Document) := if d.id = id then f d else d
  { r with documents := r.documents.map change, detached := r.detached.map change }

/-- Puts `d` before the first document with a later uri. -/
def insertSorted (d : Document) : List Document → List Document
  | [] => [d]
  | e :: es => if d.uri.before e.uri then d :: e :: es else e :: insertSorted d es

/-- Forgets the diagnostics of every map whose known namespace is `key`. -/
def invalidateDependents (r : Registry) (key : String) : Registry :=
  { r with
    documents := r.documents.map fun d =>
      if d.kind = .map ∧ d.knownNamespace? = some key then d.forgetDiagnostics else d }

/-- Forgets the diagnostics of every map that had no profile. -/
def invalidateUnresolved (r : Registry) : Registry :=
  { r with
    documents := r.documents.map fun d => if d.kind = .map then d.forgetUnresolved else d }

/-- Forgets the diagnostics of maps that may have been checked against `d`, which has just left
the registry. -/
def forgetProfile (r : Registry) (d : Document) : Registry :=
  if d.kind = .profile then
    match d.knownNamespace? with
    | some key => r.invalidateDependents key
    | none => r
  else r

/-- A new document that is not registered. -/
def detach (r : Registry) (uri : Uri) (kind : Kind) (version : Int) (text : String) :
    Document × Registry :=
  let d := Document.new r.nextId uri kind version text
  (d, { r with detached := r.detached ++ [d], nextId := r.nextId + 1 })

/-- Takes the document at a uri out of the registry. -/
def take (r : Registry) (uri : Uri) : Registry :=
  { r with
    documents := r.documents.filter (·.uri != uri)
    detached := r.detached ++ r.documents.filter (·.uri == uri) }

/-- Registers a new document at `uri`, where none is registered. -/
def add (r : Registry) (uri : Uri) (kind : Kind) (version : Int) (text : String) :
    Document × Registry :=
  let d := Document.new r.nextId uri kind version text
  (d, { r with documents := insertSorted d r.documents, nextId := r.nextId + 1 })

/-- Registers a document in place of the one at its uri, if there is one. -/
def create (r : Registry) (uri : Uri) (kind : Kind) (version : Int) (text : String) :
    Document × Registry :=
  let previous := r.get? uri
  let (d, r) := (r.take uri).add uri kind version text
  let r := previous.elim r r.forgetProfile
  (d, if kind = .profile then r.invalidateUnresolved else r)

/-- The document at `uri`, or a new one with the text that was read for it from storage. -/
def createIfAbsent (r : Registry) (uri : Uri) (kind : Kind) (text : String) :
    Document × Registry :=
  match r.get? uri with
  | some d => (d, r)
  | none =>
    let (d, r) := r.add uri kind 0 text
    (d, if kind = .profile then r.invalidateUnresolved else r)

/-- Edits a registered document. An edited profile may have moved to another namespace, so maps of
the one it had and maps without a profile are to be checked again. -/
def update (r : Registry) (uri : Uri) (edits : List Edit) (version : Int) :
    Except Error Document × Registry :=
  match r.get? uri with
  | none => (.error (.notFound uri), r)
  | some d =>
    match d.update edits version with
    | .error e => (.error e, r)
    | .ok (previous, d) =>
      let r := r.modify d.id fun _ => d
      if d.kind = .profile then
        let r := previous.elim r r.invalidateDependents
        (.ok d, r.invalidateUnresolved)
      else (.ok d, r)

/-- Takes a document out of the registry. -/
def remove (r : Registry) (uri : Uri) : Except Error Document × Registry :=
  match r.get? uri with
  | none => (.error (.notFound uri), r)
  | some d => (.ok d, (r.take uri).forgetProfile d)

/-- Makes the outlines of all documents of a kind. -/
def outlineAll (r : Registry) (kind : Kind) : Registry :=
  { r with documents := r.documents.map fun d => if d.kind = kind then d.outline.2 else d }

/-- The documents of a kind with the namespace `key`. Texts that cannot be read have none. -/
def documentsIn (r : Registry) (kind : Kind) (key : String) : List Document × Registry :=
  let r := r.outlineAll kind
  (r.documents.filter fun d => d.kind = kind ∧ d.knownNamespace? = some key, r)

/-- The document with the first uri. -/
def lowest? (ds : List Document) : Option Document :=
  ds.foldl (fun best d =>
    match best with
    | none => some d
    | some b => if d.uri.before b.uri then some d else some b) none

/-- The profile of a namespace; of several the one with the first uri. -/
def findProfile (r : Registry) (key : String) : Option Document × Registry :=
  let (found, r) := r.documentsIn .profile key
  (lowest? found, r)

def mapsTargeting (r : Registry) (key : String) : List Document × Registry :=
  r.documentsIn .map key

/-- The contract of the profile of a namespace. -/
def contract? (r : Registry) (key : String) : Option Contract × Registry :=
  match r.findProfile key with
  | (none, r) => (none, r)
  | (some d, r) =>
    match d.stage.tree? with
    | some (.ok (.profile p)) => (some (.ofProfile p), r)
    | _ => (none, r)

/-- Reads the tree of a document. -/
def tree (r : Registry) (d : Document) : Except SyntaxError Tree × Registry :=
  let (tree, d) := d.tree
  (tree, r.modify d.id fun _ => d)

def outline (r : Registry) (d : Document) : Except SyntaxError (List Symbol) × Registry :=
  let (outline, d) := d.outline
  (outline, r.modify d.id fun _ => d)

def namespaceKey (r : Registry) (d : Document) : Except Error String × Registry :=
  let (key, d) := d.namespaceKey
  (key, r.modify d.id fun _ => d)

/-- Works out the diagnostics of a document whose tree could be read and whose namespace is
`key`. Those of a profile are none, but maps of its namespace are to be checked again. A map
without a profile has none either. The answer tells whether a profile was missing. -/
def examine (r : Registry) (tree : Tree) (key : String) : (List Diagnostic × Bool) × Registry :=
  match tree with
  | .profile _ => (([], false), r.invalidateDependents key)
  | .map m =>
    match r.contract? key with
    | (some c, r) => (((m.check c).diagnostics, false), r)
    | (none, r) => (([], true), r)

/-- The diagnostics of a document, worked out now if they are not known. -/
def diagnose (r : Registry) (d : Document) : Except Error (List Diagnostic) × Registry :=
  match d.stage.diagnostics? with
  | some ds => (.ok ds, r)
  | none =>
    let d := { d with checks := d.checks + 1 }.outline.2
    let r := r.modify d.id fun _ => d
    match d.stage with
    | .outlined (.ok tree) (.ok outline) =>
      match outlineNamespace? outline with
      | none => (.error .malformedOutline, r)
      | some key =>
        let ((ds, unresolved), r) := r.examine tree key
        (.ok ds, r.modify d.id (·.keepDiagnostics ds unresolved))
    | .outlined (.error e) _ =>
      let ds := [e.diagnostic d.text.toList]
      (.ok ds, r.modify d.id (·.keepDiagnostics ds false))
    | _ => (.error .malformedOutline, r)

end Registry

end Contracts
