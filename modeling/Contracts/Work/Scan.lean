import Contracts.Work.Activity

/-!
Scans, which load all documents that the storage holds below some roots, and tell of their
progress. Files are loaded in any order, while the scan itself counts those that are through; one
that cannot be loaded is counted and does not stop the scan.
-/

namespace Contracts

/-- What a scan tells of its progress. -/
inductive ScanEvent where
  | begin (title : String)
  | report (message : String) (percentage : Option Nat)
  | finish (message : String)
deriving DecidableEq, Repr

structure ScanReport where
  discovered : Nat
  loaded : Nat
  failed : Nat
deriving DecidableEq, Repr

/-- How far a scan has come. -/
inductive Scan where
  | announcing (roots : List Path)
  /-- The roots still to walk, and the documents found so far. -/
  | walking (roots : List Path) (found : List Uri)
  /-- The counts so far, whether the loads that are not counted yet succeeded, and the loads that
  are not done. -/
  | loading (report : ScanReport) (landed : List Bool) (pending : List (Uri × Load))

namespace Scan

def title : String := "Loading Comlink documents"

/-- The uri of an entry that is a file with the extension of a document. -/
def documentUri? (e : StorageEntry) : Option Uri :=
  if e.isFile ∧ (Kind.ofPath? e.path).isSome then Uri.ofPath? e.path else none

/-- A share in percent, unless it does not fit in 32 bits. -/
def percentage (done total : Nat) : Option Nat :=
  let p := done * 100 / max total 1
  if p ≤ editorLimit then some p else none

def walkedMessage (found : Nat) : String := s!"walked workspace, {found} documents found"

def countMessage (done total : Nat) : String := s!"{done}/{total} documents"

def loadedMessage (r : ScanReport) : String := s!"{r.loaded} of {r.discovered} documents loaded"

def failedMessage (e : Error) : String := s!"bootstrap failed: {e.message}"

/-- The report after one more load, which `succeeded` or not, and the event that tells it. -/
def count (r : ScanReport) (succeeded : Bool) : ScanReport × ScanEvent :=
  let r :=
    if succeeded then { r with loaded := r.loaded + 1 } else { r with failed := r.failed + 1 }
  let done := r.loaded + r.failed
  (r, .report (countMessage done r.discovered) (percentage done r.discovered))

/-- What one step of a scan comes to: the workspace, the events told, and the scan. -/
abbrev Step := Workspace × List ScanEvent × Turn Scan (Except Error ScanReport)

/-- The step of the scan itself. Its end is told to those who wait for it. -/
def step? (w : Workspace) : Scan → Option Step
  | .announcing roots => some (w, [.begin title], .more (.walking roots []))
  | .walking (root :: roots) found =>
    if w.storageReady then
      match w.storage.walk [root] with
      | .ok entries =>
        some (w, [], .more (.walking roots (found ++ entries.filterMap documentUri?)))
      | .failed failure =>
        let e := Error.storage root failure
        some (w.leaveScan, [.finish (failedMessage e)], .done (.error e))
      | .crashed => some (w.leaveScan, [], .done (.error .crashed))
    else none
  | .walking [] found =>
    some (w, [.report (walkedMessage found.length) (some 0)],
      .more (.loading ⟨found.length, 0, 0⟩ [] (found.map fun uri => (uri, .lookup))))
  | .loading report (succeeded :: landed) pending =>
    let (report, event) := count report succeeded
    some (w, [event], .more (.loading report landed pending))
  | .loading report [] [] =>
    some (w.leaveScan, [.finish (loadedMessage report)], .done (.ok report))
  | .loading _ [] (_ :: _) => none

/-- The step in which, of the loads of a scan, the one at `choice` gets on. -/
def loadStep? (choice : Nat) (w : Workspace) : Scan → Option (Workspace × Scan)
  | .loading report landed pending =>
    match pending[choice]? with
    | none => none
    | some (uri, load) =>
      (load.step? w uri).map fun
        | (w, .more load) => (w, .loading report landed (pending.set choice (uri, load)))
        | (w, .done result) =>
          (w, .loading report (landed ++ [result.isOk]) (pending.eraseIdx choice))
  | _ => none

/-- The step in which the first load that can get on does so. -/
def firstLoadStep? (w : Workspace) (s : Scan) : Option (Workspace × Scan) :=
  match s with
  | .loading _ _ pending => (List.range pending.length).findSome? fun i => s.loadStep? i w
  | _ => none

/-- How many documents a walk of the roots finds. -/
def findable (w : Workspace) (roots : List Path) : Nat :=
  roots.foldl (fun n root =>
    match w.storage.walk [root] with
    | .ok entries => n + entries.length
    | _ => n) 0

/-- A bound on the documents that a scan still registers. -/
def reach (w : Workspace) : Scan → Nat
  | .announcing roots => findable w roots
  | .walking roots found => findable w roots + found.length
  | .loading _ _ pending => pending.length

/-- A bound on the steps that a scan and its loads still have. -/
def budget (w : Workspace) (s : Scan) : Nat :=
  match s with
  | .announcing roots => roots.length + 3 * s.reach w + 3
  | .walking roots _ => roots.length + 3 * s.reach w + 2
  | .loading _ landed _ => landed.length + 3 * s.reach w + 1

end Scan

end Contracts
