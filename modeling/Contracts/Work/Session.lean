import Contracts.Work.Pool
import Contracts.Work.Scan

/-!
Sessions: one workspace with activities and scans under way in it, some of them under names by
which they are asked for later, and documents that a caller holds on to.
-/

namespace Contracts

/-- What a session works at. -/
inductive Job where
  | activity (activity : Activity)
  /-- A scan and what it has told so far. -/
  | scan (scan : Scan) (told : List ScanEvent)
  /-- A file is to be read as it is in storage. -/
  | read (path : Path)
  /-- The storage is to be walked. -/
  | walk (roots : List Path)

inductive Outcome where
  | answer (answer : Except Error Answer)
  | file (text : Access String)
  | entries (entries : Access (List StorageEntry))
  | scanned (report : Except Error ScanReport) (told : List ScanEvent)

namespace Job

def step? (w : Workspace) : Strand → Job → Option (Workspace × Turn Job Outcome)
  | .lead, .activity a => (a.step? w).map fun (w, turn) => (w, turn.map .activity .answer)
  | .lead, .scan s told =>
    (s.step? w).map fun (w, events, turn) =>
      let told := told ++ events
      (w, turn.map (.scan · told) (.scanned · told))
  | .lead, .read path =>
    if w.storageReady then some (w, .done (.file (w.storage.read path))) else none
  | .lead, .walk roots =>
    if w.storageReady then some (w, .done (.entries (w.storage.walk roots))) else none
  | .side, .scan s told => (s.firstLoadStep? w).map fun (w, s) => (w, .more (.scan s told))
  | .side, _ => none

/-- A bound on the documents that a job still registers. -/
def reach (w : Workspace) : Job → Nat
  | .activity _ => 1
  | .scan s _ => s.reach w
  | .read _ | .walk _ => 0

/-- A bound on the steps that a job still has, while there are no more than so many documents. -/
def budget (w : Workspace) (documents : Nat) : Job → Nat
  | .activity a => a.budget documents
  | .scan s _ => s.budget w
  | .read _ | .walk _ => 1

def rules : Pool.Rules Workspace Job Outcome where
  step? := step?
  budget w jobs :=
    let documents := jobs.foldl (· + ·.reach w) w.registry.documents.length
    jobs.foldl (· + ·.budget w documents) 0

/-- Whether a job goes on when nobody asks for it any more. -/
def isBackground : Job → Bool
  | .scan _ _ => true
  | _ => false

end Job

structure Session where
  workspace : Workspace
  jobs : List (Option String × Turn Job Outcome)
  /-- Scans that the caller only pretends to make. -/
  guards : Nat
  held : List (String × Nat)

namespace Session

def ofWorkspace (w : Workspace) : Session := ⟨w, [], 0, []⟩

/-- Runs all jobs as far as they get. Those without a name are gone when they are done. -/
def settle (s : Session) : Session :=
  let (w, jobs) := Pool.settle Job.rules s.workspace s.jobs
  let isOver (slot : Option String × Turn Job Outcome) : Bool :=
    match slot with
    | (none, .done _) => true
    | _ => false
  { s with workspace := w, jobs := jobs.filter (!isOver ·) }

/-- Goes on with another workspace. -/
def withWorkspace (s : Session) (w : Workspace) : Session := { s with workspace := w }.settle

/-- Starts a job and answers with its outcome if it gets that far. A job that waits stays under
its name, in place of one that had the name before; without a name it stays only if it is a
background job. -/
def start (s : Session) (name : Option String) (job : Job) : Option Outcome × Session :=
  let w := if job.isBackground then s.workspace.enterScan else s.workspace
  let (w, jobs) := Pool.settle Job.rules w (s.jobs ++ [(name, .more job)])
  let earlier := jobs.dropLast
  match jobs.getLast? with
  | some (_, .more job) =>
    let freed := earlier.map fun (key, turn) => (if key = name then none else key, turn)
    let kept := if name.isSome ∨ job.isBackground then [(name, .more job)] else []
    (none, { s with workspace := w, jobs := freed ++ kept }.settle)
  | some (_, .done outcome) => (some outcome, { s with workspace := w, jobs := earlier }.settle)
  | none => (none, s)

/-- Asks for a job by its name: `none` if there is none, `some none` if it still waits. -/
def poll (s : Session) (name : String) : Option (Option Outcome) × Session :=
  match s.jobs.find? (·.1 == some name) with
  | none => (none, s)
  | some (_, .more _) => (some none, s)
  | some (_, .done outcome) =>
    (some (some outcome), { s with jobs := s.jobs.filter (·.1 != some name) })

def setStorageReady (s : Session) (ready : Bool) : Session :=
  s.withWorkspace { s.workspace with storageReady := ready }

/-- Makes those who wait for scans wait for one more. -/
def enter (s : Session) : Session :=
  { s with workspace := s.workspace.enterScan, guards := s.guards + 1 }

/-- Takes back one call of `enter`, and tells whether there was one. -/
def leave (s : Session) : Bool × Session :=
  if s.guards = 0 then (false, s)
  else (true, { s with guards := s.guards - 1 }.withWorkspace s.workspace.leaveScan)

/-- Remembers a document under a name. -/
def hold (s : Session) (name : String) (d : Document) : Session :=
  { s with held := (name, d.id) :: s.held }

/-- The document that is held under a name. -/
def held? (s : Session) (name : String) : Option Document :=
  (s.held.find? (·.1 == name)).bind fun (_, id) => s.workspace.registry.document? id

def withRegistry (s : Session) (r : Registry) : Session :=
  s.withWorkspace { s.workspace with registry := r }

end Session

end Contracts
