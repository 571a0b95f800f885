import Contracts.Server.Message
import Contracts.Server.Settings
import Contracts.Work.Pool

/-!
What the server is busy with: messages it has not finished with, and scans.

The handling of a message is a list of chores, done one after the other. Each chore asks the
workspace something and sends the answer on. While one message waits, others are handled.

The editor reads what it is sent when it gets the turn. A task that sends a message while another
one is unread waits for the editor, which lets one such task go on for each message that it reads.
-/

namespace Contracts

/-- How far the exchange with an editor has come. -/
inductive Phase where
  | uninitialized
  | initialized
  | shutDown
  | exited
deriving DecidableEq, Repr

/-- The state that all tasks of a server share. -/
structure Desk where
  phase : Phase
  settings : Settings
  roots : List Path
  /-- Whether the editor shows progress. -/
  showsProgress : Bool
  workspace : Workspace
  /-- The documents that are open in the editor. -/
  opened : List Uri
  nextRequest : Nat
  /-- What has been sent, oldest first. -/
  sent : List Message
  /-- How many messages the editor has not read yet. -/
  unread : Nat
  /-- How many times a task had to wait for the editor. -/
  held : Nat
  /-- How many of those times are over. -/
  released : Nat
  /-- The ids of requests whose handling crashed; they are never answered. -/
  lost : List Json

namespace Desk

def ofStorage (storage : Storage) : Desk :=
  ⟨.uninitialized, .usual, [], false, .ofStorage storage, [], 0, [], 0, 0, 0, []⟩

/-- Whether the editor takes messages that it did not ask for. -/
def canSend (d : Desk) : Bool := d.phase = .initialized ∨ d.phase = .shutDown

def send (d : Desk) (m : Message) : Desk :=
  if d.canSend then { d with sent := d.sent ++ [m], unread := d.unread + 1 } else d

/-- The editor reads one message; `none` if it has read all. -/
def read? (d : Desk) : Option Desk :=
  if d.unread = 0 then none
  else some { d with unread := d.unread - 1, released := min d.held (d.released + 1) }

def isOpen (d : Desk) (uri : Uri) : Bool := d.opened.contains uri

/-- Shows diagnostics of a document, with the version of one that is open in the editor. -/
def publish (d : Desk) (uri : Uri) (ds : List Diagnostic) : Desk :=
  let version :=
    if d.isOpen uri then (d.workspace.registry.get? uri).map (·.version) else none
  d.send (.publish uri (limitDiagnostics d.settings.maxProblems ds) version)

end Desk

/-- A part of the handling of a message. -/
inductive Chore where
  /-- Shows the diagnostics of a document. -/
  | publish (uri : Uri)
  /-- Shows them if the document is open. -/
  | publishOpen (uri : Uri)
  /-- Shows those of all open maps that depend on the profile at a uri. -/
  | publishDependents (uri : Uri)
deriving DecidableEq, Repr

/-- Where the events of a scan go. -/
inductive ProgressSink where
  | silent
  /-- The editor is to be asked when the scan begins. -/
  | unasked
  /-- The editor has been asked under this number, and the title waits for its answer. -/
  | asking (id : Nat) (title : String)
  /-- The editor agreed, and is to be told the title. -/
  | agreed (title : String)
  | granted
  | refused
deriving DecidableEq, Repr

/-- Tells one event of a scan. Events are dropped unless the editor agreed to show them. -/
def ProgressSink.tell (d : Desk) (sink : ProgressSink) (event : ScanEvent) : Desk × ProgressSink :=
  match sink, event with
  | .unasked, .begin title =>
    if d.canSend then
      ({ d.send (.createProgress d.nextRequest) with nextRequest := d.nextRequest + 1 },
        .asking d.nextRequest title)
    else (d, .refused)
  | .granted, event => (d.send (.progress event), .granted)
  | sink, _ => (d, sink)

def ProgressSink.tellAll (d : Desk) (sink : ProgressSink) (events : List ScanEvent) :
    Desk × ProgressSink :=
  events.foldl (fun (d, sink) event => sink.tell d event) (d, sink)

/-- What comes of the handling of a message. -/
inductive Handled where
  | silent
  | response (json : Json)
  | crashed

inductive Task where
  /-- The chores still to do. -/
  | chores (rest : List Chore)
  /-- The diagnostics of a document are being worked out to be shown. -/
  | publishing (uri : Uri) (activity : Activity) (rest : List Chore)
  /-- The maps that depend on a profile are being looked for. -/
  | gathering (activity : Activity) (rest : List Chore)
  /-- The outline of a document is being made for a request. -/
  | outline (id : Json) (activity : Activity)
  /-- Symbols are being searched for a request. -/
  | search (id : Json) (activity : Activity)
  | scan (scan : Scan) (sink : ProgressSink)
  /-- A task waits until the editor has let go so many. -/
  | held (ticket : Nat) (task : Task)
  /-- The editor reads what it is sent. -/
  | reader

namespace Task

/-- What is to be done about a document that has changed. -/
def showing (uri : Uri) : Task := .chores [.publish uri, .publishDependents uri]

/-- One step of an activity within a task: `again` wraps what is left of it, and `next` takes its
answer. -/
def within (d : Desk) (activity : Activity) (again : Activity → Task)
    (next : Desk → Except Error Answer → Desk × Turn Task Handled) :
    Option (Desk × Turn Task Handled) :=
  (activity.step? d.workspace).map fun
    | (w, .more activity) => ({ d with workspace := w }, .more (again activity))
    | (w, .done answer) => next { d with workspace := w } answer

/-- One step of what a task does itself; `none` if it has to wait. -/
def leadStep? (d : Desk) : Task → Option (Desk × Turn Task Handled)
  | .chores [] => some (d, .done .silent)
  | .chores (.publish uri :: rest) =>
    some (d, .more (.publishing uri (.diagnostics uri none) rest))
  | .chores (.publishOpen uri :: rest) =>
    some (d, .more (.chores (if d.isOpen uri then .publish uri :: rest else rest)))
  | .chores (.publishDependents uri :: rest) =>
    let isProfile := (d.workspace.registry.get? uri).any (·.kind = .profile)
    some (d, .more (if isProfile then .gathering (.dependents uri) rest else .chores rest))
  | .publishing uri activity rest =>
    within d activity (.publishing uri · rest) fun d answer =>
      match answer with
      | .ok (.diagnostics ds) => (d.publish uri ds, .more (.chores rest))
      | .error .crashed => (d, .done .crashed)
      | _ => (d, .more (.chores rest))
  | .gathering activity rest =>
    within d activity (.gathering · rest) fun d answer =>
      match answer with
      | .ok (.uris uris) => (d, .more (.chores (uris.map .publishOpen ++ rest)))
      | _ => (d, .more (.chores rest))
  | .outline id activity =>
    within d activity (.outline id) fun d answer =>
      match answer with
      | .ok (.outline symbols) =>
        (d, .done (.response (responseJson id (.ok (.list (symbolsJson symbols))))))
      | .error (.unreadable _) => (d, .done (.response (responseJson id (.ok .null))))
      | .error .crashed => ({ d with lost := id :: d.lost }, .done .crashed)
      | _ => (d, .done (.response (responseJson id (.error .internalError))))
  | .search id activity =>
    within d activity (.search id) fun d answer =>
      match answer with
      | .ok (.hits hits) =>
        (d, .done (.response (responseJson id (.ok (.list (hits.map Hit.json))))))
      | _ => (d, .done (.response (responseJson id (.error .internalError))))
  | .scan _ (.asking _ _) => none
  | .scan s (.agreed title) => some (d.send (.progress (.begin title)), .more (.scan s .granted))
  | .scan s sink =>
    (s.step? d.workspace).map fun (w, events, turn) =>
      let (d, sink) := sink.tellAll { d with workspace := w } events
      (d, turn.map (.scan · sink) fun _ => .silent)
  | .held ticket task => if ticket < d.released then some (d, .more task) else none
  | .reader => d.read?.map (·, .more .reader)

/-- What is left of a task after a step. If the step sent a message and another one was unread,
the task waits for the editor. -/
def holdBack (before : Desk) : Desk × Turn Task Handled → Desk × Turn Task Handled
  | (d, .more task) =>
    if before.unread < d.unread ∧ 2 ≤ d.unread then
      ({ d with held := d.held + 1 }, .more (.held d.held task))
    else (d, .more task)
  | (d, .done handled) => (d, .done handled)

/-- One step of a strand of a task; `none` if it has to wait. -/
def step? (d : Desk) : Strand → Task → Option (Desk × Turn Task Handled)
  | .lead, task => (task.leadStep? d).map (holdBack d)
  | .side, .scan s sink =>
    (s.firstLoadStep? d.workspace).map fun (w, s) =>
      ({ d with workspace := w }, .more (.scan s sink))
  | .side, _ => none

/-- A bound on the documents that a task still registers. -/
def reach (d : Desk) : Task → Nat
  | .scan s _ => s.reach d.workspace
  | .held _ task => task.reach d
  | .reader => 0
  | _ => 1

/-- A bound on the steps that a task still has, while there are no more than so many documents:
five for each chore and for each document that may turn out to depend on a profile. -/
def budget (d : Desk) (documents : Nat) : Task → Nat
  | .chores rest | .publishing _ _ rest | .gathering _ rest => 5 * (rest.length + documents) + 10
  | .outline _ activity | .search _ activity => activity.budget documents
  | .scan s _ => s.budget d.workspace + 2
  | .held _ task => task.budget d documents
  | .reader => d.unread

/-- To each step that sends a message come one of the editor and one of the task that it lets
go. -/
def rules : Pool.Rules Desk Task Handled where
  step? := step?
  budget d tasks :=
    let documents := tasks.foldl (· + ·.reach d) d.workspace.registry.documents.length
    3 * tasks.foldl (· + ·.budget d documents) 0

end Task

end Contracts
