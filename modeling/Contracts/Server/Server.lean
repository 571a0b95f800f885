import Contracts.Protocol.Capabilities
import Contracts.Server.Method
import Contracts.Server.Task

/-!
The language server: it takes the messages of an editor and answers them in its own time.

Messages are numbered by the caller. A call hands one in; what has been finished since, and what
has been sent, is collected afterwards.
-/

namespace Contracts

/-- A message of an editor. A request has an id, a notification none. -/
structure Call where
  method : String
  id : Option Json
  params : Option Json

/-- A server with its tasks. Those that handle a message have its number; scans and the reader
have none. -/
structure Server where
  desk : Desk
  tasks : List (Option Nat × Turn Task Handled)

namespace Server

def ofStorage (storage : Storage) : Server := ⟨.ofStorage storage, [(none, .more .reader)]⟩

/-- Runs all tasks as far as they get. -/
def settle (s : Server) : Server :=
  let (desk, tasks) := Pool.settle Task.rules s.desk s.tasks
  ⟨desk, tasks⟩

/-- What the server can do, as it tells at the start. -/
def abilities : Json :=
  .object
    [("capabilities", .object
        [("textDocumentSync", .nat 2), ("documentSymbolProvider", .bool true),
          ("workspaceSymbolProvider", .bool true)]),
      ("serverInfo", .object [("name", .text "comlink-lsp"), ("version", .text "0.1.0")])]

def readUri? (j : Json) : Option Uri := readText? j >>= Uri.ofText?

/-- A version: a whole number of 32 bits with a sign. -/
def readVersion? : Json → Option Int
  | .int n => if -2147483648 ≤ n ∧ n ≤ 2147483647 then some n else none
  | _ => none

def readFolder? (j : Json) : Option Uri := j.field? "uri" >>= readUri?

/-- What an editor tells at the start: its folders, its options and whether it shows progress. -/
structure Greeting where
  folders : List Uri
  options : Option Json
  showsProgress : Bool

/-- Reads a greeting that has its shape. -/
def Greeting.ofParams? (params : Json) : Option Greeting := do
  let folders ← readOptional? (readList? readFolder?) (params.field? "workspaceFolders")
  let root ← readOptional? readUri? (params.field? "rootUri")
  let window := params.field? "capabilities" >>= (·.field? "window")
  let progress := window >>= (·.field? "workDoneProgress") >>= Settings.readBool?
  let uris :=
    match folders with
    | some (folder :: rest) => folder :: rest
    | _ => root.toList
  pure ⟨uris, params.field? "initializationOptions", progress.getD false⟩

/-- Reads the params of a message by their shape. -/
def readParams (shape : Shape) : Option Json → Except RequestError Json
  | none => .error .noParams
  | some params => (shape.read false params).mapError .badParams

/-- The desk after a greeting. Only local folders can be scanned. -/
def greet (d : Desk) (g : Greeting) : Desk :=
  let settings := Settings.ofOptions g.options
  { d with
    phase := .initialized
    settings := settings
    roots := g.folders.filterMap Uri.filePath? ++ settings.extraRoots
    showsProgress := g.showsProgress }

/-- Adds a task under a number, or one that nobody waits for. -/
def add (s : Server) (number : Option Nat) (turn : Turn Task Handled) : Server :=
  { s with tasks := s.tasks ++ [(number, turn)] }

def finish (s : Server) (number : Nat) (h : Handled) : Server := s.add (some number) (.done h)

/-- Scans the folders of the workspace, if the settings ask for it and there are any. -/
def startScan (s : Server) : Server :=
  if s.desk.settings.bootstrap ∧ s.desk.roots ≠ [] then
    let sink := if s.desk.showsProgress then ProgressSink.unasked else .silent
    let desk := { s.desk with workspace := s.desk.workspace.enterScan }
    { s with desk := desk }.add none (.more (.scan (.announcing desk.roots) sink))
  else s

/-- A document was opened in the editor. -/
def didOpen (s : Server) (number : Nat) (params : Json) : Server :=
  let item := (params.field? "textDocument").getD .null
  let opened? := do
    let uri ← item.field? "uri" >>= readUri?
    let language ← item.field? "languageId" >>= readText?
    let version ← item.field? "version" >>= readVersion?
    let text ← item.field? "text" >>= readText?
    let (_, w) ← (s.desk.workspace.openDocument uri language version text).accepted.toOption
    pure (uri, w)
  match opened? with
  | none => s.finish number .silent
  | some (uri, w) =>
    let desk := { s.desk with workspace := w, opened := s.desk.opened.insert uri }
    { s with desk := desk }.add (some number) (.more (.showing uri))

/-- A document was edited. -/
def didChange (s : Server) (number : Nat) (params : Json) : Server :=
  let item := (params.field? "textDocument").getD .null
  let changed? := do
    let uri ← item.field? "uri" >>= readUri?
    let version ← item.field? "version" >>= readVersion?
    let edits ← params.field? "contentChanges" >>= readEdits?
    let (_, w) ← (s.desk.workspace.changeDocument uri edits version).accepted.toOption
    pure (uri, w)
  match changed? with
  | none => s.finish number .silent
  | some (uri, w) =>
    let desk := { s.desk with workspace := w }
    { s with desk := desk }.add (some number) (.more (.showing uri))

/-- A document was closed. Its diagnostics disappear, whether it was registered or not. -/
def didClose (s : Server) (number : Nat) (params : Json) : Server :=
  match (params.field? "textDocument").bind (·.field? "uri") >>= readUri? with
  | none => s.finish number .silent
  | some uri =>
    let (_, w) := s.desk.workspace.closeDocument uri
    let desk := { s.desk with workspace := w, opened := s.desk.opened.erase uri }
    { s with desk := desk.send (.publish uri [] none) }.finish number .silent

/-- A request that only an initialized server takes, with params that have their shape. -/
def answerRequest (s : Server) (number : Nat) (id : Json) (method : String) (params : Json) :
    Server :=
  let uri? := params.field? "textDocument" >>= (·.field? "uri") >>= readUri?
  let query? := params.field? "query" >>= readText?
  match method, uri?, query? with
  | "textDocument/documentSymbol", some uri, _ =>
    s.add (some number) (.more (.outline id (.outline uri .lookup)))
  | "workspace/symbol", _, some query =>
    s.add (some number) (.more (.search id (.search query none)))
  | _, _, _ => s.finish number (.response (responseJson id (.error (.methodNotFound none))))

/-- A request that only an initialized server takes. -/
def request (s : Server) (number : Nat) (id : Json) (method : String) (params : Option Json) :
    Server :=
  let shape := (Shape.ofRequest? method).getD .any
  match readParams shape params with
  | .ok params => s.answerRequest number id method params
  | .error e => s.finish number (.response (responseJson id (.error e)))

/-- A notification that only an initialized server takes. One whose params have the wrong shape is
passed over. -/
def notify (s : Server) (number : Nat) (method : String) (params : Option Json) : Server :=
  let take (shape : Shape) (act : Json → Server) : Server :=
    match readParams shape params with
    | .ok params => act params
    | .error _ => s.finish number .silent
  match method with
  | "initialized" => take .nothing fun _ => s.startScan.finish number .silent
  | "textDocument/didOpen" => take .opening (s.didOpen number)
  | "textDocument/didChange" => take .changing (s.didChange number)
  | "textDocument/didClose" => take .closing (s.didClose number)
  | _ => s.finish number .silent

/-- The id of a request that a task works at. -/
def requestId? (slot : Option Nat × Turn Task Handled) : Option Json :=
  match slot with
  | (_, .more (.outline id _)) | (_, .more (.search id _)) => some id
  | _ => none

/-- Whether a request with this id is not answered yet. No two such requests share an id. -/
def isWaitedFor (s : Server) (id : Json) : Bool :=
  s.desk.lost.contains id || s.tasks.any (requestId? · == some id)

/-- Gives up the requests whose ids `isMeant` names, and tells so. -/
def cancel (isMeant : Json → Bool) (s : Server) : Server :=
  let cancel (slot : Option Nat × Turn Task Handled) : Option Nat × Turn Task Handled :=
    match requestId? slot with
    | some id =>
      if isMeant id then (slot.1, .done (.response (responseJson id (.error .cancelled)))) else slot
    | none => slot
  { s with
    desk := { s.desk with lost := s.desk.lost.filter (!isMeant ·) }
    tasks := s.tasks.map cancel }

/-- Ends the exchange. Requests that still wait are told so. -/
def exit (s : Server) (number : Nat) : Server :=
  let s := s.cancel fun _ => true
  { s with desk := { s.desk with phase := .exited } }.finish number .silent

/-- Gives up the request that the params name. -/
def cancelRequest (s : Server) (number : Nat) (params : Option Json) : Server :=
  let id? := (readParams .cancelling params).toOption.bind (·.field? "id")
  (s.cancel fun id => some id == id?).finish number .silent

/-- Takes a message. Requests come with an id and notifications without; a request without one is
not carried out, and a notification with one is refused. -/
def dispatch (s : Server) (number : Nat) (call : Call) : Server :=
  let reply (result : Except RequestError Json) : Handled :=
    match call.id with
    | none => .silent
    | some id => .response (responseJson id result)
  if call.method = "exit" then s.exit number
  else if call.method = "$/cancelRequest" then
    match call.id with
    | none => s.cancelRequest number call.params
    | some _ => s.finish number (reply (.error .invalidRequest))
  else if call.method = "initialize" then
    match s.desk.phase, call.id, call.params with
    | .uninitialized, none, _ => s.finish number .silent
    | .uninitialized, some _, params =>
      match readParams .greeting params with
      | .ok params =>
        let desk := ((Greeting.ofParams? params).map (greet s.desk)).getD s.desk
        { s with desk }.finish number (reply (.ok abilities))
      | .error e => s.finish number (reply (.error e))
    | _, _, _ => s.finish number (reply (.error .invalidRequest))
  else if ¬ (Method.isNotification call.method ∨ Method.isRequest call.method) then
    if Method.isOptional call.method then s.finish number .silent
    else s.finish number (reply (.error (.methodNotFound (some call.method))))
  else
    match s.desk.phase with
    | .uninitialized => s.finish number (reply (.error .notInitialized))
    | .initialized =>
      let isShutdown := call.method == "shutdown"
      let s := if isShutdown then { s with desk := { s.desk with phase := .shutDown } } else s
      match call.id with
      | some id =>
        if s.isWaitedFor id ∨ Method.isNotification call.method then
          s.finish number (reply (.error .invalidRequest))
        else if isShutdown then
          s.finish number (reply (call.params.elim (.ok .null) fun params =>
            .error (.surplusParams params)))
        else s.request number id call.method call.params
      | none =>
        if Method.isNotification call.method then s.notify number call.method call.params
        else s.finish number .silent
    | _ => s.finish number (reply (.error .invalidRequest))

/-- Takes a message and runs everything as far as it gets. -/
def receive (s : Server) (number : Nat) (call : Call) : Server := (s.dispatch number call).settle

/-- A slot when the editor has answered whether it shows progress. -/
def resume (accepted : Bool) (slot : Option Nat × Turn Task Handled) :
    Option Nat × Turn Task Handled :=
  match slot with
  | (key, .more (.scan scan (.asking _ title))) =>
    (key, .more (.scan scan (if accepted then .agreed title else .refused)))
  | slot => slot

/-- Takes the editor's answer to all requests that it got: it shows progress, or it does not. When
the exchange is over, answers come to nothing. -/
def answer (s : Server) (accepted : Bool) : Server :=
  if s.desk.phase = .exited then s else { s with tasks := s.tasks.map (resume accepted) }.settle

def setStorageReady (s : Server) (ready : Bool) : Server :=
  { s with
    desk :=
      { s.desk with workspace := { s.desk.workspace with storageReady := ready } } }.settle

/-- What has been finished, with the numbers of the messages in order, and the messages sent, both
of which are then forgotten. -/
def collect (s : Server) : List (Nat × Handled) × List Message × Server :=
  let finished := s.tasks.filterMap fun slot =>
    match slot with
    | (some number, .done h) => some (number, h)
    | _ => none
  let isOver (slot : Option Nat × Turn Task Handled) : Bool :=
    match slot with
    | (_, .done _) => true
    | _ => false
  (finished.mergeSort fun a b => a.1 ≤ b.1, s.desk.sent,
    ⟨{ s.desk with sent := [] }, s.tasks.filter (!isOver ·)⟩)

/-- The numbers of the messages that are not finished. -/
def waiting (s : Server) : List Nat :=
  s.tasks.filterMap fun slot =>
    match slot with
    | (key, .more _) => key
    | _ => none

end Server

end Contracts
