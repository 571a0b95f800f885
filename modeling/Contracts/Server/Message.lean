import Contracts.Editor.Written
import Contracts.Protocol.Mismatch
import Contracts.Work.Scan

/-!
Messages between the server and an editor, and what goes wrong with requests.
-/

namespace Contracts

inductive RequestError where
  | notInitialized
  | invalidRequest
  | methodNotFound (method : Option String)
  | invalidParams (reason : String)
  | internalError
  | cancelled
deriving DecidableEq, Repr

namespace RequestError

def code : RequestError → Int
  | .notInitialized => -32002
  | .invalidRequest => -32600
  | .methodNotFound _ => -32601
  | .invalidParams _ => -32602
  | .internalError => -32603
  | .cancelled => -32800

def message : RequestError → String
  | .notInitialized => "Server not initialized"
  | .invalidRequest => "Invalid request"
  | .methodNotFound _ => "Method not found"
  | .invalidParams reason => reason
  | .internalError => "Internal error"
  | .cancelled => "Canceled"

def json (e : RequestError) : Json :=
  let data :=
    match e with
    | .methodNotFound method => method.map Json.text
    | _ => none
  .object
    ([("code", .int e.code), ("message", .text e.message)] ++ optionalField "data" data)

/-- The params are missing where there have to be some. -/
def noParams : RequestError := .invalidParams "Missing params field"

/-- There are params where there must be none. -/
def surplusParams (params : Json) : RequestError :=
  .invalidParams ("Unexpected params: " ++ params.compact)

/-- The params do not have the shape that the method asks for. -/
def badParams (m : Mismatch) : RequestError := .invalidParams m.message

end RequestError

/-- The response to a request. -/
def responseJson (id : Json) : Except RequestError Json → Json
  | .ok result => .object [("jsonrpc", .text "2.0"), ("result", result), ("id", id)]
  | .error e => .object [("jsonrpc", .text "2.0"), ("error", e.json), ("id", id)]

/-- What the server sends of its own accord. -/
inductive Message where
  | publish (uri : Uri) (diagnostics : List Diagnostic) (version : Option Int)
  /-- Asks the editor to show the progress of a scan. -/
  | createProgress (id : Nat)
  | progress (event : ScanEvent)
deriving DecidableEq, Repr

/-- The name under which editors know the progress of a scan. -/
def progressToken : Json := .text "comlink/bootstrap"

/-- The diagnostics of a document, as an editor is sent them. -/
def publishJson (uri : Uri) (ds : List Diagnostic) (version : Option Int) : Json :=
  .object
    ([("uri", .text uri.text), ("diagnostics", .list (ds.map Diagnostic.json))] ++
      optionalField "version" (version.map .int))

def ScanEvent.json : ScanEvent → Json
  | .begin title =>
    .object
      [("kind", .text "begin"), ("title", .text title), ("cancellable", .bool false),
        ("percentage", .nat 0)]
  | .report message percentage =>
    .object
      ([("kind", .text "report"), ("cancellable", .bool false), ("message", .text message)] ++
        optionalField "percentage" (percentage.map .nat))
  | .finish message => .object [("kind", .text "end"), ("message", .text message)]

def Message.json : Message → Json
  | .publish uri ds version =>
    .object
      [("jsonrpc", .text "2.0"), ("method", .text "textDocument/publishDiagnostics"),
        ("params", publishJson uri ds version)]
  | .createProgress id =>
    .object
      [("jsonrpc", .text "2.0"), ("method", .text "window/workDoneProgress/create"),
        ("params", .object [("token", progressToken)]), ("id", .nat id)]
  | .progress event =>
    .object
      [("jsonrpc", .text "2.0"), ("method", .text "$/progress"),
        ("params", .object [("token", progressToken), ("value", event.json)])]

end Contracts
