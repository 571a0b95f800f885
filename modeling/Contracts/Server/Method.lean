import Contracts.Protocol.Params

/-!
The methods of the protocol between editors and servers: those that this server handles, and those
that it knows and has nothing to say to.
-/

namespace Contracts.Method

/-- Notifications that editors know and this server passes over. -/
def idleNotifications : List String := [
  "textDocument/willSave", "textDocument/didSave", "workspace/didChangeConfiguration",
  "workspace/didChangeWorkspaceFolders", "workspace/didCreateFiles", "workspace/didRenameFiles",
  "workspace/didDeleteFiles", "workspace/didChangeWatchedFiles"]

/-- Whether a method is a notification. -/
def isNotification (method : String) : Bool :=
  ["initialized", "textDocument/didOpen", "textDocument/didChange", "textDocument/didClose",
    "exit"].contains method || idleNotifications.contains method

/-- Whether a method is a request. -/
def isRequest (method : String) : Bool :=
  ["initialize", "shutdown"].contains method || (Shape.ofRequest? method).isSome

/-- Whether a method is one that an editor may send without asking whether it is known. -/
def isOptional (method : String) : Bool := ['$', '/'].isPrefixOf method.toList

end Contracts.Method
