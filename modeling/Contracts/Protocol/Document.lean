import Contracts.Editor.Written
import Contracts.Protocol.Shape

/-!
The shapes in which editors speak of documents: places and ranges in them, their texts and
versions, and edits.
-/

namespace Contracts.Shape

def position : Shape := .record "Position" [("line", .word), ("character", .word)]

def range : Shape := .record "Range" [("start", position), ("end", position)]

def location : Shape := .record "Location" [("uri", .uri), ("range", range)]

def document : Shape := .record "TextDocumentIdentifier" [("uri", .uri)]

def version : Shape :=
  .record "VersionedTextDocumentIdentifier" [("uri", .uri), ("version", .int)]

/-- A document with its text. -/
def content : Shape :=
  .record "TextDocumentItem"
    [("uri", .uri), ("languageId", .text), ("version", .int), ("text", .text)]

/-- A change to a document; without a range it replaces the whole text. -/
def change : Shape :=
  .record "TextDocumentContentChangeEvent"
    [("range", .option range), ("rangeLength", .option .word), ("text", .text)]

def changes : Shape := .list change

def opening : Shape := .record "DidOpenTextDocumentParams" [("textDocument", content)]

def changing : Shape :=
  .record "DidChangeTextDocumentParams" [("textDocument", version), ("contentChanges", changes)]

/-- The params of a message that has nothing to tell. -/
def nothing : Shape := .record "InitializedParams" []

def closing : Shape := .record "DidCloseTextDocumentParams" [("textDocument", document)]

/-- A replacement of a range. -/
def textEdit : Shape := .record "TextEdit" [("range", range), ("newText", .text)]

def command : Shape :=
  .record "Command"
    [("title", .text), ("command", .text), ("arguments", .option (.list .any))]

/-- An identifier of any kind. -/
def token : Shape := .oneOf "NumberOrString" [.int, .text]

/-- The request that an editor no longer needs. -/
def cancelling : Shape := .record "CancelParams" [("id", token)]

def markup : Shape :=
  .record "MarkupContent" [("kind", .variant ["plaintext", "markdown"]), ("value", .text)]

def related : Shape :=
  .record "DiagnosticRelatedInformation" [("location", location), ("message", .text)]

def diagnostic : Shape :=
  .record "Diagnostic"
    [("range", range), ("severity", .option .int), ("code", .option token),
      ("codeDescription", .option (.record "CodeDescription" [("href", .uri)])),
      ("source", .option .text), ("message", .text),
      ("relatedInformation", .option (.list related)), ("tags", .option (.list .int)),
      ("data", .option .any)]

end Contracts.Shape

namespace Contracts

/-- The edits that a list of changes makes. -/
def readEdits? (changes : Json) : Option (List Edit) :=
  (Shape.changes.read false changes).toOption >>= readList? readEdit?

end Contracts
