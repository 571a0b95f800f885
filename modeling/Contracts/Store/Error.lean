import Contracts.Source.Failure
import Contracts.Store.Storage
import Contracts.Uri.Basic

/-!
Why an operation on documents fails. A text that cannot be read is no failure of its own: it
becomes one only where a caller asks for something that needs the tree.
-/

namespace Contracts

inductive Error where
  | notFound (uri : Uri)
  | unrecognizedKind (uri : Uri)
  | versionOutOfOrder (uri : Uri) (current requested : Int)
  | notAFile (uri : Uri)
  | unreadable (error : SyntaxError)
  | malformedOutline
  | storage (path : Path) (failure : StorageFailure)
  /-- The storage gave way under the operation. -/
  | crashed
deriving DecidableEq, Repr

def Error.message : Error → String
  | .notFound uri => s!"document not registered: {uri.text}"
  | .unrecognizedKind uri => s!"not a profile or map document: {uri.text}"
  | .versionOutOfOrder uri current requested =>
    s!"document {uri.text} is at version {current}, refusing update to version {requested}"
  | .notAFile uri => s!"not a file uri: {uri.text}"
  | .unreadable error => error.text
  | .malformedOutline => "invariant violated: document outline has no namespace symbol"
  | .storage path failure => s!"failed to read {path.text}: {failure.text}"
  | .crashed => "background task failed"

end Contracts
