import Contracts.Json
import Contracts.Text.Quoted
import Contracts.Uri.Error

/-!
Why a JSON value does not have the shape that is asked for.
-/

namespace Contracts

/-- What a value is, as a message calls it. -/
def Json.description : Json → String
  | .null => "null"
  | .bool b => s!"boolean `{b}`"
  | .int n => s!"integer `{n}`"
  | .real x => s!"floating point `{realText x}`"
  | .text s => "string " ++ quoteShown s
  | .list _ => "sequence"
  | .object _ => "map"

inductive Mismatch where
  | wrongType (found : Json) (expected : String)
  | wrongValue (found : Json) (expected : String)
  | wrongLength (length : Nat) (expected : String)
  | missing (field : String)
  | unknownVariant (found : String) (variants : List String)
  /-- None of the shapes that go under this name fits. -/
  | noneFits (name : String)
  | badUri (error : Uri.Error) (text : String)
deriving Repr

namespace Mismatch

/-- Names in backquotes, as a choice. -/
def choice (names : List String) : String :=
  match names.map fun name => s!"`{name}`" with
  | [a] => a
  | [a, b] => a ++ " or " ++ b
  | names => "one of " ++ ", ".intercalate names

def message : Mismatch → String
  | wrongType found expected => s!"invalid type: {found.description}, expected {expected}"
  | wrongValue found expected => s!"invalid value: {found.description}, expected {expected}"
  | wrongLength length expected => s!"invalid length {length}, expected {expected}"
  | missing field => s!"missing field `{field}`"
  | unknownVariant found variants =>
    s!"unknown variant `{found}`, expected {choice variants}"
  | noneFits name => s!"data did not match any variant of untagged enum {name}"
  | badUri error text => s!"{error.message}: {quoteShown text}"

end Mismatch

end Contracts
