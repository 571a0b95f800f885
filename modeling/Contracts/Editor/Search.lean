import Contracts.Editor.Outline
import Contracts.Text.Lowercase
import Contracts.Uri.Basic

/-!
Search for symbols by a part of their name.
-/

namespace Contracts

/-- A symbol found in a document, with the name of the symbol around it. -/
structure Hit where
  name : String
  kind : SymbolKind
  uri : Uri
  range : Range
  container : Option String
deriving DecidableEq, Repr

mutual

/-- A symbol and all in it, each before what it holds. -/
def Symbol.hits (uri : Uri) (container : Option String) (s : Symbol) : List Hit :=
  match s with
  | ⟨name, _, kind, range, _, children⟩ =>
    ⟨name, kind, uri, range, container⟩ :: hitsIn uri (some name) children

/-- The symbols of a list and all in them. -/
def hitsIn (uri : Uri) (container : Option String) : List Symbol → List Hit
  | [] => []
  | s :: ss => s.hits uri container ++ hitsIn uri container ss

end

/-- All symbols of an outline. -/
def flatten (uri : Uri) (outline : List Symbol) : List Hit := hitsIn uri none outline

/-- Whether `name` holds `query`, case apart. An empty query is part of every name. -/
def matchesQuery (name query : String) : Bool :=
  query.isEmpty || contains (lowercase query.toList) (lowercase name.toList)

/-- The symbols of an outline whose names hold `query`. -/
def search (uri : Uri) (query : String) (outline : List Symbol) : List Hit :=
  (flatten uri outline).filter fun hit => matchesQuery hit.name query

end Contracts
