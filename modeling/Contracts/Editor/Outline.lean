import Contracts.Editor.Range
import Contracts.Source.Tree

/-!
The outline of a document: one symbol for the file, in it one for the namespace, and in that one
for each definition.
-/

namespace Contracts

/-- What a symbol stands for, by the number that editors know it under. -/
structure SymbolKind where
  code : Nat
deriving DecidableEq, Repr

namespace SymbolKind

def file : SymbolKind := ⟨1⟩
def space : SymbolKind := ⟨3⟩
def classLike : SymbolKind := ⟨5⟩
def field : SymbolKind := ⟨8⟩
def interface : SymbolKind := ⟨11⟩
def function : SymbolKind := ⟨12⟩

end SymbolKind

structure Symbol where
  name : String
  detail : Option String
  kind : SymbolKind
  range : Range
  selection : Range
  children : List Symbol
deriving Repr

namespace Symbol

/-- A symbol that is selected as a whole. -/
def whole (name : String) (detail : Option String) (kind : SymbolKind) (range : Range)
    (children : List Symbol) : Symbol :=
  ⟨name, detail, kind, range, range, children⟩

end Symbol

def ProfileDefinition.symbol (d : ProfileDefinition) : Symbol :=
  let kind :=
    match d.item with
    | .usecase _ | .model => SymbolKind.interface
    | .field _ => SymbolKind.field
  .whole d.name d.title kind d.location.range []

def MapDefinition.symbol (d : MapDefinition) : Symbol :=
  let kind :=
    match d.item with
    | .map => SymbolKind.classLike
    | .operation => SymbolKind.function
  .whole d.name none kind d.location.range []

namespace Tree

/-- One symbol for each definition. -/
def definitionSymbols : Tree → List Symbol
  | .profile p => p.definitions.map ProfileDefinition.symbol
  | .map m => m.definitions.map MapDefinition.symbol

/-- The outline of a tree. The namespace reaches from the header to the end of the file. -/
def outline (fileName : String) (tree : Tree) : List Symbol :=
  let range := ⟨tree.headerLocation.start.point, tree.location.stop.point⟩
  let space := Symbol.whole tree.namespaceKey none .space range tree.definitionSymbols
  [.whole fileName none .file tree.location.range [space]]

end Tree

/-- The namespace of an outline: the name of the first symbol in its first one, if that stands
for a namespace. -/
def outlineNamespace? (outline : List Symbol) : Option String := do
  let file ← outline.head?
  let space ← file.children.head?
  if space.kind = .space then some space.name else none

end Contracts
