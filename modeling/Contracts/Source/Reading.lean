import Contracts.Source.Failure
import Contracts.Source.Grammar

/-!
Reading a text as a document of a kind: a tree, or exactly one error.
-/

namespace Contracts

/-- The tree of a text. A string that is not closed is reported before the grammar is tried. -/
def readTree (kind : Kind) (text : String) : Except SyntaxError Tree :=
  let lines := Lines.ofText text.toList
  match openString? lines.text with
  | some s => .error (.ofOpenString lines s)
  | none =>
    match Grammar.document lines kind ⟨lines.text, 0⟩ with
    | ⟨_, some (tree, _)⟩ => .ok tree
    | ⟨frontier, none⟩ => .error (.ofFrontier lines kind frontier)

end Contracts
