/-!
Places in a text: spans of byte offsets, positions by line and column, and locations that
carry both.
-/

namespace Contracts

/-- The bytes from `start` up to, not including, `stop`. -/
structure Span where
  start : Nat
  stop : Nat
deriving DecidableEq, Repr, Inhabited

/-- A line and a column, both counted from one. Columns count characters, not bytes. -/
structure Position where
  line : Nat
  column : Nat
deriving DecidableEq, Repr, Inhabited

/-- A region of a text: its bytes, and the positions of its two ends. -/
structure Location where
  span : Span
  start : Position
  stop : Position
deriving DecidableEq, Repr, Inhabited

def Position.text (p : Position) : String :=
  s!"line: {p.line}, column: {p.column}"

def Location.text (l : Location) : String :=
  s!"location.start({l.start.text}), location.end({l.stop.text})"

end Contracts
