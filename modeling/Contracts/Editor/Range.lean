import Contracts.Text.Lines

/-!
Ranges as editors count them, from line zero and character zero, and the way from positions and
spans to them. The numbers are capped where 32 bits end.
-/

namespace Contracts

structure Point where
  line : Nat
  character : Nat
deriving DecidableEq, Repr, Inhabited

structure Range where
  start : Point
  stop : Point
deriving DecidableEq, Repr, Inhabited

/-- The largest number an editor can be told. -/
def editorLimit : Nat := 4294967295

def Position.point (p : Position) : Point :=
  ⟨min (p.line - 1) editorLimit, min (p.column - 1) editorLimit⟩

def Location.range (l : Location) : Range := ⟨l.start.point, l.stop.point⟩

/-- The characters of `cs` from byte `start` up to byte `stop`. There are none if the span is
reversed, reaches past the end or does not begin and end between characters. -/
def slice? (start stop : Nat) : List Char → Option (List Char)
  | [] => if start = 0 ∧ stop = 0 then some [] else none
  | c :: cs =>
    if start = 0 then
      if stop = 0 then some []
      else if stop < c.utf8Size then none
      else (slice? 0 (stop - c.utf8Size) cs).map (c :: ·)
    else if start < c.utf8Size ∨ stop < start then none
    else slice? (start - c.utf8Size) (stop - c.utf8Size) cs

/-- The position after `cs`, which begins at `p`. -/
def Position.past (p : Position) (cs : List Char) : Position :=
  let breaks := cs.count '\n'
  if breaks = 0 then ⟨p.line, p.column + cs.length⟩
  else ⟨p.line + breaks, (cs.reverse.takeWhile (· != '\n')).length + 1⟩

/-- The position at the end of a span that starts at position `start`, by counting through the
spanned text. -/
def Span.endPosition (source : List Char) (s : Span) (start : Position) : Position :=
  start.past ((slice? s.start s.stop source).getD [])

def Span.range (source : List Char) (s : Span) (start : Position) : Range :=
  ⟨start.point, (s.endPosition source start).point⟩

end Contracts
