import Contracts.Text.Position

/-!
From byte offsets to positions. A `Lines` keeps where the lines of a text start, so a position is
one look-up of the line and one count along that line.
-/

namespace Contracts

/-- The number of bytes that `cs` takes up in UTF-8. -/
def byteLength : List Char → Nat
  | [] => 0
  | c :: cs => c.utf8Size + byteLength cs

@[simp] theorem byteLength_nil : byteLength [] = 0 := rfl

@[simp] theorem byteLength_cons (c : Char) (cs : List Char) :
    byteLength (c :: cs) = c.utf8Size + byteLength cs := rfl

@[simp] theorem byteLength_append (as bs : List Char) :
    byteLength (as ++ bs) = byteLength as + byteLength bs := by
  induction as with
  | nil => simp
  | cons a as ih => simp [ih, Nat.add_assoc]

/-- A line of a text. -/
structure Line where
  start : Nat
  /-- The text from the line on. -/
  rest : List Char

/-- The lines behind each line feed of `cs`, where `cs` itself begins at `offset`. -/
def linesFrom (offset : Nat) : List Char → List Line
  | [] => []
  | c :: cs =>
    if c = '\n' then ⟨offset + 1, cs⟩ :: linesFrom (offset + 1) cs
    else linesFrom (offset + c.utf8Size) cs

/-- How many characters of `cs`, which begins at `offset`, end at or before `high`. -/
def charsBefore (high offset : Nat) : List Char → Nat
  | [] => 0
  | c :: cs =>
    if offset + c.utf8Size ≤ high then charsBefore high (offset + c.utf8Size) cs + 1 else 0

/-- The lines of a text in order. -/
structure Lines where
  first : Line
  others : List Line

namespace Lines

def ofText (text : List Char) : Lines := ⟨⟨0, text⟩, linesFrom 0 text⟩

/-- The whole text. -/
def text (lines : Lines) : List Char := lines.first.rest

/-- The lines behind the first that start at or before `offset`. -/
def upTo (lines : Lines) (offset : Nat) : List Line := lines.others.takeWhile (·.start ≤ offset)

/-- The position of a byte offset. An offset inside a character counts as the start of that
character, and one past the end of the text as its end. -/
def position (lines : Lines) (offset : Nat) : Position :=
  let found := lines.upTo offset
  let line := found.getLastD lines.first
  ⟨found.length + 1, charsBefore offset line.start line.rest + 1⟩

/-- The location of the bytes from `start` to `stop`. -/
def location (lines : Lines) (start stop : Nat) : Location where
  span := ⟨start, stop⟩
  start := lines.position start
  stop := lines.position stop

end Lines

end Contracts
