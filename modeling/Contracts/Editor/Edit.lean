import Contracts.Editor.Range

/-!
Edits that an editor sends: a range of the text and what to put in its place. Places past the end
of a line or of the text mean that end, so an edit always applies.
-/

namespace Contracts

/-- A change of a text. Without a range it replaces the whole text. -/
structure Edit where
  range : Option Range
  text : String
deriving DecidableEq, Repr

/-- The characters of the first line, without its line feed or a carriage return before it. -/
def lineBody (cs : List Char) : List Char :=
  let line := cs.takeWhile (· != '\n')
  if line.getLast? = some '\r' then line.dropLast else line

/-- How many characters stand before a point: those of the lines before it, and as many on its
line as there are. -/
def indexOf (line character : Nat) (cs : List Char) : Nat :=
  match line, cs with
  | 0, cs => min character (lineBody cs).length
  | _ + 1, [] => 0
  | line + 1, c :: cs =>
    (if c = '\n' then indexOf line character cs else indexOf (line + 1) character cs) + 1
termination_by cs.length

def Point.index (p : Point) (cs : List Char) : Nat := indexOf p.line p.character cs

/-- The byte offset of a point. -/
def Point.offset (p : Point) (cs : List Char) : Nat := byteLength (cs.take (p.index cs))

/-- The text after an edit. A range that ends before it starts is empty. -/
def Edit.apply (e : Edit) (cs : List Char) : List Char :=
  match e.range with
  | none => e.text.toList
  | some range =>
    let start := range.start.index cs
    let stop := max start (range.stop.index cs)
    cs.take start ++ e.text.toList ++ cs.drop stop

/-- The text after several edits, each of which counts in the text that the one before left. -/
def applyEdits (text : String) (edits : List Edit) : String :=
  String.ofList (edits.foldl (fun cs e => e.apply cs) text.toList)

end Contracts
