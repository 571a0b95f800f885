import Contracts.Source.Parser
import Contracts.Source.Token
import Contracts.Source.Tree

/-!
The one error of a text that cannot be read: where it is, what is wrong, and advice if there is
any.
-/

namespace Contracts

/-- Which of the two readers refused the text. -/
inductive Category where
  | lexer
  | parser
deriving DecidableEq, Repr

def Category.text : Category → String
  | .lexer => "lexer"
  | .parser => "parser"

structure SyntaxError where
  span : Span
  position : Position
  detail : String
  hint : Option String
  category : Category
deriving DecidableEq, Repr

namespace SyntaxError

def text (e : SyntaxError) : String :=
  s!"{e.category.text} error at {e.position.text}: {e.detail}"

/-- The detail, with the advice on a line of its own. -/
def message (e : SyntaxError) : String :=
  match e.hint with
  | none => e.detail
  | some hint => e.detail ++ "\n" ++ hint

/-- The error of a string that is not closed. The span of a documentation string runs to the end
of the text, that of a string to the end of its line. -/
def ofOpenString (lines : Lines) (s : OpenString) : SyntaxError :=
  match s.kind with
  | .docString =>
    { span := ⟨s.offset, s.offset + byteLength s.rest⟩
      position := lines.position s.offset
      detail := "unterminated documentation string"
      hint := some "add a closing `\"\"\"`"
      category := .lexer }
  | .string =>
    { span := ⟨s.offset, s.offset + byteLength (s.rest.takeWhile (· != '\n'))⟩
      position := lines.position s.offset
      detail := "unterminated string literal"
      hint := some ("strings cannot span lines; close it with `\"` or use `\"\"\"` " ++
        "for multi-line text")
      category := .lexer }

/-- The character that starts at a byte offset. -/
def charAt? (offset : Nat) : List Char → Option Char
  | [] => none
  | c :: cs => if offset = 0 then some c else charAt? (offset - c.utf8Size) cs

/-- `items` in increasing order, each once. -/
def sortedTexts (items : List String) : List String :=
  (items.mergeSort fun a b => !decide (b < a)).eraseReps

/-- What was expected, as a phrase. -/
def expectedText (expected : List Expected) : String :=
  match sortedTexts (expected.map Expected.text) with
  | [] => "<unreported>"
  | [one] => one
  | several => "one of " ++ ", ".intercalate several

/-- The shape of a header, where a word that begins a line of it was expected. -/
def headerHint (kind : Kind) (expected : List Expected) : Option String :=
  match kind with
  | .profile =>
    if .literal "name" ∈ expected ∨ .literal "version" ∈ expected then
      some ("profiles start with `name = \"[scope/]name\"` followed by " ++
        "`version = \"<major>.<minor>.<patch>\"`")
    else none
  | .map =>
    if .literal "profile" ∈ expected ∨ .literal "provider" ∈ expected then
      some ("maps start with `profile = \"[scope/]name@<major>.<minor>\"` followed by " ++
        "`provider = \"<name>\"`")
    else none

/-- The error of a text that the grammar refuses, from the frontier of the attempt. -/
def ofFrontier (lines : Lines) (kind : Kind) (f : Frontier) : SyntaxError :=
  let found := charAt? f.offset lines.text
  let subject :=
    match found with
    | some c => quoteChar c
    | none => "end of input"
  { span := ⟨f.offset, f.offset + found.elim 0 Char.utf8Size⟩
    position := lines.position f.offset
    detail := "unexpected " ++ subject ++ ", expected " ++ expectedText f.expected
    hint := headerHint kind f.expected
    category := .parser }

end SyntaxError

end Contracts
