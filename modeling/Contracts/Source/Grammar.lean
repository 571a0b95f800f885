import Contracts.Source.Parser
import Contracts.Source.Token
import Contracts.Source.Tree
import Contracts.Text.Blank

/-!
The grammar of profiles and maps.

A document is a header and any number of definitions, with blanks and comments between tokens.
Bodies are balanced in their braces outside strings and comments; of what stands in them only the
calls of operations are kept.
-/

namespace Contracts.Grammar

open Contracts.Parser

/-- Blanks and comments, if there are any. -/
def gap : Parser Unit := fun c => ⟨.clear, some ((), c.after (Token.separators c.rest))⟩

def identifier : Parser String := do
  let t ← token .identifier Token.identifier?
  pure (String.ofList t)

/-- A literal that is not the beginning of a longer word. -/
def keyword (word : String) : Parser Unit := do
  literal word
  notAhead fun cs => cs.head?.any Token.isIdentChar

/-- The text between the quotes of a string. -/
def string : Parser String := do
  let t ← token .string (Token.string? true)
  pure (String.ofList (Token.inside 1 t))

/-- The text of a string between triples of quotes. If they are not closed, a character or the
quotes are missing at the end of the text. -/
def tripleQuoted : Parser String := fun c =>
  match Token.docString? c.rest with
  | some t => ⟨.clear, some (String.ofList (Token.inside 3 t), c.after t)⟩
  | none =>
    if ['"', '"', '"'].isPrefixOf c.rest then
      ⟨⟨c.offset + byteLength c.rest, [.anyCharacter, .literal "\"\"\""]⟩, none⟩
    else ⟨⟨c.offset, [.literal "\"\"\""]⟩, none⟩

def docString : Parser String := tripleQuoted <|> string

/-- A comment inside a body. One that runs to the end of the text leaves a character missing. -/
def comment : Parser Unit := fun c =>
  match Token.comment? c.rest with
  | some t =>
    ⟨if (c.after t).rest.isEmpty then ⟨(c.after t).offset, [.anyCharacter]⟩ else .clear,
      some ((), c.after t)⟩
  | none => ⟨⟨c.offset, [.literal "//"]⟩, none⟩

/-- One character of a body, which is not a brace. -/
def filler : Parser Unit := fun c =>
  match c.rest with
  | [] => ⟨⟨c.offset, [.anyCharacter]⟩, none⟩
  | d :: _ => if d = '{' ∨ d = '}' then ⟨.clear, none⟩ else ⟨.clear, some ((), c.after [d])⟩

/-- The end of the text, of which a failure leaves no trace. -/
def ending : Parser Unit := notAhead fun cs => !cs.isEmpty

section Bodies

variable (lines : Lines)

def callSite : Parser CallSite := do
  let start ← offset
  keyword "call"
  gap
  let operation ← identifier
  let stop ← offset
  pure ⟨operation, lines.location start stop⟩

/-- One piece of a body, where `inner` reads a body inside it. -/
def bodyItem (inner : Parser (List CallSite)) : Parser (List CallSite) :=
  (do let call ← callSite lines; pure [call])
    <|> inner
    <|> (do let _ ← docString; pure [])
    <|> (do comment; pure [])
    <|> (do let _ ← identifier; pure [])
    <|> (do filler; pure [])

/-- A body that is nested at most `depth` deep. -/
def bodyWithin : Nat → Parser (List CallSite)
  | 0 => missing (.literal "\x7b")
  | depth + 1 => do
    literal "\x7b"
    let calls ← many (bodyItem lines (bodyWithin depth))
    literal "\x7d"
    pure calls.flatten

/-- A body, with the calls in it in source order. A text holds no deeper nesting than it has
characters. -/
def body : Parser (List CallSite) := fun c => bodyWithin lines c.rest.length c

end Bodies

section Profiles

variable (lines : Lines)

def profileHeader : Parser ProfileHeader := do
  let start ← offset
  literal "name"
  gap
  literal "="
  gap
  let name ← checked .documentName DocumentName.ofText? string
  gap
  literal "version"
  gap
  literal "="
  gap
  let version ← checked .version Version.ofText? string
  let stop ← offset
  pure ⟨name, version, lines.location start stop⟩

def safety : Parser Safety :=
  (do keyword "safe"; pure .safe)
    <|> (do keyword "unsafe"; pure .changing)
    <|> (do keyword "idempotent"; pure .idempotent)

def usecase (start : Nat) (title : Option String) : Parser ProfileDefinition := do
  keyword "usecase"
  gap
  let name ← identifier
  gap
  let safety ← optional (do let s ← safety; gap; pure s)
  let _ ← body lines
  let stop ← offset
  pure ⟨.usecase safety, name, title, lines.location start stop⟩

def model (start : Nat) (title : Option String) : Parser ProfileDefinition := do
  keyword "model"
  gap
  let name ← identifier
  let _ ← optional (do gap; body lines)
  let stop ← offset
  pure ⟨.model, name, title, lines.location start stop⟩

/-- The words that begin a definition, which no type is named after. -/
def isReserved (word : List Char) : Bool :=
  ["usecase", "model", "field", "map", "operation"].any (·.toList == word)

/-- A type: the name of one, or a body in place of it. -/
def fieldType : Parser String :=
  (do
    notAhead fun cs => (Token.identifier? cs).any isReserved
    identifier)
    <|> (do let _ ← body lines; pure "\x7b...\x7d")

def field (start : Nat) (title : Option String) : Parser ProfileDefinition := do
  keyword "field"
  gap
  let name ← identifier
  let type ← optional (do gap; fieldType lines)
  let stop ← offset
  pure ⟨.field type, name, title, lines.location start stop⟩

def profileDefinition : Parser ProfileDefinition := do
  let start ← offset
  let title ← optional (do let s ← docString; gap; pure (firstLine? s.toList))
  usecase lines start title.join <|> model lines start title.join <|> field lines start title.join

def profile : Parser Profile := do
  gap
  let start ← offset
  let header ← profileHeader lines
  gap
  let definitions ← many (do let d ← profileDefinition lines; gap; pure d)
  let stop ← offset
  ending
  pure ⟨header, definitions, lines.location start stop⟩

end Profiles

section Maps

variable (lines : Lines)

def mapHeader : Parser MapHeader := do
  let start ← offset
  literal "profile"
  gap
  literal "="
  gap
  let profile ← checked .profileId ProfileId.ofText? string
  gap
  literal "provider"
  gap
  literal "="
  gap
  let provider ← string
  let variant ← optional (do
    gap
    literal "variant"
    gap
    literal "="
    gap
    string)
  let stop ← offset
  pure ⟨profile, provider, variant, lines.location start stop⟩

/-- A definition that begins with `word`, after a documentation string if there is one. -/
def mapItem (word : String) (item : MapItem) : Parser MapDefinition := do
  let start ← offset
  let _ ← optional (do let _ ← docString; gap)
  keyword word
  gap
  let name ← identifier
  gap
  let calls ← body lines
  let stop ← offset
  pure ⟨item, name, calls, lines.location start stop⟩

def mapDefinition : Parser MapDefinition :=
  mapItem lines "map" .map <|> mapItem lines "operation" .operation

def map : Parser MapDocument := do
  gap
  let start ← offset
  let header ← mapHeader lines
  gap
  let definitions ← many (do let d ← mapDefinition lines; gap; pure d)
  let stop ← offset
  ending
  pure ⟨header, definitions, lines.location start stop⟩

end Maps

/-- A whole document of the given kind. -/
def document (lines : Lines) : Kind → Parser Tree
  | .profile => do let p ← profile lines; pure (.profile p)
  | .map => do let m ← map lines; pure (.map m)

end Contracts.Grammar
