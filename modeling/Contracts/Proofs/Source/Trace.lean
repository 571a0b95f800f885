import Contracts.Source.Grammar
import Contracts.Proofs.Source.Outcome

/-!
The tokens that the grammar takes up.

A traced parser is a parser with the tokens that it takes up wherever it gives a value. Traced
parsers are put together as parsers are, and the parts of the grammar are written down once more for
them; as parsers they are the parts of the grammar, so a trace follows the choices that the grammar
itself makes. A string, a documentation string and a comment is one token, and anything else counts
character by character.
-/

namespace Contracts

structure Traced (α : Type) where
  parser : Parser α
  /-- What is taken up from a cursor on, if the parser gives a value there. -/
  tokens : Cursor → List Token

namespace Traced

variable {α β : Type}

/-- What a parser gives at a cursor, but for what it expected. -/
def outcome (t : Traced α) (c : Cursor) : Option (α × Cursor) := (t.parser c).result

/-- A parser that takes up no text. -/
def silent (p : Parser α) : Traced α := ⟨p, fun _ => []⟩

/-- The text that a parser takes up. -/
def taken (p : Parser α) (c : Cursor) : List Char :=
  (p c).result.elim [] fun r => c.rest.take (c.rest.length - r.2.rest.length)

/-- A parser of single characters. -/
def characters (p : Parser α) : Traced α := ⟨p, fun c => (taken p c).map .character⟩

/-- A parser of one token. -/
def single (token : List Char → Token) (p : Parser α) : Traced α :=
  ⟨p, fun c => [token (taken p c)]⟩

instance : Monad Traced where
  pure a := silent (pure a)
  bind t f := ⟨t.parser >>= fun a => (f a).parser, fun c =>
    (t.outcome c).elim [] fun r => t.tokens c ++ (f r.1).tokens r.2⟩

instance : OrElse (Traced α) where
  orElse t u := ⟨t.parser <|> (u ()).parser, fun c =>
    if (t.outcome c).isSome then t.tokens c else (u ()).tokens c⟩

def optional (t : Traced α) : Traced (Option α) :=
  ⟨t.parser.optional, fun c => if (t.outcome c).isSome then t.tokens c else []⟩

/-- The tokens of at most `n` rounds. -/
def atMost (t : Traced α) : Nat → Cursor → List Token
  | 0, _ => []
  | n + 1, c => (t.outcome c).elim [] fun r => t.tokens c ++ t.atMost n r.2

def many (t : Traced α) : Traced (List α) :=
  ⟨t.parser.many, fun c => t.atMost c.rest.length c⟩

def checked (what : Expected) (f : α → Option β) (t : Traced α) : Traced β :=
  ⟨t.parser.checked what f, t.tokens⟩

end Traced

namespace Trace

open Traced

/-! ### Tokens -/

/-- The blanks and the comments that a text begins with. -/
def separators : List Char → List Token
  | [] => []
  | c :: cs =>
    if c = ' ' ∨ c = '\t' ∨ c = '\r' ∨ c = '\n' then .character c :: separators cs
    else
      match Token.comment? (c :: cs) with
      | some token => .comment token :: separators (cs.drop (token.length - 1))
      | none => []
termination_by cs => cs.length
decreasing_by all_goals simp only [List.length_drop, List.length_cons]; omega

def gap : Traced Unit := ⟨Grammar.gap, fun c => separators c.rest⟩

def literal (word : String) : Traced Unit := characters (.literal word)

def keyword (word : String) : Traced Unit := characters (Grammar.keyword word)

def identifier : Traced String := characters Grammar.identifier

def string : Traced String := single .string Grammar.string

def docString : Traced String := single .docString Grammar.tripleQuoted <|> string

def comment : Traced Unit := single .comment Grammar.comment

def filler : Traced Unit := characters Grammar.filler

def offset : Traced Nat := silent .offset

/-! ### Bodies -/

section Bodies

variable (lines : Lines)

def callSite : Traced CallSite := do
  let start ← offset
  keyword "call"
  gap
  let operation ← identifier
  let stop ← offset
  pure ⟨operation, lines.location start stop⟩

def bodyItem (inner : Traced (List CallSite)) : Traced (List CallSite) :=
  (do let call ← callSite lines; pure [call])
    <|> inner
    <|> (do let _ ← docString; pure [])
    <|> (do comment; pure [])
    <|> (do let _ ← identifier; pure [])
    <|> (do filler; pure [])

def bodyWithin : Nat → Traced (List CallSite)
  | 0 => silent (.missing (.literal "\x7b"))
  | depth + 1 => do
    literal "\x7b"
    let calls ← (bodyItem lines (bodyWithin depth)).many
    literal "\x7d"
    pure calls.flatten

def body : Traced (List CallSite) :=
  ⟨Grammar.body lines, fun c => (bodyWithin lines c.rest.length).tokens c⟩

end Bodies

/-! ### Profiles -/

section Profiles

variable (lines : Lines)

def profileHeader : Traced ProfileHeader := do
  let start ← offset
  literal "name"
  gap
  literal "="
  gap
  let name ← checked .documentName DocumentName.ofText? string
  gap
  literal "version"
  gap
  literal "="
  gap
  let version ← checked .version Version.ofText? string
  let stop ← offset
  pure ⟨name, version, lines.location start stop⟩

def safety : Traced Safety :=
  (do keyword "safe"; pure .safe)
    <|> (do keyword "unsafe"; pure .changing)
    <|> (do keyword "idempotent"; pure .idempotent)

def usecase (start : Nat) (title : Option String) : Traced ProfileDefinition := do
  keyword "usecase"
  gap
  let name ← identifier
  gap
  let safety ← optional (do let s ← safety; gap; pure s)
  let _ ← body lines
  let stop ← offset
  pure ⟨.usecase safety, name, title, lines.location start stop⟩

def model (start : Nat) (title : Option String) : Traced ProfileDefinition := do
  keyword "model"
  gap
  let name ← identifier
  let _ ← optional (do gap; body lines)
  let stop ← offset
  pure ⟨.model, name, title, lines.location start stop⟩

def fieldType : Traced String :=
  (do
    silent (.notAhead fun cs => (Token.identifier? cs).any Grammar.isReserved)
    identifier)
    <|> (do let _ ← body lines; pure "\x7b...\x7d")

def field (start : Nat) (title : Option String) : Traced ProfileDefinition := do
  keyword "field"
  gap
  let name ← identifier
  let type ← optional (do gap; fieldType lines)
  let stop ← offset
  pure ⟨.field type, name, title, lines.location start stop⟩

def profileDefinition : Traced ProfileDefinition := do
  let start ← offset
  let title ← optional (do let s ← docString; gap; pure (firstLine? s.toList))
  usecase lines start title.join <|> model lines start title.join <|> field lines start title.join

def profile : Traced Profile := do
  gap
  let start ← offset
  let header ← profileHeader lines
  gap
  let definitions ← many (do let d ← profileDefinition lines; gap; pure d)
  let stop ← offset
  silent Grammar.ending
  pure ⟨header, definitions, lines.location start stop⟩

end Profiles

/-! ### Maps -/

section Maps

variable (lines : Lines)

def mapHeader : Traced MapHeader := do
  let start ← offset
  literal "profile"
  gap
  literal "="
  gap
  let profile ← checked .profileId ProfileId.ofText? string
  gap
  literal "provider"
  gap
  literal "="
  gap
  let provider ← string
  let variant ← optional (do
    gap
    literal "variant"
    gap
    literal "="
    gap
    string)
  let stop ← offset
  pure ⟨profile, provider, variant, lines.location start stop⟩

def mapItem (word : String) (item : MapItem) : Traced MapDefinition := do
  let start ← offset
  let _ ← optional (do let _ ← docString; gap)
  keyword word
  gap
  let name ← identifier
  gap
  let calls ← body lines
  let stop ← offset
  pure ⟨item, name, calls, lines.location start stop⟩

def mapDefinition : Traced MapDefinition :=
  mapItem lines "map" .map <|> mapItem lines "operation" .operation

def map : Traced MapDocument := do
  gap
  let start ← offset
  let header ← mapHeader lines
  gap
  let definitions ← many (do let d ← mapDefinition lines; gap; pure d)
  let stop ← offset
  silent Grammar.ending
  pure ⟨header, definitions, lines.location start stop⟩

end Maps

def document (lines : Lines) : Kind → Traced Tree
  | .profile => do let p ← profile lines; pure (.profile p)
  | .map => do let m ← map lines; pure (.map m)

/-! ### The grammar itself -/

section

variable (lines : Lines)

lemma parser_bodyWithin (depth : Nat) :
    (bodyWithin lines depth).parser = Grammar.bodyWithin lines depth := by
  induction depth with
  | zero => rfl
  | succ depth ih =>
    rw [Grammar.bodyWithin, ← ih]
    rfl

/-- As parsers the traced parsers are the grammar. -/
lemma parser_document (kind : Kind) :
    (document lines kind).parser = Grammar.document lines kind := by
  cases kind <;> rfl

end

end Trace

/-- The tokens that the grammar takes up of a text. -/
def grammarTokens (kind : Kind) (text : String) : List Token :=
  (Trace.document (Lines.ofText text.toList) kind).tokens ⟨text.toList, 0⟩

end Contracts
