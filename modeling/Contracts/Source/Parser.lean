import Contracts.Text.Lines
import Contracts.Text.Quoted

/-!
Parsers that choose between alternatives in order and remember what was expected.

A parser looks at the text from a cursor on. Beside its value, or its failure, it answers with a
frontier: the furthest place at which something expected was missing, and all that was expected
there. Frontiers are joined along every path that was tried, so the frontier of a failed parse is
the reason that reached furthest.
-/

namespace Contracts

/-- What can be missing at a place. -/
inductive Expected where
  | literal (text : String)
  | anyCharacter
  | identifier
  | string
  | documentName
  | version
  | profileId
deriving DecidableEq, Repr

def Expected.text : Expected → String
  | .literal text => quoteText text
  | .anyCharacter => "[_]"
  | .identifier => "identifier"
  | .string => "string"
  | .documentName => "document name \"[scope/]name\""
  | .version => "version \"<major>.<minor>[.<patch>]\""
  | .profileId => "profile id \"[scope/]name@<major>.<minor>\""

structure Frontier where
  offset : Nat
  expected : List Expected
deriving DecidableEq, Repr

namespace Frontier

/-- Nothing was missing. -/
def clear : Frontier := ⟨0, []⟩

/-- The further of two frontiers; at one offset, all that either expected. -/
def join (a b : Frontier) : Frontier :=
  if a.offset < b.offset then b
  else if b.offset < a.offset then a
  else ⟨a.offset, a.expected ++ b.expected⟩

end Frontier

/-- The text still ahead and the byte offset at which it begins. -/
structure Cursor where
  rest : List Char
  offset : Nat
deriving DecidableEq, Repr

/-- The cursor after `token`, which is a beginning of the text ahead. -/
def Cursor.after (c : Cursor) (token : List Char) : Cursor :=
  ⟨c.rest.drop token.length, c.offset + byteLength token⟩

structure Reply (α : Type) where
  frontier : Frontier
  result : Option (α × Cursor)

def Parser (α : Type) : Type := Cursor → Reply α

namespace Parser

variable {α β : Type}

instance : Monad Parser where
  pure a := fun c => ⟨.clear, some (a, c)⟩
  bind p f := fun c =>
    match p c with
    | ⟨frontier, none⟩ => ⟨frontier, none⟩
    | ⟨frontier, some (a, next)⟩ =>
      let reply := f a next
      ⟨frontier.join reply.frontier, reply.result⟩

/-- The offset of the cursor. -/
def offset : Parser Nat := fun c => ⟨.clear, some (c.offset, c)⟩

/-- Fails because `what` is missing at the cursor. -/
def missing (what : Expected) : Parser α := fun c => ⟨⟨c.offset, [what]⟩, none⟩

/-- The second alternative from the same cursor, if the first one fails. -/
def orElse (p q : Parser α) : Parser α := fun c =>
  match p c with
  | ⟨frontier, some r⟩ => ⟨frontier, some r⟩
  | ⟨frontier, none⟩ =>
    let reply := q c
    ⟨frontier.join reply.frontier, reply.result⟩

instance : OrElse (Parser α) where
  orElse p q := p.orElse (q ())

def optional (p : Parser α) : Parser (Option α) := fun c =>
  match p c with
  | ⟨frontier, some (a, next)⟩ => ⟨frontier, some (some a, next)⟩
  | ⟨frontier, none⟩ => ⟨frontier, some (none, c)⟩

/-- Repeats a parser until it fails, at most `n` times. -/
def atMost (p : Parser α) : Nat → Parser (List α)
  | 0 => fun c => ⟨(p c).frontier, some ([], c)⟩
  | n + 1 => fun c =>
    match p c with
    | ⟨frontier, none⟩ => ⟨frontier, some ([], c)⟩
    | ⟨frontier, some (a, next)⟩ =>
      match atMost p n next with
      | ⟨further, some (as, last)⟩ => ⟨frontier.join further, some (a :: as, last)⟩
      | ⟨further, none⟩ => ⟨frontier.join further, none⟩

/-- Repeats a parser until it fails. Each round has to take up a character, so there are no more
rounds than characters ahead. -/
def many (p : Parser α) : Parser (List α) := fun c => atMost p c.rest.length c

/-- Succeeds where the text ahead does not pass `p`. A failure leaves no trace. -/
def notAhead (p : List Char → Bool) : Parser Unit := fun c =>
  if p c.rest then ⟨.clear, none⟩ else ⟨.clear, some ((), c)⟩

/-- Takes up the token that `read` finds; `what` is missing if it finds none. -/
def token (what : Expected) (read : List Char → Option (List Char)) : Parser (List Char) :=
  fun c =>
    match read c.rest with
    | some t => ⟨.clear, some (t, c.after t)⟩
    | none => ⟨⟨c.offset, [what]⟩, none⟩

/-- Takes up exactly `text`. -/
def literal (text : String) : Parser Unit := fun c =>
  if text.toList.isPrefixOf c.rest then ⟨.clear, some ((), c.after text.toList)⟩
  else ⟨⟨c.offset, [.literal text]⟩, none⟩

/-- The value that `f` makes of a parser's value; `what` is missing after it if it makes none. -/
def checked (what : Expected) (f : α → Option β) (p : Parser α) : Parser β := do
  let a ← p
  match f a with
  | some b => pure b
  | none => missing what

end Parser

end Contracts
