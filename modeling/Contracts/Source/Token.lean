import Contracts.Text.Lines

/-!
Tokens of the source text. Each reader takes the characters ahead and returns the token that
begins there as the characters it takes up, so a token is always a beginning of the text.

Two readers use them. The pre-scan cuts the whole text into comments, strings and single
characters, and stops at the first string that is not closed. The grammar reads tokens where it
expects them.
-/

namespace Contracts.Token

def isIdentStart (c : Char) : Bool := c.isAlpha || c == '_'

def isIdentChar (c : Char) : Bool := c.isAlphanum || c == '_'

/-- A comment, from two slashes to the end of the line; the line feed is not part of it. -/
def comment? : List Char → Option (List Char)
  | '/' :: '/' :: cs => some ('/' :: '/' :: cs.takeWhile (· != '\n'))
  | _ => none

/-- The text up to and with the next three double quotes. -/
def untilTripleQuote? : List Char → Option (List Char)
  | '"' :: '"' :: '"' :: _ => some ['"', '"', '"']
  | c :: cs => (untilTripleQuote? cs).map (c :: ·)
  | [] => none

/-- A documentation string, between two triples of double quotes. -/
def docString? : List Char → Option (List Char)
  | '"' :: '"' :: '"' :: cs => (untilTripleQuote? cs).map fun body => '"' :: '"' :: '"' :: body
  | _ => none

/-- The text up to and with the closing quote, on the same line. A backslash takes the next
character with it; whether that may be a line feed is up to `escapedBreak`. -/
def untilQuote? (escapedBreak : Bool) : List Char → Option (List Char)
  | [] => none
  | ['\\'] => none
  | '\\' :: c :: cs =>
    if c = '\n' && !escapedBreak then none
    else (untilQuote? escapedBreak cs).map fun body => '\\' :: c :: body
  | c :: cs =>
    if c = '"' then some ['"']
    else if c = '\n' then none
    else (untilQuote? escapedBreak cs).map (c :: ·)

/-- A string between double quotes. -/
def string? (escapedBreak : Bool) : List Char → Option (List Char)
  | '"' :: cs => (untilQuote? escapedBreak cs).map ('"' :: ·)
  | _ => none

/-- A word of ASCII letters, digits and underscores that does not start with a digit, as long
as possible. -/
def identifier? : List Char → Option (List Char)
  | c :: cs => if isIdentStart c then some (c :: cs.takeWhile isIdentChar) else none
  | [] => none

/-- The characters between a token's quotes, each of which takes `quotes` characters. -/
def inside (quotes : Nat) (token : List Char) : List Char :=
  (token.drop quotes).take (token.length - 2 * quotes)

/-- Blanks and comments between tokens, as far as they reach. -/
def separators : List Char → List Char
  | [] => []
  | c :: cs =>
    if c = ' ' ∨ c = '\t' ∨ c = '\r' ∨ c = '\n' then c :: separators cs
    else
      match comment? (c :: cs) with
      | some token => token ++ separators (cs.drop (token.length - 1))
      | none => []
termination_by cs => cs.length
decreasing_by all_goals simp only [List.length_drop, List.length_cons]; omega

end Contracts.Token

namespace Contracts

/-- What the pre-scan cuts a text into. -/
inductive Token where
  | comment (text : List Char)
  | docString (text : List Char)
  | string (text : List Char)
  | character (c : Char)
deriving DecidableEq, Repr

/-- A string without its closing quotes. -/
inductive Unclosed where
  | docString
  | string
deriving DecidableEq, Repr

namespace Token

def text : Token → List Char
  | .comment text => text
  | .docString text => text
  | .string text => text
  | .character c => [c]

/-- The token at the start of a text that is not empty. -/
def read (c : Char) (cs : List Char) : Except Unclosed Token :=
  match comment? (c :: cs) with
  | some text => .ok (.comment text)
  | none =>
    if ['"', '"', '"'].isPrefixOf (c :: cs) then
      match docString? (c :: cs) with
      | some text => .ok (.docString text)
      | none => .error .docString
    else if c = '"' then
      match string? false (c :: cs) with
      | some text => .ok (.string text)
      | none => .error .string
    else .ok (.character c)

end Token

/-- A failure of the pre-scan: what was not closed, where it starts, and the text from there. -/
structure OpenString where
  kind : Unclosed
  offset : Nat
  rest : List Char
deriving DecidableEq, Repr

/-- Cuts the text `cs`, which begins at `offset`, into tokens up to the first open string. -/
def tokensFrom (offset : Nat) : List Char → List Token × Option OpenString
  | [] => ([], none)
  | c :: cs =>
    match Token.read c cs with
    | .error kind => ([], some ⟨kind, offset, c :: cs⟩)
    | .ok token =>
      let (tokens, failure) :=
        tokensFrom (offset + byteLength token.text) (cs.drop (token.text.length - 1))
      (token :: tokens, failure)
termination_by cs => cs.length
decreasing_by simp only [List.length_drop, List.length_cons]; omega

def tokens (cs : List Char) : List Token := (tokensFrom 0 cs).1

/-- The first string of a text that is not closed. -/
def openString? (cs : List Char) : Option OpenString := (tokensFrom 0 cs).2

end Contracts
