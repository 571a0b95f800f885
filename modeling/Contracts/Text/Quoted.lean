import Contracts.Text.Visible

/-!
Characters and texts as they are shown inside quotes in a message.
-/

namespace Contracts

/-- The hexadecimal digits of `n`, lowercase and without leading zeros. -/
def hexDigits (n : Nat) : List Char := Nat.toDigits 16 n

/-- A character as it stands between `mark`s. Control characters, the mark and the backslash are
escaped, and so is each character that would not show. -/
def showInside (mark c : Char) : String :=
  match c.toNat with
  | 0x00 => "\\0"
  | 0x09 => "\\t"
  | 0x0A => "\\n"
  | 0x0D => "\\r"
  | 0x5C => "\\\\"
  | n =>
    if c = mark then "\\" ++ String.singleton c
    else if isVisible c then String.singleton c
    else "\\u\x7b" ++ String.ofList (hexDigits n) ++ "\x7d"

/-- A character in single quotes. -/
def quoteChar (c : Char) : String := "\x27" ++ showInside '\x27' c ++ "\x27"

/-- A text in double quotes, with all that would not show escaped. -/
def quoteShown (text : String) : String :=
  "\"" ++ String.join (text.toList.map (showInside '"')) ++ "\""

/-- A text in double quotes, with each double quote inside it escaped. -/
def quoteText (text : String) : String :=
  "\"" ++ String.ofList (text.toList.flatMap fun c => if c = '"' then ['\\', c] else [c]) ++ "\""

end Contracts
