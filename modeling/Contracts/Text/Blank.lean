import Contracts.Text.Split

/-!
Blank characters, the Unicode property White_Space, and the first line of a text that holds
more than blanks.
-/

namespace Contracts

/-- Whether `c` has the Unicode property White_Space. -/
def isBlank (c : Char) : Bool :=
  let n := c.toNat
  (0x9 ≤ n && n ≤ 0xD) || n == 0x20 || n == 0x85 || n == 0xA0 || n == 0x1680 ||
    (0x2000 ≤ n && n ≤ 0x200A) || n == 0x2028 || n == 0x2029 || n == 0x202F || n == 0x205F ||
    n == 0x3000

/-- `cs` without blanks at either end. -/
def trimBlanks (cs : List Char) : List Char :=
  ((cs.dropWhile isBlank).reverse.dropWhile isBlank).reverse

/-- The first line that is not blank, trimmed. -/
def firstLine? (cs : List Char) : Option String :=
  (((splitAll '\n' cs).map trimBlanks).find? (!·.isEmpty)).map String.ofList

end Contracts
