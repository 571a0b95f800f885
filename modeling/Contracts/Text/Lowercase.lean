import Contracts.Text.Letter

/-!
Lowercase text by the full Unicode mapping, and search that ignores case.

One letter depends on its neighbours: a capital sigma at the end of a word becomes the final
form. A word ends there if a cased letter comes before and none after, case-ignorable
characters apart.
-/

namespace Contracts

/-- The shift that the runs give to `n`, if one of them holds it. -/
def lowercaseShift? (n : Nat) : List (Nat × Nat × Nat × Int) → Option Int
  | [] => none
  | (first, last, step, shift) :: runs =>
    if first ≤ n ∧ n ≤ last ∧ (n - first) % step = 0 then some shift
    else lowercaseShift? n runs

/-- The lowercase form of a character that stands alone. -/
def lowercaseOf (c : Char) : List Char :=
  if c.toNat = 0x130 then ['i', Char.ofNat 0x307]
  else
    match lowercaseShift? c.toNat lowercaseRuns with
    | some shift => [Char.ofNat (Int.toNat (c.toNat + shift))]
    | none => [c]

/-- Whether the first character that is not case-ignorable is a cased letter. -/
def startsCased (cs : List Char) : Bool :=
  match cs.dropWhile isCaseIgnorable with
  | [] => false
  | c :: _ => isCased c

/-- The lowercase form of `cs`, where `before` holds the characters in front of it, nearest
first. -/
def lowercaseAfter (before : List Char) : List Char → List Char
  | [] => []
  | c :: cs =>
    let lowered :=
      if c.toNat = 0x3A3 then
        [Char.ofNat (if startsCased before && !startsCased cs then 0x3C2 else 0x3C3)]
      else lowercaseOf c
    lowered ++ lowercaseAfter (c :: before) cs

def lowercase (cs : List Char) : List Char := lowercaseAfter [] cs

/-- Whether `part` stands somewhere in `cs`. -/
def contains (part : List Char) : List Char → Bool
  | [] => part.isEmpty
  | c :: cs => part.isPrefixOf (c :: cs) || contains part cs

end Contracts
