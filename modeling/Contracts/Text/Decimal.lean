/-!
Decimal numbers as text: the digits of a number, and the reading of a 32 bit number.
-/

namespace Contracts.Decimal

/-- The character of a digit below ten. -/
def digit (d : Nat) : Char := Char.ofNat ('0'.toNat + d)

/-- The decimal digits of `n`, most significant first and without leading zeros. -/
def digits (n : Nat) : List Char :=
  if n < 10 then [digit n] else digits (n / 10) ++ [digit (n % 10)]
termination_by n
decreasing_by omega

/-- The number written by `cs`, read as decimal digits. -/
def value (cs : List Char) : Nat :=
  cs.foldl (fun n c => n * 10 + (c.toNat - '0'.toNat)) 0

def text (n : Nat) : String := String.ofList (digits n)

/-- How many numbers of 32 bits there are. -/
def wordCount : Nat := 4294967296

/-- The 32 bit number that `cs` writes in decimal digits. Leading zeros are allowed, and so is
one plus sign in front. -/
def word? (cs : List Char) : Option UInt32 :=
  let ds := match cs with
    | '+' :: ds => ds
    | ds => ds
  if ds ≠ [] ∧ ds.all Char.isDigit ∧ value ds < wordCount then some (UInt32.ofNat (value ds))
  else none

end Contracts.Decimal
