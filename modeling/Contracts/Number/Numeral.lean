import Contracts.Number.Binary64

/-!
The reading of decimal numerals as numbers of 53 binary digits.

The digits are gathered in a whole number of 64 bits, and those that do not fit any more are
dropped. The number is then multiplied by a power of ten or divided by one. So up to three
roundings take place, and the result may be a neighbour of the number nearest to the numeral.
-/

namespace Contracts

/-- A decimal numeral, by the values of its digits. -/
structure Numeral where
  isNegative : Bool
  whole : List Nat
  /-- The digits behind the point, if there is one. -/
  fraction : Option (List Nat)
  exponent : Option Int
deriving DecidableEq, Repr

namespace Numeral

/-- The number that the digits write. -/
def valueOf (digits : List Nat) : Nat := digits.foldl (fun n d => n * 10 + d) 0

/-- How many whole numbers of 64 bits there are. -/
def longCount : Nat := 18446744073709551616

/-- Appends digits to a whole number as long as 64 bits hold it, and tells how many. -/
def gather (n : Nat) : List Nat → Nat × Nat
  | [] => (n, 0)
  | d :: ds =>
    if n * 10 + d < longCount then
      let (n, count) := gather (n * 10 + d) ds
      (n, count + 1)
    else (n, 0)

/-- The greatest power of ten that is near to a number of 53 binary digits. -/
def greatestPower : Nat := 308

def powerOfTen (n : Nat) : Binary64 := .ofNat (Nat.pow 10 n)

/-- Divides by ten to the power `n`, in steps if need be. -/
def shrink (x : Binary64) (n : Nat) : Binary64 :=
  if n ≤ greatestPower then x.div (powerOfTen n)
  else shrink (x.div (powerOfTen greatestPower)) (n - greatestPower)
termination_by n
decreasing_by simp only [greatestPower] at *; omega

/-- The whole number `n` times ten to the power `exponent`. -/
def scale (n : Nat) : Int → Binary64
  | .ofNat e => (Binary64.ofNat n).mul (powerOfTen e)
  | .negSucc e => shrink (.ofNat n) (e + 1)

/-- The number that a numeral is read as. -/
def toBinary64 (n : Numeral) : Binary64 :=
  let (kept, taken) := gather 0 n.whole
  let (kept, places) := gather kept (n.fraction.getD [])
  let dropped := n.whole.length - taken
  { scale kept (dropped - places + n.exponent.getD 0) with isNegative := n.isNegative }

/-- The whole number of 64 bits, with a sign or without, that a numeral is. A numeral with a
fraction or an exponent is none, and neither is minus zero. -/
def toInt? (n : Numeral) : Option Int :=
  let value := valueOf n.whole
  if n.fraction.isSome ∨ n.exponent.isSome then none
  else if n.isNegative then
    if value ≠ 0 ∧ 2 * value ≤ longCount then some (-value) else none
  else if value < longCount then some value
  else none

end Numeral

end Contracts
