import Contracts.Number.Binary64

/-!
The shortest decimal that identifies a number of 53 binary digits: of all decimals that lie nearer
to it than to any other such number, one with the fewest digits, and of several the nearest.

Decimals with a given last place form a grid. If any point of a grid identifies the number, then
one of the two points next to it does, so it is enough to look at those, on ever finer grids.
-/

namespace Contracts

/-- The number `significand` times ten to the power `exponent`. -/
structure Scientific where
  significand : Nat
  exponent : Int
deriving DecidableEq, Repr

namespace Binary64

/-- The ends of the interval of numbers that are nearest to `x`, in quarters of its last binary
digit. Below a power of two the numbers lie closer together. -/
def ends (x : Binary64) : Nat × Nat :=
  let below := if x.mantissa = mantissaStart ∧ leastExponent < x.exponent then 1 else 2
  (4 * x.mantissa - below, 4 * x.mantissa + 2)

/-- Whether `n` units of a grid lie in the interval of `x`, whose ends have to be multiplied by
`scale` to count in parts of the same size. An even mantissa takes the ends in. -/
def identifies (x : Binary64) (unit scale n : Nat) : Bool :=
  let (low, high) := x.ends
  if x.mantissa % 2 = 0 then low * scale ≤ n * unit ∧ n * unit ≤ high * scale
  else low * scale < n * unit ∧ n * unit < high * scale

/-- The point of the grid of multiples of ten to the power `place` that identifies `x`. Of two
points it is the nearer one, and halfway the even one. -/
def onGrid? (x : Binary64) (place : Int) : Option Scientific :=
  let unit := Nat.pow 10 place.toNat <<< (2 - x.exponent).toNat
  let scale := Nat.pow 10 (-place).toNat <<< (x.exponent - 2).toNat
  let value := 4 * x.mantissa * scale
  let below := value / unit
  match x.identifies unit scale below, x.identifies unit scale (below + 1) with
  | true, true => some ⟨roundQuotient value unit, place⟩
  | true, false => some ⟨below, place⟩
  | false, true => some ⟨below + 1, place⟩
  | false, false => none

/-- The first hit on `n` grids, from the one of `place` on; zero if there is none. -/
def search (x : Binary64) : Nat → Int → Scientific
  | 0, place => ⟨0, place⟩
  | n + 1, place => (x.onGrid? place).getD (search x n (place - 1))

/-- A place of a decimal digit above the first digit of `x`, by at most two. The logarithm of two
to the base ten is slightly less than 0.30103. -/
def topPlace (x : Binary64) : Int := (x.exponent + x.mantissa.log2 + 1) * 30103 / 100000 + 1

/-- The shortest decimal that identifies `x`, which is not zero. Seventeen digits are always
enough. -/
def shortest (x : Binary64) : Scientific := search x 20 (topPlace x)

end Binary64

end Contracts
