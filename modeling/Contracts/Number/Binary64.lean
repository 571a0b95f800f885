/-!
Numbers of 53 binary digits, in exact arithmetic: products and quotients are worked out in whole
numbers and rounded once, to the nearest number and halfway to the even one.
-/

namespace Contracts

/-- The whole number nearest to `num / den`; halfway between two it is the even one. -/
def roundQuotient (num den : Nat) : Nat :=
  let floor := num / den
  let rest := 2 * (num % den)
  if rest < den ∨ (rest = den ∧ floor % 2 = 0) then floor else floor + 1

/-- The number `mantissa` times two to the power `exponent`, or its opposite. Zero has a sign. -/
structure Binary64 where
  isNegative : Bool
  mantissa : Nat
  exponent : Int
deriving DecidableEq, Inhabited, Repr

namespace Binary64

/-- Mantissas lie below this number, the 53rd power of two. -/
def mantissaEnd : Nat := 9007199254740992

/-- Mantissas below this number go with the least exponent only. -/
def mantissaStart : Nat := 4503599627370496

def leastExponent : Int := -1074

/-- The quotient of `num` and `den` in units of two to the power `exponent`, as another one. -/
def inUnits (num den : Nat) (exponent : Int) : Nat × Nat :=
  (num <<< (-exponent).toNat, den <<< exponent.toNat)

/-- The exponent at which a quotient has 53 digits before the point, or else the least one. The
quotient lies between two powers of two that the lengths of `num` and `den` tell. -/
def exponentOf (num den : Nat) : Int :=
  let exponent : Int := num.log2 - den.log2 - 53
  let (n, d) := inUnits num den exponent
  max leastExponent (if n / d < mantissaEnd then exponent else exponent + 1)

/-- The number nearest to `num / den`. -/
def ofQuotient (isNegative : Bool) (num den : Nat) : Binary64 :=
  if num = 0 ∨ den = 0 then ⟨isNegative, 0, leastExponent⟩
  else
    let exponent := exponentOf num den
    let (n, d) := inUnits num den exponent
    let mantissa := roundQuotient n d
    if mantissa < mantissaEnd then ⟨isNegative, mantissa, exponent⟩
    else ⟨isNegative, mantissaStart, exponent + 1⟩

def ofNat (n : Nat) : Binary64 := ofQuotient false n 1

def mul (x y : Binary64) : Binary64 :=
  let (n, d) := inUnits (x.mantissa * y.mantissa) 1 (-(x.exponent + y.exponent))
  ofQuotient (x.isNegative != y.isNegative) n d

def div (x y : Binary64) : Binary64 :=
  let (n, d) := inUnits x.mantissa y.mantissa (y.exponent - x.exponent)
  ofQuotient (x.isNegative != y.isNegative) n d

end Binary64

end Contracts
