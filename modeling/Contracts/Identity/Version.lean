import Contracts.Text.Decimal
import Contracts.Text.Split

/-!
Versions of contracts, written `major.minor` or `major.minor.patch`.
-/

namespace Contracts

structure Version where
  major : UInt32
  minor : UInt32
  patch : Option UInt32
deriving DecidableEq, Repr

namespace Version

/-- Reads two or three numbers with dots between them. -/
def ofText? (text : String) : Option Version :=
  match splitAll '.' text.toList with
  | [major, minor] => do
    let major ← Decimal.word? major
    let minor ← Decimal.word? minor
    pure ⟨major, minor, none⟩
  | [major, minor, patch] => do
    let major ← Decimal.word? major
    let minor ← Decimal.word? minor
    let patch ← Decimal.word? patch
    pure ⟨major, minor, some patch⟩
  | _ => none

/-- The major and minor numbers alone, which decide compatibility. -/
def shortText (v : Version) : String :=
  Decimal.text v.major.toNat ++ "." ++ Decimal.text v.minor.toNat

def text (v : Version) : String :=
  match v.patch with
  | none => v.shortText
  | some patch => v.shortText ++ "." ++ Decimal.text patch.toNat

end Version

end Contracts
