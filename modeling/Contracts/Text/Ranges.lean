import Contracts.Text.Split

/-!
Sets of characters given by a sorted table of ranges of code points, and tables kept as texts of
hexadecimal numbers.
-/

namespace Contracts

/-- Whether a range of `table` holds `n`, both ends included. The ranges increase, so the
search stops at the first one that starts after `n`. -/
def inRanges (n : Nat) : List (Nat × Nat) → Bool
  | [] => false
  | (low, high) :: table => low ≤ n && (n ≤ high || inRanges n table)

/-- The number that hexadecimal digits write, where only capitals serve as digits. -/
def readNumber (digits : List Char) : Nat :=
  digits.foldl (fun n c =>
    n * 16 + (if c.isDigit then c.toNat - '0'.toNat else c.toNat + 10 - 'A'.toNat)) 0

/-- The words of a table, between blanks and line ends. -/
def readWords (table : String) : List (List Char) :=
  (splitAll ' ' (table.toList.map fun c => if c = '\n' then ' ' else c)).filter (!·.isEmpty)

def readNumbers (table : String) : List Nat := (readWords table).map readNumber

/-- Rows of numbers with dots between them. -/
def readRows (table : String) : List (List Nat) :=
  (readWords table).map fun row => (splitAll '.' row).map readNumber

/-- Ranges with a dash between their ends, or single numbers. -/
def readRanges (table : String) : List (Nat × Nat) :=
  (readWords table).map fun range =>
    match splitFirst '-' range with
    | some (low, high) => (readNumber low, readNumber high)
    | none => (readNumber range, readNumber range)

end Contracts
