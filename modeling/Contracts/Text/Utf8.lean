/-!
UTF-8: characters as bytes, and bytes as characters. Bytes that are not UTF-8 are either refused
or shown, each ill-formed stretch as one replacement character.
-/

namespace Contracts.Utf8

/-- The bytes of a text. -/
def encode (s : String) : List UInt8 := s.toUTF8.toList

/-- The continuation bytes that a first byte asks for, with the least and the greatest value of
the next byte. -/
def lead? (b : UInt8) : Option (Nat × UInt8 × UInt8) :=
  if b < 0x80 then some (0, 0x80, 0xBF)
  else if 0xC2 ≤ b ∧ b ≤ 0xDF then some (1, 0x80, 0xBF)
  else if b = 0xE0 then some (2, 0xA0, 0xBF)
  else if b = 0xED then some (2, 0x80, 0x9F)
  else if 0xE1 ≤ b ∧ b ≤ 0xEF then some (2, 0x80, 0xBF)
  else if b = 0xF0 then some (3, 0x90, 0xBF)
  else if 0xF1 ≤ b ∧ b ≤ 0xF3 then some (3, 0x80, 0xBF)
  else if b = 0xF4 then some (3, 0x80, 0x8F)
  else none

/-- The bits that a first byte contributes, for the number of bytes that follow it. -/
def leadBits (more : Nat) (b : UInt8) : Nat :=
  match more with
  | 0 => b.toNat
  | 1 => b.toNat % 0x20
  | 2 => b.toNat % 0x10
  | _ => b.toNat % 8

/-- Reads `more` continuation bytes, of which the next lies between `low` and `high`, on top of
the bits read so far. Answers with the character, if there is one, and the bytes after it. -/
def tail (more bits : Nat) (low high : UInt8) (bs : List UInt8) : Option Char × List UInt8 :=
  match more, bs with
  | 0, bs => (some (Char.ofNat bits), bs)
  | _ + 1, [] => (none, [])
  | more + 1, b :: bs =>
    if low ≤ b ∧ b ≤ high then tail more (bits * 64 + b.toNat % 64) 0x80 0xBF bs
    else (none, b :: bs)

theorem length_tail_le (more bits : Nat) (low high : UInt8) (bs : List UInt8) :
    (tail more bits low high bs).2.length ≤ bs.length := by
  induction more generalizing bits low high bs with
  | zero => simp [tail]
  | succ more ih =>
    cases bs with
    | nil => simp [tail]
    | cons b bs =>
      simp only [tail]
      split
      · exact Nat.le_succ_of_le (ih ..)
      · exact Nat.le_refl _

/-- The characters of `bs`, with `none` for each ill-formed stretch. -/
def decodeParts : List UInt8 → List (Option Char)
  | [] => []
  | b :: bs =>
    match lead? b with
    | none => none :: decodeParts bs
    | some (more, low, high) =>
      have := length_tail_le more (leadBits more b) low high bs
      (tail more (leadBits more b) low high bs).1 ::
        decodeParts (tail more (leadBits more b) low high bs).2
termination_by bs => bs.length
decreasing_by all_goals simp_wf <;> omega

/-- The text of `bs`, if it is UTF-8. -/
def decode? (bs : List UInt8) : Option String :=
  ((decodeParts bs).mapM id).map String.ofList

/-- The text of `bs`, where an ill-formed stretch shows as U+FFFD. -/
def display (bs : List UInt8) : String :=
  String.ofList ((decodeParts bs).map fun c => c.getD (Char.ofNat 0xFFFD))

end Contracts.Utf8
