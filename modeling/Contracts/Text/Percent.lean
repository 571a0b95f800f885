import Contracts.Text.Utf8

/-!
Percent encoding: characters outside a set are written as the hexadecimal digits of their bytes.
-/

namespace Contracts.Percent

def hexDigit (n : Nat) : Char :=
  Char.ofNat (if n < 10 then '0'.toNat + n else 'A'.toNat + (n - 10))

/-- A byte as a percent sign and two digits. -/
def escape (b : UInt8) : List Char := ['%', hexDigit (b.toNat / 16), hexDigit (b.toNat % 16)]

/-- Encodes the ASCII characters that `escaped` names, and all that is not ASCII. -/
def encodeBytes (escaped : Char → Bool) (bs : List UInt8) : List Char :=
  bs.flatMap fun b =>
    let c := Char.ofNat b.toNat
    if 0x80 ≤ b ∨ escaped c then escape b else [c]

def encode (escaped : Char → Bool) (cs : List Char) : List Char :=
  encodeBytes escaped (Utf8.encode (String.ofList cs))

def digitValue? (b : UInt8) : Option UInt8 :=
  if 0x30 ≤ b ∧ b ≤ 0x39 then some (b - 0x30)
  else if 0x41 ≤ b ∧ b ≤ 0x46 then some (b - 0x37)
  else if 0x61 ≤ b ∧ b ≤ 0x66 then some (b - 0x57)
  else none

/-- Decodes every percent sign with two digits after it; others stand for themselves. -/
def decode : List UInt8 → List UInt8
  | 0x25 :: high :: low :: bs =>
    match digitValue? high, digitValue? low with
    | some h, some l => (h * 16 + l) :: decode bs
    | _, _ => 0x25 :: decode (high :: low :: bs)
  | b :: bs => b :: decode bs
  | [] => []

/-- Controls and DEL. -/
def isControl (c : Char) : Bool := c.toNat < 0x20 || c.toNat == 0x7F

def inFragment (c : Char) : Bool := isControl c || " \"<>`".toList.contains c

def inPath (c : Char) : Bool := inFragment c || "#?\x7b\x7d".toList.contains c

/-- What is escaped in a single segment of a file's path. -/
def inSegment (c : Char) : Bool := inPath c || "/%\\".toList.contains c

def inQuery (special : Bool) (c : Char) : Bool :=
  isControl c || " \"#<>".toList.contains c || (special && c.toNat == 0x27)

def inUserInfo (c : Char) : Bool := inPath c || "/:;=@[\\]^|".toList.contains c

end Contracts.Percent
