import Contracts.Domain.Name
import Contracts.Text.Percent
import Contracts.Uri.Error

/-!
Hosts of uris in normal form: names of domains, and addresses of both widths.
-/

namespace Contracts.Host

/-- A number of an IPv4 address: decimal, octal after a zero, or hexadecimal. -/
def readNumber? (cs : List Char) : Option Nat :=
  let digits (base : Nat) (ds : List Char) : Option Nat :=
    ds.foldl (fun n c => do
      let n ← n
      let b ← Percent.digitValue? (UInt8.ofNat c.toNat)
      if c.toNat < 0x80 ∧ b.toNat < base then some (n * base + b.toNat) else none) (some 0)
  match cs with
  | '0' :: x :: ds => if x = 'x' ∨ x = 'X' then digits 16 ds else digits 8 (x :: ds)
  | [] => none
  | ds => digits 10 ds

/-- Whether the last part of a host is a number, so that the host has to be an IPv4 address. -/
def endsInNumber (parts : List (List Char)) : Bool :=
  match parts.getLast? with
  | none => false
  | some last =>
    (!last.isEmpty && last.all Char.isDigit) ||
      (['0', 'x'].isPrefixOf (last.map Char.toLower) && (readNumber? last).isSome)

/-- The value of an address. Each number but the last is a byte; the last one fills the bytes that
are left. -/
def addressOf? : Nat → List Nat → Option Nat
  | _, [] => none
  | room, [n] => if n < room then some n else none
  | room, n :: ns => do
    let unit := room / 256
    let rest ← addressOf? unit ns
    if n < 256 ∧ 1 < unit then some (n * unit + rest) else none

def addressText (address : Nat) : String :=
  ".".intercalate ([16777216, 65536, 256, 1].map fun unit => toString (address / unit % 256))

/-- The parts of a name between dots; a dot at the end does not count. -/
def parts (host : List Char) : List (List Char) :=
  let parts := splitAll '.' host
  if parts.length > 1 ∧ parts.getLast? = some [] then parts.dropLast else parts

/-- An IPv4 address by its numbers. -/
def readAddress? (parts : List (List Char)) : Option String := do
  let numbers ← parts.mapM readNumber?
  (addressOf? 4294967296 numbers).map addressText

/-- A piece of an IPv6 address: up to four hexadecimal digits. -/
def readPiece? (cs : List Char) : Option Nat :=
  if cs.isEmpty ∨ cs.length > 4 then none else readNumber? ('0' :: 'x' :: cs)

/-- A decimal byte without leading zeros. -/
def readByte? (cs : List Char) : Option Nat :=
  if cs.all Char.isDigit ∧ (cs.head? ≠ some '0' ∨ cs = ['0']) then
    (readNumber? cs).filter (· < 256)
  else none

/-- Two pieces written as the four bytes of an IPv4 address. -/
def readBytes? (cs : List Char) : Option (List Nat) :=
  match (splitAll '.' cs).mapM readByte? with
  | some [a, b, c, d] => some [a * 256 + b, c * 256 + d]
  | _ => none

/-- Pieces with colons between them. The last of an address may be an IPv4 address. -/
def readPieces? (isEnd : Bool) : List (List Char) → Option (List Nat)
  | [] => some []
  | [last] =>
    if isEnd && last.contains '.' then readBytes? last else (readPiece? last).map fun n => [n]
  | cs :: rest => do
    let n ← readPiece? cs
    let ns ← readPieces? isEnd rest
    pure (n :: ns)

/-- The parts before and after the first two colons in a row. -/
def splitGap : List Char → Option (List Char × List Char)
  | ':' :: ':' :: cs => some ([], cs)
  | c :: cs => (splitGap cs).map fun (a, b) => (c :: a, b)
  | [] => none

/-- The eight pieces of an IPv6 address. Two colons in a row stand for pieces that are zero. -/
def readLong? (cs : List Char) : Option (List Nat) := do
  let read (isEnd : Bool) (cs : List Char) : Option (List Nat) :=
    if cs.isEmpty then some [] else readPieces? isEnd (splitAll ':' cs)
  match splitGap cs with
  | some (a, b) =>
    let high ← read false a
    let low ← read true b
    let zeros := 8 - (high.length + low.length)
    if zeros = 0 then none else some (high ++ List.replicate zeros 0 ++ low)
  | none => (read true cs).filter (·.length == 8)

/-- Where the longest run of zeros begins, the first of several, and its length. -/
def longestZeros (ns : List Nat) : Nat × Nat :=
  (List.range ns.length).foldl (fun best i =>
    let length := ((ns.drop i).takeWhile (· == 0)).length
    if best.2 < length then (i, length) else best) (0, 0)

/-- An IPv6 address in its shortest form. One zero alone is written. -/
def longText (ns : List Nat) : String :=
  let join (ns : List Nat) := ":".intercalate (ns.map fun n => String.ofList (Nat.toDigits 16 n))
  let (start, length) := longestZeros ns
  if length < 2 then join ns else join (ns.take start) ++ "::" ++ join (ns.drop (start + length))

/-- An IPv6 address in brackets; `none` if the host does not begin with a bracket. -/
def readBracketed? : List Char → Option (Except Uri.Error String)
  | '[' :: cs =>
    let pieces? := if cs.getLast? = some ']' then readLong? cs.dropLast else none
    some (match pieces? with
      | some pieces => .ok ("[" ++ longText pieces ++ "]")
      | none => .error .badLongAddress)
  | _ => none

/-- A host of a scheme that needs names. Names may be percent-encoded. -/
def readName (cs : List Char) : Except Uri.Error String := do
  match readBracketed? cs with
  | some address => address
  | none =>
    let decoded := Utf8.decode? (Percent.decode (Utf8.encode (String.ofList cs)))
    match decoded.bind fun text => Domain.normalize? text.toList with
    | none => .error .badName
    | some [] => .error .noHost
    | some name =>
      if endsInNumber (parts name) then (readAddress? (parts name)).elim (.error .badAddress) .ok
      else .ok (String.ofList name)

/-- A host of any other scheme. -/
def read (cs : List Char) : Except Uri.Error String :=
  match readBracketed? cs with
  | some address => address
  | none =>
    if cs.any fun c => c.toNat == 0 || " #/:<>?@[\\]^|".toList.contains c then
      .error .badHostCharacter
    else .ok (String.ofList (Percent.encode Percent.isControl cs))

/-- The host, and what stands behind the first colon outside of brackets, if there is one. -/
def splitPort (inBrackets : Bool) : List Char → List Char × Option (List Char)
  | [] => ([], none)
  | c :: cs =>
    if c = ':' ∧ !inBrackets then ([], some cs)
    else
      let inBrackets := if c = '[' then true else if c = ']' then false else inBrackets
      let (host, port) := splitPort inBrackets cs
      (c :: host, port)

end Contracts.Host
