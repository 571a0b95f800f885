import Contracts.Number.Numeral
import Contracts.Number.Shortest
import Contracts.Text.Decimal

/-!
JSON values and their two written forms: on one line, and indented by two spaces. Objects keep
the order of their fields.
-/

namespace Contracts

inductive Json where
  | null
  | bool (value : Bool)
  | int (value : Int)
  /-- A number that is written with a point or an exponent. -/
  | real (value : Binary64)
  | text (value : String)
  | list (items : List Json)
  | object (fields : List (String × Json))
deriving Inhabited, BEq, Repr

namespace Json

/-- The value of a field; of several with one name the last counts. -/
def field? (name : String) : Json → Option Json
  | .object fields => (fields.reverse.find? (·.1 == name)).map (·.2)
  | _ => none

def ofOption {α : Type} (f : α → Json) : Option α → Json
  | none => .null
  | some a => f a

def nat (n : Nat) : Json := .int n

/-- Four hexadecimal digits of a number below 65536. -/
def hex4 (n : Nat) : List Char :=
  let ds := Nat.toDigits 16 n
  List.replicate (4 - ds.length) '0' ++ ds

/-- A character inside a JSON string. Only quotes, backslashes and characters below the space
are escaped. -/
def escape (c : Char) : List Char :=
  match c.toNat with
  | 0x08 => ['\\', 'b']
  | 0x09 => ['\\', 't']
  | 0x0A => ['\\', 'n']
  | 0x0C => ['\\', 'f']
  | 0x0D => ['\\', 'r']
  | 0x22 => ['\\', '"']
  | 0x5C => ['\\', '\\']
  | n => if n < 0x20 then '\\' :: 'u' :: hex4 n else [c]

def quote (s : String) : String :=
  "\"" ++ String.ofList (s.toList.flatMap escape) ++ "\""

/-- The value of a numeral: a whole number if it is one of 64 bits. -/
def ofNumeral (n : Numeral) : Json :=
  match n.toInt? with
  | some value => .int value
  | none => .real n.toBinary64

/-- The least and the greatest place of a first digit at which numbers are written out. -/
def writtenOut : Int × Int := (-5, 15)

/-- A decimal with at least one digit behind the point, or with an exponent if it is very small or
very great. -/
def scientificText (d : Scientific) : List Char :=
  let digits := Decimal.digits d.significand
  let first : Int := d.exponent + digits.length - 1
  let whole := (first + 1).toNat
  if writtenOut.1 ≤ first ∧ first ≤ writtenOut.2 then
    if first < 0 then '0' :: '.' :: List.replicate (-first - 1).toNat '0' ++ digits
    else if digits.length ≤ whole then
      digits ++ List.replicate (whole - digits.length) '0' ++ ['.', '0']
    else digits.take whole ++ '.' :: digits.drop whole
  else
    let fraction := digits.drop 1
    digits.take 1 ++ (if fraction.isEmpty then [] else '.' :: fraction) ++
      'e' :: (if first < 0 then '-' else '+') :: Decimal.digits first.natAbs

/-- A number by the shortest decimal that identifies it. -/
def realText (x : Binary64) : String :=
  let digits := if x.mantissa = 0 then ['0', '.', '0'] else scientificText x.shortest
  String.ofList (if x.isNegative then '-' :: digits else digits)

mutual

/-- The value on one line, without spaces. -/
def compact : Json → String
  | .null => "null"
  | .bool b => if b then "true" else "false"
  | .int n => toString n
  | .real x => realText x
  | .text s => quote s
  | .list items => "[" ++ compactItems items ++ "]"
  | .object fields => "\x7b" ++ compactFields fields ++ "\x7d"

def compactItems : List Json → String
  | [] => ""
  | [item] => compact item
  | item :: next :: items => compact item ++ "," ++ compactItems (next :: items)

def compactFields : List (String × Json) → String
  | [] => ""
  | [(name, value)] => quote name ++ ":" ++ compact value
  | (name, value) :: next :: fields =>
    quote name ++ ":" ++ compact value ++ "," ++ compactFields (next :: fields)

end

/-- A new line, indented by `depth` steps. -/
def newline (depth : Nat) : String :=
  "\n" ++ String.ofList (List.replicate (2 * depth) ' ')

mutual

/-- The value with one item or field on each line, at the given depth. -/
def prettyAt (depth : Nat) : Json → String
  | .list [] => "[]"
  | .list (item :: items) =>
    "[" ++ prettyItems (depth + 1) (item :: items) ++ newline depth ++ "]"
  | .object [] => "\x7b\x7d"
  | .object (field :: fields) =>
    "\x7b" ++ prettyFields (depth + 1) (field :: fields) ++ newline depth ++ "\x7d"
  | .null => "null"
  | .bool b => if b then "true" else "false"
  | .int n => toString n
  | .real x => realText x
  | .text s => quote s

def prettyItems (depth : Nat) : List Json → String
  | [] => ""
  | [item] => newline depth ++ prettyAt depth item
  | item :: next :: items =>
    newline depth ++ prettyAt depth item ++ "," ++ prettyItems depth (next :: items)

def prettyFields (depth : Nat) : List (String × Json) → String
  | [] => ""
  | [(name, value)] => newline depth ++ quote name ++ ": " ++ prettyAt depth value
  | (name, value) :: next :: fields =>
    newline depth ++ quote name ++ ": " ++ prettyAt depth value ++ "," ++
      prettyFields depth (next :: fields)

end

def pretty (value : Json) : String := prettyAt 0 value

end Json

end Contracts
