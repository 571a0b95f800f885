import Contracts.Protocol.Mismatch
import Contracts.Uri.Reading

/-!
Shapes of the JSON values that editors send, and the reading of a value by its shape. A record may
be given by the names of its fields or as a list of their values; reading gives the names back.
-/

namespace Contracts

inductive Shape where
  | any
  | bool
  | text
  /-- A number of 32 bits without a sign. -/
  | word
  /-- A number of 32 bits with a sign. -/
  | int
  /-- Any number. -/
  | real
  | uri
  /-- One of some words. -/
  | variant (names : List String)
  /-- Nothing but this value. -/
  | exactly (value : Json)
  | list (item : Shape)
  /-- A list of two values of one shape. -/
  | pair (item : Shape)
  /-- An object with values of one shape. -/
  | map (value : Shape)
  /-- An object with values of one shape, under uris. -/
  | uriMap (value : Shape)
  /-- The value, or null. A field of this shape may be left out. -/
  | option (value : Shape)
  /-- A field that may be left out, also at the end of a list. -/
  | usual (value : Shape)
  /-- A truth value stands for the value. -/
  | flagOr (value : Shape)
  | oneOf (name : String) (shapes : List Shape)
  | record (name : String) (fields : List (String × Shape))
  /-- A record that takes its first fields for itself and leaves others to the parts; it cannot be
  given as a list. The part without a name takes all fields that are left. -/
  | extended (name : String) (fields : List (String × Shape))
      (parts : List (List (String × Shape)))
  /-- A record that takes further fields of one shape. -/
  | openRecord (name : String) (fields : List (String × Shape)) (others : Shape)

namespace Shape

/-- Whether a field of this shape may be left out. -/
def canLack : Shape → Bool
  | .option _ | .usual _ => true
  | _ => false

/-- Whether a list may end before a field of this shape. -/
def canEnd : Shape → Bool
  | .usual _ => true
  | _ => false

/-- A whole number between `low` and `high`. -/
def readWhole (expected : String) (low high : Int) : Json → Except Mismatch Json
  | .int n => if low ≤ n ∧ n ≤ high then .ok (.int n) else .error (.wrongValue (.int n) expected)
  | j => .error (.wrongType j expected)

def readUri : Json → Except Mismatch Json
  | .text s =>
    match Uri.ofText s with
    | .ok _ => .ok (.text s)
    | .error e => .error (.badUri e s)
  | j => .error (.wrongType j "a string representing an URL")

/-- A word, alone or as the only key of an object that holds null. -/
def readVariant (names : List String) : Json → Except Mismatch Json
  | .text s => if names.contains s then .ok (.text s) else .error (.unknownVariant s names)
  | .object [(s, value)] =>
    if !names.contains s then .error (.unknownVariant s names)
    else
      match value with
      | .null => .ok (.text s)
      | value => .error (.wrongType value "unit")
  | .object fields => .error (.wrongValue (.object fields) "map with a single key")
  | j => .error (.wrongType j "string or map")

def counted (n : Nat) (thing : String) : String :=
  if n = 1 then s!"1 {thing}" else s!"{n} {thing}s"

/-- The fields of an object in the order of their names. -/
def sorted (fields : List (String × Json)) : List (String × Json) :=
  fields.mergeSort fun a b => decide (a.1 ≤ b.1)

/-- The first of the fields that the object must not lack and lacks. -/
def checkMissing (fields : List (String × Shape)) (found : List (String × Json)) :
    Except Mismatch Unit :=
  match fields.find? fun (name, shape) => !shape.canLack && !found.any (·.1 == name) with
  | some (name, _) => .error (.missing name)
  | none => .ok ()

def hasField (fields : List (String × Shape)) (name : String) : Bool := fields.any (·.1 == name)

/-- More values than fields. A value that was set aside before it was read counts differently. -/
def tooLong (aside : Bool) (values fields : Nat) : Mismatch :=
  .wrongLength values
    (if aside then counted fields "element" ++ " in sequence" else "fewer elements in array")

/-- Reads the fields of an object one after the other, and passes over those that `read?` does not
know. -/
def collect (read? : String → Json → Option (Except Mismatch Json)) :
    List (String × Json) → Except Mismatch (List (String × Json))
  | [] => .ok []
  | (name, j) :: found =>
    match read? name j with
    | none => collect read? found
    | some value => do
      let value ← value
      let named ← collect read? found
      .ok ((name, value) :: named)

mutual

/-- Reads a value. Values are set aside where several shapes may claim them. -/
def read (aside : Bool) : Shape → Json → Except Mismatch Json
  | .any, j => .ok j
  | .bool, j =>
    match j with
    | .bool b => .ok (.bool b)
    | j => .error (.wrongType j "a boolean")
  | .text, j =>
    match j with
    | .text s => .ok (.text s)
    | j => .error (.wrongType j "a string")
  | .word, j => readWhole "u32" 0 4294967295 j
  | .int, j => readWhole "i32" (-2147483648) 2147483647 j
  | .real, j =>
    match j with
    | .int n => .ok (.int n)
    | .real x => .ok (.real x)
    | j => .error (.wrongType j "f32")
  | .uri, j => readUri j
  | .variant names, j => readVariant names j
  | .exactly value, j =>
    if j == value then .ok j else .error (.wrongValue j value.description)
  | .list item, j =>
    match j with
    | .list items => (items.mapM fun j => read aside item j).map .list
    | j => .error (.wrongType j "a sequence")
  | .pair item, j =>
    match j with
    | .list [first, second] => do
      let first ← read aside item first
      let second ← read aside item second
      .ok (.list [first, second])
    | .list items => .error (.wrongLength items.length "an array of length 2")
    | j => .error (.wrongType j "an array of length 2")
  | .map value, j =>
    match j with
    | .object fields =>
      (collect (fun _ j => some (read aside value j)) (sorted fields)).map .object
    | j => .error (.wrongType j "a map")
  | .uriMap value, j =>
    match j with
    | .object fields =>
      let readEntry (name : String) (j : Json) : Except Mismatch Json := do
        let _ ← readUri (.text name)
        read aside value j
      (collect (fun name j => some (readEntry name j)) (sorted fields)).map .object
    | j => .error (.wrongType j "map")
  | .option value, j =>
    match j with
    | .null => .ok .null
    | j => read aside value j
  | .usual value, j => read aside value j
  | .flagOr value, j =>
    match j with
    | .bool b => .ok (.bool b)
    | j => read aside value j
  | .oneOf name shapes, j => readFirst name shapes j
  | .record name fields, j =>
    match j with
    | .list items => do
      let expected := "struct " ++ name ++ " with " ++ counted fields.length "element"
      let named ← readItems aside expected 0 fields items
      if fields.length < items.length then .error (tooLong aside items.length fields.length)
      else .ok (.object named)
    | .object found => do
      let named ← collect (fun name j => readField aside name fields j) (sorted found)
      checkMissing fields found
      .ok (.object named)
    | j => .error (.wrongType j s!"struct {name}")
  | .extended name fields parts, j =>
    match j with
    | .object found => do
      let named ← collect (fun name j => readField aside name fields j) (sorted found)
      checkMissing fields found
      let rest := found.filter fun (name, _) => !hasField fields name
      let more ← readParts parts (sorted rest)
      .ok (.object (named ++ more))
    | j => .error (.wrongType j s!"struct {name}")
  | .openRecord name fields others, j =>
    match j with
    | .object found => do
      let named ← collect (fun name j => readField aside name fields j) (sorted found)
      checkMissing fields found
      let rest := found.filter fun (name, _) => !hasField fields name
      let more ← collect (fun _ j => some (read true others j)) (sorted rest)
      .ok (.object (named ++ more))
    | j => .error (.wrongType j s!"struct {name}")

/-- Reads a value by the first shape that fits. -/
def readFirst (name : String) : List Shape → Json → Except Mismatch Json
  | [], _ => .error (.noneFits name)
  | shape :: shapes, j =>
    match read true shape j with
    | .ok j => .ok j
    | .error _ => readFirst name shapes j

/-- Reads the value of a field; `none` if no field has the name. -/
def readField (aside : Bool) (name : String) :
    List (String × Shape) → Json → Option (Except Mismatch Json)
  | [], _ => none
  | (other, shape) :: fields, j =>
    if other = name then some (read aside shape j) else readField aside name fields j

/-- Reads the values of the fields from a list, the first of them at the place `i`. -/
def readItems (aside : Bool) (expected : String) (i : Nat) :
    List (String × Shape) → List Json → Except Mismatch (List (String × Json))
  | [], _ => .ok []
  | (name, shape) :: fields, j :: items => do
    let value ← read aside shape j
    let named ← readItems aside expected (i + 1) fields items
    .ok ((name, value) :: named)
  | (_, shape) :: fields, [] =>
    if shape.canEnd then readItems aside expected (i + 1) fields []
    else .error (.wrongLength i expected)

/-- Reads the parts of a record, each from the fields that those before it left over. -/
def readParts :
    List (List (String × Shape)) → List (String × Json) → Except Mismatch (List (String × Json))
  | [], _ => .ok []
  | fields :: parts, found => do
    let named ← collect (fun name j => readField true name fields j) found
    checkMissing fields found
    let more ← readParts parts (found.filter fun (name, _) => !hasField fields name)
    .ok (named ++ more)

end

end Shape

end Contracts
