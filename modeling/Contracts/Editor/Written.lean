import Contracts.Editor.Diagnostic
import Contracts.Editor.Edit
import Contracts.Editor.Search
import Contracts.Json

/-!
What editors are sent, as JSON, and the edits they send. Fields without a value are left out.
-/

namespace Contracts

/-- The fields of an optional value. -/
def optionalField (name : String) : Option Json → List (String × Json)
  | none => []
  | some value => [(name, value)]

def Point.json (p : Point) : Json :=
  .object [("line", .nat p.line), ("character", .nat p.character)]

def Range.json (r : Range) : Json := .object [("start", r.start.json), ("end", r.stop.json)]

def Severity.code : Severity → Nat
  | .error => 1
  | .warning => 2

def Diagnostic.json (d : Diagnostic) : Json :=
  .object
    [("range", d.range.json), ("severity", .nat d.severity.code), ("source", .text d.reporter.text),
      ("message", .text d.message)]

mutual

def Symbol.json (s : Symbol) : Json :=
  match s with
  | ⟨name, detail, kind, range, selection, children⟩ =>
    .object
      ([("name", .text name)] ++ optionalField "detail" (detail.map .text) ++
        [("kind", .nat kind.code), ("range", range.json), ("selectionRange", selection.json),
          ("children", .list (symbolsJson children))])

def symbolsJson : List Symbol → List Json
  | [] => []
  | s :: ss => s.json :: symbolsJson ss

end

def Hit.json (h : Hit) : Json :=
  .object
    ([("name", .text h.name), ("kind", .nat h.kind.code),
      ("location", .object [("uri", .text h.uri.text), ("range", h.range.json)])] ++
      optionalField "containerName" (h.container.map .text))

/-- A number that fits in 32 bits. -/
def readWord? : Json → Option Nat
  | .int n => if 0 ≤ n ∧ n ≤ 4294967295 then some n.toNat else none
  | _ => none

def readPoint? (j : Json) : Option Point := do
  let line ← j.field? "line" >>= readWord?
  let character ← j.field? "character" >>= readWord?
  pure ⟨line, character⟩

def readRange? (j : Json) : Option Range := do
  let start ← j.field? "start" >>= readPoint?
  let stop ← j.field? "end" >>= readPoint?
  pure ⟨start, stop⟩

/-- An optional field: absent or null, or read by `read`. The outer `none` is a value that
cannot be read. -/
def readOptional? {α : Type} (read : Json → Option α) : Option Json → Option (Option α)
  | none | some .null => some none
  | some j => (read j).map some

def readText? : Json → Option String
  | .text s => some s
  | _ => none

def readList? {α : Type} (read : Json → Option α) : Json → Option (List α)
  | .list items => items.mapM read
  | _ => none

/-- An edit, as an editor writes it. -/
def readEdit? (j : Json) : Option Edit := do
  let range ← readOptional? readRange? (j.field? "range")
  let _ ← readOptional? readWord? (j.field? "rangeLength")
  let text ← j.field? "text" >>= readText?
  pure ⟨range, text⟩

end Contracts
