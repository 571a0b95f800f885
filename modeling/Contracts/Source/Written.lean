import Contracts.Json
import Contracts.Source.Failure

/-!
Trees and syntax errors as JSON.
-/

namespace Contracts

def Span.json (s : Span) : Json :=
  .object [("start", .nat s.start), ("end", .nat s.stop)]

def Position.json (p : Position) : Json :=
  .object [("line", .nat p.line), ("column", .nat p.column)]

def Location.json (l : Location) : Json :=
  .object
    [("absolute_start", .nat l.span.start), ("absolute_end", .nat l.span.stop),
      ("start", l.start.json), ("end", l.stop.json)]

def Version.json (v : Version) : Json :=
  .object
    [("major", .nat v.major.toNat), ("minor", .nat v.minor.toNat),
      ("patch", .ofOption (fun n => .nat n.toNat) v.patch)]

/-- The fields of a name. -/
def DocumentName.fields (n : DocumentName) : List (String × Json) :=
  [("scope", .ofOption .text n.scope), ("name", .text n.name)]

def ProfileId.json (id : ProfileId) : Json :=
  .object (id.name.fields ++ [("version", id.version.json)])

def Safety.json (s : Safety) : Json := .text s.text

def ProfileDefinition.json (d : ProfileDefinition) : Json :=
  let title := ("title", Json.ofOption .text d.title)
  let location := ("location", d.location.json)
  let name := ("name", Json.text d.name)
  match d.item with
  | .usecase safety =>
    .object
      [("kind", .text "UseCase"), name, ("safety", .ofOption Safety.json safety), title, location]
  | .model => .object [("kind", .text "Model"), name, title, location]
  | .field type =>
    .object [("kind", .text "Field"), name, ("type_name", .ofOption .text type), title, location]

def CallSite.json (c : CallSite) : Json :=
  .object [("operation", .text c.operation), ("location", c.location.json)]

def MapDefinition.json (d : MapDefinition) : Json :=
  let kind :=
    match d.item with
    | .map => "Map"
    | .operation => "Operation"
  .object
    [("kind", .text kind), ("name", .text d.name), ("calls", .list (d.calls.map CallSite.json)),
      ("location", d.location.json)]

def ProfileHeader.json (h : ProfileHeader) : Json :=
  .object (h.name.fields ++ [("version", h.version.json), ("location", h.location.json)])

def MapHeader.json (h : MapHeader) : Json :=
  .object
    [("profile", h.profile.json), ("provider", .text h.provider),
      ("variant", .ofOption .text h.variant), ("location", h.location.json)]

def Tree.json : Tree → Json
  | .profile p =>
    .object
      [("kind", .text "Profile"), ("header", p.header.json),
        ("definitions", .list (p.definitions.map ProfileDefinition.json)),
        ("location", p.location.json)]
  | .map m =>
    .object
      [("kind", .text "Map"), ("header", m.header.json),
        ("definitions", .list (m.definitions.map MapDefinition.json)),
        ("location", m.location.json)]

def SyntaxError.json (e : SyntaxError) : Json :=
  .object
    [("span", e.span.json), ("location", e.position.json), ("detail", .text e.detail),
      ("hint", .ofOption .text e.hint), ("category", .text e.category.text)]

end Contracts
