import Contracts.Path
import Contracts.Text.Percent
import Contracts.Text.Split

/-!
Uris in normal form, and their relation to paths of files.
-/

namespace Contracts

/-- Where a resource is: a host, with the user in front and the port behind it. -/
structure Authority where
  /-- The user's name and password, with an at sign after them; empty if there is no user. -/
  user : String
  host : String
  port : Option Nat
deriving DecidableEq, Repr

def Authority.text (a : Authority) : String :=
  a.user ++ a.host ++ a.port.elim "" (":" ++ toString ·)

/-- The authority of this machine. -/
def Authority.none : Authority := ⟨"", "", Option.none⟩

/-- A uri in its normal form. A path that begins with a slash is made of segments; any other is a
name without structure. -/
structure Uri where
  scheme : String
  authority : Option Authority
  path : String
  query : Option String
  fragment : Option String
deriving DecidableEq, Repr

namespace Uri

def text (u : Uri) : String :=
  let authority :=
    match u.authority with
    | some a => "//" ++ a.text
    | none => if ['/', '/'].isPrefixOf u.path.toList then "/." else ""
  u.scheme ++ ":" ++ authority ++ u.path ++ u.query.elim "" ("?" ++ ·) ++
    u.fragment.elim "" ("#" ++ ·)

/-- Uris are ordered as their texts are. -/
def before (a b : Uri) : Bool := decide (a.text < b.text)

/-- The segments of a path that has a structure. -/
def segments? (u : Uri) : Option (List String) :=
  match u.path.toList with
  | '/' :: cs => some ((splitAll '/' cs).map String.ofList)
  | _ => none

/-- The last segment of the path; the whole text if the path has no structure. -/
def fileName (u : Uri) : String :=
  match u.segments? with
  | some segments => segments.getLastD ""
  | none => u.text

/-- Whether a path ends in a letter and a colon or bar, which needs a slash after it. -/
def endsInDrive (bytes : List UInt8) : Bool :=
  match bytes.reverse with
  | mark :: letter :: _ :: _ =>
    (mark == 0x3A || mark == 0x7C) && (Char.ofNat letter.toNat).isAlpha && letter < 0x80
  | _ => false

/-- Whether a uri names no host but this machine. -/
def isLocal (u : Uri) : Bool := u.authority.all fun a => a.host == "" || a.host == "localhost"

/-- The path of the file that a uri of this machine names, whatever the scheme. -/
def filePath? (u : Uri) : Option Path :=
  if u.isLocal then
    u.segments?.map fun segments =>
      let bytes := segments.flatMap fun s => Path.slash :: Percent.decode (Utf8.encode s)
      ⟨if endsInDrive bytes then bytes ++ [Path.slash] else bytes⟩
  else none

/-- A component of an absolute path as a segment; the root adds none. -/
def segmentOf? : Path.Component → Option (List Char)
  | .normal name => some (Percent.encodeBytes Percent.inSegment name)
  | .parent => some ['.', '.']
  | _ => none

/-- The uri of a file with an absolute path. -/
def ofPath? (p : Path) : Option Uri :=
  if p.isAbsolute then
    let segments := p.components.filterMap segmentOf?
    let path := if segments.isEmpty then ['/'] else segments.flatMap ('/' :: ·)
    some ⟨"file", some .none, String.ofList path, none, none⟩
  else none

end Uri

/-- The kind of a document by the end of its uri's last segment. -/
def Kind.ofUri? (u : Uri) : Option Kind := do
  let segments ← u.segments?
  let (_, extension) ← splitLast '.' (segments.getLastD "").toList
  Kind.ofExtension? (String.ofList extension)

end Contracts
