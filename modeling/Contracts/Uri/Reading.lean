import Contracts.Uri.Basic
import Contracts.Uri.Host

/-!
Reading a uri into its normal form: the scheme and the host in lowercase, dots in the path
resolved, and all characters that may not stand in a uri percent-encoded. Tabs and line ends do
not count, but one behind a drive letter ends its segment.
-/

namespace Contracts.Uri

/-- Schemes whose uris always have a host. -/
def isWeb (scheme : String) : Bool := ["http", "https", "ws", "wss", "ftp"].contains scheme

def isSpecial (scheme : String) : Bool := isWeb scheme || scheme == "file"

def defaultPort? (scheme : String) : Option Nat :=
  if scheme = "http" ∨ scheme = "ws" then some 80
  else if scheme = "https" ∨ scheme = "wss" then some 443
  else if scheme = "ftp" then some 21
  else none

/-- Characters that do not count in a uri. -/
def isBreak (c : Char) : Bool := c == '\t' || c == '\n' || c == '\r'

def dropBreaks (cs : List Char) : List Char := cs.filter (!isBreak ·)

/-- The scheme in front of the first colon, in lowercase, and the text after it. -/
def readScheme? (cs : List Char) : Option (String × List Char) := do
  let (name, rest) ← splitFirst ':' cs
  let name := dropBreaks name
  let c ← name.head?
  if c.isAlpha && name.all (fun c => c.isAlphanum || c == '+' || c == '-' || c == '.') then
    some (String.ofList (name.map Char.toLower), rest)
  else none

def isSlash (special : Bool) (c : Char) : Bool := c == '/' || (special && c == '\\')

def isDriveMark (c : Char) : Bool := c == ':' || c == '|'

/-- Whether a segment is a letter with a colon or bar. -/
def isDrive : List Char → Bool
  | [letter, mark] => letter.isAlpha && isDriveMark mark
  | _ => false

/-- Whether a segment is a drive letter, or one with a backslash behind it. The way up never
leaves such a segment. -/
def holdsDrive (segment : List Char) : Bool :=
  isDrive (segment.take 2) && (segment.drop 2).head?.all (· == '\\')

def isSingleDot (segment : List Char) : Bool :=
  segment == ['.'] || segment.map Char.toLower == "%2e".toList

def isDoubleDot (segment : List Char) : Bool :=
  ["..", ".%2e", "%2e.", "%2e%2e"].any (·.toList == segment.map Char.toLower)

/-- The stretches between slashes. -/
def cutSegments (special : Bool) : List Char → List (List Char)
  | [] => [[]]
  | c :: cs =>
    if isSlash special c then [] :: cutSegments special cs
    else
      match cutSegments special cs with
      | [] => [[c]]
      | s :: ss => (c :: s) :: ss

/-- A letter and a colon that a break parts from the rest of their segment, and that rest. -/
def splitDrive? (segment : List Char) : Option (List Char × List Char) := do
  let (letter, rest) ← splitFirst ':' segment
  let b ← rest.head?
  let drive := dropBreaks letter ++ [':']
  let rest' := dropBreaks rest
  if isBreak b && isDrive drive && !rest'.isEmpty then some (drive, rest') else none

/-- The segments of a path. -/
structure Route where
  /-- Last segment first. -/
  segments : List (List Char)
  /-- A drive letter is the first segment, so that the path belongs to this machine. -/
  isLocal : Bool

/-- Resolves the dots of `rest` behind the segments of `route`. The path of a file may begin with a
drive letter. -/
def resolve (file : Bool) (route : Route) : List (List Char) → Route
  | [] => route
  | segment :: rest =>
    match if file && route.segments.isEmpty then splitDrive? segment else none with
    | some (drive, name) =>
      let segments := [Percent.encode Percent.inPath name, drive]
      resolve file { route with segments } rest
    | none =>
      let segment := dropBreaks segment
      let close (segments : List (List Char)) :=
        if rest.isEmpty then [] :: segments else segments
      if isDoubleDot segment then
        let up := if route.segments.head?.any holdsDrive then route.segments
          else route.segments.tail
        resolve file { route with segments := close up } rest
      else if isSingleDot segment then
        resolve file { route with segments := close route.segments } rest
      else if file && route.segments.isEmpty && isDrive segment then
        resolve file ⟨[segment.take 1 ++ [':']], true⟩ rest
      else
        let segments := Percent.encode Percent.inPath segment :: route.segments
        resolve file { route with segments } rest

/-- The text of a path, and whether it belongs to this machine. -/
def routeText (file : Bool) (segments : List (List Char)) : String × Bool :=
  let route := resolve file ⟨[], false⟩ segments
  let path := route.segments.reverse.flatMap ('/' :: ·)
  (String.ofList (if file then '/' :: path.dropWhile (· == '/') else path), route.isLocal)

/-- What stands behind a slash, if `cs` begins with one, breaks apart. -/
def afterSlash? (special : Bool) (cs : List Char) : Option (List Char) :=
  match cs.dropWhile isBreak with
  | c :: rest => if isSlash special c then some rest else none
  | [] => none

/-- The path that `cs` writes, with a slash in front. -/
def readPath (scheme : String) (cs : List Char) : String :=
  let special := isSpecial scheme
  (routeText false (cutSegments special ((afterSlash? special cs).getD cs))).1

/-- A port, left out where it is the usual one of the scheme. -/
def readPort (scheme : String) (cs : List Char) : Except Error (Option Nat) :=
  let n := cs.foldl (fun n c => n * 10 + (c.toNat - '0'.toNat)) 0
  if !cs.all Char.isDigit ∨ n > 65535 then .error .badPort
  else .ok (if cs.isEmpty ∨ defaultPort? scheme = some n then none else some n)

/-- A user's name and password, with an at sign after them. -/
def readUser (cs : List Char) : String :=
  let encode (cs : List Char) := String.ofList (Percent.encode Percent.inUserInfo cs)
  match splitFirst ':' cs with
  | some (name, []) => if name.isEmpty then "" else encode name ++ "@"
  | some (name, password) => encode name ++ ":" ++ encode password ++ "@"
  | none => if cs.isEmpty then "" else encode cs ++ "@"

/-- The authority that `cs` writes, and a path that begins in it: a backslash behind a port does
not belong to the port. Nothing follows `cs` if `isEnd`. -/
def readAuthority (scheme : String) (isEnd : Bool) (cs : List Char) :
    Except Error (Authority × List Char) := do
  let (user, place) := (splitLast '@' cs).elim ([], cs) id
  let (host, port) := Host.splitPort false place
  if user.isEmpty ∧ place.isEmpty ∧ !cs.isEmpty ∧ !isEnd then throw .noHost
  if isSpecial scheme ∧ host.isEmpty then throw .noHost
  let host ← if isSpecial scheme then Host.readName host else Host.read host
  if host = "" ∧ port.isSome then throw .noHost
  let port := port.getD []
  let isDigits (c : Char) := c != '\\'
  let number ← readPort scheme (port.takeWhile isDigits)
  let user := readUser user
  if host = "" ∧ user ≠ "" then throw .noHost
  pure (⟨user, host, number⟩, port.dropWhile isDigits)

/-- The authority and path of a file's uri. A drive letter is part of the path. The local host is
left out, and so is any host in front of a drive letter. -/
def readFile (cs : List Char) : Except Error (Authority × String) := do
  let hostless (segments : List (List Char)) := (Authority.none, (routeText true segments).1)
  match afterSlash? true cs with
  | none => pure (hostless (cutSegments true cs))
  | some path =>
    match afterSlash? true path with
    | none => pure (hostless (cutSegments true path))
    | some rest =>
      let host := dropBreaks (rest.takeWhile (!isSlash true ·))
      if host.isEmpty || isDrive host then pure (hostless (cutSegments true rest))
      else
        let name ← Host.readName host
        let path := rest.dropWhile (!isSlash true ·)
        if name = "localhost" then pure (hostless (cutSegments true path))
        else
          let (text, isLocal) := routeText true (cutSegments true (path.drop 1))
          pure (⟨"", if isLocal then "" else name, none⟩, text)

/-- The authority and path that stand behind two slashes. -/
def readPlace (scheme : String) (isEnd : Bool) (cs : List Char) :
    Except Error (Option Authority × String) := do
  let special := isSpecial scheme
  let path := cs.dropWhile (!isSlash special ·)
  let (authority, start) ←
    readAuthority scheme (isEnd && path.isEmpty) (cs.takeWhile (!isSlash special ·))
  let path := start ++ path
  pure (some authority, if !special && path.isEmpty then "" else readPath scheme path)

/-- The authority and path behind the scheme. Nothing follows them if `isEnd`. -/
def readHierarchy (scheme : String) (isEnd : Bool) (cs : List Char) :
    Except Error (Option Authority × String) :=
  if scheme = "file" then (readFile cs).map fun (authority, path) => (some authority, path)
  else
    let cs := dropBreaks cs
    if isWeb scheme then readPlace scheme isEnd (cs.dropWhile (isSlash true))
    else
      match cs with
      | '/' :: '/' :: rest => readPlace scheme isEnd rest
      | '/' :: _ => .ok (none, readPath scheme cs)
      | _ => .ok (none, String.ofList (Percent.encode Percent.isControl cs))

/-- The uri that a text writes. Blanks and controls around it do not count. -/
def ofText (text : String) : Except Error Uri := do
  let isEdge (c : Char) := c.toNat ≤ 0x20
  let cs := ((text.toList.dropWhile isEdge).reverse.dropWhile isEdge).reverse
  let (scheme, rest) ← (readScheme? cs).elim (.error .noScheme) .ok
  let (rest, fragment) := (splitFirst '#' rest).elim (rest, none) fun (a, b) => (a, some b)
  let (rest, query) := (splitFirst '?' rest).elim (rest, none) fun (a, b) => (a, some b)
  let (authority, path) ← readHierarchy scheme (query.isNone && fragment.isNone) rest
  let encode (escaped : Char → Bool) (cs : List Char) :=
    String.ofList (Percent.encode escaped (dropBreaks cs))
  pure
    { scheme, authority, path
      query := query.map (encode (Percent.inQuery (isSpecial scheme)))
      fragment := fragment.map (encode Percent.inFragment) }

def ofText? (text : String) : Option Uri := (ofText text).toOption

end Contracts.Uri
