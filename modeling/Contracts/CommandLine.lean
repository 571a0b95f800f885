import Contracts.Source.Reading
import Contracts.Source.Written
import Contracts.Store.Disk
import Contracts.Work.Session

/-!
The command line: the commands, and what each of them writes about the files of a disk.
-/

namespace Contracts

inductive Command where
  /-- Serves editors until the input ends. -/
  | serve
  /-- Lists the diagnostics of all documents below some roots. -/
  | check (roots : List Path)
  /-- Writes the tree of one document. -/
  | parse (file : Path)
  | help
  | version
deriving DecidableEq, Repr

/-- What a command writes, and its exit code. -/
structure Report where
  exit : Nat
  stdout : String
  stderr : String
deriving DecidableEq, Repr

namespace Command

/-- Whether an argument is an option: a dash with more after it. -/
def isOption (argument : String) : Bool :=
  match argument.toList with
  | '-' :: _ :: _ => true
  | _ => false

/-- Whether an argument is the option with a short and a long name. Further letters behind the
short one do not count. -/
def isNamed (short : Char) (long : String) (argument : String) : Bool :=
  argument = long || ['-', short].isPrefixOf argument.toList

def isHelp (argument : String) : Bool := isNamed 'h' "--help" argument

def isVersion (argument : String) : Bool := isNamed 'V' "--version" argument

/-- What the arguments of a command come to. -/
inductive Operands where
  | help
  | values (values : List String)

/-- Reads at most `room` operands of a command. Two dashes alone end the options, of which there is
none but the one for help; an operand is not empty. The first argument that asks for help or is
wrong decides. -/
def readOperands? : Nat → List String → Option Operands
  | _, [] => some (.values [])
  | room, argument :: arguments =>
    if argument = "--" then
      if arguments.contains "" ∨ room < arguments.length then none else some (.values arguments)
    else if isHelp argument then some .help
    else if argument = "" ∨ isOption argument then none
    else
      match room with
      | 0 => none
      | room + 1 =>
        (readOperands? room arguments).map fun
          | .help => .help
          | .values values => .values (argument :: values)

/-- How many operands a command may have. -/
def room? (name : String) (arguments : List String) : Option Nat :=
  if name = "serve" then some 0
  else if name = "check" then some arguments.length
  else if name = "parse" then some 1
  else none

/-- Help may be asked for one command. -/
def isHelpTopic : List String → Bool
  | [] => true
  | [name] => ["serve", "check", "parse", "help"].contains name
  | _ => false

def ofArguments? : List String → Option Command
  | [] | ["--"] => some .serve
  | name :: arguments =>
    if isHelp name then some .help
    else if isVersion name then some .version
    else if name = "help" then if isHelpTopic arguments then some .help else none
    else do
      let room ← room? name arguments
      match name, ← readOperands? room arguments with
      | _, .help => some .help
      | "serve", .values [] => some .serve
      | "check", .values (root :: roots) => some (.check ((root :: roots).map .ofText))
      | "parse", .values [file] => some (.parse (.ofText file))
      | _, _ => none

end Command

namespace Report

def usage : String := "Usage: comlink-lsp [serve | check ROOT... | parse FILE]\n"

/-- The report of a failure, with the cause if there is one. -/
def failure (text : String) (cause : Option String) : Report :=
  ⟨1, "", "Error: " ++ text ++ "\n" ++
    cause.elim "" fun cause => "\nCaused by:\n    " ++ cause ++ "\n"⟩

/-- A text on one line. -/
def oneLine (s : String) : String :=
  String.ofList (s.toList.map fun c => if c = '\n' then ' ' else c)

def severityText : Severity → String
  | .error => "error"
  | .warning => "warning"

/-- The line that tells of a diagnostic. Lines and columns are counted from one. -/
def diagnosticLine (path : String) (d : Diagnostic) : String :=
  s!"{path}:{d.range.start.line + 1}:{d.range.start.character + 1}: " ++
    s!"{severityText d.severity}: {oneLine d.message}\n"

/-- Diagnostics with the path of their document. -/
def placed (uri : Uri) (ds : List Diagnostic) : List (String × Diagnostic) :=
  let path := (uri.filePath?.map Path.text).getD uri.path
  ds.map fun d => (path, d)

/-- The diagnostics of the documents at some uris, each with the path of its document. -/
def diagnose (s : Session) : List Uri → Except Error (List (String × Diagnostic))
  | [] => .ok []
  | uri :: uris =>
    match s.start none (.activity (.diagnostics uri none)) with
    | (some (.answer (.ok (.diagnostics ds))), s) => do
      let rest ← diagnose s uris
      pure (placed uri ds ++ rest)
    | (some (.answer (.error e)), _) => .error e
    | (_, s) => diagnose s uris

/-- The paths that some roots lead to, or the report that one leads nowhere. -/
def resolve (d : Disk) (roots : List Path) : Except Report (List Path) :=
  roots.mapM fun root =>
    match d.canonical root with
    | .ok path => .ok path
    | .error e => .error (failure ("cannot resolve " ++ root.text) (some e.text))

/-- The report on diagnostics. The command fails if one of them is an error. -/
def ofDiagnostics : Except Error (List (String × Diagnostic)) → Report
  | .error e => failure e.message none
  | .ok found =>
    { exit := if found.any (·.2.severity = .error) then 1 else 0
      stdout := String.join (found.map fun (path, d) => diagnosticLine path d)
      stderr := "" }

/-- Loads all documents below some roots and lists their diagnostics in the order of their uris. -/
def ofCheck (d : Disk) (roots : List Path) : Report :=
  match resolve d roots with
  | .error report => report
  | .ok roots =>
    let s := Session.ofWorkspace (.ofStorage d.storage)
    match s.start none (.scan (.announcing roots) []) with
    | (some (.scanned (.ok _) _), s) =>
      ofDiagnostics (diagnose s (s.workspace.registry.documents.map (·.uri)))
    | (some (.scanned (.error e) _), _) => failure e.message none
    | _ => ⟨0, "", ""⟩

/-- Writes the tree of a file, or tells why it has none. -/
def ofParse (d : Disk) (file : Path) : Report :=
  match Kind.ofPath? file with
  | none => failure (file.text ++ " is not a .supr or .suma file") none
  | some kind =>
    match d.read file with
    | .error e => failure ("cannot read " ++ file.text) (some e.text)
    | .ok text =>
      match readTree kind text with
      | .ok tree => ⟨0, tree.json.pretty ++ "\n", ""⟩
      | .error e =>
        ⟨1, "", s!"{file.text}:{e.position.line}:{e.position.column}: {e.category.text}: " ++
          oneLine e.message ++ "\n"⟩

end Report

/-- What a command writes. Serving an empty input writes nothing. -/
def Command.run (d : Disk) : Command → Report
  | .serve => ⟨0, "", ""⟩
  | .check roots => .ofCheck d roots
  | .parse file => .ofParse d file
  | .help => ⟨0, Report.usage, ""⟩
  | .version => ⟨0, "comlink-lsp 0.1.0\n", ""⟩

/-- Runs the command that the arguments ask for. -/
def runArguments (d : Disk) (arguments : List String) : Report :=
  match Command.ofArguments? arguments with
  | some command => command.run d
  | none => ⟨2, "", Report.usage⟩

end Contracts
