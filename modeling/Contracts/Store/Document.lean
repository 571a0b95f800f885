import Contracts.Editor.Diagnostic
import Contracts.Editor.Edit
import Contracts.Editor.Outline
import Contracts.Source.Reading
import Contracts.Store.Error

/-!
Documents: a text with what has been derived from it so far.

The derivations are made in stages, each from the one before: the tree, the outline and the
diagnostics. An edit starts over. Two counters tell how often a tree was read and how often
diagnostics were worked out.

A derivation is made at one go: nothing else happens between the look at a text and the note of what
was derived from it. So documents carry no lock, and no count of their states to tell a result that
comes too late.
-/

namespace Contracts

/-- What is known of the current text of a document. -/
inductive Stage where
  | empty
  | read (tree : Except SyntaxError Tree)
  | outlined (tree : Except SyntaxError Tree) (outline : Except SyntaxError (List Symbol))
  /-- The diagnostics are known. A map is `unresolved` if no profile was there to check it
  against. -/
  | diagnosed (tree : Except SyntaxError Tree) (outline : Except SyntaxError (List Symbol))
      (diagnostics : List Diagnostic) (unresolved : Bool)

namespace Stage

def tree? : Stage → Option (Except SyntaxError Tree)
  | .empty => none
  | .read tree => some tree
  | .outlined tree _ => some tree
  | .diagnosed tree _ _ _ => some tree

def outline? : Stage → Option (Except SyntaxError (List Symbol))
  | .empty => none
  | .read _ => none
  | .outlined _ outline => some outline
  | .diagnosed _ outline _ _ => some outline

def diagnostics? : Stage → Option (List Diagnostic)
  | .diagnosed _ _ diagnostics _ => some diagnostics
  | _ => none

/-- The namespace, if the outline is known. -/
def namespaceKey? (s : Stage) : Option String :=
  match s.outline? with
  | some (.ok outline) => outlineNamespace? outline
  | _ => none

end Stage

structure Document where
  /-- Tells documents apart that have the same uri at different times. -/
  id : Nat
  uri : Uri
  kind : Kind
  version : Int
  text : String
  stage : Stage
  reads : Nat
  checks : Nat

namespace Document

def new (id : Nat) (uri : Uri) (kind : Kind) (version : Int) (text : String) : Document :=
  ⟨id, uri, kind, version, text, .empty, 0, 0⟩

/-- The tree of the text, read now if it is not known. -/
def tree (d : Document) : Except SyntaxError Tree × Document :=
  match d.stage.tree? with
  | some tree => (tree, d)
  | none =>
    let tree := readTree d.kind d.text
    (tree, { d with stage := .read tree, reads := d.reads + 1 })

/-- The outline of the text, made now if it is not known. -/
def outline (d : Document) : Except SyntaxError (List Symbol) × Document :=
  match d.stage.outline? with
  | some outline => (outline, d)
  | none =>
    let (tree, d) := d.tree
    let outline := tree.map (·.outline d.uri.fileName)
    (outline, { d with stage := .outlined tree outline })

/-- The namespace of the text. -/
def namespaceKey (d : Document) : Except Error String × Document :=
  match d.outline with
  | (.error e, d) => (.error (.unreadable e), d)
  | (.ok outline, d) =>
    match outlineNamespace? outline with
    | some key => (.ok key, d)
    | none => (.error .malformedOutline, d)

/-- The namespace, if the outline is known already. -/
def knownNamespace? (d : Document) : Option String := d.stage.namespaceKey?

/-- Edits the text and moves on to `version`, which has to be greater than the current one.
Answers with the namespace that was known of the text before. -/
def update (d : Document) (edits : List Edit) (version : Int) :
    Except Error (Option String × Document) :=
  if version ≤ d.version then .error (.versionOutOfOrder d.uri d.version version)
  else
    .ok (d.knownNamespace?,
      { d with text := applyEdits d.text edits, version := version, stage := .empty })

/-- Forgets the diagnostics. Where there are none, all that is known is forgotten. -/
def forgetDiagnostics (d : Document) : Document :=
  match d.stage with
  | .diagnosed tree outline _ _ => { d with stage := .outlined tree outline }
  | _ => { d with stage := .empty }

/-- Forgets diagnostics that were worked out without a profile. -/
def forgetUnresolved (d : Document) : Document :=
  match d.stage with
  | .diagnosed _ _ _ true => d.forgetDiagnostics
  | _ => d

/-- Keeps diagnostics that were worked out from the outline. -/
def keepDiagnostics (d : Document) (diagnostics : List Diagnostic) (unresolved : Bool) :
    Document :=
  match d.stage with
  | .outlined tree outline =>
    { d with stage := .diagnosed tree outline diagnostics unresolved }
  | _ => { d with stage := .empty }

end Document

end Contracts
