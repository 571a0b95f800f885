import Contracts.Editor.Range
import Contracts.Source.Failure
import Contracts.Validation.Verdict

/-!
Diagnostics, the problems that an editor shows: the one of a text that cannot be read, and those
of a map that was checked.
-/

namespace Contracts

inductive Severity where
  | error
  | warning
deriving DecidableEq, Repr

/-- Who reports a problem: a reader of texts, or the check of maps. -/
inductive Reporter where
  | reader (category : Category)
  | check
deriving DecidableEq, Repr

def Reporter.text : Reporter → String
  | .reader category => category.text
  | .check => "comlink"

structure Diagnostic where
  range : Range
  severity : Severity
  reporter : Reporter
  message : String
deriving DecidableEq, Repr

/-- The diagnostic of a text that cannot be read. -/
def SyntaxError.diagnostic (e : SyntaxError) (source : List Char) : Diagnostic where
  range := e.span.range source e.position
  severity := .error
  reporter := .reader e.category
  message := e.message

/-- The diagnostic of an issue. One without a place is shown at the start of the text. -/
def Issue.diagnostic (severity : Severity) (i : Issue) : Diagnostic where
  range := i.location.elim ⟨⟨0, 0⟩, ⟨0, 0⟩⟩ Location.range
  severity := severity
  reporter := .check
  message := i.kind.message

/-- The errors of a verdict and then its warnings. -/
def Verdict.diagnostics (v : Verdict) : List Diagnostic :=
  v.errors.map (Issue.diagnostic .error) ++ v.warnings.map (Issue.diagnostic .warning)

/-- At most `limit` diagnostics, if there is a limit. -/
def limitDiagnostics (limit : Option Nat) (ds : List Diagnostic) : List Diagnostic :=
  match limit with
  | none => ds
  | some n => ds.take n

end Contracts
