import Contracts.Proofs.Store.Registry

/-!
Operations on a registry, and all that each of them does.

Whatever is asked of a registry comes down to a few operations that nothing else interrupts. What
one of them does to the documents is said once, in `documents_apply` and `detached_apply`: a new
document may be put in its place, some may leave, and every other one becomes its `effect`.
-/

namespace Contracts

/-- What can be done to a registry at one go. -/
inductive Operation where
  | create (uri : Uri) (kind : Kind) (version : Int) (text : String)
  /-- A text has been read from storage for a document. -/
  | load (uri : Uri) (kind : Kind) (text : String)
  | update (uri : Uri) (edits : List Edit) (version : Int)
  | remove (uri : Uri)
  /-- All documents of a kind are looked through for a namespace. -/
  | lookThrough (kind : Kind)
  /-- The outline of a document is made, be it registered or not. -/
  | outline (id : Nat)
  | diagnose (uri : Uri)

namespace Document

/-- The namespace that a profile is known to define. -/
def definedNamespace? (d : Document) : Option String :=
  if d.kind = .profile then d.knownNamespace? else none

def edited (edits : List Edit) (version : Int) (d : Document) : Document :=
  { d with text := applyEdits d.text edits, version := version, stage := .empty }

/-- Forgets the diagnostics of a map of a namespace. -/
def forgetFor (key? : Option String) (d : Document) : Document :=
  if d.kind = .map ∧ key? ≠ none ∧ d.knownNamespace? = key? then d.forgetDiagnostics else d

/-- Forgets the diagnostics of a map without a profile, if one has arrived. -/
def forgetOnArrival (arrived : Bool) (d : Document) : Document :=
  if arrived = true ∧ d.kind = .map then d.forgetUnresolved else d

end Document

namespace Registry

/-- What an analyser without memory finds in the texts of the registered documents: the diagnostics
of `d`, and whether a profile is missing. -/
def verdict (r : Registry) (d : Document) : List Diagnostic × Bool :=
  match d.textTree with
  | .error e => ([e.diagnostic d.text.toList], false)
  | .ok (.profile _) => ([], false)
  | .ok (.map m) =>
    match (r.profile? (Tree.map m).namespaceKey).bind (·.textContract?) with
    | some c => ((m.check c).diagnostics, false)
    | none => ([], true)

def apply (r : Registry) : Operation → Registry
  | .create uri kind version text => (r.create uri kind version text).2
  | .load uri kind text => (r.createIfAbsent uri kind text).2
  | .update uri edits version => (r.update uri edits version).2
  | .remove uri => (r.remove uri).2
  | .lookThrough kind => r.outlineAll kind
  | .outline id => (r.document? id).elim r fun d => (r.outline d).2
  | .diagnose uri => (r.get? uri).elim r fun d => (r.diagnose d).2

/-- The registry after some operations, one after the other. -/
def run (r : Registry) (ops : List Operation) : Registry := ops.foldl apply r

@[simp] lemma run_nil (r : Registry) : r.run [] = r := rfl

@[simp] lemma run_cons (r : Registry) (op : Operation) (ops : List Operation) :
    r.run (op :: ops) = (r.apply op).run ops := rfl

lemma run_append (r : Registry) (ops more : List Operation) :
    r.run (ops ++ more) = (r.run ops).run more := by
  simp [run, List.foldl_append]

end Registry

namespace Operation

variable (r : Registry)

/-- The document that an operation registers. -/
def arrival? : Operation → Option Document
  | .create uri kind version text => some (.new r.nextId uri kind version text)
  | .load uri kind text =>
    if r.get? uri = none then some (.new r.nextId uri kind 0 text) else none
  | _ => none

/-- Whether a registered document stays registered. -/
def keeps (op : Operation) (d : Document) : Bool :=
  match op with
  | .create uri _ _ _ | .remove uri => d.uri != uri
  | _ => true

/-- The namespace whose maps have to be checked again. -/
def invalidated? : Operation → Option String
  | .create uri _ _ _ | .remove uri => (r.get? uri).bind (·.definedNamespace?)
  | .update uri _ version =>
    (r.get? uri).bind fun d => if d.version < version then d.definedNamespace? else none
  | .diagnose uri =>
    (r.get? uri).bind fun d =>
      if d.kind = .profile ∧ d.stage.diagnostics? = none then d.textNamespace? else none
  | _ => none

/-- Whether a profile gets a text, so that maps without a profile have to be checked again. -/
def bringsProfile : Operation → Bool
  | .create _ kind _ _ => kind = .profile
  | .load uri kind _ => r.get? uri = none ∧ kind = .profile
  | .update uri _ version => (r.get? uri).any fun d => d.version < version ∧ d.kind = .profile
  | _ => false

/-- Whether the outline of a document is made that an operation is not about. -/
def outlines (op : Operation) (d : Document) : Bool :=
  match op with
  | .lookThrough kind => d.kind = kind
  | .outline id => d.id = id
  | .diagnose uri => d.kind = .profile ∧ (r.get? uri).any fun e =>
      e.kind = .map ∧ e.stage.diagnostics? = none ∧ e.textNamespace? ≠ none
  | _ => false

/-- What becomes of a document that an operation is not about. -/
def bystander (op : Operation) (d : Document) : Document :=
  ((if op.outlines r d then d.outline.2 else d).forgetFor (op.invalidated? r)).forgetOnArrival
    (op.bringsProfile r)

/-- What becomes of a document that stays registered. -/
def effect (op : Operation) (d : Document) : Document :=
  match op with
  | .update uri edits version =>
    if d.uri = uri ∧ d.version < version then d.edited edits version else op.bystander r d
  | .diagnose uri =>
    if d.uri = uri ∧ d.stage.diagnostics? = none then
      { d with checks := d.checks + 1 }.outline.2.keepDiagnostics (r.verdict d).1 (r.verdict d).2
    else op.bystander r d
  | _ => op.bystander r d

/-- Whether an edit of a registered document is accepted. -/
def edits (op : Operation) (d : Document) : Bool :=
  match op with
  | .update uri _ version => d.uri = uri ∧ d.version < version
  | _ => false

/-- Whether the diagnostics of a registered document are worked out. -/
def examines (op : Operation) (d : Document) : Bool :=
  match op with
  | .diagnose uri => d.uri = uri ∧ d.stage.diagnostics? = none
  | _ => false

lemma edits_iff {op : Operation} {d : Document} :
    op.edits d = true ↔ ∃ changes version, op = .update d.uri changes version ∧
      d.version < version := by
  cases op with
  | update uri changes version =>
    simp only [edits, decide_eq_true_eq, update.injEq]
    constructor
    · rintro ⟨rfl, hv⟩
      exact ⟨changes, version, ⟨rfl, rfl, rfl⟩, hv⟩
    · rintro ⟨_, _, ⟨rfl, rfl, rfl⟩, hv⟩
      exact ⟨rfl, hv⟩
  | _ => simp [edits]

lemma examines_iff {op : Operation} {d : Document} :
    op.examines d = true ↔ op = .diagnose d.uri ∧ d.stage.diagnostics? = none := by
  cases op with
  | diagnose uri => simp only [examines, decide_eq_true_eq, diagnose.injEq, eq_comm (a := uri)]
  | _ => simp [examines]

/-- The uri of the document that an operation gives a text, if it is accepted. -/
def written? : Operation → Option Uri
  | .create uri _ _ _ | .load uri _ _ | .update uri _ _ => some uri
  | _ => none

/-- What becomes of a document that is not registered. -/
def outside (op : Operation) (d : Document) : Document :=
  match op with
  | .outline id => if d.id = id then d.outline.2 else d
  | _ => d

end Operation

namespace Registry

/-- Puts a document in its place, if there is one. -/
def place (arrival? : Option Document) (ds : List Document) : List Document :=
  arrival?.elim ds (insertSorted · ds)

variable {r : Registry}

/-! ### What the parts of an operation do -/

lemma documents_invalidateDependents (key : String) :
    (r.invalidateDependents key).documents = r.documents.map (·.forgetFor (some key)) := by
  simp [invalidateDependents, Document.forgetFor]

lemma documents_invalidateUnresolved :
    r.invalidateUnresolved.documents = r.documents.map (·.forgetOnArrival true) := by
  simp [invalidateUnresolved, Document.forgetOnArrival]

end Registry

namespace Document

variable {d : Document}

@[simp] lemma forgetFor_none : d.forgetFor none = d := by simp [forgetFor]

@[simp] lemma forgetOnArrival_false : d.forgetOnArrival false = d := by simp [forgetOnArrival]

lemma forgetFor_of_profile {key? : Option String} (hk : d.kind = .profile) :
    d.forgetFor key? = d := by
  simp [forgetFor, hk]

lemma forgetOnArrival_of_profile {arrived : Bool} (hk : d.kind = .profile) :
    d.forgetOnArrival arrived = d := by
  simp [forgetOnArrival, hk]

lemma forgetFor_of_empty {key? : Option String} (hs : d.stage = .empty) :
    d.forgetFor key? = d := by
  unfold forgetFor
  split
  · next h =>
    have hn : d.knownNamespace? = none := knownNamespace?_eq_none (by rw [hs]; rfl)
    exact absurd (hn ▸ h.2.2).symm h.2.1
  · rfl

lemma forgetOnArrival_of_empty {arrived : Bool} (hs : d.stage = .empty) :
    d.forgetOnArrival arrived = d := by
  unfold forgetOnArrival
  split
  · exact forgetUnresolved_of_resolved (by rw [hs]; rfl)
  · rfl

lemma sameText_forgetFor {key? : Option String} : SameText d (d.forgetFor key?) := by
  unfold forgetFor
  split
  · exact sameText_forgetDiagnostics
  · exact .refl d

lemma sameText_forgetOnArrival {arrived : Bool} : SameText d (d.forgetOnArrival arrived) := by
  unfold forgetOnArrival
  split
  · exact sameText_forgetUnresolved
  · exact .refl d

lemma Derived.forgetFor_derived {key? : Option String} (hd : d.Derived) :
    (d.forgetFor key?).Derived := by
  unfold forgetFor
  split
  · exact hd.forgetDiagnostics_derived
  · exact hd

lemma Derived.forgetOnArrival_derived {arrived : Bool} (hd : d.Derived) :
    (d.forgetOnArrival arrived).Derived := by
  unfold forgetOnArrival
  split
  · cases hu : d.stage.isUnresolved with
    | false => rwa [forgetUnresolved_of_resolved hu]
    | true =>
      rw [forgetUnresolved_of_unresolved hu]
      exact hd.forgetDiagnostics_derived
  · exact hd

end Document

namespace Registry

variable {r : Registry} {d : Document}

lemma documents_forgetProfile :
    (r.forgetProfile d).documents = r.documents.map (·.forgetFor d.definedNamespace?) := by
  unfold forgetProfile Document.definedNamespace?
  split
  · split
    · next key hk => rw [documents_invalidateDependents, hk]
    · next hk => simp [hk]
  · simp

lemma detached_forgetProfile : (r.forgetProfile d).detached = r.detached := by
  unfold forgetProfile
  split
  · split <;> rfl
  · rfl

lemma nextId_forgetProfile : (r.forgetProfile d).nextId = r.nextId := by
  unfold forgetProfile
  split
  · split <;> rfl
  · rfl

end Registry

end Contracts
