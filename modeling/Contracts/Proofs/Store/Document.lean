import Mathlib.Tactic.Common
import Contracts.Store.Document
import Contracts.Validation.Contract

/-!
What is known of a document, against its text.

Every stage that a document has come to was derived from the text as it is now. Each operation on
one document keeps this, and so the namespace that is known is the namespace of the text.
-/

namespace Contracts

def Tree.kind : Tree → Kind
  | .profile _ => .profile
  | .map _ => .map

lemma Grammar.document_kind {lines : Lines} {kind : Kind} {c : Cursor} {frontier : Frontier}
    {tree : Tree} {rest : Cursor}
    (h : Grammar.document lines kind c = ⟨frontier, some (tree, rest)⟩) : tree.kind = kind := by
  cases kind with
  | profile =>
    rcases hp : Grammar.profile lines c with ⟨f, _ | ⟨p, next⟩⟩ <;>
      simp [Grammar.document, bind, pure, hp] at h
    rw [← h.2.1]; rfl
  | map =>
    rcases hm : Grammar.map lines c with ⟨f, _ | ⟨m, next⟩⟩ <;>
      simp [Grammar.document, bind, pure, hm] at h
    rw [← h.2.1]; rfl

/-- A text is read as a tree of the kind that is asked for. -/
lemma readTree_kind {kind : Kind} {text : String} {tree : Tree}
    (h : readTree kind text = .ok tree) : tree.kind = kind := by
  unfold readTree at h
  simp only at h
  split at h
  · cases h
  · split at h
    · next hd => cases h; exact Grammar.document_kind hd
    · cases h

/-- The outline of a tree shows its namespace. -/
@[simp] lemma outlineNamespace?_outline (fileName : String) (tree : Tree) :
    outlineNamespace? (tree.outline fileName) = some tree.namespaceKey := rfl

namespace Stage

/-- Whether diagnostics are known that were worked out without a profile. -/
def isUnresolved : Stage → Bool
  | .diagnosed _ _ _ unresolved => unresolved
  | _ => false

lemma tree?_of_outline? {s : Stage} (h : s.outline? ≠ none) : s.tree? ≠ none := by
  cases s <;> simp_all [outline?, tree?]

lemma outline?_of_diagnostics? {s : Stage} (h : s.diagnostics? ≠ none) : s.outline? ≠ none := by
  cases s <;> simp_all [outline?, diagnostics?]

end Stage

namespace Document

/-- The tree of the current text. -/
def textTree (d : Document) : Except SyntaxError Tree := readTree d.kind d.text

/-- The outline of the current text. -/
def textOutline (d : Document) : Except SyntaxError (List Symbol) :=
  d.textTree.map (·.outline d.uri.fileName)

/-- The namespace of the current text, if it can be read. -/
def textNamespace? (d : Document) : Option String := d.textTree.toOption.map (·.namespaceKey)

/-- The contract that the current text defines, if it is one of a profile. -/
def textContract? (d : Document) : Option Contract :=
  match d.textTree with
  | .ok (.profile p) => some (.ofProfile p)
  | _ => none

/-- Whether it is a profile and its text has the namespace `key`. -/
def defines (key : String) (d : Document) : Bool :=
  d.kind = .profile ∧ d.textNamespace? = some key

/-- What is known of a document was derived from its current text. -/
structure Derived (d : Document) : Prop where
  tree : ∀ t, d.stage.tree? = some t → t = d.textTree
  outline : ∀ o, d.stage.outline? = some o → o = d.textOutline

variable {d : Document}

lemma textNamespace?_eq_some {key : String} :
    d.textNamespace? = some key ↔ ∃ t, d.textTree = .ok t ∧ t.namespaceKey = key := by
  unfold textNamespace?
  cases d.textTree <;> simp [Except.toOption]

lemma defines_iff {key : String} :
    d.defines key = true ↔ d.kind = .profile ∧ d.textNamespace? = some key := by
  simp [defines]

/-- A profile that can be read defines a contract. -/
lemma textContract?_of_defines {key : String} (h : d.defines key = true) :
    ∃ c, d.textContract? = some c := by
  obtain ⟨hk, hns⟩ := defines_iff.mp h
  obtain ⟨t, ht, -⟩ := textNamespace?_eq_some.mp hns
  have hkind : t.kind = .profile := (readTree_kind ht).trans hk
  cases t with
  | profile p => exact ⟨.ofProfile p, by simp [textContract?, ht]⟩
  | map m => cases hkind

/-- Only the outline of a readable text shows a namespace. -/
lemma Derived.knownNamespace? (hd : d.Derived) (ho : d.stage.outline? ≠ none) :
    d.knownNamespace? = d.textNamespace? := by
  obtain ⟨o, ho⟩ := Option.ne_none_iff_exists'.mp ho
  have := hd.outline o ho
  unfold Document.knownNamespace? Stage.namespaceKey? textNamespace?
  rw [ho, this, textOutline]
  cases d.textTree <;> simp [Except.map, Except.toOption]

lemma knownNamespace?_eq_none (ho : d.stage.outline? = none) : d.knownNamespace? = none := by
  simp [Document.knownNamespace?, Stage.namespaceKey?, ho]

lemma Derived.textNamespace?_of_known (hd : d.Derived) {key : String}
    (h : d.knownNamespace? = some key) : d.textNamespace? = some key := by
  by_cases ho : d.stage.outline? = none
  · simp [knownNamespace?_eq_none ho] at h
  · rw [← hd.knownNamespace? ho, h]

/-! ### Operations that leave the text alone -/

/-- Two states of one document between which nothing was edited. -/
structure SameText (d e : Document) : Prop where
  id : e.id = d.id
  uri : e.uri = d.uri
  kind : e.kind = d.kind
  version : e.version = d.version
  text : e.text = d.text

namespace SameText

variable {e f : Document}

lemma refl (d : Document) : SameText d d := ⟨rfl, rfl, rfl, rfl, rfl⟩

lemma symm (h : SameText d e) : SameText e d :=
  ⟨h.id.symm, h.uri.symm, h.kind.symm, h.version.symm, h.text.symm⟩

lemma trans (h : SameText d e) (h' : SameText e f) : SameText d f :=
  ⟨h'.id.trans h.id, h'.uri.trans h.uri, h'.kind.trans h.kind, h'.version.trans h.version,
    h'.text.trans h.text⟩

lemma textTree (h : SameText d e) : e.textTree = d.textTree := by
  unfold Document.textTree; rw [h.kind, h.text]

lemma textOutline (h : SameText d e) : e.textOutline = d.textOutline := by
  unfold Document.textOutline; rw [h.textTree, h.uri]

lemma textNamespace? (h : SameText d e) : e.textNamespace? = d.textNamespace? := by
  unfold Document.textNamespace?; rw [h.textTree]

lemma defines (h : SameText d e) (key : String) : e.defines key = d.defines key := by
  unfold Document.defines; rw [h.kind, h.textNamespace?]

lemma textContract? (h : SameText d e) : e.textContract? = d.textContract? := by
  unfold Document.textContract?; rw [h.textTree]

end SameText

lemma derived_of_stage {e : Document} (hd : d.Derived) (h : SameText d e)
    (ht : ∀ t, e.stage.tree? = some t → d.stage.tree? = some t)
    (ho : ∀ o, e.stage.outline? = some o → d.stage.outline? = some o) : e.Derived where
  tree t he := by rw [h.textTree]; exact hd.tree t (ht t he)
  outline o he := by rw [h.textOutline]; exact hd.outline o (ho o he)

lemma derived_of_empty (h : d.stage = .empty) : d.Derived where
  tree t ht := by simp [h, Stage.tree?] at ht
  outline o ho := by simp [h, Stage.outline?] at ho

lemma Derived.tree_fst (hd : d.Derived) : d.tree.1 = d.textTree := by
  cases ht : d.stage.tree? with
  | some t => simpa [Document.tree, ht] using hd.tree t ht
  | none => simp [Document.tree, ht, textTree]

lemma tree_snd_reads :
    d.tree.2.reads = d.reads + if d.stage.tree? = none then 1 else 0 := by
  cases ht : d.stage.tree? <;> simp [Document.tree, ht]

lemma sameText_tree : SameText d d.tree.2 := by
  unfold Document.tree
  split <;> exact ⟨rfl, rfl, rfl, rfl, rfl⟩

lemma tree_snd_checks : d.tree.2.checks = d.checks := by
  unfold Document.tree
  split <;> rfl

/-- A document whose outline is known is left as it is. -/
lemma outline_of_known (h : d.stage.outline? ≠ none) : d.outline.2 = d := by
  obtain ⟨o, ho⟩ := Option.ne_none_iff_exists'.mp h
  simp [outline, ho]

lemma outline_snd_of_unknown (h : d.stage.outline? = none) :
    d.outline.2 = { d.tree.2 with
      stage := .outlined d.tree.1 (d.tree.1.map (·.outline d.tree.2.uri.fileName)) } := by
  simp [outline, h]

lemma sameText_outline : SameText d d.outline.2 := by
  by_cases h : d.stage.outline? = none
  · rw [outline_snd_of_unknown h]
    exact ⟨sameText_tree.id, sameText_tree.uri, sameText_tree.kind, sameText_tree.version,
      sameText_tree.text⟩
  · rw [outline_of_known h]; exact .refl d

lemma Derived.outline_stage_of_unknown (hd : d.Derived) (h : d.stage.outline? = none) :
    d.outline.2.stage = .outlined d.textTree d.textOutline := by
  rw [outline_snd_of_unknown h, hd.tree_fst, sameText_tree.uri]
  rfl

lemma Derived.outline_stage (hd : d.Derived) (hn : d.stage.diagnostics? = none) :
    d.outline.2.stage = .outlined d.textTree d.textOutline := by
  by_cases h : d.stage.outline? = none
  · exact hd.outline_stage_of_unknown h
  · rw [outline_of_known h]
    cases hs : d.stage with
    | outlined t o => rw [hd.tree t (by rw [hs]; rfl), hd.outline o (by rw [hs]; rfl)]
    | diagnosed t o ds u => simp [hs, Stage.diagnostics?] at hn
    | _ => simp [hs, Stage.outline?] at h

lemma Derived.outline_outline? (hd : d.Derived) :
    d.outline.2.stage.outline? = some d.textOutline := by
  by_cases h : d.stage.outline? = none
  · rw [hd.outline_stage_of_unknown h]; rfl
  · obtain ⟨o, ho⟩ := Option.ne_none_iff_exists'.mp h
    rw [outline_of_known h, ho, hd.outline o ho]

lemma outline_diagnostics? : d.outline.2.stage.diagnostics? = d.stage.diagnostics? := by
  by_cases h : d.stage.outline? = none
  · rw [outline_snd_of_unknown h]
    cases hs : d.stage <;> simp_all [Stage.outline?, Stage.diagnostics?]
  · rw [outline_of_known h]

lemma outline_tree? : d.outline.2.stage.tree? ≠ none := by
  by_cases h : d.stage.outline? = none
  · rw [outline_snd_of_unknown h]; simp [Stage.tree?]
  · rw [outline_of_known h]; exact Stage.tree?_of_outline? h

/-- The text is read exactly if its tree is not known yet. -/
lemma outline_reads :
    d.outline.2.reads = d.reads + if d.stage.tree? = none then 1 else 0 := by
  by_cases h : d.stage.outline? = none
  · rw [outline_snd_of_unknown h]; exact tree_snd_reads
  · rw [outline_of_known h, if_neg (Stage.tree?_of_outline? h), Nat.add_zero]

lemma outline_checks : d.outline.2.checks = d.checks := by
  by_cases h : d.stage.outline? = none
  · rw [outline_snd_of_unknown h]; exact tree_snd_checks
  · rw [outline_of_known h]

lemma Derived.outline_derived (hd : d.Derived) : d.outline.2.Derived := by
  by_cases h : d.stage.outline? = none
  · have hs := hd.outline_stage_of_unknown h
    constructor
    · intro t ht
      rw [hs] at ht
      rw [sameText_outline.textTree]
      exact (Option.some.inj ht).symm
    · intro o ho
      rw [hs] at ho
      rw [sameText_outline.textOutline]
      exact (Option.some.inj ho).symm
  · rwa [outline_of_known h]

lemma Derived.outline_known (hd : d.Derived) :
    d.outline.2.knownNamespace? = d.textNamespace? := by
  rw [hd.outline_derived.knownNamespace? (by simp [hd.outline_outline?]),
    sameText_outline.textNamespace?]

lemma Derived.namespaceKey_snd : d.namespaceKey.2 = d.outline.2 := by
  unfold namespaceKey
  rcases d.outline with ⟨_ | o, e⟩
  · rfl
  · dsimp only
    split <;> rfl

/-! ### Forgetting and keeping diagnostics -/

lemma sameText_forgetDiagnostics : SameText d d.forgetDiagnostics := by
  unfold forgetDiagnostics
  split <;> exact ⟨rfl, rfl, rfl, rfl, rfl⟩

lemma sameText_forgetUnresolved : SameText d d.forgetUnresolved := by
  unfold forgetUnresolved
  split
  · exact sameText_forgetDiagnostics
  · exact .refl d

lemma sameText_keepDiagnostics {ds : List Diagnostic} {unresolved : Bool} :
    SameText d (d.keepDiagnostics ds unresolved) := by
  unfold keepDiagnostics
  split <;> exact ⟨rfl, rfl, rfl, rfl, rfl⟩

@[simp] lemma forgetDiagnostics_diagnostics? :
    d.forgetDiagnostics.stage.diagnostics? = none := by
  unfold forgetDiagnostics
  split <;> rfl

@[simp] lemma forgetDiagnostics_reads : d.forgetDiagnostics.reads = d.reads := by
  unfold forgetDiagnostics
  split <;> rfl

@[simp] lemma forgetDiagnostics_checks : d.forgetDiagnostics.checks = d.checks := by
  unfold forgetDiagnostics
  split <;> rfl

/-- Where there are no diagnostics to forget, all that is known is lost. -/
lemma forgetDiagnostics_of_unknown (h : d.stage.diagnostics? = none) :
    d.forgetDiagnostics.stage = .empty := by
  unfold forgetDiagnostics
  split
  · next hs => simp [hs, Stage.diagnostics?] at h
  · rfl

lemma forgetDiagnostics_of_known (h : d.stage.diagnostics? ≠ none) :
    d.forgetDiagnostics.stage.tree? = d.stage.tree? ∧
      d.forgetDiagnostics.stage.outline? = d.stage.outline? := by
  cases hs : d.stage with
  | diagnosed t o ds u => simp [forgetDiagnostics, hs, Stage.tree?, Stage.outline?]
  | _ => simp [hs, Stage.diagnostics?] at h

lemma Derived.forgetDiagnostics_derived (hd : d.Derived) : d.forgetDiagnostics.Derived := by
  by_cases h : d.stage.diagnostics? = none
  · exact derived_of_empty (forgetDiagnostics_of_unknown h)
  · obtain ⟨ht, ho⟩ := forgetDiagnostics_of_known h
    exact derived_of_stage hd sameText_forgetDiagnostics (fun t h => ht ▸ h) fun o h => ho ▸ h

lemma forgetUnresolved_of_resolved (h : d.stage.isUnresolved = false) :
    d.forgetUnresolved = d := by
  unfold forgetUnresolved
  split
  · next hs => simp [hs, Stage.isUnresolved] at h
  · rfl

lemma forgetUnresolved_of_unresolved (h : d.stage.isUnresolved = true) :
    d.forgetUnresolved = d.forgetDiagnostics := by
  cases hs : d.stage with
  | diagnosed t o ds u =>
    rw [hs] at h
    cases h
    simp [forgetUnresolved, hs]
  | _ => simp [hs, Stage.isUnresolved] at h

lemma isUnresolved_diagnostics? (h : d.stage.isUnresolved = true) :
    d.stage.diagnostics? ≠ none := by
  cases hs : d.stage <;> simp_all [Stage.isUnresolved, Stage.diagnostics?]

lemma keepDiagnostics_of_outlined {t : Except SyntaxError Tree}
    {o : Except SyntaxError (List Symbol)} {ds : List Diagnostic} {unresolved : Bool}
    (h : d.stage = .outlined t o) :
    d.keepDiagnostics ds unresolved = { d with stage := .diagnosed t o ds unresolved } := by
  simp [keepDiagnostics, h]

lemma Derived.keepDiagnostics_derived {ds : List Diagnostic} {unresolved : Bool}
    (hd : d.Derived) : (d.keepDiagnostics ds unresolved).Derived := by
  cases hs : d.stage with
  | outlined t o =>
    rw [keepDiagnostics_of_outlined hs]
    have ht := hd.tree t (by rw [hs]; rfl)
    have ho := hd.outline o (by rw [hs]; rfl)
    exact ⟨fun t' h => (Option.some.inj h) ▸ ht, fun o' h => (Option.some.inj h) ▸ ho⟩
  | _ => exact derived_of_empty (by simp [keepDiagnostics, hs])

end Document

end Contracts
