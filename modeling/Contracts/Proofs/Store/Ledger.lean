import Contracts.Proofs.Store.WellFormed

/-!
What cached diagnostics rest on.

A ledger runs a registry and writes down, for every document, the profile that was found when its
diagnostics were last worked out. `Sound` is the invariant behind all that is proved of cached
diagnostics: those of a map that was checked rest on a profile that is still registered, that is
still known to have the namespace of the map, and whose text has not moved since; those of a map
without a profile rest on there being none. It asks nothing of the namespaces of other profiles.
-/

namespace Contracts

/-- A registry, and for each document the profile that its diagnostics were last checked against. -/
structure Ledger where
  registry : Registry
  source : Nat → Option Nat

namespace Ledger

def empty : Ledger := ⟨.empty, fun _ => none⟩

/-- The profile that is found for the namespace of a document. -/
def sourceOf (r : Registry) (d : Document) : Option Nat :=
  d.textNamespace?.bind fun key => (r.findProfile key).1.map (·.id)

def apply (l : Ledger) (op : Operation) : Ledger where
  registry := l.registry.apply op
  source id :=
    match l.registry.documents.find? fun d => d.id = id ∧ op.examines d with
    | some d => sourceOf l.registry d
    | none => l.source id

def run (l : Ledger) (ops : List Operation) : Ledger := ops.foldl apply l

@[simp] lemma registry_apply (l : Ledger) (op : Operation) :
    (l.apply op).registry = l.registry.apply op := rfl

@[simp] lemma run_nil (l : Ledger) : l.run [] = l := rfl

@[simp] lemma run_cons (l : Ledger) (op : Operation) (ops : List Operation) :
    l.run (op :: ops) = (l.apply op).run ops := rfl

lemma run_append (l : Ledger) (ops more : List Operation) :
    l.run (ops ++ more) = (l.run ops).run more := by
  simp [run, List.foldl_append]

/-- Keeping a ledger does not change what happens. -/
lemma registry_run (l : Ledger) (ops : List Operation) :
    (l.run ops).registry = l.registry.run ops := by
  induction ops generalizing l with
  | nil => rfl
  | cons op ops ih => exact ih (l.apply op)

end Ledger

/-- What checking a map against a profile gives; nothing without one. -/
def Document.checkedAgainst (m : Document) (profile? : Option Document) : List Diagnostic :=
  match m.textTree, profile?.bind (·.textContract?) with
  | .ok (.map t), some c => (t.check c).diagnostics
  | _, _ => []

/-- What diagnostics of `d` may rest on. Of a map, `source` is the profile that was found. -/
inductive Supported (r : Registry) (source : Option Nat) (d : Document) :
    List Diagnostic → Bool → Prop
  | unreadable {e : SyntaxError} (text : d.textTree = .error e) (found : source = none) :
      Supported r source d [e.diagnostic d.text.toList] false
  | profile {p : Profile} (text : d.textTree = .ok (.profile p)) : Supported r source d [] false
  | checked {m : MapDocument} {p : Document} {c : Contract} (text : d.textTree = .ok (.map m))
      (registered : p ∈ r.documents) (kind : p.kind = .profile)
      (known : p.knownNamespace? = some (Tree.map m).namespaceKey)
      (contract : p.textContract? = some c) (found : source = some p.id) :
      Supported r source d (m.check c).diagnostics false
  | unresolved {m : MapDocument} (text : d.textTree = .ok (.map m))
      (nowhere : ∀ p ∈ r.documents, p.defines (Tree.map m).namespaceKey = false)
      (found : source = none) :
      Supported r source d [] true

namespace Document

variable {d : Document} {ds : List Diagnostic}

/-- Diagnostics that are still known were not to be forgotten. -/
lemma forgetFor_of_diagnosed {key? : Option String}
    (h : (d.forgetFor key?).stage.diagnostics? ≠ none) :
    d.forgetFor key? = d ∧
      (d.kind = .map → ∀ key, key? = some key → d.knownNamespace? ≠ some key) := by
  unfold forgetFor at h ⊢
  split at h
  · simp at h
  · next hn =>
    rw [if_neg hn]
    refine ⟨rfl, fun hk key hkey hkn => hn ⟨hk, ?_, ?_⟩⟩
    · simp [hkey]
    · rw [hkn, hkey]

lemma forgetOnArrival_of_diagnosed {arrived : Bool}
    (h : (d.forgetOnArrival arrived).stage.diagnostics? ≠ none) :
    d.forgetOnArrival arrived = d ∧
      (d.kind = .map → arrived = true → d.stage.isUnresolved = false) := by
  unfold forgetOnArrival at h ⊢
  split at h
  · next hc =>
    rw [if_pos hc]
    cases hu : d.stage.isUnresolved with
    | false => exact ⟨forgetUnresolved_of_resolved hu, fun _ _ => rfl⟩
    | true =>
      rw [forgetUnresolved_of_unresolved hu] at h
      simp at h
  · next hn =>
    rw [if_neg hn]
    exact ⟨rfl, fun hk ha => absurd ⟨ha, hk⟩ hn⟩

end Document

namespace Registry

open Document

variable {r : Registry} {d e p : Document} {op : Operation} {key : String}

/-- An operation clears no diagnostics of `d`. -/
structure Spared (r : Registry) (op : Operation) (d : Document) : Prop where
  known : d.stage.diagnostics? ≠ none
  namespaces : d.kind = .map → ∀ key, d.knownNamespace? = some key → op.invalidated? r ≠ some key
  arrivals : d.kind = .map → op.bringsProfile r = true → d.stage.isUnresolved = false

/-- A bystander whose diagnostics are known afterwards is as it was. -/
lemma bystander_of_diagnosed (h : (op.bystander r d).stage.diagnostics? ≠ none) :
    op.bystander r d = d ∧ Spared r op d := by
  unfold Operation.bystander at h ⊢
  obtain ⟨harr, hbring⟩ := forgetOnArrival_of_diagnosed h
  rw [harr] at h ⊢
  obtain ⟨hfor, hinv⟩ := forgetFor_of_diagnosed h
  rw [hfor] at h ⊢ hbring
  have hd : (if op.outlines r d = true then d.outline.2 else d) = d := by
    split
    · next ho =>
      rw [if_pos ho, outline_diagnostics?] at h
      exact outline_of_known (Stage.outline?_of_diagnostics? h)
    · rfl
  rw [hd] at h hinv hbring ⊢
  exact ⟨rfl, h, fun hk key hkn hi => hinv hk key hi hkn, hbring⟩

/-- Diagnostics that are known after an operation were worked out by it, or are as they were. -/
lemma effect_of_diagnosed (h : (op.effect r d).stage.diagnostics? ≠ none) :
    (op.examines d = true ∧
      op.effect r d = (examined d).keepDiagnostics (r.verdict d).1 (r.verdict d).2) ∨
    (op.examines d = false ∧ op.effect r d = d ∧ Spared r op d) := by
  cases op with
  | update uri edits version =>
    unfold Operation.effect at h ⊢
    dsimp only at h ⊢
    split at h
    · exact absurd rfl h
    · next hn =>
      rw [if_neg hn]
      exact .inr ⟨rfl, bystander_of_diagnosed h⟩
  | diagnose uri =>
    unfold Operation.effect at h ⊢
    dsimp only at h ⊢
    split at h
    · next hc => exact .inl ⟨by simpa [Operation.examines] using hc, by rw [if_pos hc]; rfl⟩
    · next hn =>
      rw [if_neg hn]
      exact .inr ⟨by simpa [Operation.examines] using hn, bystander_of_diagnosed h⟩
  | _ => exact .inr ⟨rfl, bystander_of_diagnosed h⟩

/-- A profile whose known namespace is not invalidated stays registered as it is. -/
lemma effect_of_profile (hr : r.WellFormed) (hp : p ∈ r.documents) (hk : p.kind = .profile)
    (hkn : p.knownNamespace? = some key) (hi : op.invalidated? r ≠ some key) :
    op.keeps p = true ∧ op.effect r p = p := by
  have hget : r.get? p.uri = some p := (get?_eq_some hr).mpr ⟨hp, rfl⟩
  have hdef : p.definedNamespace? = some key := by simp [definedNamespace?, hk, hkn]
  have hout : p.stage.outline? ≠ none := fun ho => by simp [knownNamespace?_eq_none ho] at hkn
  have hby : op.bystander r p = p := by
    unfold Operation.bystander
    rw [outline_of_known hout, ite_self, forgetFor_of_profile hk, forgetOnArrival_of_profile hk]
  cases op with
  | create uri kind version text =>
    refine ⟨?_, hby⟩
    have : p.uri ≠ uri := by
      rintro rfl
      exact hi (by simp [Operation.invalidated?, hget, hdef])
    simpa [Operation.keeps] using this
  | remove uri =>
    refine ⟨?_, hby⟩
    have : p.uri ≠ uri := by
      rintro rfl
      exact hi (by simp [Operation.invalidated?, hget, hdef])
    simpa [Operation.keeps] using this
  | update uri edits version =>
    refine ⟨rfl, ?_⟩
    have : ¬ (p.uri = uri ∧ p.version < version) := by
      rintro ⟨rfl, hv⟩
      exact hi (by simp [Operation.invalidated?, hget, hdef, hv])
    simp only [Operation.effect, if_neg this, hby]
  | diagnose uri =>
    refine ⟨rfl, ?_⟩
    have : ¬ (p.uri = uri ∧ p.stage.diagnostics? = none) := by
      rintro ⟨rfl, hn⟩
      have htext := (hr.derived_of_mem hp).textNamespace?_of_known hkn
      exact hi (by simp [Operation.invalidated?, hget, hk, hn, htext])
    simp only [Operation.effect, if_neg this, hby]
  | _ => exact ⟨rfl, hby⟩

/-- Where no profile gets a text, the profiles that are registered were so before. -/
lemma sameText_of_quiet (hr : r.WellFormed) (hb : op.bringsProfile r = false)
    (hp : p ∈ (r.apply op).documents) (hk : p.kind = .profile) :
    ∃ e ∈ r.documents, SameText e p := by
  rcases (mem_documents_apply hr).mp hp with harr | ⟨e, he, -, rfl⟩
  · cases op with
    | create uri kind version text =>
      cases harr
      simp [Operation.bringsProfile, show kind = .profile from hk] at hb
    | load uri kind text =>
      simp only [Operation.arrival?] at harr
      split at harr
      · next hg =>
        cases harr
        simp [Operation.bringsProfile, hg, show kind = .profile from hk] at hb
      · cases harr
    | _ => cases harr
  · refine ⟨e, he, sameText_effect ?_⟩
    rw [(effect_identity op).2.2] at hk
    cases op with
    | update uri edits version =>
      by_contra hn
      have hc : e.uri = uri ∧ e.version < version := by simpa [Operation.edits] using hn
      have hget : r.get? uri = some e := (get?_eq_some hr).mpr ⟨he, hc.1⟩
      simp [Operation.bringsProfile, hget, hc.2, hk] at hb
    | _ => rfl

lemma defines_of_quiet (hr : r.WellFormed) (hb : op.bringsProfile r = false)
    (h : ∀ p ∈ r.documents, p.defines key = false) :
    ∀ p ∈ (r.apply op).documents, p.defines key = false := by
  intro p hp
  by_contra hn
  obtain ⟨hk, -⟩ := defines_iff.mp (by simpa using hn)
  obtain ⟨e, he, hs⟩ := sameText_of_quiet hr hb hp hk
  rw [hs.defines, h e he] at hn
  exact hn rfl

end Registry

namespace Supported

open Document Registry

variable {r : Registry} {source : Option Nat} {d e : Document} {ds : List Diagnostic} {u : Bool}
  {op : Operation}

lemma sameText (hs : SameText d e) (h : Supported r source d ds u) : Supported r source e ds u := by
  cases h with
  | unreadable text found => rw [← hs.text]; exact .unreadable (hs.textTree.trans text) found
  | profile text => exact .profile (hs.textTree.trans text)
  | checked text registered kind known contract found =>
    exact .checked (hs.textTree.trans text) registered kind known contract found
  | unresolved text nowhere found => exact .unresolved (hs.textTree.trans text) nowhere found

/-- Those of a readable map rest on a profile or on there being none. -/
lemma of_map {key : String} (h : Supported r source d ds u) (hk : d.kind = .map)
    (hns : d.textNamespace? = some key) :
    (∃ p ∈ r.documents, p.kind = .profile ∧ p.knownNamespace? = some key ∧ source = some p.id ∧
      ds = d.checkedAgainst (some p) ∧ u = false) ∨
    ((∀ p ∈ r.documents, p.defines key = false) ∧ source = none ∧ ds = d.checkedAgainst none ∧
      u = true) := by
  obtain ⟨t, ht, rfl⟩ := textNamespace?_eq_some.mp hns
  cases h with
  | unreadable text _ => rw [text] at ht; cases ht
  | profile text => rw [← readTree_kind text] at hk; cases hk
  | checked text registered kind known contract found =>
    rw [text] at ht
    cases ht
    refine .inl ⟨_, registered, kind, known, found, ?_, rfl⟩
    simp [checkedAgainst, text, contract]
  | unresolved text nowhere found =>
    rw [text] at ht
    cases ht
    exact .inr ⟨nowhere, found, by simp [checkedAgainst, text], rfl⟩

/-- What diagnostics rest on stays as long as they are not cleared. -/
lemma spared (hr : r.WellFormed) (hd : d ∈ r.documents) (hsp : Spared r op d)
    (h : Supported r source d ds d.stage.isUnresolved) :
    Supported (r.apply op) source d ds d.stage.isUnresolved := by
  have hknown : d.knownNamespace? = d.textNamespace? :=
    (hr.derived_of_mem hd).knownNamespace? (Stage.outline?_of_diagnostics? hsp.known)
  generalize hu : d.stage.isUnresolved = u at h
  cases h with
  | unreadable text found => exact .unreadable text found
  | profile text => exact .profile text
  | checked text registered kind known contract found =>
    have hkey := textNamespace?_eq_some.mpr ⟨_, text, rfl⟩
    have hinv := hsp.namespaces (readTree_kind text).symm _ (hknown.trans hkey)
    obtain ⟨hkeeps, heffect⟩ := effect_of_profile hr registered kind known hinv
    have hmem := (mem_documents_apply hr).mpr (.inr ⟨_, registered, hkeeps, heffect⟩)
    exact .checked text hmem kind known contract found
  | unresolved text nowhere found =>
    have hquiet : op.bringsProfile r = false := by
      by_contra hb
      have := hsp.arrivals (readTree_kind text).symm (by simpa using hb)
      rw [hu] at this
      cases this
    exact .unresolved text (defines_of_quiet hr hquiet nowhere) found

end Supported

namespace Ledger

open Document Registry

variable {l : Ledger} {r : Registry} {d : Document} {op : Operation}

lemma sourceOf_eq (hr : r.WellFormed) {key : String} (hk : d.textNamespace? = some key) :
    sourceOf r d = (r.profile? key).map (·.id) := by
  unfold sourceOf
  rw [hk, Option.bind_some, findProfile_eq hr.inOrder fun e he => hr.derived_of_mem he]
  cases r.profile? key with
  | none => rfl
  | some p => exact congrArg some sameText_outline.id

/-- Diagnostics that have just been worked out rest on what was found for them. -/
lemma supported_verdict (hr : r.WellFormed) (hd : d ∈ r.documents) (hx : op.examines d = true) :
    Supported (r.apply op) (sourceOf r d) d (r.verdict d).1 (r.verdict d).2 := by
  obtain ⟨rfl, hn⟩ := Operation.examines_iff.mp hx
  have hget : r.get? d.uri = some d := (get?_eq_some hr).mpr ⟨hd, rfl⟩
  unfold verdict
  split
  · next e text =>
    refine .unreadable text ?_
    simp [sourceOf, textNamespace?, text, Except.toOption]
  · next p text => exact .profile text
  · next m text =>
    have hkind : d.kind = .map := (readTree_kind text).symm
    have hkey := textNamespace?_eq_some.mpr ⟨_, text, rfl⟩
    rw [sourceOf_eq hr hkey]
    cases hp : r.profile? (Tree.map m).namespaceKey with
    | none => exact .unresolved text (defines_of_quiet hr rfl (profile?_eq_none.mp hp)) rfl
    | some p =>
      obtain ⟨hmem, hdef⟩ := profile?_eq_some hp
      obtain ⟨hk, hns⟩ := defines_iff.mp hdef
      obtain ⟨c, hc⟩ := textContract?_of_defines hdef
      -- the profile was looked through for its namespace
      have hout : (Operation.diagnose d.uri).outlines r p = true := by
        simp [Operation.outlines, hget, hk, hkind, hn, hkey]
      have hne : ¬ (p.uri = d.uri ∧ p.stage.diagnostics? = none) := by
        rintro ⟨hpu, -⟩
        rw [hr.eq_of_uri hmem hd hpu, hkind] at hk
        cases hk
      have heffect : (Operation.diagnose d.uri).effect r p = p.outline.2 := by
        have hk' : p.outline.2.kind = .profile := sameText_outline.kind.trans hk
        simp only [Operation.effect, if_neg hne, Operation.bystander, hout, if_true]
        rw [forgetFor_of_profile hk', forgetOnArrival_of_profile hk']
      have hmem' := (mem_documents_apply hr).mpr (.inr ⟨p, hmem, rfl, heffect⟩)
      simp only [Option.bind_some, hc]
      refine .checked text hmem' (sameText_outline.kind.trans hk) ?_
        (sameText_outline.textContract?.trans hc) (congrArg some sameText_outline.id.symm)
      exact (hr.derived_of_mem hmem).outline_known.trans hns

/-- The ledger is right about what cached diagnostics rest on. -/
structure Sound (l : Ledger) : Prop where
  wellFormed : l.registry.WellFormed
  supported : ∀ d ∈ l.registry.documents, ∀ ds, d.stage.diagnostics? = some ds →
    Supported l.registry (l.source d.id) d ds d.stage.isUnresolved

lemma source_apply_of_examines (hr : l.registry.WellFormed) (hd : d ∈ l.registry.documents)
    (hx : op.examines d = true) : (l.apply op).source d.id = sourceOf l.registry d := by
  have hf : l.registry.documents.find? (fun e => e.id = d.id ∧ op.examines e) = some d := by
    cases hf : l.registry.documents.find? (fun e => e.id = d.id ∧ op.examines e) with
    | none => simpa [hx] using List.find?_eq_none.mp hf d hd
    | some e =>
      have he := List.mem_of_find?_eq_some hf
      have hid : e.id = d.id := (by simpa using List.find?_some hf : _ ∧ _).1
      rw [hr.eq_of_id he hd hid]
  simp only [apply, hf]

lemma source_apply (hr : l.registry.WellFormed) (hd : d ∈ l.registry.documents)
    (hx : op.examines d = false) : (l.apply op).source d.id = l.source d.id := by
  have hf : l.registry.documents.find? (fun e => e.id = d.id ∧ op.examines e) = none := by
    refine List.find?_eq_none.mpr fun e he => ?_
    by_contra hc
    obtain ⟨hid, hxe⟩ : e.id = d.id ∧ op.examines e = true := by simpa using hc
    rw [hr.eq_of_id he hd hid, hx] at hxe
    cases hxe
  simp only [apply, hf]

/-- Every operation keeps the ledger right. -/
theorem Sound.apply (hl : l.Sound) (op : Operation) : (l.apply op).Sound where
  wellFormed := hl.wellFormed.apply op
  supported d hd ds hds := by
    have hr := hl.wellFormed
    rcases (mem_documents_apply hr).mp hd with harr | ⟨e, he, -, rfl⟩
    · simp [(arrival?_eq_some harr).2.1, Stage.diagnostics?] at hds
    rw [(effect_identity op).1]
    have hknown : (op.effect l.registry e).stage.diagnostics? ≠ none := by simp [hds]
    rcases effect_of_diagnosed hknown with ⟨hx, heffect⟩ | ⟨hx, heffect, hsp⟩
    · have hn := (Operation.examines_iff.mp hx).2
      have hstage : (examined e).keepDiagnostics (l.registry.verdict e).1 (l.registry.verdict e).2 =
          { examined e with
            stage := .diagnosed e.textTree e.textOutline (l.registry.verdict e).1
              (l.registry.verdict e).2 } :=
        keepDiagnostics_of_outlined (examined_stage (hr.derived_of_mem he) hn)
      have hsame : SameText e (op.effect l.registry e) := by
        rw [heffect]; exact sameText_examined.trans sameText_keepDiagnostics
      rw [source_apply_of_examines hr he hx]
      refine Supported.sameText hsame ?_
      rw [heffect, hstage] at hds ⊢
      cases hds
      exact supported_verdict hr he hx
    · rw [source_apply hr he hx]
      rw [heffect] at hds ⊢
      exact (hl.supported e he ds hds).spared hr he hsp

lemma sound_empty : empty.Sound := ⟨wellFormed_empty, fun _ h => by cases h⟩

/-- The ledger is right whatever has been done. -/
theorem Sound.run (hl : l.Sound) (ops : List Operation) : (l.run ops).Sound := by
  induction ops generalizing l with
  | nil => exact hl
  | cons op ops ih => exact ih (hl.apply op)

end Ledger

end Contracts
