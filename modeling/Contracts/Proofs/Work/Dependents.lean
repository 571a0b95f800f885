import Contracts.Proofs.Store.Recall
import Contracts.Proofs.Store.Standing
import Contracts.Proofs.Work.System

/-!
The maps that depend on a profile: exactly those whose text has its namespace, whatever is known of
any text. Looking for them makes outlines, and changes nothing that is answered.
-/

namespace Contracts

lemma Document.textNamespace?_of_targets {d : Document} {key : String}
    (h : d.targets? = some key) : d.textNamespace? = some key := by
  unfold targets? at h
  split at h
  · exact h
  · cases h

namespace Registry

open Document

variable {r : Registry} {ops : List Operation} {key : String} {uri u : Uri} {d : Document}

/-- A map of a namespace is registered at a uri. -/
def Targets (r : Registry) (u : Uri) (key : String) : Prop :=
  ∃ d, r.get? u = some d ∧ d.targets? = some key

/-- A profile of a namespace is registered at a uri. -/
def Defines (r : Registry) (u : Uri) (key : String) : Prop :=
  ∃ d, r.get? u = some d ∧ d.defines key = true

/-- No document is a profile and a map. -/
lemma Defines.not_targets {other : String} (h : r.Defines u key) : ¬ r.Targets u other := by
  rintro ⟨e, he, htarget⟩
  obtain ⟨d, hd, hdef⟩ := h
  cases hd.symm.trans he
  unfold Document.defines at hdef
  unfold targets? at htarget
  split at htarget
  · next hk => simp [hk] at hdef
  · cases htarget

/-- Where a profile of its namespace is registered, a map is not without one. -/
lemma verdict_of_defined {p : Document} (hp : p ∈ r.documents) (hdefines : p.defines key = true)
    (h : d.textNamespace? = some key) : (r.verdict d).2 = false := by
  obtain ⟨tree, ht, rfl⟩ := textNamespace?_eq_some.mp h
  unfold verdict
  rw [ht]
  cases tree with
  | profile q => rfl
  | map m =>
    cases hfirst : r.profile? (Tree.map m).namespaceKey with
    | none =>
      rw [profile?_eq_none.mp hfirst p hp] at hdefines
      cases hdefines
    | some q =>
      obtain ⟨c, hc⟩ := textContract?_of_defines (profile?_eq_some hfirst).2
      simp [hfirst, hc]

lemma targets?_of_sameText {e : Document} (h : SameText d e) : e.targets? = d.targets? := by
  unfold targets?
  rw [h.kind, h.textNamespace?]

/-- Operations that give no text leave all documents where they are. -/
lemma get?_run_of_quiet (hr : r.WellFormed) (hq : ∀ op ∈ ops, op.isQuiet = true) (uri : Uri) :
    (r.get? uri = none ∧ (r.run ops).get? uri = none) ∨
      ∃ d e, r.get? uri = some d ∧ (r.run ops).get? uri = some e ∧ SameText d e := by
  induction ops generalizing r with
  | nil =>
    cases hg : r.get? uri with
    | none => exact .inl ⟨rfl, hg⟩
    | some d => exact .inr ⟨d, d, rfl, hg, .refl d⟩
  | cons op ops ih =>
    have hop := hq op List.mem_cons_self
    have hget := get?_of_quiet hr hop uri
    rcases ih (hr.apply op) fun o ho => hq o (List.mem_cons_of_mem _ ho) with
      ⟨hnone, hafter⟩ | ⟨d, e, hd, he, hs⟩
    · rw [hget, Option.map_eq_none_iff] at hnone
      exact .inl ⟨hnone, hafter⟩
    · rw [hget] at hd
      obtain ⟨x, hx, rfl⟩ := Option.map_eq_some_iff.mp hd
      exact .inr ⟨x, e, hx, he, (sameText_effect ((documents_of_quiet hr hop).2 x)).trans hs⟩

lemma isSome_run_of_quiet (hr : r.WellFormed) (hq : ∀ op ∈ ops, op.isQuiet = true) (uri : Uri) :
    ((r.run ops).get? uri).isSome = (r.get? uri).isSome := by
  rcases get?_run_of_quiet hr hq uri with ⟨h, h'⟩ | ⟨d, e, h, h', -⟩ <;> simp [h, h']

lemma length_run_of_quiet (hr : r.WellFormed) (hq : ∀ op ∈ ops, op.isQuiet = true) :
    (r.run ops).documents.length = r.documents.length := by
  induction ops generalizing r with
  | nil => rfl
  | cons op ops ih =>
    have hop := hq op List.mem_cons_self
    rw [run_cons, ih (hr.apply op) fun o ho => hq o (List.mem_cons_of_mem _ ho),
      (documents_of_quiet hr hop).1, List.length_map]

lemma targets_run_of_quiet (hr : r.WellFormed) (hq : ∀ op ∈ ops, op.isQuiet = true) :
    (r.run ops).Targets u key ↔ r.Targets u key := by
  unfold Targets
  rcases get?_run_of_quiet hr hq u with ⟨h, h'⟩ | ⟨d, e, h, h', hs⟩
  · simp [h, h']
  · simp [h, h', targets?_of_sameText hs]

lemma defines_run_of_quiet (hr : r.WellFormed) (hq : ∀ op ∈ ops, op.isQuiet = true) :
    (r.run ops).Defines u key ↔ r.Defines u key := by
  unfold Defines
  rcases get?_run_of_quiet hr hq u with ⟨h, h'⟩ | ⟨d, e, h, h', hs⟩
  · simp [h, h']
  · simp [h, h', hs.defines]

/-- What an operation is not meant for defines and targets what it did. -/
lemma namespaces_of_rewrites {op : Operation} (hr : r.WellFormed) (hop : op.rewrites uri = true)
    (hne : u ≠ uri) :
    ((r.apply op).Targets u key ↔ r.Targets u key) ∧
      ((r.apply op).Defines u key ↔ r.Defines u key) := by
  unfold Targets Defines
  rw [get?_of_rewrites hr hop hne]
  cases hg : r.get? u with
  | none => simp
  | some d =>
    obtain ⟨-, rfl⟩ := (get?_eq_some hr).mp hg
    have hs := sameText_effect (r := r) (edits_of_ne hop hne)
    simp [targets?_of_sameText hs, hs.defines]

lemma answer?_run_of_quiet (hb : r.Backed) (hq : ∀ op ∈ ops, op.isQuiet = true)
    (hi : ∀ op ∈ ops, ∀ r : Registry, op.invalidated? r = none) :
    (r.run ops).answer? uri = r.answer? uri := by
  induction ops generalizing r with
  | nil => rfl
  | cons op ops ih =>
    rw [run_cons, ih (hb.apply op) (fun o ho => hq o (List.mem_cons_of_mem _ ho))
      fun o ho => hi o (List.mem_cons_of_mem _ ho)]
    refine answer?_of_quiet hb (hq op List.mem_cons_self) fun d _ key _ => ?_
    rw [hi op List.mem_cons_self]
    exact fun h => nomatch h

/-- The maps that are found for a namespace are those whose text has it. -/
lemma mem_mapsTargeting (hr : r.WellFormed) :
    u ∈ (r.mapsTargeting key).1.map (·.uri) ↔ r.Targets u key := by
  have houtline : ∀ e ∈ r.documents,
      (((if e.kind = .map then e.outline.2 else e).kind = .map ∧
        (if e.kind = .map then e.outline.2 else e).knownNamespace? = some key) ↔
          e.targets? = some key) ∧ (if e.kind = .map then e.outline.2 else e).uri = e.uri := by
    intro e he
    unfold targets?
    split
    · next hk =>
      rw [(hr.derived_of_mem he).outline_known]
      exact ⟨and_iff_right (sameText_outline.kind.trans hk), sameText_outline.uri⟩
    · next hk => simp [hk]
  have hmaps : (r.mapsTargeting key).1 = (r.outlineAll .map).documents.filter fun d =>
      d.kind = .map ∧ d.knownNamespace? = some key := rfl
  rw [hmaps, List.mem_map]
  constructor
  · rintro ⟨d, hd, rfl⟩
    obtain ⟨hd, hkey⟩ := List.mem_filter.mp hd
    obtain ⟨e, he, rfl⟩ := List.mem_map.mp hd
    obtain ⟨hiff, huri⟩ := houtline e he
    exact ⟨e, (get?_eq_some hr).mpr ⟨he, huri.symm⟩, hiff.mp (by simpa using hkey)⟩
  · rintro ⟨e, hget, hkey⟩
    obtain ⟨he, rfl⟩ := (get?_eq_some hr).mp hget
    obtain ⟨hiff, huri⟩ := houtline e he
    exact ⟨_, List.mem_filter.mpr ⟨List.mem_map_of_mem he, by simpa using hiff.mpr hkey⟩, huri⟩

end Registry

namespace Workspace

open Registry

variable {w : Workspace} {uri u : Uri} {d : Document}

/-- The maps that are found to depend on the profile at a uri. -/
def dependentUris (w : Workspace) (uri : Uri) : List Uri := (w.dependentsOf uri).1.toOption.getD []

lemma quiet_of_dependents {op : Operation} (h : op ∈ (Activity.dependents uri).operations w) :
    op.isQuiet = true ∧ ∀ r : Registry, op.invalidated? r = none := by
  simp only [Activity.operations] at h
  split at h
  · split at h
    · cases h
    · split at h
      · cases h
      · rcases List.mem_cons.mp h with rfl | h
        · exact ⟨rfl, fun _ => rfl⟩
        · split at h
          · cases List.mem_singleton.mp h
            exact ⟨rfl, fun _ => rfl⟩
          · cases h
  · cases h

/-- Of a profile that can be read, all maps of its namespace are found, and of another none. -/
theorem dependentUris_spec (hr : w.registry.WellFormed) (hg : w.registry.get? uri = some d)
    (hk : d.kind = .profile) :
    (u ∈ w.dependentUris uri ↔ ∃ key, d.textNamespace? = some key ∧ w.registry.Targets u key) ∧
      (w.dependentUris uri).length ≤ w.registry.documents.length := by
  obtain ⟨hmem, -⟩ := (get?_eq_some hr).mp hg
  have hd := hr.derived_of_mem hmem
  have hdoc : w.registry.document? d.id = some d :=
    (document?_eq_some hr).mpr ⟨List.mem_append_left _ hmem, rfl⟩
  have houtline : w.registry.apply (.outline d.id) = (w.registry.outline d).2 := by
    simp [Registry.apply, hdoc]
  obtain ⟨hkey, hreg⟩ := Activity.namespaceKey_eq (r := w.registry) (d := d)
  rw [hd.namespaceKey_fst] at hkey
  unfold dependentUris dependentsOf
  simp only [hg, hk]
  rcases hns : w.registry.namespaceKey d with ⟨found, r⟩
  rw [hns] at hkey hreg
  dsimp only at hkey hreg
  unfold Document.textNamespace?
  cases ht : d.textTree with
  | error e =>
    rw [ht] at hkey
    rw [show found = .error (.unreadable e) from hkey]
    simp [Except.toOption]
  | ok tree =>
    rw [ht] at hkey
    rw [show found = .ok tree.namespaceKey from hkey]
    rw [← houtline] at hreg
    have hr' : r.WellFormed := by rw [hreg]; exact hr.apply _
    have hq : ∀ op ∈ [Operation.outline d.id], op.isQuiet = true := by simp [Operation.isQuiet]
    have hlen : r.documents.length = w.registry.documents.length := by
      rw [hreg]; exact length_run_of_quiet hr hq
    have htargets : r.Targets u tree.namespaceKey ↔ w.registry.Targets u tree.namespaceKey := by
      rw [hreg]; exact targets_run_of_quiet hr hq
    constructor
    · show u ∈ (r.mapsTargeting tree.namespaceKey).1.map (·.uri) ↔ _
      rw [mem_mapsTargeting hr', htargets]
      simp [Except.toOption]
    · show ((r.mapsTargeting tree.namespaceKey).1.map (·.uri)).length ≤ _
      rw [List.length_map, ← hlen]
      exact (List.length_filter_le _ _).trans (by simp [outlineAll])

end Workspace

end Contracts
