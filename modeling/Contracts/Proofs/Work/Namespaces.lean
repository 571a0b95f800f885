import Contracts.Proofs.Identity.Namespace
import Contracts.Proofs.Source.Maps
import Contracts.Proofs.Source.Profiles
import Contracts.Proofs.Store.Ledger
import Contracts.Proofs.Work.System

/-!
Maps meet their profiles by a text, and are checked against them by an identity.

Names in headers are proper, so the texts agree exactly if the identities are compatible. A map is
only ever checked against a profile that was found by the text, and so no check reports that the map
was meant for another profile. That no diagnostics say so is the invariant of all documents that
anybody knows, registered or not.
-/

namespace Contracts

/-! ### Headers -/

/-- The name in the header of a profile is proper. -/
lemma isProper_of_profile {text : String} {p : Profile}
    (h : readTree .profile text = .ok (.profile p)) : p.header.id.name.IsProper := by
  obtain ⟨-, c', h⟩ := readTree_eq_ok.mp h
  obtain ⟨q, h, heq⟩ := Parser.gives_map.mp h
  cases heq
  obtain ⟨_, _, -, h⟩ := Parser.gives_bind.mp h
  obtain ⟨_, _, -, h⟩ := Parser.gives_bind.mp h
  obtain ⟨header, _, hheader, h⟩ := Parser.gives_bind.mp h
  obtain ⟨_, _, -, h⟩ := Parser.gives_bind.mp h
  obtain ⟨definitions, _, -, h⟩ := Parser.gives_bind.mp h
  obtain ⟨_, _, -, h⟩ := Parser.gives_bind.mp h
  obtain ⟨_, _, -, h⟩ := Parser.gives_bind.mp h
  obtain ⟨rfl, -⟩ := Parser.gives_pure.mp h
  obtain ⟨-, hname, -⟩ := Grammar.gives_profileHeader.mp hheader
  exact DocumentName.isProper_of_ofText? hname

/-- So is the name of the profile that a map asks for. -/
lemma isProper_of_map {text : String} {m : MapDocument}
    (h : readTree .map text = .ok (.map m)) : m.header.profile.name.IsProper := by
  obtain ⟨-, c', h⟩ := readTree_eq_ok.mp h
  obtain ⟨q, h, heq⟩ := Parser.gives_map.mp h
  cases heq
  obtain ⟨_, _, -, h⟩ := Parser.gives_bind.mp h
  obtain ⟨_, _, -, h⟩ := Parser.gives_bind.mp h
  obtain ⟨header, _, hheader, h⟩ := Parser.gives_bind.mp h
  obtain ⟨_, _, -, h⟩ := Parser.gives_bind.mp h
  obtain ⟨definitions, _, -, h⟩ := Parser.gives_bind.mp h
  obtain ⟨_, _, -, h⟩ := Parser.gives_bind.mp h
  obtain ⟨_, _, -, h⟩ := Parser.gives_bind.mp h
  obtain ⟨rfl, -⟩ := Parser.gives_pure.mp h
  obtain ⟨⟨-, hprofile, -⟩, -⟩ := Grammar.spelled_mapHeader hheader
  exact ProfileId.isProper_of_ofText? hprofile

/-- A profile and a map have one key exactly if the map asks for what the profile is. -/
lemma namespaceKey_eq_iff {profileText mapText : String} {p : Profile} {m : MapDocument}
    (hp : readTree .profile profileText = .ok (.profile p))
    (hm : readTree .map mapText = .ok (.map m)) :
    (Tree.profile p).namespaceKey = (Tree.map m).namespaceKey ↔
      m.header.profile.isCompatible p.header.id = true := by
  have hprofile : (Tree.profile p).namespaceKey = p.header.id.text := namespaceText_eq _ _
  have hmap : (Tree.map m).namespaceKey = m.header.profile.text := namespaceText_eq _ _
  rw [hprofile, hmap, eq_comm]
  exact ProfileId.text_eq_iff (isProper_of_map hm) (isProper_of_profile hp)

/-! ### Issues -/

namespace IssueKind

/-- What a message says before the first name in it. -/
def opening : IssueKind → String
  | .profileMismatch _ _ => "map targets profile "
  | .usecaseNotFound _ _ => "usecase `"
  | .duplicateMap _ => "map for usecase `"
  | .duplicateOperation _ | .operationNotFound _ | .unusedOperation _ => "operation `"

lemma exists_message_eq (k : IssueKind) : ∃ rest, k.message = k.opening ++ rest := by
  cases k with
  | profileMismatch expected actual =>
    exact ⟨expected ++ " but the profile is " ++ actual, by simp only [← String.append_assoc]; rfl⟩
  | usecaseNotFound name profile =>
    exact ⟨name ++ "` is not defined in profile " ++ profile,
      by simp only [← String.append_assoc]; rfl⟩
  | duplicateMap name | duplicateOperation name =>
    exact ⟨name ++ "` is defined more than once", by simp only [← String.append_assoc]; rfl⟩
  | operationNotFound name =>
    exact ⟨name ++ "` is not defined", by simp only [← String.append_assoc]; rfl⟩
  | unusedOperation name =>
    exact ⟨name ++ "` is never called", by simp only [← String.append_assoc]; rfl⟩

/-- The first five letters of a message tell a mismatch from all else. -/
lemma take_message (k : IssueKind) : k.message.toList.take 5 = k.opening.toList.take 5 := by
  obtain ⟨rest, h⟩ := k.exists_message_eq
  rw [h, String.toList_append, List.take_append_of_le_length]
  cases k <;> simp [opening]

lemma message_ne {k : IssueKind} (h : ∀ expected actual, k ≠ profileMismatch expected actual)
    (expected actual : String) : k.message ≠ (profileMismatch expected actual).message := by
  intro heq
  have hstart := take_message (profileMismatch expected actual)
  rw [← heq, take_message] at hstart
  cases k with
  | profileMismatch e a => exact h e a rfl
  | _ => simp [opening] at hstart

end IssueKind

/-- No diagnostic of a list says that a map was meant for another profile. -/
def Unmistaken (ds : List Diagnostic) : Prop :=
  ∀ x ∈ ds, ∀ expected actual, x.message ≠ (IssueKind.profileMismatch expected actual).message

/-- A verdict reports a mismatch in the header or nowhere. -/
lemma kind_ne_of_compatible {m : MapDocument} {c : Contract}
    (h : m.header.profile.isCompatible c.profile = true) :
    ∀ i ∈ (m.check c).errors ++ (m.check c).warnings,
      ∀ expected actual, i.kind ≠ .profileMismatch expected actual := by
  have hdefinitions : ∀ (ds : List MapDefinition) (maps operations : List String),
      ∀ i ∈ MapDocument.definitionIssues c maps operations ds,
        ∀ expected actual, i.kind ≠ .profileMismatch expected actual := by
    intro ds
    induction ds with
    | nil => intro maps operations i hi; cases hi
    | cons d ds ih =>
      intro maps operations i hi expected actual
      unfold MapDocument.definitionIssues at hi
      split at hi
      · rw [List.mem_append, List.mem_append] at hi
        rcases hi with (hi | hi) | hi
        · split at hi
          · rw [List.mem_singleton.mp hi]; exact nofun
          · cases hi
        · split at hi
          · rw [List.mem_singleton.mp hi]; exact nofun
          · cases hi
        · exact ih _ _ i hi expected actual
      · rw [List.mem_append] at hi
        rcases hi with hi | hi
        · split at hi
          · rw [List.mem_singleton.mp hi]; exact nofun
          · cases hi
        · exact ih _ _ i hi expected actual
  intro i hi expected actual
  simp only [MapDocument.check, MapDocument.headerIssues, if_pos h, List.nil_append,
    List.mem_append] at hi
  rcases hi with (hi | hi) | hi
  · exact hdefinitions _ _ _ i hi expected actual
  · obtain ⟨call, -, rfl⟩ := List.mem_map.mp hi
    exact nofun
  · obtain ⟨d, -, rfl⟩ := List.mem_map.mp hi
    exact nofun

lemma unmistaken_of_compatible {m : MapDocument} {c : Contract}
    (h : m.header.profile.isCompatible c.profile = true) : Unmistaken (m.check c).diagnostics := by
  have hkinds := kind_ne_of_compatible h
  intro x hx
  rcases List.mem_append.mp hx with hx | hx
  · obtain ⟨i, hi, rfl⟩ := List.mem_map.mp hx
    exact IssueKind.message_ne (hkinds i (List.mem_append_left _ hi))
  · obtain ⟨i, hi, rfl⟩ := List.mem_map.mp hx
    exact IssueKind.message_ne (hkinds i (List.mem_append_right _ hi))

/-! ### Registries -/

namespace Registry

open Document

variable {r : Registry} {op : Operation} {d : Document} {m : MapDocument}

/-- The profile that is found for a map is the one that the map asks for. -/
lemma compatible_of_profile? (ht : d.textTree = .ok (.map m)) {q : Document}
    (hq : r.profile? (Tree.map m).namespaceKey = some q) :
    ∃ p, readTree .profile q.text = .ok (.profile p) ∧ q.textContract? = some (.ofProfile p) ∧
      m.header.profile.isCompatible p.header.id = true := by
  obtain ⟨hk, hns⟩ := defines_iff.mp (profile?_eq_some hq).2
  obtain ⟨t, htree, hkey⟩ := textNamespace?_eq_some.mp hns
  have hkind : .map = d.kind := readTree_kind ht
  have hm : readTree .map d.text = .ok (.map m) := hkind ▸ ht
  have hread : readTree .profile q.text = .ok t := hk ▸ htree
  cases t with
  | map m => cases readTree_kind hread
  | profile p =>
    exact ⟨p, hread, by simp [textContract?, htree], (namespaceKey_eq_iff hread hm).mp hkey⟩

lemma unmistaken_verdict (ht : d.textTree = .ok (.map m)) : Unmistaken (r.verdict d).1 := by
  unfold verdict
  rw [ht]
  dsimp only
  cases hq : r.profile? (Tree.map m).namespaceKey with
  | none => exact nofun
  | some q =>
    obtain ⟨p, -, hc, hcompatible⟩ := compatible_of_profile? ht hq
    rw [Option.bind_some, hc]
    exact unmistaken_of_compatible (c := .ofProfile p) hcompatible

/-- A map that is not registered is checked against the same profile as one that is. -/
lemma diagnose_of_known_map (hr : r.WellFormed) (hd : d ∈ r.documents ++ r.detached)
    (hn : d.stage.diagnostics? = none) (ht : d.textTree = .ok (.map m)) :
    (r.diagnose d).1 = .ok (r.verdict d).1 := by
  rcases List.mem_append.mp hd with hreg | hdet
  · exact (diagnose_eq hr ((get?_eq_some hr).mpr ⟨hreg, rfl⟩) hn).1
  have hdocs : (r.modify d.id fun _ => examined d).documents = r.documents := by
    refine (List.map_congr_left fun e he => ?_).trans (List.map_id _)
    simp [hr.id_ne he hdet]
  have hcontract : (r.modify d.id fun _ => examined d).contract? (Tree.map m).namespaceKey = _ :=
    contract?_eq (hdocs ▸ hr.inOrder) (hdocs ▸ fun e he => hr.derived_of_mem he)
  have hprofile : (r.modify d.id fun _ => examined d).profile? (Tree.map m).namespaceKey =
      r.profile? (Tree.map m).namespaceKey := by
    unfold profile?
    rw [hdocs]
  rw [diagnose_of_readable (hr.derived d hd) hn ht]
  unfold verdict examine
  rw [ht]
  dsimp only
  rw [hcontract, hprofile]
  cases (r.profile? (Tree.map m).namespaceKey).bind (·.textContract?) <;> rfl

/-- The diagnostics that are known of a map do not say that it was meant for another profile. -/
def KeepsUnmistaken (d : Document) : Prop :=
  ∀ m ds, d.textTree = .ok (.map m) → d.stage.diagnostics? = some ds → Unmistaken ds

lemma keepsUnmistaken_effect (hr : r.WellFormed) (hd : d ∈ r.documents) (h : KeepsUnmistaken d) :
    KeepsUnmistaken (op.effect r d) := by
  intro m ds ht hds
  have hknown : (op.effect r d).stage.diagnostics? ≠ none := by simp [hds]
  rcases effect_of_diagnosed hknown with ⟨hx, heffect⟩ | ⟨-, heffect, -⟩
  · have hn := (Operation.examines_iff.mp hx).2
    have hs : SameText d (op.effect r d) := by
      rw [heffect]
      exact sameText_examined.trans sameText_keepDiagnostics
    rw [heffect, keepDiagnostics_of_outlined (examined_stage (hr.derived_of_mem hd) hn)] at hds
    cases hds
    exact unmistaken_verdict (hs.textTree ▸ ht)
  · rw [heffect] at ht hds
    exact h m ds ht hds

lemma keepsUnmistaken_outside (h : KeepsUnmistaken d) : KeepsUnmistaken (op.outside d) := by
  unfold Operation.outside
  split
  · split
    · intro m ds ht hds
      rw [sameText_outline.textTree] at ht
      rw [outline_diagnostics?] at hds
      exact h m ds ht hds
    · exact h
  · exact h

/-- No operation brings a document to know of a mismatch. -/
lemma keepsUnmistaken_apply (hr : r.WellFormed)
    (h : ∀ d ∈ r.documents ++ r.detached, KeepsUnmistaken d) :
    ∀ d ∈ (r.apply op).documents ++ (r.apply op).detached, KeepsUnmistaken d := by
  intro d hd
  rcases List.mem_append.mp hd with hd | hd
  · rcases (mem_documents_apply hr).mp hd with harr | ⟨e, he, -, rfl⟩
    · intro m ds _ hds
      simp [(arrival?_eq_some harr).2.1, Stage.diagnostics?] at hds
    · exact keepsUnmistaken_effect hr he (h e (List.mem_append_left _ he))
  · rw [detached_apply hr] at hd
    rcases List.mem_append.mp hd with hd | hd
    · obtain ⟨e, he, rfl⟩ := List.mem_map.mp hd
      exact keepsUnmistaken_outside (h e (List.mem_append_right _ he))
    · exact h d (List.mem_append_left _ (List.mem_filter.mp hd).1)

lemma keepsUnmistaken_run (hr : r.WellFormed) (ops : List Operation)
    (h : ∀ d ∈ r.documents ++ r.detached, KeepsUnmistaken d) :
    ∀ d ∈ (r.run ops).documents ++ (r.run ops).detached, KeepsUnmistaken d := by
  induction ops generalizing r with
  | nil => exact h
  | cons op ops ih => exact ih (hr.apply op) (keepsUnmistaken_apply hr h)

end Registry

namespace System

open Document Registry

/-- **The namespace is a faithful key.** The outlines of a profile and of a map show the texts of
their identities, and the same one exactly if the identities are compatible. So in every reachable
state a map that anybody knows, registered or not, is checked against a profile that it asks for, or
against none, and no diagnostics of it say otherwise. -/
theorem namespace_faithful :
    (∀ profileText mapText p m, readTree .profile profileText = .ok (.profile p) →
      readTree .map mapText = .ok (.map m) → ∀ profileName mapName,
        let ofProfile := outlineNamespace? ((Tree.profile p).outline profileName)
        let ofMap := outlineNamespace? ((Tree.map m).outline mapName)
        (ofProfile = ofMap ↔ m.header.profile.isCompatible p.header.id = true) ∧
        ofProfile = some p.header.id.text ∧ ofMap = some m.header.profile.text) ∧
    ∀ (storage : Storage) (actions : List Action),
      let r := ((ofStorage storage).run actions).registry
      ∀ d ∈ r.documents ++ r.detached, ∀ m, d.textTree = .ok (.map m) →
        (∃ ds, (r.diagnose d).1 = .ok ds ∧ Unmistaken ds) ∧
        (d.stage.diagnostics? = none →
          match (r.findProfile (Tree.map m).namespaceKey).1 with
          | none => (r.diagnose d).1 = .ok []
          | some q => ∃ p, readTree .profile q.text = .ok (.profile p) ∧
              m.header.profile.isCompatible p.header.id = true ∧
              (r.diagnose d).1 = .ok (m.check (.ofProfile p)).diagnostics ∧
              ∀ i ∈ (m.check (.ofProfile p)).errors ++ (m.check (.ofProfile p)).warnings,
                ∀ expected actual, i.kind ≠ .profileMismatch expected actual) := by
  constructor
  · intro profileText mapText p m hp hm profileName mapName ofProfile ofMap
    refine ⟨?_, congrArg some (namespaceText_eq _ _), congrArg some (namespaceText_eq _ _)⟩
    exact Option.some_inj.trans (namespaceKey_eq_iff hp hm)
  · intro storage actions r d hd m ht
    have hr : r.WellFormed := wellFormed_run storage actions
    have hempty : (ofStorage storage).registry.WellFormed := wellFormed_empty
    have hkeeps : KeepsUnmistaken d := by
      have hrun : r = _ := registry_run hempty actions
      rw [hrun] at hd
      exact keepsUnmistaken_run hempty _ (fun e he => by cases he) d hd
    refine ⟨?_, fun hn => ?_⟩
    · cases hn : d.stage.diagnostics? with
      | none => exact ⟨_, diagnose_of_known_map hr hd hn ht, unmistaken_verdict ht⟩
      | some ds => exact ⟨ds, by rw [diagnose_of_known hn], hkeeps m ds ht hn⟩
    · have hanswer := diagnose_of_known_map hr hd hn ht
      unfold verdict at hanswer
      rw [ht] at hanswer
      rw [findProfile_eq hr.inOrder fun e he => hr.derived_of_mem he]
      cases hq : r.profile? (Tree.map m).namespaceKey with
      | none => simpa [hq] using hanswer
      | some q =>
        obtain ⟨p, hp, hc, hcompatible⟩ := compatible_of_profile? ht hq
        have hread : readTree .profile q.outline.2.text = .ok (.profile p) := by
          rw [sameText_outline.text, hp]
        exact ⟨p, hread, hcompatible, by simpa [hq, hc] using hanswer,
          kind_ne_of_compatible hcompatible⟩

/-- A map that misses a usecase of its profile: one problem, and no mismatch. -/
theorem namespace_faithful_weather :
    let r := ((ofStorage noFiles).run [openMap, openProfile "w.supr" "Other"]).registry
    ∃ d ∈ r.documents, ∃ ds, (r.diagnose d).1 = .ok ds ∧ ds.length = 1 ∧ Unmistaken ds := by
  intro r
  obtain ⟨d, hd, hk, hread, hone⟩ : ∃ d ∈ r.documents, d.kind = .map ∧
      d.textTree.toOption.isSome = true ∧
        (r.diagnose d).1.toOption.map (·.length) = some 1 := by decide +kernel
  cases ht : d.textTree with
  | error e => rw [ht] at hread; cases hread
  | ok t =>
    have hkind : t.kind = .map := (readTree_kind ht).trans hk
    cases t with
    | profile p => cases hkind
    | map m =>
      obtain ⟨⟨ds, hds, hclean⟩, -⟩ :=
        namespace_faithful.2 noFiles _ d (List.mem_append_left _ hd) m ht
      rw [hds] at hone
      exact ⟨d, hd, ds, hds, Option.some.inj hone, hclean⟩

end System

end Contracts
