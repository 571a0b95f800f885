import Contracts.Proofs.Store.Counters
import Contracts.Proofs.Work.Freshness

/-!
Events at a profile that reach the maps which were checked against it.

No event looks at the texts of maps. It finds them by the namespaces that are known of the profile
and of the maps, which by the ledger are known for as long as the diagnostics of the maps are.
-/

namespace Contracts

namespace System

open Document Registry

/-- What may change the contract of a profile, or whether there is one. -/
inductive Unsettles (s : System) (p : Document) : Action → Prop
  | change (edits : List Edit) {version : Int} (h : p.version < version) :
      Unsettles s p (.changeDocument p.uri edits version)
  | update (edits : List Edit) {version : Int} (h : p.version < version) :
      Unsettles s p (.update p.uri edits version)
  | openDocument {language : String} (version : Int) (text : String)
      (h : (Kind.ofLanguage? language <|> Kind.ofUri? p.uri) ≠ none) :
      Unsettles s p (.openDocument p.uri language version text)
  | create (kind : Kind) (version : Int) (text : String) :
      Unsettles s p (.create p.uri kind version text)
  | closeDocument : Unsettles s p (.closeDocument p.uri)
  | remove : Unsettles s p (.remove p.uri)
  /-- The diagnostics of the profile are worked out. -/
  | examine {a : Action} {q : Document} (h : q ∈ (s.step a).registry.documents)
      (same : q.id = p.id) (count : p.checks < q.checks) : Unsettles s p a

variable {s : System} {p : Document} {a : Action} {key : String}

lemma run_load_operations {w : Workspace} {uri : Uri} {load : Load} {d : Document}
    (h : w.registry.get? uri = some d) : w.registry.run (load.operations w uri) = w.registry := by
  cases load with
  | lookup => rfl
  | reading kind path =>
    simp only [Load.operations]
    split
    · split
      · simp [Registry.apply, createIfAbsent_of_some h]
      · rfl
    · rfl

lemma diagnose_notMem_load {w : Workspace} {uri u : Uri} {load : Load} :
    .diagnose u ∉ load.operations w uri := by
  intro h
  cases load with
  | lookup => cases h
  | reading kind path =>
    simp only [Load.operations] at h
    split at h
    · split at h <;> simp at h
    · cases h

/-- Of all activities only one that is asked for diagnostics works any out. -/
lemma eq_diagnostics_of_mem {w : Workspace} {u : Uri} {act : Activity}
    (h : .diagnose u ∈ act.operations w) : ∃ load : Load,
      act.operations w = load.operations w u ++ [.diagnose u] := by
  have hfollowed : ∀ {uri} {load : Load} {next : Document → Operation} {op : Operation},
      op ∈ load.followed w uri next → ∃ d, load.followed w uri next = [next d] ∧ op = next d := by
    intro uri load next op hm
    unfold Load.followed at hm ⊢
    split at hm
    · next d _ => exact ⟨d, rfl, List.mem_singleton.mp hm⟩
    · cases hm
  cases act with
  | load uri stage => exact absurd h diagnose_notMem_load
  | outline uri stage =>
    rcases List.mem_append.mp h with h | h
    · exact absurd h diagnose_notMem_load
    · obtain ⟨d, -, hd⟩ := hfollowed h
      cases hd
  | diagnostics uri stage =>
    cases stage with
    | none => cases h
    | some stage =>
      rcases List.mem_append.mp h with h | h
      · exact absurd h diagnose_notMem_load
      · obtain ⟨d, hall, hd⟩ := hfollowed h
        cases hd
        exact ⟨stage, congrArg _ hall⟩
  | search query stage =>
    rcases stage with _ | ⟨_ | ⟨id, ids⟩, found⟩
    · cases h
    · cases h
    · exact absurd (List.mem_singleton.mp h) (fun h => nomatch h)
  | dependents uri =>
    simp only [Activity.operations] at h
    split at h
    · split at h
      · cases h
      · split at h
        · cases h
        · split at h <;> simp at h
    · cases h
  | barrier => cases h

/-- An action that works out the diagnostics of a registered document does nothing else. -/
lemma run_operations_of_diagnose (hp : s.registry.get? p.uri = some p)
    (h : .diagnose p.uri ∈ s.operations a) :
    s.registry.run (s.operations a) = s.registry.apply (.diagnose p.uri) := by
  cases a with
  | proceed slot =>
    simp only [operations] at h ⊢
    cases hact : s.activities[slot]? with
    | none => rw [hact] at h; cases h
    | some act =>
      rw [hact] at h
      obtain ⟨load, hops⟩ := eq_diagnostics_of_mem h
      dsimp only at hops ⊢
      rw [hops, Registry.run_append, registry, run_load_operations hp]
      rfl
  | proceedLoad slot choice =>
    simp only [operations] at h
    split at h
    · split at h
      · exact absurd h diagnose_notMem_load
      · cases h
    · cases h
  | openDocument uri language version text =>
    simp only [operations] at h
    split at h <;> simp at h
  | _ => simp [operations] at h

/-- Whatever unsettles a profile invalidates its namespace, and leaves maps as they are. -/
lemma Unsettles.invalidates {m : Document} (hr : s.registry.WellFormed)
    (hp : p ∈ s.registry.documents) (hk : p.kind = .profile) (hkn : p.knownNamespace? = some key)
    (hm : m ∈ s.registry.documents) (hkm : m.kind = .map) (h : Unsettles s p a) :
    ∃ op, (s.step a).registry = s.registry.apply op ∧ op.invalidated? s.registry = some key ∧
      op.keeps m = true ∧ op.edits m = false := by
  have hget : s.registry.get? p.uri = some p := (get?_eq_some hr).mpr ⟨hp, rfl⟩
  have hdef : p.definedNamespace? = some key := by simp [definedNamespace?, hk, hkn]
  have hne : m.uri ≠ p.uri := fun hu => by
    rw [hr.eq_of_uri hm hp hu, hk] at hkm
    cases hkm
  have hstep := registry_step hr a
  cases h with
  | @change edits version hv | @update edits version hv =>
    refine ⟨.update p.uri edits version, hstep, ?_, rfl, by simp [Operation.edits, hne]⟩
    simp [Operation.invalidated?, hget, hv, hdef]
  | openDocument version text hkind =>
    obtain ⟨kind, hkind⟩ := Option.ne_none_iff_exists'.mp hkind
    simp only [operations, hkind] at hstep
    refine ⟨.create p.uri kind version text, hstep, ?_, by simp [Operation.keeps, hne], rfl⟩
    simp [Operation.invalidated?, hget, hdef]
  | create kind version text =>
    refine ⟨.create p.uri kind version text, hstep, ?_, by simp [Operation.keeps, hne], rfl⟩
    simp [Operation.invalidated?, hget, hdef]
  | closeDocument | remove =>
    refine ⟨.remove p.uri, hstep, ?_, by simp [Operation.keeps, hne], rfl⟩
    simp [Operation.invalidated?, hget, hdef]
  | @examine _ q hq hid hcount =>
    rw [hstep] at hq
    have hmem : .diagnose p.uri ∈ s.operations a := by
      by_contra hn
      have := (checks_of_not_mem hr hp hn q hq hid).2
      omega
    have hrun := run_operations_of_diagnose hget hmem
    rw [hrun] at hstep hq
    have hnone : p.stage.diagnostics? = none := by
      by_contra hn
      have hlt : q.id < s.registry.nextId := by
        rw [hid]; exact hr.id_lt hp
      obtain ⟨x, hx, hxid, rfl⟩ := mem_documents_apply_of_id hr hq hlt
      rw [hr.eq_of_id hx hp (hxid.trans hid),
        Operation.effect_checks, if_neg fun hex => hn (Operation.examines_iff.mp hex).2] at hcount
      omega
    have htext := (hr.derived_of_mem hp).textNamespace?_of_known hkn
    refine ⟨.diagnose p.uri, hstep, ?_, rfl, rfl⟩
    simp [Operation.invalidated?, hget, hk, hnone, htext]

/-- Until somebody has worked diagnostics out that are not known, asking for them does. -/
lemma recomputes {m : Document} (hr : s.registry.WellFormed) (hm : m ∈ s.registry.documents)
    (hn : m.stage.diagnostics? = none) (more : List Action) :
    let r := (s.run more).registry
    ∀ n ∈ r.documents, n.id = m.id → m.checks < n.checks ∨ n.stage.diagnostics? = none ∧
      (r.diagnose n).1 = .ok (r.verdict n).1 ∧
      ∃ o ∈ (r.diagnose n).2.documents, o.id = m.id ∧ o.checks = m.checks + 1 := by
  intro r n hmem hid
  have hrun : r = s.registry.run (s.trace more) := registry_run hr more
  have hr' : r.WellFormed := by rw [hrun]; exact hr.run _
  rcases checks_run hr hm hn _ n (hrun ▸ hmem) hid with hlt | ⟨hnone, heq⟩
  · exact .inl hlt
  · obtain ⟨hanswer, o, ho, hoid, hcount⟩ := diagnose_counts hr' hmem hnone
    exact .inr ⟨hnone, hanswer, o, ho, hoid.trans hid, by rw [hcount, heq]⟩

/-- **No event at a profile passes by a map that was checked against it.** The map has no
diagnostics afterwards, and whatever happens then, they are worked out anew before there are any:
until somebody has done so, asking for them counts one more time. -/
theorem unsettled_map_recomputes (storage : Storage) (actions : List Action) {m : Document}
    (hm : m ∈ ((ofStorage storage).run actions).registry.documents) (hk : m.kind = .map)
    (hcached : m.stage.diagnostics? ≠ none) {id : Nat}
    (hsource : (ledger storage actions).source m.id = some id) :
    let s := (ofStorage storage).run actions
    ∃ p ∈ s.registry.documents, p.id = id ∧ p.kind = .profile ∧
      p.textNamespace? = m.textNamespace? ∧
      m.stage.diagnostics? = some (m.checkedAgainst (some p)) ∧
      ∀ a, Unsettles s p a →
        (∃ n ∈ (s.step a).registry.documents, SameText m n ∧ n.stage.diagnostics? = none ∧
          n.checks = m.checks) ∧
        ∀ more, let r := ((s.step a).run more).registry
          ∀ n ∈ r.documents, n.id = m.id → m.checks < n.checks ∨ n.stage.diagnostics? = none ∧
            (r.diagnose n).1 = .ok (r.verdict n).1 ∧
            ∃ o ∈ (r.diagnose n).2.documents, o.id = m.id ∧ o.checks = m.checks + 1 := by
  intro s
  have hsound := sound_ledger storage actions
  have hreg : (ledger storage actions).registry = s.registry := registry_ledger storage actions
  have hr : s.registry.WellFormed := wellFormed_run storage actions
  obtain ⟨ds, hds⟩ := Option.ne_none_iff_exists'.mp hcached
  have hsup := hsound.supported m (hreg ▸ hm) ds hds
  rw [hreg, hsource] at hsup
  generalize m.stage.isUnresolved = u at hsup
  cases hsup with
  | unreadable text found => cases found
  | profile text => rw [← readTree_kind text] at hk; cases hk
  | unresolved text nowhere found => cases found
  | @checked t p c text registered kind known contract found =>
    have hns : m.textNamespace? = some (Tree.map t).namespaceKey :=
      textNamespace?_eq_some.mpr ⟨_, text, rfl⟩
    have hkn : m.knownNamespace? = some (Tree.map t).namespaceKey :=
      ((hr.derived_of_mem hm).knownNamespace? (Stage.outline?_of_diagnostics? hcached)).trans hns
    refine ⟨p, registered, (Option.some.inj found).symm, kind, ?_, ?_, fun a ha => ?_⟩
    · rw [(hr.derived_of_mem registered).textNamespace?_of_known known, hns]
    · simp [hds, checkedAgainst, text, contract]
    obtain ⟨op, hstep, hinv, hkeeps, hedit⟩ := ha.invalidates hr registered kind known hm hk
    have hn := (mem_documents_apply hr).mpr (.inr ⟨m, hm, hkeeps, rfl⟩)
    have hnone := forgotten hk hkn hcached hinv
    have hcount : (op.effect s.registry m).checks = m.checks := by
      rw [Operation.effect_checks, if_neg fun hx => hcached (Operation.examines_iff.mp hx).2,
        Nat.add_zero]
    rw [← hstep] at hn
    have hr' : (s.step a).registry.WellFormed := by rw [hstep]; exact hr.apply op
    refine ⟨⟨_, hn, sameText_effect hedit, hnone, hcount⟩, fun more n hmem hid => ?_⟩
    have := recomputes hr' hn hnone more n hmem (hid.trans (effect_identity op).1.symm)
    rwa [hcount, (effect_identity op).1] at this

/-- A profile that is edited without a change of its text. -/
theorem unsettled_map_recomputes_weather :
    let s := (ofStorage noFiles).run
      ([openMap, openProfile "w.supr" "GetWeather"] ++ askDiagnostics "w.suma")
    ∃ m ∈ s.registry.documents, m.stage.diagnostics? ≠ none ∧
      ∃ n ∈ (s.step (.changeDocument (fileUri "w.supr") [] 2)).registry.documents,
        SameText m n ∧ n.stage.diagnostics? = none := by
  intro s
  obtain ⟨m, hm, hk, hcached, hsource⟩ : ∃ m ∈ s.registry.documents, m.kind = .map ∧
      m.stage.diagnostics? ≠ none ∧ (ledger noFiles ([openMap, openProfile "w.supr" "GetWeather"] ++
        askDiagnostics "w.suma")).source m.id = some 1 := by decide +kernel
  obtain ⟨p, hp, hid, -, -, -, h⟩ := unsettled_map_recomputes noFiles _ hm hk hcached hsource
  have hall : ∀ p ∈ s.registry.documents, p.id = 1 → p.uri = fileUri "w.supr" ∧ p.version < 2 := by
    decide +kernel
  obtain ⟨huri, hv⟩ := hall p hp hid
  obtain ⟨⟨n, hn, hs, hnone, -⟩, -⟩ := h _ (.change [] hv)
  rw [huri] at hn
  exact ⟨m, hm, hcached, n, hn, hs, hnone⟩

end System

end Contracts
