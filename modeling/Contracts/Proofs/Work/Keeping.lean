import Contracts.Proofs.Store.Counters
import Contracts.Proofs.Store.Standing
import Contracts.Proofs.Work.Freshness

/-!
What leaves the diagnostics of a document alone.

Events sweep over all registered documents, and working diagnostics out looks through all profiles.
Of all this only what `Touches` lists reaches the diagnostics of a document: an operation that is
not on the list leaves the whole document as it is, with its counters, and one that is on it takes
the diagnostics away. Once they are gone, they come back only with a higher count, so a document
that is found unchanged after a run was not touched by any operation of it.
-/

namespace Contracts

namespace Registry

open Document

/-- A profile is registered that is known to have the namespace of the map `d`. -/
def Serves (r : Registry) (p d : Document) : Prop :=
  p ∈ r.documents ∧ p.kind = .profile ∧ d.targets? ≠ none ∧ p.knownNamespace? = d.targets?

/-- The map `d` was checked without a profile. -/
def Waits (d : Document) : Prop := d.targets? ≠ none ∧ d.stage.isUnresolved = true

/-- What may change the diagnostics of a document: what happens to it, what happens to a profile
that it may have been checked against, and, for a map without a profile, a new text of one. -/
inductive Touches (r : Registry) (d : Document) : Operation → Prop
  | edited (edits : List Edit) {version : Int} (h : d.version < version) :
      Touches r d (.update d.uri edits version)
  | replaced (kind : Kind) (version : Int) (text : String) :
      Touches r d (.create d.uri kind version text)
  | removed : Touches r d (.remove d.uri)
  | profileEdited {p : Document} (hp : r.Serves p d) (edits : List Edit) {version : Int}
      (h : p.version < version) : Touches r d (.update p.uri edits version)
  | profileReplaced {p : Document} (hp : r.Serves p d) (kind : Kind) (version : Int)
      (text : String) : Touches r d (.create p.uri kind version text)
  | profileRemoved {p : Document} (hp : r.Serves p d) : Touches r d (.remove p.uri)
  /-- The diagnostics of a profile with the namespace of the map are worked out. -/
  | profileExamined {p : Document} (hp : p ∈ r.documents) (hk : p.kind = .profile)
      (hn : p.stage.diagnostics? = none) (hd : d.targets? ≠ none)
      (hns : p.textNamespace? = d.targets?) : Touches r d (.diagnose p.uri)
  | profileCreated (hd : Waits d) (uri : Uri) (version : Int) (text : String) :
      Touches r d (.create uri .profile version text)
  | profileChanged (hd : Waits d) {p : Document} (hp : p ∈ r.documents) (hk : p.kind = .profile)
      (edits : List Edit) {version : Int} (h : p.version < version) :
      Touches r d (.update p.uri edits version)
  | profileLoaded (hd : Waits d) {uri : Uri} (h : r.get? uri = none) (text : String) :
      Touches r d (.load uri .profile text)

variable {r : Registry} {op : Operation} {d e p : Document} {key : String}

/-! ### One operation -/

lemma targets?_eq_some : d.targets? = some key ↔ d.kind = .map ∧ d.textNamespace? = some key := by
  unfold targets?
  split
  · next h => simp [h]
  · next h => simp [h]

/-- A namespace is invalidated by what happens to a profile that is known to have it, or by working
out the diagnostics of one. -/
lemma touches_of_invalidated (hr : r.WellFormed) (ht : d.targets? = some key)
    (hi : op.invalidated? r = some key) : Touches r d op := by
  have hserves : ∀ {uri : Uri} {p : Document}, r.get? uri = some p →
      p.definedNamespace? = some key → r.Serves p d ∧ p.uri = uri := by
    intro uri p hp hns
    obtain ⟨hmem, hu⟩ := (get?_eq_some hr).mp hp
    unfold definedNamespace? at hns
    split at hns
    · next hk => exact ⟨⟨hmem, hk, by simp [ht], hns.trans ht.symm⟩, hu⟩
    · cases hns
  cases op with
  | create uri kind version text =>
    obtain ⟨p, hp, hns⟩ := Option.bind_eq_some_iff.mp hi
    obtain ⟨hs, rfl⟩ := hserves hp hns
    exact .profileReplaced hs kind version text
  | remove uri =>
    obtain ⟨p, hp, hns⟩ := Option.bind_eq_some_iff.mp hi
    obtain ⟨hs, rfl⟩ := hserves hp hns
    exact .profileRemoved hs
  | update uri edits version =>
    obtain ⟨p, hp, hns⟩ := Option.bind_eq_some_iff.mp hi
    split at hns
    · next hv =>
      obtain ⟨hs, rfl⟩ := hserves hp hns
      exact .profileEdited hs edits hv
    · cases hns
  | diagnose uri =>
    obtain ⟨p, hp, hns⟩ := Option.bind_eq_some_iff.mp hi
    obtain ⟨hmem, rfl⟩ := (get?_eq_some hr).mp hp
    split at hns
    · next hc => exact .profileExamined hmem hc.1 hc.2 (by simp [ht]) (hns.trans ht.symm)
    · cases hns
  | _ => cases hi

lemma touches_of_bringsProfile (hr : r.WellFormed) (hw : Waits d)
    (hb : op.bringsProfile r = true) : Touches r d op := by
  cases op with
  | create uri kind version text =>
    cases (of_decide_eq_true hb : kind = .profile)
    exact .profileCreated hw uri version text
  | load uri kind text =>
    obtain ⟨hg, rfl⟩ : r.get? uri = none ∧ kind = .profile := of_decide_eq_true hb
    exact .profileLoaded hw hg text
  | update uri edits version =>
    obtain ⟨p, hp, hc⟩ := (Option.any_eq_true _ _).mp hb
    obtain ⟨hmem, rfl⟩ := (get?_eq_some hr).mp hp
    obtain ⟨hv, hk⟩ : p.version < version ∧ p.kind = .profile := of_decide_eq_true hc
    exact .profileChanged hw hmem hk edits hv
  | _ => cases hb

/-- What touches a document takes it out, edits it, or makes it forget its diagnostics. -/
lemma Touches.reason (hr : r.WellFormed) (h : Touches r d op) :
    op.keeps d = false ∨ op.edits d = true ∨
      (∃ key, d.targets? = some key ∧ op.invalidated? r = some key) ∨
      (Waits d ∧ op.bringsProfile r = true) := by
  have hget : ∀ {p : Document}, p ∈ r.documents → r.get? p.uri = some p :=
    fun hp => (get?_eq_some hr).mpr ⟨hp, rfl⟩
  have hserves : ∀ {p : Document}, r.Serves p d → ∃ key, d.targets? = some key ∧
      r.get? p.uri = some p ∧ p.definedNamespace? = some key := by
    rintro p ⟨hp, hk, ht, hkn⟩
    obtain ⟨key, hkey⟩ := Option.ne_none_iff_exists'.mp ht
    exact ⟨key, hkey, hget hp, by simp [definedNamespace?, hk, hkn, hkey]⟩
  cases h with
  | edited edits hv => exact .inr (.inl (Operation.edits_iff.mpr ⟨edits, _, rfl, hv⟩))
  | replaced kind version text => exact .inl (by simp [Operation.keeps])
  | removed => exact .inl (by simp [Operation.keeps])
  | profileEdited hp edits hv =>
    obtain ⟨key, hkey, hg, hns⟩ := hserves hp
    exact .inr (.inr (.inl ⟨key, hkey, by simp [Operation.invalidated?, hg, hv, hns]⟩))
  | profileReplaced hp kind version text =>
    obtain ⟨key, hkey, hg, hns⟩ := hserves hp
    exact .inr (.inr (.inl ⟨key, hkey, by simp [Operation.invalidated?, hg, hns]⟩))
  | profileRemoved hp =>
    obtain ⟨key, hkey, hg, hns⟩ := hserves hp
    exact .inr (.inr (.inl ⟨key, hkey, by simp [Operation.invalidated?, hg, hns]⟩))
  | profileExamined hp hk hn ht hns =>
    obtain ⟨key, hkey⟩ := Option.ne_none_iff_exists'.mp ht
    refine .inr (.inr (.inl ⟨key, hkey, ?_⟩))
    simp [Operation.invalidated?, hget hp, hk, hn, hns, hkey]
  | profileCreated hw uri version text =>
    exact .inr (.inr (.inr ⟨hw, by simp [Operation.bringsProfile]⟩))
  | profileChanged hw hp hk edits hv =>
    exact .inr (.inr (.inr ⟨hw, by simp [Operation.bringsProfile, hget hp, hk, hv]⟩))
  | profileLoaded hw hg text =>
    exact .inr (.inr (.inr ⟨hw, by simp [Operation.bringsProfile, hg]⟩))

/-- Only a map that can be read is without a profile. -/
lemma Backed.waits (hb : r.Backed) (hd : d ∈ r.documents)
    (hu : d.stage.isUnresolved = true) : Waits d := by
  obtain ⟨l, hl, rfl⟩ := hb
  obtain ⟨ds, hds⟩ := Option.ne_none_iff_exists'.mp (isUnresolved_diagnostics? hu)
  have hsupported := hl.supported d hd ds hds
  rw [hu] at hsupported
  cases hsupported with
  | @unresolved m text nowhere found =>
    refine ⟨?_, hu⟩
    rw [targets?_eq_some.mpr ⟨(readTree_kind text).symm, textNamespace?_eq_some.mpr ⟨_, text, rfl⟩⟩]
    exact Option.some_ne_none _

/-- **One operation.** A document with diagnostics is as it was afterwards, exactly if the operation
does not touch it. -/
theorem mem_apply_iff (hb : r.Backed) (hd : d ∈ r.documents)
    (hcached : d.stage.diagnostics? ≠ none) : d ∈ (r.apply op).documents ↔ ¬ Touches r d op := by
  have hr := hb.wellFormed
  have hknown : d.knownNamespace? = d.textNamespace? :=
    (hr.derived_of_mem hd).knownNamespace? (Stage.outline?_of_diagnostics? hcached)
  constructor
  · intro hmem h
    obtain ⟨hkeeps, hedits, heffect⟩ := effect_of_sameText hr hd hmem (.refl d)
    have hspared : Spared r op d := by
      have hafter : (op.effect r d).stage.diagnostics? ≠ none := heffect ▸ hcached
      rcases effect_of_diagnosed hafter with ⟨hx, -⟩ | ⟨-, -, hsp⟩
      · exact absurd (Operation.examines_iff.mp hx).2 hcached
      · exact hsp
    rcases h.reason hr with hk | he | ⟨key, ht, hi⟩ | ⟨⟨ht, hu⟩, hbring⟩
    · rw [hkeeps] at hk; cases hk
    · rw [hedits] at he; cases he
    · obtain ⟨hmap, hns⟩ := targets?_eq_some.mp ht
      exact hspared.namespaces hmap key (hknown.trans hns) hi
    · obtain ⟨key, ht⟩ := Option.ne_none_iff_exists'.mp ht
      have := hspared.arrivals (targets?_eq_some.mp ht).1 hbring
      rw [hu] at this
      cases this
  · intro h
    have hkeeps : op.keeps d = true := by
      by_contra hn
      cases op with
      | create uri kind version text =>
        obtain rfl : d.uri = uri := by simpa [Operation.keeps] using hn
        exact h (.replaced kind version text)
      | remove uri =>
        obtain rfl : d.uri = uri := by simpa [Operation.keeps] using hn
        exact h .removed
      | _ => exact hn rfl
    have hedits : op.edits d = false := by
      by_contra hn
      obtain ⟨edits, version, rfl, hv⟩ := Operation.edits_iff.mp (by simpa using hn)
      exact h (.edited edits hv)
    have hspared : Spared r op d := by
      refine ⟨hcached, fun hk key hkn hi => ?_, fun hk hbring => ?_⟩
      · exact h (touches_of_invalidated hr (targets?_eq_some.mpr ⟨hk, hknown ▸ hkn⟩) hi)
      · by_contra hu
        exact h (touches_of_bringsProfile hr (hb.waits hd (by simpa using hu)) hbring)
    exact (mem_documents_apply hr).mpr (.inr ⟨d, hd, hkeeps, effect_of_spared hspared hedits⟩)

/-! ### Many operations -/

/-- A document that is registered after some operations was registered before, or its id is new. -/
lemma mem_documents_run_of_id (hr : r.WellFormed) (ops : List Operation)
    (he : e ∈ (r.run ops).documents) (hid : e.id < r.nextId) : ∃ x ∈ r.documents, x.id = e.id := by
  induction ops generalizing r with
  | nil => exact ⟨e, he, rfl⟩
  | cons op ops ih =>
    have hlt : e.id < (r.apply op).nextId := by
      rw [nextId_apply hr]
      exact Nat.lt_add_right _ hid
    obtain ⟨x, hx, hxid⟩ := ih (hr.apply op) he hlt
    obtain ⟨y, hy, hyid, -⟩ := mem_documents_apply_of_id hr hx (hxid ▸ hid)
    exact ⟨y, hy, hyid.trans hxid⟩

/-- Diagnostics that are gone come back with a higher count only. -/
lemma mem_apply_of_mem_run (hr : r.WellFormed) (hd : d ∈ r.documents)
    (hcached : d.stage.diagnostics? ≠ none) (ops : List Operation)
    (h : d ∈ ((r.apply op).run ops).documents) : d ∈ (r.apply op).documents := by
  have hr' := hr.apply op
  have hid := hr.id_lt hd
  obtain ⟨x, hx, hxid⟩ := mem_documents_run_of_id hr' ops h (by rw [nextId_apply hr]; omega)
  obtain ⟨y, hy, hyid, rfl⟩ := mem_documents_apply_of_id hr hx (hxid ▸ hid)
  obtain rfl := hr.eq_of_id hy hd (hyid.trans hxid)
  have hnx : op.examines y = false := by
    by_contra hx
    exact hcached (Operation.examines_iff.mp (by simpa using hx)).2
  have hknown : (op.effect r y).stage.diagnostics? ≠ none := by
    intro hn
    rcases checks_run hr' hx hn ops y h hxid.symm with hlt | ⟨hnone, -⟩
    · rw [Operation.effect_checks, hnx] at hlt
      exact absurd hlt (Nat.lt_irrefl _)
    · exact hcached hnone
  rcases effect_of_diagnosed hknown with ⟨hex, -⟩ | ⟨-, heffect, -⟩
  · rw [hnx] at hex; cases hex
  · rwa [heffect] at hx

/-- None of some operations touches `d`, each in the registry that it finds. -/
def Untouched (r : Registry) (d : Document) (ops : List Operation) : Prop :=
  ∀ before op, before ++ [op] <+: ops → ¬ Touches (r.run before) d op

lemma untouched_nil : r.Untouched d [] := by
  rintro before op ⟨rest, h⟩
  simp at h

lemma untouched_cons {ops : List Operation} :
    r.Untouched d (op :: ops) ↔ ¬ Touches r d op ∧ (r.apply op).Untouched d ops := by
  constructor
  · intro h
    refine ⟨h [] op ⟨ops, rfl⟩, ?_⟩
    rintro before op' ⟨rest, rfl⟩
    exact h (op :: before) op' ⟨rest, rfl⟩
  · rintro ⟨hop, hops⟩ before op' ⟨rest, heq⟩
    cases before with
    | nil =>
      cases heq
      exact hop
    | cons o before =>
      cases heq
      exact hops before op' ⟨rest, rfl⟩

/-- **Many operations.** A document with diagnostics is as it was afterwards, exactly if none of
them touched it. -/
theorem mem_run_iff (hb : r.Backed) (hd : d ∈ r.documents)
    (hcached : d.stage.diagnostics? ≠ none) (ops : List Operation) :
    d ∈ (r.run ops).documents ↔ r.Untouched d ops := by
  induction ops generalizing r with
  | nil => exact ⟨fun _ => untouched_nil, fun _ => hd⟩
  | cons op ops ih =>
    rw [untouched_cons, ← mem_apply_iff hb hd hcached, run_cons]
    constructor
    · intro h
      have hmem := mem_apply_of_mem_run hb.wellFormed hd hcached ops h
      exact ⟨hmem, (ih (hb.apply op) hmem).mp h⟩
    · rintro ⟨hmem, h⟩
      exact (ih (hb.apply op) hmem).mpr h

end Registry

namespace System

open Document Registry

/-- **Diagnostics are kept as long as nothing touches them.** In every reachable state a document
with diagnostics is left as it is, with its diagnostics and its counters, by exactly those
operations, one or many, that do not touch it. So its diagnostics are worked out once, however
often they are asked for: while nothing that happens touches them, the answer is the one that is
kept, and it changes nothing. Where they are not known yet, asking counts once and keeps them. -/
theorem kept_iff_untouched (storage : Storage) (actions : List Action) :
    let s := (ofStorage storage).run actions
    (∀ d ∈ s.registry.documents, ∀ ds, d.stage.diagnostics? = some ds →
      (∀ ops, d ∈ (s.registry.run ops).documents ↔ s.registry.Untouched d ops) ∧
      ∀ more, s.registry.Untouched d (s.trace more) →
        d ∈ (s.run more).registry.documents ∧
          (s.run more).registry.diagnose d = (.ok ds, (s.run more).registry)) ∧
    ∀ d ∈ s.registry.documents, d.stage.diagnostics? = none →
      ∃ e ∈ (s.registry.apply (.diagnose d.uri)).documents, SameText d e ∧
        (s.registry.diagnose d).1 = .ok (s.registry.verdict d).1 ∧
        e.stage.diagnostics? = some (s.registry.verdict d).1 ∧ e.checks = d.checks + 1 := by
  intro s
  have hb : s.registry.Backed :=
    ⟨ledger storage actions, sound_ledger storage actions, registry_ledger storage actions⟩
  have hr := hb.wellFormed
  refine ⟨fun d hd ds hds => ?_, fun d hd hn => ?_⟩
  · have hcached : d.stage.diagnostics? ≠ none := by simp [hds]
    refine ⟨mem_run_iff hb hd hcached, fun more h => ?_⟩
    refine ⟨?_, diagnose_of_known hds⟩
    rw [registry_run hr]
    exact (mem_run_iff hb hd hcached _).mpr h
  · have hexamines : (Operation.diagnose d.uri).examines d = true :=
      Operation.examines_iff.mpr ⟨rfl, hn⟩
    have hmem : (Operation.diagnose d.uri).effect s.registry d ∈
        (s.registry.apply (.diagnose d.uri)).documents :=
      (mem_documents_apply hr).mpr (.inr ⟨d, hd, rfl, rfl⟩)
    refine ⟨_, hmem, sameText_effect rfl,
      (diagnose_eq hr ((get?_eq_some hr).mpr ⟨hd, rfl⟩) hn).1, ?_, ?_⟩
    · simp only [Operation.effect, hn, and_self, if_true]
      exact congrArg Stage.diagnostics?
        (congrArg Document.stage (keepDiagnostics_of_outlined
          (examined_stage (hr.derived_of_mem hd) hn)))
    · rw [Operation.effect_checks, if_pos hexamines]

/-- The diagnostics of a map outlast another map of its namespace that is opened, and a search for
the maps of the namespace. -/
theorem kept_iff_untouched_weather :
    let s := (ofStorage noFiles).run
      ([openMap, openProfile "w.supr" "Other"] ++ askDiagnostics "w.suma")
    ∃ d ∈ s.registry.documents, ∃ ds, d.stage.diagnostics? = some ds ∧ ds.length = 1 ∧
      let t := s.run [.create (fileUri "x.suma") .map 1 "profile = \"weather@1.0\"",
        .mapsTargeting "weather@1.0"]
      d ∈ t.registry.documents ∧ t.registry.diagnose d = (.ok ds, t.registry) := by
  intro s
  obtain ⟨d, hd, huri, hone⟩ : ∃ d ∈ s.registry.documents, d.uri = fileUri "w.suma" ∧
      d.stage.diagnostics?.map (·.length) = some 1 := by decide +kernel
  obtain ⟨ds, hds, hlen⟩ := Option.map_eq_some_iff.mp hone
  refine ⟨d, hd, ds, hds, hlen, ((kept_iff_untouched noFiles _).1 d hd ds hds).2 _ ?_⟩
  have hr : s.registry.WellFormed := wellFormed_run noFiles _
  refine untouched_cons.mpr ⟨fun h => ?_, untouched_cons.mpr ⟨fun h => ?_, untouched_nil⟩⟩
  · have hnew : s.registry.get? (fileUri "x.suma") = none := by decide +kernel
    rcases h.reason hr with hk | he | ⟨key, -, hi⟩ | ⟨-, hb⟩
    · rw [Operation.keeps, huri] at hk
      cases hk
    · cases he
    · simp [Operation.invalidated?, hnew] at hi
    · cases hb
  · cases h

end System

end Contracts
