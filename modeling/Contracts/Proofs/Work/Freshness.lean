import Contracts.Proofs.Store.Overtaking
import Contracts.Proofs.Work.System

/-!
When the diagnostics that a workspace keeps are those of its texts.

What a map was checked against is right about the texts of both, so diagnostics go stale in one way
only: another profile gets in front of the one that was found. Where no two profiles have the same
namespace this cannot happen.
-/

namespace Contracts

namespace Registry

open Document

variable {r : Registry} {d : Document} {ds : List Diagnostic} {u : Bool} {source : Option Nat}

/-- No two registered profiles that can be read have the same namespace. -/
def NamespacesDistinct (r : Registry) : Prop :=
  ∀ p ∈ r.documents, ∀ q ∈ r.documents, p.kind = .profile → q.kind = .profile →
    p.textNamespace? ≠ none → p.textNamespace? = q.textNamespace? → p.uri = q.uri

instance (r : Registry) : Decidable r.NamespacesDistinct :=
  inferInstanceAs (Decidable (∀ p ∈ r.documents, ∀ q ∈ r.documents, _ → _ → _ → _ → _))

/-- Where namespaces tell profiles apart, the one that was found is the one to be found. -/
lemma eq_verdict (hr : r.WellFormed) (hdist : r.NamespacesDistinct)
    (h : Supported r source d ds u) : ds = (r.verdict d).1 := by
  unfold verdict
  cases h with
  | unreadable text _ => rw [text]
  | profile text => rw [text]
  | @checked m p c text registered kind known contract found =>
    have hns := (hr.derived_of_mem registered).textNamespace?_of_known known
    cases hp : r.profile? (Tree.map m).namespaceKey with
    | none =>
      have := profile?_eq_none.mp hp p registered
      rw [defines_iff.mpr ⟨kind, hns⟩] at this
      cases this
    | some q =>
      obtain ⟨hq, hdef⟩ := profile?_eq_some hp
      obtain ⟨hkq, hnq⟩ := defines_iff.mp hdef
      have huri := hdist p registered q hq kind hkq (by simp [hns]) (hns.trans hnq.symm)
      rw [text]
      simp only [hp, ← hr.eq_of_uri registered hq huri, Option.bind_some, contract]
  | unresolved text nowhere found =>
    rw [text]
    simp only [profile?_eq_none.mpr nowhere, Option.bind_none]

end Registry

namespace System

open Registry

/-- The ledger of a run. -/
def ledger (storage : Storage) (actions : List Action) : Ledger :=
  Ledger.empty.run ((ofStorage storage).trace actions)

lemma registry_ledger (storage : Storage) (actions : List Action) :
    (ledger storage actions).registry = ((ofStorage storage).run actions).registry := by
  have hr : (ofStorage storage).registry.WellFormed := wellFormed_empty
  rw [registry_run hr, ledger, Ledger.registry_run]
  rfl

lemma sound_ledger (storage : Storage) (actions : List Action) : (ledger storage actions).Sound :=
  Ledger.sound_empty.run _

/-- **No diagnostics are stale** as long as no two profiles share a namespace: those that are known
are those that the texts of the registered documents give, and so is every answer. -/
theorem diagnostics_fresh (storage : Storage) (actions : List Action)
    (h : ((ofStorage storage).run actions).registry.NamespacesDistinct) :
    let r := ((ofStorage storage).run actions).registry
    (∀ d ∈ r.documents, ∀ ds, d.stage.diagnostics? = some ds → ds = (r.verdict d).1) ∧
      ∀ d ∈ r.documents, (r.diagnose d).1 = .ok (r.verdict d).1 := by
  have hsound := sound_ledger storage actions
  rw [← registry_ledger] at h ⊢
  have hr := hsound.wellFormed
  have hcached : ∀ d ∈ (ledger storage actions).registry.documents, ∀ ds,
      d.stage.diagnostics? = some ds → ds = ((ledger storage actions).registry.verdict d).1 :=
    fun d hd ds hds => eq_verdict hr h (hsound.supported d hd ds hds)
  refine ⟨hcached, fun d hd => ?_⟩
  cases hn : d.stage.diagnostics? with
  | none => exact (diagnose_eq hr ((get?_eq_some hr).mpr ⟨hd, rfl⟩) hn).1
  | some ds => rw [diagnose_of_known hn, hcached d hd ds hn]

/-- A map that misses a usecase of its profile. -/
theorem diagnostics_fresh_weather :
    let r := ((ofStorage noFiles).run
      ([openMap, openProfile "w.supr" "Other"] ++ askDiagnostics "w.suma")).registry
    r.NamespacesDistinct ∧ (∃ d ∈ r.documents, d.stage.diagnostics?.map (·.length) = some 1) ∧
      ∀ d ∈ r.documents, ∀ ds, d.stage.diagnostics? = some ds → ds = (r.verdict d).1 := by
  have h : ((ofStorage noFiles).run ([openMap, openProfile "w.supr" "Other"] ++
      askDiagnostics "w.suma")).registry.NamespacesDistinct := by decide +kernel
  exact ⟨h, by decide +kernel, (diagnostics_fresh noFiles _ h).1⟩

/-- **Several profiles of one namespace.** In the states of a run, down to those between the
operations of one action, the diagnostics that maps keep are those against the profile that is
found, exactly as long as no profile is overtaken that a map was checked against. -/
theorem duplicates_fresh_iff (storage : Storage) (actions : List Action) :
    let ops := (ofStorage storage).trace actions
    (∀ first, first <+: actions → ∃ before, before <+: ops ∧
      ledger storage first = Ledger.empty.run before) ∧
    ((∀ before, before <+: ops → (Ledger.empty.run before).Fresh) ↔
      ∀ before op, before ++ [op] <+: ops → ¬ (Registry.empty.run before).LeavesStale op) := by
  intro ops
  constructor
  · rintro first ⟨rest, rfl⟩
    exact ⟨_, ⟨((ofStorage storage).run first).trace rest, (trace_append ..).symm⟩, rfl⟩
  · have h := Ledger.fresh_iff ops
    simp only [Ledger.registry_run] at h
    exact h

/-- A map is checked against its profile, and another profile is opened in front of that. -/
def overtaking : List Action :=
  [openMap, openProfile "b.supr" "GetWeather"] ++ askDiagnostics "w.suma" ++
    [openProfile "a.supr" "Other"]

/-- The map misses the usecase of the profile that is found, and keeps no diagnostics of it. -/
theorem duplicates_not_fresh : ¬ (ledger noFiles overtaking).Fresh := by
  have hstale : ∃ m ∈ (ledger noFiles overtaking).registry.documents, m.kind = .map ∧
      m.textNamespace? = some "weather@1.0" ∧ m.stage.diagnostics? = some [] ∧
      m.checkedAgainst ((ledger noFiles overtaking).registry.findProfile "weather@1.0").1 ≠ [] := by
    decide +kernel
  obtain ⟨m, hm, hk, hns, hds, hne⟩ := hstale
  exact fun h => hne (h m hm hk _ _ hns hds).2.symm

end System

end Contracts
