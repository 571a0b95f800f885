import Contracts.Proofs.Store.Counters
import Contracts.Proofs.Work.System

/-!
How often the text of a document is read in a workspace.
-/

namespace Contracts

namespace Document

variable {d : Document}

/-- Clearing diagnostics keeps what was read where there are diagnostics, or nothing to keep. -/
lemma forgetDiagnostics_keeps_iff :
    d.forgetDiagnostics.stage.tree? = d.stage.tree? ∧
        d.forgetDiagnostics.stage.outline? = d.stage.outline? ↔
      d.stage = .empty ∨ d.stage.diagnostics? ≠ none := by
  cases hs : d.stage <;>
    simp [forgetDiagnostics, hs, Stage.tree?, Stage.outline?, Stage.diagnostics?]

/-- Where there were diagnostics to clear, clearing once more loses the outline they leave. -/
lemma forgetDiagnostics_twice_iff :
    d.forgetDiagnostics.forgetDiagnostics = d.forgetDiagnostics ↔ d.stage.diagnostics? = none := by
  cases hs : d.stage <;> simp [forgetDiagnostics, hs, Stage.diagnostics?]

end Document

namespace System

open Registry

/-- **One read for each text**, unless an invalidation meets a map that has an outline but no
diagnostics: then it loses both, and the text is read once more. A text that is replaced before it
was read makes up for one such loss. -/
theorem reads_le_iff (storage : Storage) (actions : List Action) :
    let r := ((ofStorage storage).run actions).registry
    let ops := (ofStorage storage).trace actions
    (∀ d ∈ r.documents ++ r.detached,
      d.reads + d.unread + idleEdits d.id ops = 1 + edits d.id ops + losses d.id ops ∧
      (d.reads ≤ 1 + edits d.id ops ↔ losses d.id ops ≤ d.unread + idleEdits d.id ops)) ∧
    ∀ d : Document,
      (d.forgetDiagnostics.stage.tree? = d.stage.tree? ∧
          d.forgetDiagnostics.stage.outline? = d.stage.outline? ↔
        d.stage = .empty ∨ d.stage.diagnostics? ≠ none) ∧
      (d.forgetDiagnostics.forgetDiagnostics = d.forgetDiagnostics ↔
        d.stage.diagnostics? = none) := by
  intro r ops
  have hr : (ofStorage storage).registry.WellFormed := wellFormed_empty
  have hrun : r = Registry.empty.run ops := registry_run hr actions
  refine ⟨fun d hd => ?_,
    fun d => ⟨Document.forgetDiagnostics_keeps_iff, Document.forgetDiagnostics_twice_iff⟩⟩
  rw [hrun] at hd
  have heq : ReadsAddUp ops d := readsAddUp_run ops d hd
  unfold ReadsAddUp at heq
  exact ⟨heq, by omega⟩

/-- The outline of a map is asked for, its profile is opened and looked at, and the map is read
again. -/
theorem reads_exceed_edits :
    let actions := openMap :: askOutline "w.suma" ++ [openProfile "w.supr" "GetWeather"] ++
      askDiagnostics "w.supr" ++ askOutline "w.suma"
    ¬ ∀ d ∈ ((ofStorage noFiles).run actions).registry.documents,
      d.reads ≤ 1 + edits d.id ((ofStorage noFiles).trace actions) := by
  decide +kernel

end System

end Contracts
