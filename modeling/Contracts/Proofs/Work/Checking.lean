import Contracts.CommandLine
import Contracts.Proofs.Work.Alone

/-!
Scans in any order, and all that is asked after them.

The loads of a scan are through in any order, the registry lists its documents in any order, and
the documents are asked about in any order: what is told in the end is the same. So is the report of
a check, which asks for the diagnostics of all documents after a scan.
-/

namespace Contracts

open Workspace

/-- What is told of the documents at some uris when they are asked about one after the other. -/
inductive Diagnosed :
    Workspace → List Uri → Except Error (List (String × Diagnostic)) → Prop
  | nil (w : Workspace) : Diagnosed w [] (.ok [])
  | found {w w' : Workspace} {uri : Uri} {uris : List Uri} {ds : List Diagnostic}
      {rest : Except Error (List (String × Diagnostic))}
      (h : Activity.Ends w (.diagnostics uri none) w' (.ok (.diagnostics ds)))
      (hrest : Diagnosed w' uris rest) :
      Diagnosed w (uri :: uris) (rest.map (Report.placed uri ds ++ ·))
  | failed {w w' : Workspace} {uri : Uri} {uris : List Uri} {e : Error}
      (h : Activity.Ends w (.diagnostics uri none) w' (.error e)) :
      Diagnosed w (uri :: uris) (.error e)

/-- What a check reports: a scan runs in some order, and then all documents are asked about in the
order of their uris. -/
inductive Checked (d : Disk) (roots : List Path) : Report → Prop
  | unresolved {report : Report} (h : Report.resolve d roots = .error report) :
      Checked d roots report
  | failed {paths : List Path} {v : Workspace} {e : Error} (h : Report.resolve d roots = .ok paths)
      (hscan : Scan.Ends (ofStorage d.storage).enterScan (.announcing paths) v (.error e)) :
      Checked d roots (.failure e.message none)
  | listed {paths : List Path} {v : Workspace} {r : ScanReport} {uris : List Uri}
      {found : Except Error (List (String × Diagnostic))} (h : Report.resolve d roots = .ok paths)
      (hscan : Scan.Ends (ofStorage d.storage).enterScan (.announcing paths) v (.ok r))
      (hall : uris.Perm (v.registry.documents.map (·.uri)))
      (horder : uris.Pairwise fun a b => b.before a = false) (hfound : Diagnosed v uris found) :
      Checked d roots (.ofDiagnostics found)

namespace Scan

variable {storage : Storage} {roots : List Path} {v v' w w' : Workspace}
  {x x' : Except Error ScanReport}

/-- A scan alone reports what the storage has, and leaves a settled workspace behind. -/
lemma settled_of_ends
    (h : Ends (ofStorage storage).enterScan (.announcing roots) v x) :
    x = (storage.found roots).map (.ofFound storage) ∧
      Scanned storage ((storage.found roots).toOption.getD []) v ∧
      v.Settled storage v.registry.plain := by
  obtain ⟨hx, hscanned⟩ := ends_announcing h rfl (bare_enterScan storage)
  refine ⟨hx, hscanned, hscanned.settled ?_⟩
  cases hf : storage.found roots with
  | error e => exact fun u hu => nomatch hu
  | ok uris => exact isFile_of_found hf

/-- Two scans of the same roots leave the same texts registered. -/
lemma settled_of_both (h : Ends (ofStorage storage).enterScan (.announcing roots) v x)
    (h' : Ends (ofStorage storage).enterScan (.announcing roots) v' x') :
    x = x' ∧ v.Settled storage v.registry.plain ∧ v'.Settled storage v.registry.plain := by
  obtain ⟨hx, hscanned, hsettled⟩ := settled_of_ends h
  obtain ⟨hx', hscanned', hsettled'⟩ := settled_of_ends h'
  exact ⟨hx.trans hx'.symm, hsettled,
    { hsettled' with plain := hscanned.plain_perm hscanned', texts := hsettled.texts }⟩

end Scan

namespace Diagnosed

variable {storage : Storage} {ps : List Document} {w : Workspace} {uris : List Uri} {s : Session}
  {found : Except Error (List (String × Diagnostic))}

/-- The diagnostics among some texts at some uris. -/
def among (storage : Storage) (ps : List Document) :
    List Uri → Except Error (List (String × Diagnostic))
  | [] => .ok []
  | uri :: uris =>
    match Activity.diagnosticsAmong storage ps uri with
    | .ok ds => (among storage ps uris).map (Report.placed uri ds ++ ·)
    | .error e => .error e

/-- The diagnostics of a registered document are answered, and nothing is registered for it. -/
lemma settled_next {uri : Uri} {v : Workspace} {x : Except Error Answer}
    (h : Activity.Ends w (.diagnostics uri none) v x) (hw : w.Settled storage ps)
    (hreg : ∃ p ∈ ps, p.uri = uri) :
    ∃ ds, Activity.diagnosticsAmong storage ps uri = .ok ds ∧ x = .ok (.diagnostics ds) ∧
      v.Settled storage ps := by
  obtain ⟨hx, hv⟩ := Activity.ends_diagnostics h hw rfl fun load hl => nomatch hl
  have hget := hw.isSome_get?.mpr hreg
  obtain ⟨d, hd⟩ := Option.isSome_iff_exists.mp hget
  have hds : Activity.diagnosticsAmong storage ps uri =
      .ok (Registry.verdictAmong ps d.plain) := by
    simp only [Activity.diagnosticsAmong, Activity.find?_of_settled hw, hd, Option.map_some]
  exact ⟨_, hds, by rw [hx, hds]; rfl, hv hget⟩

/-- What is told of registered documents is the same in all orders of questions. -/
theorem eq_among (h : Diagnosed w uris found) (hw : w.Settled storage ps)
    (hreg : ∀ u ∈ uris, ∃ p ∈ ps, p.uri = u) : found = among storage ps uris := by
  induction h with
  | nil => rfl
  | found hends _ ih =>
    obtain ⟨ds, hds, hx, hv⟩ := settled_next hends hw (hreg _ List.mem_cons_self)
    cases hx
    rw [among, hds, ih hv fun u hu => hreg u (List.mem_cons_of_mem _ hu)]
  | failed hends =>
    obtain ⟨ds, -, hx, -⟩ := settled_next hends hw (hreg _ List.mem_cons_self)
    cases hx

/-- The command asks for diagnostics in one of these orders. -/
theorem of_diagnose (hs : s.jobs = []) (hw : s.workspace.Settled storage ps)
    (hreg : ∀ u ∈ uris, ∃ p ∈ ps, p.uri = u) :
    Diagnosed s.workspace uris (Report.diagnose s uris) := by
  induction uris generalizing s with
  | nil => exact .nil _
  | cons uri uris ih =>
    obtain ⟨v, x, hstart, hends⟩ := Activity.exists_start hs hw uri
    obtain ⟨ds, -, rfl, hv⟩ := settled_next hends hw (hreg _ List.mem_cons_self)
    have hrest := ih (s := { s with workspace := v }) hs hv
      fun u hu => hreg u (List.mem_cons_of_mem _ hu)
    have hnext : Report.diagnose s (uri :: uris) =
        (Report.diagnose { s with workspace := v } uris).map (Report.placed uri ds ++ ·) := by
      rw [Report.diagnose, hstart]
      dsimp only
      cases Report.diagnose { s with workspace := v } uris <;> rfl
    rw [hnext]
    exact .found hends hrest

end Diagnosed

/-- The uris of the documents that were given have one order. -/
lemma Workspace.Settled.order_unique {storage : Storage} {ps : List Document} {v v' : Workspace}
    {uris uris' : List Uri} (hv : v.Settled storage ps) (hv' : v'.Settled storage ps)
    (hall : uris.Perm (v.registry.documents.map (·.uri)))
    (hall' : uris'.Perm (v'.registry.documents.map (·.uri)))
    (horder : uris.Pairwise fun a b => b.before a = false)
    (horder' : uris'.Pairwise fun a b => b.before a = false) :
    uris' = uris ∧ ∀ u ∈ uris, ∃ p ∈ ps, p.uri = u := by
  have hgiven : ∀ {v : Workspace}, v.Settled storage ps →
      (v.registry.documents.map (·.uri)).Perm (ps.map (·.uri)) := by
    intro v hv
    have hplain := hv.plain.map (·.uri)
    unfold Registry.plain at hplain
    rwa [List.map_map] at hplain
  have hperm := hall.trans (hgiven hv)
  have hperm' := hall'.trans (hgiven hv')
  refine ⟨List.Perm.eq_of_pairwise (fun a b ha hb hab hba => ?_) horder' horder
    (hperm'.trans hperm.symm), fun u hu => ?_⟩
  · obtain ⟨p, hp, rfl⟩ := List.mem_map.mp (hperm'.mem_iff.mp ha)
    obtain ⟨q, hq, rfl⟩ := List.mem_map.mp (hperm.mem_iff.mp hb)
    simp only [Uri.before, decide_eq_false_iff_not, not_lt] at hab hba
    rw [List.inj_on_of_nodup_map hv.texts hp hq (le_antisymm hab hba)]
  · obtain ⟨p, hp, rfl⟩ := List.mem_map.mp (hperm.mem_iff.mp hu)
    exact ⟨p, hp, rfl⟩

namespace Checked

variable {d : Disk} {roots : List Path} {report report' : Report}

/-- A check reports one thing only. -/
theorem unique (h : Checked d roots report) (h' : Checked d roots report') : report = report' := by
  cases h with
  | unresolved hpaths =>
    cases h' with
    | unresolved hpaths' => exact Except.error.inj (hpaths.symm.trans hpaths')
    | failed hpaths' => cases hpaths.symm.trans hpaths'
    | listed hpaths' => cases hpaths.symm.trans hpaths'
  | failed hpaths hscan =>
    cases h' with
    | unresolved hpaths' => cases hpaths.symm.trans hpaths'
    | failed hpaths' hscan' =>
      cases hpaths.symm.trans hpaths'
      cases (Scan.settled_of_both hscan hscan').1
      rfl
    | listed hpaths' hscan' =>
      cases hpaths.symm.trans hpaths'
      cases (Scan.settled_of_both hscan hscan').1
  | listed hpaths hscan hall horder hfound =>
    cases h' with
    | unresolved hpaths' => cases hpaths.symm.trans hpaths'
    | failed hpaths' hscan' =>
      cases hpaths.symm.trans hpaths'
      cases (Scan.settled_of_both hscan hscan').1
    | listed hpaths' hscan' hall' horder' hfound' =>
      cases hpaths.symm.trans hpaths'
      obtain ⟨-, hv, hv'⟩ := Scan.settled_of_both hscan hscan'
      obtain ⟨rfl, hreg⟩ := hv.order_unique hv' hall hall' horder horder'
      rw [hfound.eq_among hv hreg, hfound'.eq_among hv' hreg]

/-- **The report of a check.** In whatever order things happen, a check reports what the command
writes. -/
theorem iff_ofCheck : Checked d roots report ↔ report = .ofCheck d roots := by
  have hcheck : Checked d roots (.ofCheck d roots) := by
    unfold Report.ofCheck
    cases hpaths : Report.resolve d roots with
    | error report => exact .unresolved hpaths
    | ok paths =>
      obtain ⟨v, x, told, hstart, hscan, hwf⟩ := Scan.exists_start d.storage paths
      dsimp only
      rw [hstart]
      cases x with
      | error e => exact .failed hpaths hscan
      | ok r =>
        obtain ⟨-, -, hv⟩ := Scan.settled_of_ends hscan
        refine .listed hpaths hscan (.refl _) (List.pairwise_map.mpr hwf.inOrder)
          (Diagnosed.of_diagnose (s := .ofWorkspace v) rfl hv fun u hu => ?_)
        obtain ⟨e, he, rfl⟩ := List.mem_map.mp hu
        exact ⟨e.plain, List.mem_map_of_mem he, rfl⟩
  exact ⟨fun h => h.unique hcheck, fun h => h ▸ hcheck⟩

end Checked

/-- **Timing is of no account.** A scan that runs alone comes to its end. However its loads finish,
in whatever order the registry lists its documents and whatever is asked about them meanwhile, the
scan reports the same, and afterwards each namespace has the same profile, each uri has the same
diagnostics, and dependents and symbols are the same but for their order. A check reports the same
as well. -/
theorem timing_of_no_account (storage : Storage) (roots : List Path) :
    (∃ v x, Scan.Ends (ofStorage storage).enterScan (.announcing roots) v x) ∧
      (∀ {v v' w w' x x'},
        Scan.Ends (ofStorage storage).enterScan (.announcing roots) v x → v.Questioned w →
        Scan.Ends (ofStorage storage).enterScan (.announcing roots) v' x' → v'.Questioned w' →
        x = x' ∧ w.Agree w') ∧
      ∀ (d : Disk) (report : Report), Checked d roots report ↔ report = .ofCheck d roots := by
  refine ⟨?_, fun {v v' w w' x x'} h hq h' hq' => ?_, fun d report => Checked.iff_ofCheck⟩
  · obtain ⟨v, x, -, -, hends, -⟩ := Scan.exists_start storage roots
    exact ⟨v, x, hends⟩
  · obtain ⟨hx, hv, hv'⟩ := Scan.settled_of_both h h'
    exact ⟨hx, (hq.settled hv).1.agree (hq'.settled hv').1⟩

end Contracts
