import Contracts.Proofs.Work.Accounting

/-!
What a scan tells of its progress.

The loads of a scan get through in any order, and each of them may fail or give way. The scan counts
them one by one, so however they come in, it tells the same numbers: how many documents there are,
and then how many are through, from the first one to the last. The invariant is that the events told
are the ones up to the number counted, and that the loads counted, those to be counted and those
that are left are as many as the documents found.
-/

namespace Contracts

/-- The percentage that an event tells. -/
def ScanEvent.percentage? : ScanEvent → Option Nat
  | .report _ percentage => percentage
  | _ => none

def ScanEvent.isReport : ScanEvent → Bool
  | .report _ _ => true
  | _ => false

namespace Scan

/-- A scan of some roots is under way in a storage and has told some events. Between its steps
anything may happen, as long as walks find what they found before. -/
inductive Tells (storage : Storage) (roots : List Path) : Scan → List ScanEvent → Prop
  | start : Tells storage roots (.announcing roots) []
  | lead {w w' : Workspace} {s s' : Scan} {told more : List ScanEvent}
      (h : Tells storage roots s told) (hw : w.storage = storage)
      (hstep : s.step? w = some (w', more, .more s')) : Tells storage roots s' (told ++ more)
  | load {w w' : Workspace} {s s' : Scan} {told : List ScanEvent}
      (h : Tells storage roots s told) (choice : Nat)
      (hstep : s.loadStep? choice w = some (w', s')) : Tells storage roots s' told

/-- How many of `total` documents `done` are, in percent. -/
def share (done total : Nat) : Nat := done * 100 / max total 1

/-- The reports on `total` documents when the last one that is through is the one with the number
`done`. -/
def reports (total done : Nat) : List ScanEvent :=
  .report (walkedMessage total) (some 0) ::
    (List.range done).map fun i =>
      .report (countMessage (i + 1) total) (percentage (i + 1) total)

/-- Some reports have percentages that begin with none of `total` documents and do not fall, and
that come to all of them if there are any. -/
def Rises (total : Nat) (events : List ScanEvent) : Prop :=
  ∃ percentages : List Nat, events.map (·.percentage?) = percentages.map some ∧
    percentages.head? = some 0 ∧ percentages.Pairwise (· ≤ ·) ∧ (∀ p ∈ percentages, p ≤ 100) ∧
    (0 < total → percentages.getLast? = some 100)

variable {storage : Storage} {roots : List Path} {w w' w₀ v : Workspace} {s s' : Scan}
  {told more last : List ScanEvent} {x : Except Error ScanReport} {report : ScanReport}
  {landed : List Bool} {pending : List (Uri × Load)} {total done choice : Nat}
  {log : List (Uri × Except Error Document)} {rest : Workspace → Workspace → Prop}

/-! ### The reports of a scan -/

lemma share_le (h : done ≤ total) : share done total ≤ 100 := by
  unfold share
  rw [Nat.div_le_iff_le_mul_add_pred (by omega)]
  have : done ≤ max total 1 := h.trans (Nat.le_max_left _ _)
  omega

lemma share_mono {more : Nat} (h : done ≤ more) : share done total ≤ share more total :=
  Nat.div_le_div_right (Nat.mul_le_mul_right _ h)

lemma share_self (h : 0 < total) : share total total = 100 := by
  unfold share
  rw [Nat.max_eq_left h, Nat.mul_div_cancel_left _ h]

/-- A share of all documents is small enough to be told. -/
lemma percentage_eq (h : done ≤ total) : percentage done total = some (share done total) := by
  have hle := share_le h
  unfold percentage
  exact if_pos (hle.trans (by decide))

lemma length_reports : (reports total done).length = done + 1 := by
  simp [reports]

lemma isReport_of_mem_reports {e : ScanEvent} (h : e ∈ reports total done) :
    e.isReport = true := by
  rcases List.mem_cons.mp h with rfl | h
  · rfl
  · obtain ⟨i, -, rfl⟩ := List.mem_map.mp h
    rfl

/-- One more document is through. -/
lemma reports_succ : reports total (done + 1) =
    reports total done ++
      [.report (countMessage (done + 1) total) (percentage (done + 1) total)] := by
  simp [reports, List.range_succ]

lemma percentages_reports (h : done ≤ total) :
    (reports total done).map (·.percentage?) =
      ((List.range (done + 1)).map (share · total)).map some := by
  induction done with
  | zero => simp [reports, share, ScanEvent.percentage?]
  | succ done ih =>
    rw [reports_succ, List.map_append, ih (by omega), List.range_succ (n := done + 1)]
    simp [ScanEvent.percentage?, percentage_eq h]

lemma rises_reports : Rises total (reports total total) := by
  refine ⟨_, percentages_reports (Nat.le_refl total), ?_, ?_, ?_, ?_⟩
  · simp [List.range_succ_eq_map, share]
  · rw [List.pairwise_map]
    exact List.pairwise_lt_range.imp fun h => share_mono h.le
  · intro p hp
    obtain ⟨done, hdone, rfl⟩ := List.mem_map.mp hp
    exact share_le (Nat.lt_succ_iff.mp (List.mem_range.mp hdone))
  · intro h
    simp [List.range_succ, share_self h]

/-! ### The invariant -/

/-- What a scan has told, by how far it has come. -/
def Told (storage : Storage) (roots : List Path) : Scan → List ScanEvent → Prop
  | .announcing left, told => left = roots ∧ told = []
  | .walking left _, told =>
    told = [.begin title] ∧ ∃ walked, roots = walked ++ left ∧ storage.Walks walked
  | .loading report landed pending, told =>
    told = .begin title :: reports report.discovered (report.loaded + report.failed) ∧
      report.loaded + report.failed + landed.length + pending.length = report.discovered ∧
      storage.Walks roots

lemma count_eq (report : ScanReport) (succeeded : Bool) :
    (count report succeeded).1.discovered = report.discovered ∧
      (count report succeeded).1.loaded + (count report succeeded).1.failed =
        report.loaded + report.failed + 1 ∧
      (count report succeeded).2 =
        .report (countMessage (report.loaded + report.failed + 1) report.discovered)
          (percentage (report.loaded + report.failed + 1) report.discovered) := by
  have hadd : report.loaded + 1 + report.failed = report.loaded + report.failed + 1 := by omega
  cases succeeded <;> simp [count, hadd, Nat.add_assoc]

/-- A step of the scan tells what is next. -/
lemma Told.lead (h : Told storage roots s told) (hw : w.storage = storage)
    (hstep : s.step? w = some (w', more, .more s')) : Told storage roots s' (told ++ more) := by
  rcases s with left | ⟨_ | ⟨root, left⟩, found⟩ | ⟨report, _ | ⟨succeeded, landed⟩, pending⟩
  · cases hstep
    obtain ⟨rfl, rfl⟩ := h
    exact ⟨rfl, [], rfl, fun root hroot => nomatch hroot⟩
  · cases hstep
    obtain ⟨rfl, walked, rfl, hwalks⟩ := h
    exact ⟨rfl, by simp, by rwa [List.append_nil]⟩
  · simp only [step?, hw] at hstep
    split at hstep
    · split at hstep
      · next entries hentries =>
        cases hstep
        obtain ⟨rfl, walked, rfl, hwalks⟩ := h
        refine ⟨rfl, walked ++ [root], by simp, fun r hr => ?_⟩
        rcases List.mem_append.mp hr with hr | hr
        · exact hwalks r hr
        · cases List.mem_singleton.mp hr
          exact ⟨entries, hentries⟩
      · cases hstep
      · cases hstep
    · cases hstep
  · cases pending <;> cases hstep
  · have hcount : some (w, [(count report succeeded).2],
        Turn.more (loading (count report succeeded).1 landed pending)) =
          some (w', more, .more s') := hstep
    cases hcount
    obtain ⟨rfl, hsum, hwalks⟩ := h
    obtain ⟨hdiscovered, hdone, hevent⟩ := count_eq report succeeded
    refine ⟨?_, ?_, hwalks⟩
    · rw [hdiscovered, hdone, hevent, reports_succ, List.cons_append]
    · rw [hdiscovered, hdone]
      simp only [List.length_cons] at hsum
      omega

/-- A step of a load tells nothing. -/
lemma Told.load (h : Told storage roots s told) (hstep : s.loadStep? choice w = some (w', s')) :
    Told storage roots s' told := by
  obtain ⟨report, landed, pending, uri, load, rfl, hp, hstep⟩ := loadStep?_spec hstep
  obtain ⟨hlt, -⟩ := List.getElem?_eq_some_iff.mp hp
  obtain ⟨rfl, hsum, hwalks⟩ := h
  obtain ⟨next, -, rfl⟩ | ⟨result, -, rfl⟩ := hstep
  · exact ⟨rfl, by rwa [List.length_set], hwalks⟩
  · refine ⟨rfl, ?_, hwalks⟩
    rw [List.length_append, List.length_singleton, List.length_eraseIdx_of_lt hlt]
    omega

lemma Tells.invariant (h : Tells storage roots s told) : Told storage roots s told := by
  induction h with
  | start => exact ⟨rfl, rfl⟩
  | lead _ hw hstep ih => exact ih.lead hw hstep
  | load _ choice hstep ih => exact ih.load hstep

/-- The end of a scan is told last: of all documents, or of the walk that failed. -/
lemma Told.ended (h : Told storage roots s told) (hw : w.storage = storage)
    (hstep : s.step? w = some (v, last, .done x)) : x = .error .crashed ∨
      (∃ root ∈ roots, ∃ failure, storage.walk [root] = .failed failure ∧
        x = .error (.storage root failure) ∧
        told ++ last = [.begin title, .finish (failedMessage (.storage root failure))]) ∨
      ∃ r, x = .ok r ∧ storage.Walks roots ∧
        told ++ last =
          .begin title :: (reports r.discovered r.discovered ++ [.finish (loadedMessage r)]) := by
  rcases s with left | ⟨_ | ⟨root, left⟩, found⟩ |
    ⟨report, _ | ⟨succeeded, landed⟩, _ | ⟨p, pending⟩⟩
  · cases hstep
  · cases hstep
  · obtain ⟨rfl, walked, rfl, -⟩ := h
    simp only [step?, hw] at hstep
    split at hstep
    · split at hstep
      · cases hstep
      · next failure hfailure =>
        cases hstep
        exact .inr (.inl ⟨root, by simp, failure, hfailure, rfl, rfl⟩)
      · cases hstep
        exact .inl rfl
    · cases hstep
  · cases hstep
    obtain ⟨rfl, hsum, hwalks⟩ := h
    refine .inr (.inr ⟨report, rfl, hwalks, ?_⟩)
    have hall : report.loaded + report.failed = report.discovered := by simpa using hsum
    rw [List.cons_append, hall]
  · cases hstep
  · cases hstep
  · cases hstep

/-- In every course of a scan there is something that it tells. -/
lemma During.exists_tells (h : During rest roots w₀ w s log)
    (hrest : ∀ w w', rest w w' → Workspace.Elsewhere w w') (hr : w₀.registry.WellFormed) :
    ∃ told, Tells w₀.storage roots s told := by
  induction h with
  | start => exact ⟨[], .start⟩
  | rest _ _ ih => exact ih
  | lead hbefore hstep ih =>
    obtain ⟨told, htells⟩ := ih
    exact ⟨_, htells.lead (hbefore.accounts hrest hr).source hstep⟩
  | load _ choice hstep ih =>
    obtain ⟨told, htells⟩ := ih
    exact ⟨told, htells.load choice hstep⟩

/-- **Progress.** A scan of some roots comes to its end, whatever happens between its steps, in
whichever order its loads get through, and whether they succeed or not; and no walk of it gives way.
It has told its beginning first and its end last, with nothing but reports between them. If a walk
fails, there are none. If all roots can be walked, there is one more than documents were found; each
of them has a percentage, and these begin with 0, do not fall or exceed 100, and come to 100 if
there are any documents. No number that a percentage is made of exceeds 64 bits for less than
`2 ^ 57` documents. -/
theorem progress_told (storage : Storage) (roots : List Path) :
    (∀ s told w v last x, Tells storage roots s told → w.storage = storage →
      s.step? w = some (v, last, .done x) → x ≠ .error .crashed →
      ∃ between message,
        told ++ last = .begin title :: (between ++ [.finish message]) ∧
        (∀ e ∈ between, e.isReport = true) ∧
        (∀ e, x = .error e → between = [] ∧ ∃ root ∈ roots, ∃ failure,
          storage.walk [root] = .failed failure ∧ e = .storage root failure) ∧
        ∀ r, x = .ok r → storage.Walks roots ∧ between.length = r.discovered + 1 ∧
          Rises r.discovered between) ∧
    ∀ report succeeded landed pending told,
      Tells storage roots (.loading report (succeeded :: landed) pending) told →
      let counted := (count report succeeded).1
      counted.loaded + counted.failed ≤ counted.discovered ∧
        (counted.discovered < 2 ^ 57 → (counted.loaded + counted.failed) * 100 < 2 ^ 64) := by
  refine ⟨fun s told w v last x h hw hstep hx => ?_,
    fun report succeeded landed pending told h => ?_⟩
  · rcases h.invariant.ended hw hstep with rfl | ⟨root, hroot, failure, hwalk, rfl, htold⟩ |
      ⟨r, rfl, hwalks, htold⟩
    · exact absurd rfl hx
    · refine ⟨[], _, htold, by simp, fun e he => ?_, by simp⟩
      cases he
      exact ⟨rfl, root, hroot, failure, hwalk, rfl⟩
    · refine ⟨_, _, htold, fun e he => isReport_of_mem_reports he, by simp, fun r' hr => ?_⟩
      cases hr
      exact ⟨hwalks, length_reports, rises_reports⟩
  · obtain ⟨-, hsum, -⟩ := h.invariant
    obtain ⟨hdiscovered, hdone, -⟩ := count_eq report succeeded
    intro counted
    have hle : counted.loaded + counted.failed ≤ counted.discovered := by
      show (count report succeeded).1.loaded + (count report succeeded).1.failed ≤
        (count report succeeded).1.discovered
      simp only [List.length_cons] at hsum
      omega
    exact ⟨hle, fun hlt => by omega⟩

/-- Of three documents, one of which stands below both roots and cannot be read, a scan tells four
times. -/
theorem progress_told_weather :
    let roots : List Path := [.ofText "/ws", .ofText "/ws/maps"]
    ∃ s told w v last r between message, Tells overlapping roots s told ∧
      s.step? w = some (v, last, .done (.ok r)) ∧
      told ++ last = .begin title :: (between ++ [.finish message]) ∧ between.length = 4 ∧
      Rises 3 between := by
  intro roots
  have hr : (Workspace.ofStorage overlapping).registry.WellFormed := Registry.wellFormed_empty
  have hstart : During Workspace.Elsewhere roots (Workspace.ofStorage overlapping) _ _ _ := .start
  obtain ⟨w, s, log, v, last, x, hduring, hend⟩ := hstart.exists_end rfl
  have haccounts : Accounts overlapping roots w s log := hduring.accounts (fun _ _ hw => hw) hr
  obtain ⟨told, htells⟩ := hduring.exists_tells (fun _ _ hw => hw) hr
  have hwalks : overlapping.Walks roots := fun root _ => ⟨_, rfl⟩
  obtain ⟨hx, -⟩ := haccounts.over_of_walks hwalks hend
  have hthree : ((roots.flatMap overlapping.entries).filter (·.isDocument)).length = 3 := by
    decide +kernel
  rw [hthree] at hx
  subst hx
  obtain ⟨between, message, htrace, -, -, hreports⟩ :=
    (progress_told overlapping roots).1 s told w v last _ htells haccounts.source hend (by simp)
  obtain ⟨-, hlength, hrises⟩ := hreports _ rfl
  exact ⟨s, told, w, v, last, _, between, message, htells, hend, htrace, hlength, hrises⟩

end Scan

end Contracts
