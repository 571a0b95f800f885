import Contracts.Work.Session
import Contracts.Proofs.Work.Pool
import Contracts.Proofs.Work.Scanning

/-!
A session in which one job runs alone.

Its pool settles when the job is done, so what a caller gets is what the job comes to in one of the
orders that its steps may have. A scan gets on as long as the storage answers, and so does a
question for diagnostics; each step makes a measure less that the budget of the pool pays for.
-/

namespace Contracts

open Workspace

/-- A job comes to its outcome by the steps of its two strands. -/
inductive Job.Ends : Workspace → Job → Workspace → Outcome → Prop
  | more {w w₁ v : Workspace} {j j₁ : Job} {o : Outcome} (strand : Strand)
      (hstep : Job.step? w strand j = some (w₁, .more j₁)) (hends : Ends w₁ j₁ v o) : Ends w j v o
  | done {w v : Workspace} {j : Job} {o : Outcome} (strand : Strand)
      (hstep : Job.step? w strand j = some (v, .done o)) : Ends w j v o

namespace Session

/-- Jobs that get on until they are done, and have less and less to do. -/
structure Proceeds (I : Workspace → Job → Prop) (m : Workspace → Job → Nat) : Prop where
  step : ∀ {w w' strand j j'}, I w j → Job.step? w strand j = some (w', .more j') →
    I w' j' ∧ m w' j' < m w j
  progress : ∀ {w j}, I w j → ∃ strand, (Job.step? w strand j).isSome = true
  pos : ∀ {w j}, I w j → 0 < m w j

variable {I : Workspace → Job → Prop} {m : Workspace → Job → Nat} {w v : Workspace} {j : Job}
  {o : Outcome} {s : Session} {name : Option String}

/-- The step of a pool of one job is one of the job. -/
lemma stepAt?_single {turn : Turn Job Outcome} {place : Pool.Place}
    {slots : List (Option String × Turn Job Outcome)} :
    Pool.stepAt? Job.rules w [(name, turn)] place = some (v, slots) ↔
      place.1 = 0 ∧ ∃ j turn', turn = .more j ∧ Job.step? w place.2 j = some (v, turn') ∧
        slots = [(name, turn')] := by
  rw [Pool.stepAt?_eq_some]
  constructor
  · rintro ⟨key, j, turn', hslot, hstep, rfl⟩
    obtain ⟨hlt, hget⟩ := List.getElem?_eq_some_iff.mp hslot
    have hzero : place.1 = 0 := by simpa using hlt
    simp only [hzero, List.getElem_cons_zero] at hget
    cases hget
    exact ⟨hzero, j, turn', rfl, hstep, by simp [hzero]⟩
  · rintro ⟨hzero, j, turn', rfl, hstep, rfl⟩
    exact ⟨name, j, turn', by simp [hzero], hstep, by simp [hzero]⟩

/-- What holds of a turn of the job `j`, which started at `w`, when it has got on to `w'`. -/
def Coming (I : Workspace → Job → Prop) (w : Workspace) (j : Job) (w' : Workspace) :
    Turn Job Outcome → Prop
  | .more j' => I w' j' ∧ ∀ v o, Job.Ends w' j' v o → Job.Ends w j v o
  | .done o => Job.Ends w j w' o

/-- How much a job has left to do. -/
def left (m : Workspace → Job → Nat) (w : Workspace) : Turn Job Outcome → Nat
  | .more j => m w j
  | .done _ => 0

/-- A job that is alone in a pool is done when the pool has settled. -/
theorem settle_alone (name : Option String) (hI : Proceeds I m) (hj : I w j)
    (hbudget : m w j ≤ Job.rules.budget w [j]) :
    ∃ v o, Pool.settle Job.rules w [(name, .more j)] = (v, [(name, .done o)]) ∧
      Job.Ends w j v o := by
  -- whatever the job comes to from here on, it comes to from the start
  let P (w' : Workspace) (slots : List (Option String × Turn Job Outcome)) : Prop :=
    ∃ turn, slots = [(name, turn)] ∧ Coming I w j w' turn
  have hdescends : Pool.Descends Job.rules P fun w' slots => (slots.map (left m w' ·.2)).sum := by
    rintro w' slots place w'' slots' ⟨turn, rfl, hP⟩ hstep
    obtain ⟨-, j', turn', rfl, hj', rfl⟩ := stepAt?_single.mp hstep
    obtain ⟨hI', hends⟩ := hP
    cases turn' with
    | more j'' =>
      obtain ⟨hI'', hless⟩ := hI.step hI' hj'
      exact ⟨⟨_, rfl, hI'', fun v o h => hends v o (.more _ hj' h)⟩, hless⟩
    | done o => exact ⟨⟨_, rfl, hends _ _ (.done _ hj')⟩, hI.pos hI'⟩
  have hstart : P w [(name, .more j)] := ⟨_, rfl, hj, fun _ _ h => h⟩
  obtain ⟨⟨turn, hslots, hP⟩, hstuck⟩ := Pool.settle_spec hdescends hstart hbudget
  cases turn with
  | done o => exact ⟨_, o, Prod.ext rfl hslots, hP⟩
  | more j' =>
    obtain ⟨strand, hsome⟩ := hI.progress hP.1
    obtain ⟨⟨w'', turn⟩, hstep⟩ := Option.isSome_iff_exists.mp hsome
    have hnone := hstuck (0, strand)
    rw [hslots, stepAt?_single.mpr ⟨rfl, j', turn, rfl, hstep, rfl⟩] at hnone
    cases hnone

/-- A job that is started where no other one is comes to its outcome. -/
theorem start_alone (s : Session) (name : Option String) (j : Job) (hs : s.jobs = [])
    (hw : (if j.isBackground then s.workspace.enterScan else s.workspace) = w)
    (hI : Proceeds I m) (hj : I w j) (hbudget : m w j ≤ Job.rules.budget w [j]) :
    ∃ v o, s.start name j = (some o, { s with workspace := v }) ∧ Job.Ends w j v o := by
  obtain ⟨v, o, hsettle, hends⟩ := settle_alone name hI hj hbudget
  refine ⟨v, o, ?_, hends⟩
  obtain ⟨w₀, jobs, guards, held⟩ := s
  cases (hs : jobs = [])
  unfold start
  dsimp only at hw ⊢
  rw [List.nil_append, hw, hsettle]
  rfl

end Session

/-! ### Scans -/

/-- The steps that a load has at most, with the one that counts it. -/
def Load.weight : Load → Nat
  | .lookup => 3
  | .reading _ _ => 2

namespace Scan

variable {w w' v : Workspace} {s s' : Scan} {told : List ScanEvent} {roots : List Path}
  {choice : Nat} {o : Outcome} {root : Path}

/-- The steps that a scan and its loads still have at most. -/
def measure (w : Workspace) : Scan → Nat
  | .announcing roots => roots.length + 3 * findable w roots + 3
  | .walking roots found => roots.length + 3 * (findable w roots + found.length) + 2
  | .loading _ landed pending => landed.length + (pending.map (·.2.weight)).sum + 1

lemma findable_eq (w : Workspace) (roots : List Path) :
    findable w roots = (roots.map fun root =>
      match w.storage.walk [root] with
      | .ok entries => entries.length
      | _ => 0).sum := by
  have hfold : ∀ n, roots.foldl (fun n root =>
      match w.storage.walk [root] with
      | .ok entries => n + entries.length
      | _ => n) n = n + (roots.map fun root =>
        match w.storage.walk [root] with
        | .ok entries => entries.length
        | _ => 0).sum := by
    induction roots with
    | nil => exact fun n => rfl
    | cons root roots ih =>
      intro n
      rw [List.foldl_cons, ih, List.map_cons, List.sum_cons, ← Nat.add_assoc]
      congr 1
      cases w.storage.walk [root] <;> rfl
  exact (hfold 0).trans (Nat.zero_add _)

lemma findable_cons {entries : List StorageEntry} (h : w.storage.walk [root] = .ok entries) :
    findable w (root :: roots) = entries.length + findable w roots := by
  rw [findable_eq, findable_eq, List.map_cons, List.sum_cons, h]

lemma measure_step? (h : s.step? w = some (w', told, .more s')) :
    w' = w ∧ s'.measure w < s.measure w := by
  rcases s with roots | ⟨_ | ⟨root, roots⟩, found⟩ | ⟨report, _ | ⟨succeeded, landed⟩, pending⟩
  · cases h
    refine ⟨rfl, ?_⟩
    simp only [measure, List.length_nil]
    omega
  · cases h
    refine ⟨rfl, ?_⟩
    have hsum : ((found.map fun uri => (uri, Load.lookup)).map (·.2.weight)).sum =
        3 * found.length := by
      simp [Load.weight, Function.comp_def, Nat.mul_comm]
    simp only [measure, hsum, List.length_nil]
    omega
  · simp only [step?] at h
    split at h
    · split at h
      · next entries hentries =>
        cases h
        refine ⟨rfl, ?_⟩
        have hlength := List.length_filterMap_le documentUri? entries
        simp only [measure, findable_cons hentries, List.length_append, List.length_cons]
        omega
      · cases h
      · cases h
    · cases h
  · cases pending <;> cases h
  · cases h
    refine ⟨rfl, ?_⟩
    simp only [measure, List.length_cons]
    omega

lemma weight_step? {load : Load} {uri : Uri} {turn : Turn Load (Except Error Document)}
    (h : load.step? w uri = some (w', turn)) : w'.storageReady = w.storageReady ∧
      ∀ next, turn = .more next → next.weight < load.weight := by
  cases load with
  | lookup =>
    simp only [Load.step?] at h
    split at h
    · cases h; exact ⟨rfl, by rintro _ ⟨⟩⟩
    · split at h
      · cases h; exact ⟨rfl, by rintro _ ⟨⟩⟩
      · split at h
        · cases h; exact ⟨rfl, by rintro _ ⟨⟩⟩
        · cases h
          exact ⟨rfl, fun next h => by cases h; exact Nat.lt_succ_self 2⟩
  | reading kind path =>
    simp only [Load.step?] at h
    split at h
    · split at h <;> cases h <;> exact ⟨rfl, by rintro _ ⟨⟩⟩
    · cases h

lemma measure_loadStep? (h : s.loadStep? choice w = some (w', s')) :
    w'.storageReady = w.storageReady ∧ s'.measure w' < s.measure w := by
  obtain ⟨report, landed, pending, uri, load, rfl, hp, hstep⟩ := loadStep?_spec h
  obtain ⟨hlt, hget⟩ := List.getElem?_eq_some_iff.mp hp
  have hcons : (pending.map (·.2.weight)).sum =
      load.weight + ((pending.eraseIdx choice).map (·.2.weight)).sum := by
    have hperm := (List.getElem_cons_eraseIdx_perm hlt).map (·.2.weight)
    rw [hget] at hperm
    rw [← hperm.sum_nat, List.map_cons, List.sum_cons]
  rcases hstep with ⟨next, hload, rfl⟩ | ⟨result, hload, rfl⟩
  · obtain ⟨hready, hless⟩ := weight_step? hload
    have hset : ((pending.set choice (uri, next)).map (·.2.weight)).sum =
        next.weight + ((pending.eraseIdx choice).map (·.2.weight)).sum := by
      have hlt' : choice < (pending.set choice (uri, next)).length := by simpa using hlt
      have hperm := (List.getElem_cons_eraseIdx_perm hlt').map (·.2.weight)
      rw [List.getElem_set_self, List.eraseIdx_set_eq] at hperm
      rw [← hperm.sum_nat, List.map_cons, List.sum_cons]
    refine ⟨hready, ?_⟩
    simp only [measure, hset, hcons]
    have := hless next rfl
    omega
  · refine ⟨(weight_step? hload).1, ?_⟩
    have hweight : 2 ≤ load.weight := by cases load <;> simp [Load.weight]
    simp only [measure, hcons, List.length_append, List.length_singleton]
    omega

/-- A scan gets on by a step of its own or of a load, as long as the storage answers. -/
lemma exists_step (h : w.storageReady = true) :
    (s.step? w).isSome = true ∨ (s.firstLoadStep? w).isSome = true := by
  rcases s with roots | ⟨_ | ⟨root, roots⟩, found⟩ | ⟨report, _ | ⟨succeeded, landed⟩, pending⟩
  · exact .inl rfl
  · exact .inl rfl
  · left
    simp only [step?, if_pos h]
    split <;> rfl
  · cases pending with
    | nil => exact .inl rfl
    | cons p pending =>
      right
      simp only [firstLoadStep?, List.findSome?_isSome_iff]
      refine ⟨0, by simp, ?_⟩
      simp only [loadStep?, List.getElem?_cons_zero, Option.isSome_map]
      exact Load.isSome_step? h
  · exact .inl rfl

/-- A scan gets on until it is over. -/
lemma proceeds : Session.Proceeds
    (fun w j => w.storageReady = true ∧ ∃ s told, j = .scan s told)
    (fun w j => match j with
      | .scan s _ => s.measure w
      | _ => 0) where
  step := by
    rintro w w' strand j j' ⟨hready, s, told, rfl⟩ hstep
    cases strand with
    | lead =>
      simp only [Job.step?] at hstep
      rcases hs : s.step? w with _ | ⟨w₁, events, s₁ | result⟩ <;> rw [hs] at hstep <;> cases hstep
      obtain ⟨rfl, hless⟩ := measure_step? hs
      exact ⟨⟨hready, _, _, rfl⟩, hless⟩
    | side =>
      simp only [Job.step?] at hstep
      rcases hs : s.firstLoadStep? w with _ | ⟨w₁, s₁⟩ <;> rw [hs] at hstep <;> cases hstep
      obtain ⟨choice, hchoice⟩ := loadStep?_of_first hs
      obtain ⟨hsame, hless⟩ := measure_loadStep? hchoice
      exact ⟨⟨hsame.trans hready, _, _, rfl⟩, hless⟩
  progress := by
    rintro w j ⟨hready, s, told, rfl⟩
    rcases exists_step (s := s) hready with h | h
    · exact ⟨.lead, by simpa [Job.step?] using h⟩
    · exact ⟨.side, by simpa [Job.step?] using h⟩
  pos := by
    rintro w j ⟨-, s, told, rfl⟩
    cases s <;> simp [measure]

/-- What a scan comes to as a job it comes to in some order, with the registry in order. -/
theorem ends_of_job {j : Job} (h : Job.Ends w j v o) (hj : j = .scan s told)
    (hr : w.registry.WellFormed) :
    ∃ x told', o = .scanned x told' ∧ Ends w s v x ∧ v.registry.WellFormed := by
  induction h generalizing s told with
  | more strand hstep _ ih =>
    subst hj
    cases strand with
    | lead =>
      simp only [Job.step?] at hstep
      rcases hs : s.step? _ with _ | ⟨w₁, events, s₁ | result⟩ <;> rw [hs] at hstep <;> cases hstep
      obtain ⟨x, told', ho, hends, hwf⟩ := ih rfl (registry_step? hs ▸ hr)
      exact ⟨x, told', ho, .lead hs hends, hwf⟩
    | side =>
      simp only [Job.step?] at hstep
      rcases hs : s.firstLoadStep? _ with _ | ⟨w₁, s₁⟩ <;> rw [hs] at hstep <;> cases hstep
      obtain ⟨choice, hchoice⟩ := loadStep?_of_first hs
      obtain ⟨x, told', ho, hends, hwf⟩ := ih rfl (wellFormed_loadStep? hr hchoice)
      exact ⟨x, told', ho, .load choice hchoice hends, hwf⟩
  | done strand hstep =>
    subst hj
    cases strand with
    | lead =>
      simp only [Job.step?] at hstep
      rcases hs : s.step? _ with _ | ⟨w₁, events, s₁ | result⟩ <;> rw [hs] at hstep <;> cases hstep
      exact ⟨_, _, rfl, .done hs, registry_step? hs ▸ hr⟩
    | side =>
      simp only [Job.step?] at hstep
      rcases hs : s.firstLoadStep? _ with _ | ⟨w₁, s₁⟩ <;> rw [hs] at hstep <;> cases hstep

/-- A scan that is started where nothing else is under way comes to its end. -/
theorem exists_start (storage : Storage) (roots : List Path) :
    ∃ v x told, (Session.ofWorkspace (.ofStorage storage)).start none
        (.scan (.announcing roots) []) = (some (.scanned x told), .ofWorkspace v) ∧
      Ends (Workspace.ofStorage storage).enterScan (.announcing roots) v x ∧
      v.registry.WellFormed := by
  have hbudget : measure (Workspace.ofStorage storage).enterScan (.announcing roots) ≤
      Job.rules.budget (Workspace.ofStorage storage).enterScan [.scan (.announcing roots) []] := by
    simp [measure, Job.rules, Job.budget, budget, reach]
  obtain ⟨v, o, hstart, hends⟩ :=
    Session.start_alone (.ofWorkspace (.ofStorage storage)) none (.scan (.announcing roots) []) rfl
      rfl proceeds ⟨rfl, .announcing roots, [], rfl⟩ hbudget
  obtain ⟨x, told, rfl, hscan, hwf⟩ := ends_of_job hends rfl Registry.wellFormed_empty
  exact ⟨v, x, told, hstart, hscan, hwf⟩

end Scan

/-! ### Questions for diagnostics -/

namespace Activity

variable {storage : Storage} {ps : List Document} {w v : Workspace} {uri : Uri} {o : Outcome}
  {a : Activity} {s : Session}

/-- What a question comes to as a job it comes to by itself. -/
theorem ends_of_job {j : Job} (h : Job.Ends w j v o) (hj : j = .activity a) :
    ∃ x, o = .answer x ∧ Ends w a v x := by
  induction h generalizing a with
  | more strand hstep _ ih =>
    subst hj
    cases strand with
    | lead =>
      simp only [Job.step?] at hstep
      rcases hs : a.step? _ with _ | ⟨w₁, b | x⟩ <;> rw [hs] at hstep <;> cases hstep
      obtain ⟨x, ho, hends⟩ := ih rfl
      exact ⟨x, ho, .more hs hends⟩
    | side => cases hstep
  | done strand hstep =>
    subst hj
    cases strand with
    | lead =>
      simp only [Job.step?] at hstep
      rcases hs : a.step? _ with _ | ⟨w₁, b | x⟩ <;> rw [hs] at hstep <;> cases hstep
      exact ⟨x, rfl, .done hs⟩
    | side => cases hstep

/-- The steps that a question for diagnostics still has at most. -/
def measure : Activity → Nat
  | .diagnostics _ none => 3
  | .diagnostics _ (some .lookup) => 2
  | _ => 1

/-- A question for diagnostics gets on until it is answered. -/
lemma proceeds (storage : Storage) (ps : List Document) : Session.Proceeds
    (fun w j => w.Settled storage ps ∧
      ∃ uri stage, j = .activity (.diagnostics uri stage) ∧ Awaits w uri stage)
    (fun _ j => match j with
      | .activity a => a.measure
      | _ => 0) where
  step := by
    rintro w w' strand j j' ⟨hw, uri, stage, rfl, hstage⟩ hstep
    cases strand with
    | side => cases hstep
    | lead =>
      simp only [Job.step?] at hstep
      rcases hs : (Activity.diagnostics uri stage).step? w with _ | ⟨w₁, b | x⟩ <;>
        rw [hs] at hstep <;> cases hstep
      obtain ⟨rfl, load, rfl, hload, hless⟩ := diagnostics_more hw hstage hs
      refine ⟨⟨hw, uri, some load, rfl, hload⟩, ?_⟩
      rcases stage with _ | stage
      · cases load <;> simp [measure]
      · obtain ⟨rfl, hne⟩ := hless stage rfl
        cases load with
        | lookup => exact absurd rfl hne
        | reading kind path => exact Nat.lt_succ_self 1
  progress := by
    rintro w j ⟨hw, uri, stage, rfl, -⟩
    refine ⟨.lead, ?_⟩
    cases stage with
    | none => simp [Job.step?, step?, hw.scans]
    | some load => simpa [Job.step?, step?, afterLoad] using Load.isSome_step? hw.ready
  pos := by
    rintro w j ⟨-, uri, stage, rfl, -⟩
    rcases stage with _ | _ | _ <;> simp [measure]

/-- A question for diagnostics that is asked where nothing else is under way is answered. -/
theorem exists_start (hs : s.jobs = []) (hw : s.workspace.Settled storage ps) (uri : Uri) :
    ∃ v x, s.start none (.activity (.diagnostics uri none)) =
        (some (.answer x), { s with workspace := v }) ∧
      Ends s.workspace (.diagnostics uri none) v x := by
  have hawaits : Awaits s.workspace uri none := fun load hl => nomatch hl
  obtain ⟨v, o, hstart, hends⟩ :=
    Session.start_alone s none (.activity (.diagnostics uri none)) hs rfl (proceeds storage ps)
      ⟨hw, uri, none, rfl, hawaits⟩ (by simp [measure, Job.rules, Job.budget, budget])
  obtain ⟨x, rfl, hx⟩ := ends_of_job hends rfl
  exact ⟨v, x, hstart, hx⟩

end Activity

end Contracts
