import Contracts.Work.Scan
import Contracts.Proofs.Store.WellFormed

/-!
A workspace at work: what editors and callers do, questions and scans, in any order.

Questions and scans get on one turn at a time, and whose turn it is may be chosen freely. Whatever
the order is, the registry sees nothing but a sequence of operations: `operations` lists those of
one action, and `registry_run` says that the registry after a run is the one after them all.
-/

namespace Contracts

/-- What can be asked of a workspace. -/
inductive Question where
  | load (uri : Uri)
  | outline (uri : Uri)
  | diagnostics (uri : Uri)
  | search (query : String)
  | dependents (uri : Uri)
  | barrier

/-- A question that has just been asked. -/
def Question.activity : Question → Activity
  | .load uri => .load uri .lookup
  | .outline uri => .outline uri .lookup
  | .diagnostics uri => .diagnostics uri none
  | .search query => .search query none
  | .dependents uri => .dependents uri
  | .barrier => .barrier

/-- A workspace with all that is under way in it. -/
structure System where
  workspace : Workspace
  activities : List Activity
  scans : List Scan
  /-- How many callers make questions about all documents wait without a scan. -/
  guards : Nat

inductive Action where
  | openDocument (uri : Uri) (language : String) (version : Int) (text : String)
  | changeDocument (uri : Uri) (edits : List Edit) (version : Int)
  | closeDocument (uri : Uri)
  | create (uri : Uri) (kind : Kind) (version : Int) (text : String)
  | update (uri : Uri) (edits : List Edit) (version : Int)
  | remove (uri : Uri)
  | findProfile (key : String)
  | mapsTargeting (key : String)
  | ask (question : Question)
  /-- The activity in a slot gets on. -/
  | proceed (slot : Nat)
  /-- Nobody waits for the activity in a slot any more. -/
  | abandon (slot : Nat)
  | startScan (roots : List Path)
  /-- The scan in a slot gets on. -/
  | proceedScan (slot : Nat)
  /-- Of the loads of the scan in a slot, the one at `choice` gets on. -/
  | proceedLoad (slot choice : Nat)
  | enter
  | leave
  /-- The storage changes, or whether it answers. -/
  | setStorage (storage : Storage) (ready : Bool)

namespace System

def ofStorage (storage : Storage) : System := ⟨.ofStorage storage, [], [], 0⟩

def registry (s : System) : Registry := s.workspace.registry

def withRegistry (s : System) (r : Registry) : System :=
  { s with workspace := { s.workspace with registry := r } }

/-- The system after one action. An action that has to wait changes nothing. -/
def step (s : System) : Action → System
  | .openDocument uri language version text =>
    { s with workspace := (s.workspace.openDocument uri language version text).2 }
  | .changeDocument uri edits version =>
    { s with workspace := (s.workspace.changeDocument uri edits version).2 }
  | .closeDocument uri => { s with workspace := (s.workspace.closeDocument uri).2 }
  | .create uri kind version text => s.withRegistry (s.registry.create uri kind version text).2
  | .update uri edits version => s.withRegistry (s.registry.update uri edits version).2
  | .remove uri => s.withRegistry (s.registry.remove uri).2
  | .findProfile key => s.withRegistry (s.registry.findProfile key).2
  | .mapsTargeting key => s.withRegistry (s.registry.mapsTargeting key).2
  | .ask question => { s with activities := s.activities ++ [question.activity] }
  | .proceed slot =>
    match s.activities[slot]? with
    | none => s
    | some a =>
      match a.step? s.workspace with
      | none => s
      | some (w, .more a) => { s with workspace := w, activities := s.activities.set slot a }
      | some (w, .done _) => { s with workspace := w, activities := s.activities.eraseIdx slot }
  | .abandon slot => { s with activities := s.activities.eraseIdx slot }
  | .startScan roots =>
    { s with workspace := s.workspace.enterScan, scans := s.scans ++ [.announcing roots] }
  | .proceedScan slot =>
    match s.scans[slot]? with
    | none => s
    | some scan =>
      match scan.step? s.workspace with
      | none => s
      | some (w, _, .more scan) => { s with workspace := w, scans := s.scans.set slot scan }
      | some (w, _, .done _) => { s with workspace := w, scans := s.scans.eraseIdx slot }
  | .proceedLoad slot choice =>
    match s.scans[slot]? with
    | none => s
    | some scan =>
      match scan.loadStep? choice s.workspace with
      | none => s
      | some (w, scan) => { s with workspace := w, scans := s.scans.set slot scan }
  | .enter => { s with workspace := s.workspace.enterScan, guards := s.guards + 1 }
  | .leave =>
    if s.guards = 0 then s
    else { s with workspace := s.workspace.leaveScan, guards := s.guards - 1 }
  | .setStorage storage ready =>
    { s with workspace := { s.workspace with storage := storage, storageReady := ready } }

/-- The system after some actions, one after the other. -/
def run (s : System) (actions : List Action) : System := actions.foldl step s

@[simp] lemma run_nil (s : System) : s.run [] = s := rfl

@[simp] lemma run_cons (s : System) (a : Action) (actions : List Action) :
    s.run (a :: actions) = (s.step a).run actions := rfl

lemma run_append (s : System) (actions more : List Action) :
    s.run (actions ++ more) = (s.run actions).run more := by
  simp [run, List.foldl_append]

end System

/-! ### What an action does to the registry -/

namespace Load

/-- What one step of a load does to the registry. -/
def operations (w : Workspace) (uri : Uri) : Load → List Operation
  | .lookup => []
  | .reading kind path =>
    if w.storageReady then
      match w.storage.read path with
      | .ok text => [.load uri kind text]
      | _ => []
    else []

/-- What follows a load that is done with this step. -/
def followed (w : Workspace) (uri : Uri) (next : Document → Operation) (load : Load) :
    List Operation :=
  match load.step? w uri with
  | some (_, .done (.ok d)) => [next d]
  | _ => []

end Load

/-- What one step of an activity does to the registry. -/
def Activity.operations (w : Workspace) : Activity → List Operation
  | .load uri stage => stage.operations w uri
  | .outline uri stage => stage.operations w uri ++ stage.followed w uri fun d => .outline d.id
  | .diagnostics _ none => []
  | .diagnostics uri (some stage) =>
    stage.operations w uri ++ stage.followed w uri fun _ => .diagnose uri
  | .search _ (some (id :: _, _)) => [.outline id]
  | .search _ _ => []
  | .dependents uri =>
    if w.scans = 0 then
      match w.registry.get? uri with
      | none => []
      | some d =>
        match d.kind with
        | .map => []
        | .profile => .outline d.id :: if d.namespaceKey.1.isOk then [.lookThrough .map] else []
    else []
  | .barrier => []

namespace System

/-- What an action does to the registry. -/
def operations (s : System) : Action → List Operation
  | .openDocument uri language version text =>
    match Kind.ofLanguage? language <|> Kind.ofUri? uri with
    | some kind => [.create uri kind version text]
    | none => []
  | .changeDocument uri edits version | .update uri edits version => [.update uri edits version]
  | .closeDocument uri | .remove uri => [.remove uri]
  | .create uri kind version text => [.create uri kind version text]
  | .findProfile _ => [.lookThrough .profile]
  | .mapsTargeting _ => [.lookThrough .map]
  | .proceed slot =>
    match s.activities[slot]? with
    | some a => a.operations s.workspace
    | none => []
  | .proceedLoad slot choice =>
    match s.scans[slot]? with
    | some (.loading _ _ pending) =>
      match pending[choice]? with
      | some (uri, load) => load.operations s.workspace uri
      | none => []
    | _ => []
  | _ => []

/-- What some actions do to the registry, one after the other. -/
def trace (s : System) : List Action → List Operation
  | [] => []
  | a :: actions => s.operations a ++ (s.step a).trace actions

lemma trace_append (s : System) (actions more : List Action) :
    s.trace (actions ++ more) = s.trace actions ++ (s.run actions).trace more := by
  induction actions generalizing s with
  | nil => rfl
  | cons a actions ih => simp [trace, ih]

end System

lemma Load.step?_eq {w w' : Workspace} {uri : Uri} {load : Load}
    {turn : Turn Load (Except Error Document)} (hr : w.registry.WellFormed)
    (h : load.step? w uri = some (w', turn)) :
    w' = { w with registry := w.registry.run (load.operations w uri) } ∧
      ∀ d, turn = .done (.ok d) → w'.registry.get? uri = some d := by
  cases load with
  | lookup =>
    unfold Load.step? at h
    dsimp only at h
    split at h
    · next d hd =>
      cases h
      exact ⟨rfl, fun e he => by cases he; exact hd⟩
    · have hw : w = w' ∧ ∀ d, turn ≠ .done (.ok d) := by
        split at h
        · cases h; exact ⟨rfl, fun d h => nomatch h⟩
        · split at h <;> cases h <;> exact ⟨rfl, fun d h => nomatch h⟩
      exact ⟨hw.1 ▸ rfl, fun d hd => absurd hd (hw.2 d)⟩
  | reading kind path =>
    unfold Load.step? at h
    dsimp only at h
    split at h
    · next hready =>
      simp only [Load.operations, if_pos hready]
      split at h
      · next text htext =>
        cases h
        rw [htext]
        refine ⟨rfl, fun d hd => ?_⟩
        cases hd
        exact Registry.get?_createIfAbsent hr
      · next hf => cases h; rw [hf]; exact ⟨rfl, fun d h => nomatch h⟩
      · next hf => cases h; rw [hf]; exact ⟨rfl, fun d h => nomatch h⟩
    · cases h

/-- A load that has to wait does nothing. -/
lemma Load.operations_of_waiting {w : Workspace} {uri : Uri} {load : Load}
    (h : load.step? w uri = none) : load.operations w uri = [] := by
  cases load with
  | lookup => rfl
  | reading kind path =>
    unfold Load.step? at h
    dsimp only at h
    split at h
    · split at h <;> cases h
    · next hready => simp [Load.operations, hready]

namespace Activity

variable {w w' : Workspace} {uri : Uri} {load : Load} {b : Activity} {x : Except Error Answer}
  {again : Load → Activity} {next : Workspace → Document → Workspace × Except Error Answer}

lemma of_afterLoad_more (h : afterLoad (load.step? w uri) again next = some (w', .more b)) :
    ∃ load', load.step? w uri = some (w', .more load') ∧ b = again load' := by
  rcases hs : load.step? w uri with _ | ⟨w₁, load' | (e | d)⟩ <;> rw [hs] at h <;> cases h
  exact ⟨load', rfl, rfl⟩

lemma of_afterLoad_done (h : afterLoad (load.step? w uri) again next = some (w', .done x)) :
    (∃ e, load.step? w uri = some (w', .done (.error e)) ∧ x = .error e) ∨
      ∃ w₁ d, load.step? w uri = some (w₁, .done (.ok d)) ∧ next w₁ d = (w', x) := by
  rcases hs : load.step? w uri with _ | ⟨w₁, load' | (e | d)⟩ <;> rw [hs] at h
  · cases h
  · cases h
  · cases h; exact .inl ⟨e, rfl, rfl⟩
  · simp only [afterLoad, Option.map_some, Option.some.injEq, Prod.mk.injEq, Turn.done.injEq] at h
    exact .inr ⟨w₁, d, rfl, Prod.ext h.1 h.2⟩

end Activity

/-- What follows a load happens to the registry that the load left. -/
lemma Activity.afterLoad_eq {w w' : Workspace} {uri : Uri} {load : Load}
    {turn : Turn Activity (Except Error Answer)} (hr : w.registry.WellFormed)
    {again : Load → Activity} {next : Workspace → Document → Workspace × Except Error Answer}
    {op : Document → Operation}
    (hnext : ∀ w d, w.registry.WellFormed → w.registry.get? uri = some d →
      (next w d).1 = { w with registry := w.registry.apply (op d) })
    (h : afterLoad (load.step? w uri) again next = some (w', turn)) :
    w' = { w with
      registry := w.registry.run (load.operations w uri ++ load.followed w uri op) } := by
  unfold Load.followed
  rcases hs : load.step? w uri with _ | ⟨w₁, load' | (e | d)⟩
  · rw [hs] at h; cases h
  · rw [hs] at h; cases h
    simpa using (Load.step?_eq hr hs).1
  · rw [hs] at h; cases h
    simpa using (Load.step?_eq hr hs).1
  · obtain ⟨hw, hd⟩ := Load.step?_eq hr hs
    rw [hs] at h
    simp only [afterLoad, Option.map_some, Option.some.injEq, Prod.mk.injEq] at h
    have hr₁ : w₁.registry.WellFormed := by rw [hw]; exact hr.run _
    rw [← h.1, hnext w₁ d hr₁ (hd d rfl), hw, Registry.run_append]
    rfl

namespace Activity

open Registry

lemma searchDocument_eq {w : Workspace} {query : String} {id : Nat} :
    (w.searchDocument query id).2 = { w with registry := w.registry.apply (.outline id) } := by
  unfold Workspace.searchDocument Registry.apply
  dsimp only
  cases w.registry.document? id with
  | none => rfl
  | some d =>
    rcases ho : w.registry.outline d with ⟨_ | o, r⟩ <;> simp [ho]

lemma namespaceKey_eq {r : Registry} {d : Document} :
    (r.namespaceKey d).1 = d.namespaceKey.1 ∧ (r.namespaceKey d).2 = (r.outline d).2 := by
  have hk := Document.Derived.namespaceKey_snd (d := d)
  have ho := outline_snd (r := r) (d := d)
  have hid := (Document.sameText_outline (d := d)).id
  unfold Registry.namespaceKey
  rcases hd : d.namespaceKey with ⟨key, d'⟩
  rw [hd] at hk
  dsimp only at hk ⊢
  rw [ho, hk, hid]
  exact ⟨rfl, rfl⟩

/-- Asking for the dependents of a profile makes its outline, and then those of all maps. -/
lemma dependentsOf_eq {w : Workspace} (hr : w.registry.WellFormed) {uri : Uri}
    (hs : w.scans = 0) :
    (w.dependentsOf uri).2 =
      { w with registry := w.registry.run ((dependents uri).operations w) } := by
  unfold Workspace.dependentsOf
  simp only [operations, if_pos hs]
  cases hg : w.registry.get? uri with
  | none => rfl
  | some d =>
    dsimp only
    cases d.kind with
    | map => rfl
    | profile =>
      have hmem := ((get?_eq_some hr).mp hg).1
      have hdoc : w.registry.document? d.id = some d :=
        (document?_eq_some hr).mpr ⟨List.mem_append_left _ hmem, rfl⟩
      obtain ⟨hkey, hreg⟩ := namespaceKey_eq (r := w.registry) (d := d)
      have houtline : w.registry.apply (.outline d.id) = (w.registry.outline d).2 := by
        simp [Registry.apply, hdoc]
      rw [run_cons, houtline, ← hreg, ← hkey]
      dsimp only
      rcases w.registry.namespaceKey d with ⟨e | key, r⟩
      · cases e <;> rfl
      · rfl

/-- The registry after one step of an activity is the one after its operations. -/
theorem step?_eq {w w' : Workspace} {a : Activity} {turn : Turn Activity (Except Error Answer)}
    (hr : w.registry.WellFormed) (h : a.step? w = some (w', turn)) :
    w' = { w with registry := w.registry.run (a.operations w) } := by
  cases a with
  | load uri stage =>
    simp only [step?, afterLoad] at h
    rcases hs : stage.step? w uri with _ | ⟨w₁, stage' | (e | d)⟩
    · rw [hs] at h; cases h
    all_goals
      rw [hs] at h
      cases h
      exact (Load.step?_eq hr hs).1
  | outline uri stage =>
    simp only [step?] at h
    refine afterLoad_eq hr (fun w d hr hd => ?_) h
    have hdoc : w.registry.document? d.id = some d :=
      (document?_eq_some hr).mpr ⟨List.mem_append_left _ ((get?_eq_some hr).mp hd).1, rfl⟩
    simp only [Registry.apply, hdoc, Option.elim_some]
  | diagnostics uri stage =>
    cases stage with
    | none =>
      simp only [step?] at h
      split at h
      · cases h; rfl
      · cases h
    | some stage =>
      simp only [step?] at h
      refine afterLoad_eq hr (fun w d hr hd => ?_) h
      simp only [Registry.apply, hd, Option.elim_some]
  | search query stage =>
    rcases stage with _ | ⟨_ | ⟨id, ids⟩, found⟩
    · simp only [step?] at h
      split at h
      · cases h; rfl
      · cases h
    · simp only [step?] at h
      cases h; rfl
    · simp only [step?, Option.some.injEq, Prod.mk.injEq] at h
      rw [← h.1, searchDocument_eq]
      rfl
  | dependents uri =>
    simp only [step?] at h
    split at h
    · next hs =>
      cases h
      exact dependentsOf_eq hr hs
    · cases h
  | barrier =>
    simp only [step?] at h
    split at h
    · cases h; rfl
    · cases h

end Activity

/-- An activity that has to wait does nothing. -/
lemma Activity.operations_of_waiting {w : Workspace} {a : Activity} (h : a.step? w = none) :
    a.operations w = [] := by
  have hload : ∀ {uri load again next}, afterLoad (Load.step? w uri load) again next = none →
      load.step? w uri = none := fun h => Option.map_eq_none_iff.mp h
  cases a with
  | load uri stage =>
    simp only [step?] at h
    exact Load.operations_of_waiting (hload h)
  | outline uri stage =>
    simp only [step?] at h
    simp [operations, Load.followed, Load.operations_of_waiting (hload h), hload h]
  | diagnostics uri stage =>
    cases stage with
    | none => rfl
    | some stage =>
      simp only [step?] at h
      simp [operations, Load.followed, Load.operations_of_waiting (hload h), hload h]
  | search query stage =>
    rcases stage with _ | ⟨_ | ⟨id, ids⟩, found⟩
    · rfl
    · rfl
    · simp [step?] at h
  | dependents uri =>
    simp only [step?] at h
    split at h
    · cases h
    · next hs => simp [operations, hs]
  | barrier => rfl

namespace Scan

variable {w w' : Workspace} {s s' : Scan} {choice : Nat} {events : List ScanEvent}
  {turn : Turn Scan (Except Error ScanReport)}

/-- Whether a scan has walked all its roots. -/
def isLoading : Scan → Bool
  | .loading _ _ _ => true
  | _ => false

/-- A scan does nothing to the workspace until its last step, in which it leaves. Once it has begun
to load, it goes on loading and does not fail. -/
lemma step?_spec : s.step? w = some (w', events, turn) →
    match turn with
    | .more next => w' = w ∧ (s.isLoading = true → next.isLoading = true)
    | .done result => w' = w.leaveScan ∧ (s.isLoading = true → ∃ r, result = .ok r) := by
  intro h
  unfold step? at h
  split at h
  · cases h
    exact ⟨rfl, by simp [isLoading]⟩
  · split at h
    · split at h <;> cases h <;> exact ⟨rfl, by simp [isLoading]⟩
    · cases h
  · cases h
    exact ⟨rfl, fun _ => rfl⟩
  · cases h
    exact ⟨rfl, fun _ => rfl⟩
  · cases h
    exact ⟨rfl, fun _ => ⟨_, rfl⟩⟩
  · cases h

lemma registry_step? (h : s.step? w = some (w', events, turn)) : w'.registry = w.registry := by
  have hspec := step?_spec h
  cases turn with
  | more next => rw [hspec.1]
  | done result =>
    rw [hspec.1]
    rfl

lemma loadStep?_of_first (h : s.firstLoadStep? w = some (w', s')) :
    ∃ choice, s.loadStep? choice w = some (w', s') := by
  rcases s with roots | ⟨roots, found⟩ | ⟨report, landed, pending⟩
  · cases h
  · cases h
  · obtain ⟨choice, -, hchoice⟩ := List.exists_of_findSome?_eq_some h
    exact ⟨choice, hchoice⟩

/-- A step of a load is one of a load that is left: it goes on, or is through and left to be
counted. -/
lemma loadStep?_spec (h : s.loadStep? choice w = some (w', s')) :
    ∃ report landed pending uri load, s = .loading report landed pending ∧
      pending[choice]? = some (uri, load) ∧
      ((∃ next, load.step? w uri = some (w', .more next) ∧
          s' = .loading report landed (pending.set choice (uri, next))) ∨
        ∃ result, load.step? w uri = some (w', .done result) ∧
          s' = .loading report (landed ++ [result.isOk]) (pending.eraseIdx choice)) := by
  rcases s with roots | ⟨roots, found⟩ | ⟨report, landed, pending⟩
  · cases h
  · cases h
  · simp only [loadStep?] at h
    split at h
    · cases h
    · next uri load hp =>
      refine ⟨report, landed, pending, uri, load, rfl, hp, ?_⟩
      rcases hload : load.step? w uri with _ | ⟨w₁, next | result⟩ <;> rw [hload] at h <;> cases h
      · exact .inl ⟨next, rfl, rfl⟩
      · exact .inr ⟨result, rfl, rfl⟩

lemma wellFormed_loadStep? (hr : w.registry.WellFormed)
    (h : s.loadStep? choice w = some (w', s')) : w'.registry.WellFormed := by
  obtain ⟨_, _, _, _, _, -, -, ⟨_, hload, -⟩ | ⟨_, hload, -⟩⟩ := loadStep?_spec h <;>
    exact (Load.step?_eq hr hload).1 ▸ hr.run _

end Scan

namespace System

variable {s : System}

/-- The registry after an action is the one after its operations. -/
theorem registry_step (hr : s.registry.WellFormed) (a : Action) :
    (s.step a).registry = s.registry.run (s.operations a) := by
  cases a with
  | openDocument uri language version text =>
    simp only [step, operations, Workspace.openDocument]
    cases (Kind.ofLanguage? language <|> Kind.ofUri? uri) <;> rfl
  | changeDocument uri edits version => rfl
  | closeDocument uri => rfl
  | create uri kind version text => rfl
  | update uri edits version => rfl
  | remove uri => rfl
  | findProfile key => rfl
  | mapsTargeting key => rfl
  | ask question => rfl
  | proceed slot =>
    simp only [step, operations]
    cases s.activities[slot]? with
    | none => rfl
    | some a =>
      dsimp only
      cases ha : a.step? s.workspace with
      | none => simp [Activity.operations_of_waiting ha]
      | some next =>
        obtain ⟨w, turn⟩ := next
        have hw := Activity.step?_eq hr ha
        cases turn <;> exact congrArg Workspace.registry hw
  | abandon slot => rfl
  | startScan roots => rfl
  | proceedScan slot =>
    simp only [step, operations]
    cases s.scans[slot]? with
    | none => rfl
    | some scan =>
      dsimp only
      rcases hs : scan.step? s.workspace with _ | ⟨w, events, turn | turn⟩
      · rfl
      · exact Scan.registry_step? hs
      · exact Scan.registry_step? hs
  | proceedLoad slot choice =>
    simp only [step, operations]
    rcases s.scans[slot]? with _ | ⟨roots | ⟨roots, found⟩ | ⟨report, landed, pending⟩⟩
    · rfl
    · rfl
    · rfl
    · simp only [Scan.loadStep?]
      rcases pending[choice]? with _ | ⟨uri, load⟩
      · rfl
      · dsimp only
        rcases hl : load.step? s.workspace uri with _ | ⟨w, load' | result⟩
        · simp [Load.operations_of_waiting hl]
        · exact congrArg Workspace.registry (Load.step?_eq hr hl).1
        · exact congrArg Workspace.registry (Load.step?_eq hr hl).1
  | enter => rfl
  | leave =>
    simp only [step]
    split <;> rfl
  | setStorage storage ready => rfl

/-- The registry after a run is the one after the operations of its actions. -/
theorem registry_run (hr : s.registry.WellFormed) (actions : List Action) :
    (s.run actions).registry = s.registry.run (s.trace actions) := by
  induction actions generalizing s with
  | nil => rfl
  | cons a actions ih =>
    have hstep := registry_step hr a
    rw [run_cons, ih (by rw [hstep]; exact hr.run _), hstep, trace, Registry.run_append]

/-- Whatever was done in a workspace, its registry is well-formed. -/
theorem wellFormed_run (storage : Storage) (actions : List Action) :
    ((ofStorage storage).run actions).registry.WellFormed := by
  have hr : (ofStorage storage).registry.WellFormed := Registry.wellFormed_empty
  rw [registry_run hr]
  exact hr.run _

/-! ### A small workspace -/

def noFiles : Storage := MemoryFiles.storage ⟨[], [], [], [], [], []⟩

def fileUri (name : String) : Uri := ⟨"file", some .none, "/" ++ name, none, none⟩

/-- An editor opens a map of the usecase `GetWeather`. -/
def openMap : Action :=
  .openDocument (fileUri "w.suma") "comlink-map" 1
    "profile = \"weather@1.0\"\nprovider = \"p\"\nmap GetWeather \x7b\x7d\n"

/-- An editor opens a profile of the namespace of that map, with one usecase. -/
def openProfile (name usecase : String) : Action :=
  .openDocument (fileUri name) "comlink-profile" 1
    ("name = \"weather\"\nversion = \"1.0.0\"\nusecase " ++ usecase ++ " \x7b\x7d\n")

def askDiagnostics (name : String) : List Action :=
  [.ask (.diagnostics (fileUri name)), .proceed 0, .proceed 0]

def askOutline (name : String) : List Action := [.ask (.outline (fileUri name)), .proceed 0]

end System

end Contracts
