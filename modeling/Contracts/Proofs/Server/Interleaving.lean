import Contracts.Proofs.Server.Publishing

/-!
A server whose tasks get on in any order.

While one message waits, others come in, scans go on and the editor reads. What one step may show
and register is said once, in `proceed_spec`: the handling of a message shows what it has worked
out, whether the document is still open or not, and every other step shows nothing.
-/

namespace Contracts

/-- What may happen next to a server. -/
inductive Event where
  /-- A message about a document comes in. -/
  | news (m : News)
  /-- The editor is ready, and the folders of the workspace are to be scanned. -/
  | startScan
  /-- The task in a slot gets on. -/
  | proceed (slot : Nat)
  /-- Of the loads of the scan in a slot, one gets on. -/
  | proceedLoad (slot choice : Nat)
  /-- The editor answers whether it shows progress. -/
  | answer (accepted : Bool)
  /-- The storage changes, and answers from now on or not. -/
  | setStorage (storage : Storage) (ready : Bool)

/-- Whether nothing but a task of the server gets on. -/
def Event.isStep : Event → Bool
  | .proceed _ | .proceedLoad _ _ => true
  | _ => false

namespace Server

def proceed (s : Server) (slot : Nat) : Server :=
  match Pool.stepAt? Task.rules s.desk s.tasks (slot, .lead) with
  | some (desk, tasks) => ⟨desk, tasks⟩
  | none => s

def proceedLoad (s : Server) (slot choice : Nat) : Server :=
  match s.tasks[slot]? with
  | some (key, .more (.scan scan sink)) =>
    match scan.loadStep? choice s.desk.workspace with
    | some (w, scan) =>
      ⟨{ s.desk with workspace := w }, s.tasks.set slot (key, .more (.scan scan sink))⟩
    | none => s
  | _ => s

/-- The server after an event. What cannot happen leaves it as it is. -/
def happen (s : Server) : Event → Server
  | .news m => s.dispatch m.number m.call
  | .startScan => s.startScan
  | .proceed slot => s.proceed slot
  | .proceedLoad slot choice => s.proceedLoad slot choice
  | .answer accepted => { s with tasks := s.tasks.map (resume accepted) }
  | .setStorage storage ready =>
    { s with
      desk :=
        { s.desk with
          workspace := { s.desk.workspace with storage := storage, storageReady := ready } } }

def run (s : Server) (events : List Event) : Server := events.foldl happen s

@[simp] lemma run_nil (s : Server) : s.run [] = s := rfl

@[simp] lemma run_cons (s : Server) (e : Event) (events : List Event) :
    s.run (e :: events) = (s.happen e).run events := rfl

lemma run_append (s : Server) (events more : List Event) :
    s.run (events ++ more) = (s.run events).run more := List.foldl_append

variable {s : Server} {slot : Nat}

/-- A task does one step, or the server stays as it is. -/
lemma proceed_cases (s : Server) (slot : Nat) :
    (s.proceed slot = s ∧ ∀ key task, s.tasks[slot]? = some (key, .more task) →
        task.step? s.desk .lead = none) ∨
      ∃ key task d turn, s.tasks[slot]? = some (key, .more task) ∧
        task.step? s.desk .lead = some (d, turn) ∧
        s.proceed slot = ⟨d, s.tasks.set slot (key, turn)⟩ := by
  unfold proceed
  cases h : Pool.stepAt? Task.rules s.desk s.tasks (slot, .lead) with
  | none =>
    refine .inl ⟨rfl, fun key task hslot => ?_⟩
    unfold Pool.stepAt? at h
    rw [hslot] at h
    exact Option.map_eq_none_iff.mp h
  | some next =>
    obtain ⟨d, tasks⟩ := next
    obtain ⟨key, task, turn, hslot, hstep, rfl⟩ := Pool.stepAt?_eq_some.mp h
    exact .inr ⟨key, task, d, turn, hslot, hstep, rfl⟩

/-- A scan does one step of a load, or the server stays as it is. -/
lemma proceedLoad_cases (s : Server) (slot choice : Nat) :
    s.proceedLoad slot choice = s ∨ ∃ key scan sink w scan',
      s.tasks[slot]? = some (key, .more (.scan scan sink)) ∧
      scan.loadStep? choice s.desk.workspace = some (w, scan') ∧
      s.proceedLoad slot choice =
        ⟨{ s.desk with workspace := w }, s.tasks.set slot (key, .more (.scan scan' sink))⟩ := by
  unfold proceedLoad
  split
  · next key scan sink hslot =>
    cases h : scan.loadStep? choice s.desk.workspace with
    | none => exact .inl rfl
    | some next => exact .inr ⟨key, scan, sink, next.1, next.2, hslot, h, rfl⟩
  · exact .inl rfl

/-- A step of a pool is a step of a task or of a load. -/
lemma happen_of_stepAt? {d : Desk} {tasks : List (Option Nat × Turn Task Handled)}
    {place : Pool.Place} (h : Pool.stepAt? Task.rules s.desk s.tasks place = some (d, tasks)) :
    ∃ e : Event, e.isStep = true ∧ s.happen e = ⟨d, tasks⟩ := by
  obtain ⟨slot, strand⟩ := place
  cases strand with
  | lead =>
    refine ⟨.proceed slot, rfl, ?_⟩
    show s.proceed slot = _
    unfold proceed
    rw [h]
  | side =>
    obtain ⟨key, task, turn, hslot, hstep, rfl⟩ := Pool.stepAt?_eq_some.mp h
    cases task with
    | scan scan sink =>
      obtain ⟨⟨w, scan'⟩, hload, hnext⟩ := Option.map_eq_some_iff.mp hstep
      cases hnext
      obtain ⟨choice, hchoice⟩ := Scan.loadStep?_of_first hload
      refine ⟨.proceedLoad slot choice, rfl, ?_⟩
      show s.proceedLoad slot choice = _
      unfold proceedLoad
      rw [hslot]
      dsimp only
      rw [hchoice]
    | _ => cases hstep

/-- **To settle is to take steps**, so what is true however the tasks get on is true of a server
that handles each message as far as it gets before the next one comes in. -/
theorem settle_eq_run (s : Server) :
    ∃ events : List Event, (∀ e ∈ events, e.isStep = true) ∧ s.settle = s.run events := by
  have hrun : ∀ (n : Nat) (s : Server) (queue : List Pool.Place), ∃ events : List Event,
      (∀ e ∈ events, e.isStep = true) ∧
        (⟨(Pool.run Task.rules n s.desk s.tasks queue).1,
          (Pool.run Task.rules n s.desk s.tasks queue).2⟩ : Server) = s.run events := by
    intro n
    induction n with
    | zero => exact fun s queue => ⟨[], by simp, rfl⟩
    | succ n ih =>
      intro s queue
      cases queue with
      | nil => exact ⟨[], by simp, rfl⟩
      | cons place queue =>
        cases hplace : Pool.stepAt? Task.rules s.desk s.tasks place with
        | none =>
          simp only [Pool.run, hplace]
          exact ih s queue
        | some next =>
          obtain ⟨d, tasks⟩ := next
          obtain ⟨e, hstep, he⟩ := happen_of_stepAt? hplace
          obtain ⟨events, hevents, hafter⟩ := ih ⟨d, tasks⟩
            (place :: queue ++ Pool.ready Task.rules d tasks (place :: queue))
          refine ⟨e :: events, fun x hx => ?_, ?_⟩
          · exact (List.mem_cons.mp hx).elim (fun h => h ▸ hstep) (hevents x)
          · simp only [Pool.run, hplace]
            rw [run_cons, he]
            exact hafter
  exact hrun _ s _

end Server

/-! ### What one step may show -/

/-- Nothing is shown or registered but what `shown` says. -/
structure Desk.Shows (shown : Option (Uri × List Diagnostic)) (d d' : Desk) : Prop where
  phase : d'.phase = d.phase
  opened : d'.opened = d.opened
  wellFormed : d'.workspace.registry.WellFormed
  others : ∀ uri, (∀ ds, shown ≠ some (uri, ds)) →
    lastShown? d'.sent uri = lastShown? d.sent uri ∧
      (d'.workspace.registry.get? uri).isSome = (d.workspace.registry.get? uri).isSome
  shown : ∀ uri ds, shown = some (uri, ds) →
    lastShown? d'.sent uri = some ds ∧ (d'.workspace.registry.get? uri).isSome = true

namespace Desk

variable {d d' d'' : Desk}

/-- A step that does nothing to documents. -/
lemma Shows.of_eq (hr : d.workspace.registry.WellFormed) (hphase : d'.phase = d.phase)
    (hopened : d'.opened = d.opened) (hreg : d'.workspace.registry = d.workspace.registry)
    (hsent : ∀ uri, lastShown? d'.sent uri = lastShown? d.sent uri) : d.Shows none d' :=
  ⟨hphase, hopened, hreg ▸ hr, fun uri _ => ⟨hsent uri, by rw [hreg]⟩, fun _ _ h => nomatch h⟩

lemma Shows.refl (hr : d.workspace.registry.WellFormed) : d.Shows none d :=
  .of_eq hr rfl rfl rfl fun _ => rfl

/-- A message that shows no diagnostics. -/
lemma lastShown?_send {m : Message} (hm : ∀ uri ds version, m ≠ .publish uri ds version)
    (uri : Uri) : lastShown? (d.send m).sent uri = lastShown? d.sent uri := by
  unfold Desk.send
  split
  · unfold lastShown?
    dsimp only
    rw [List.reverse_append, List.reverse_singleton, List.singleton_append, List.findSome?_cons]
    cases m with
    | publish u ds version => exact absurd rfl (hm u ds version)
    | _ => rfl
  · rfl

lemma shows_send {m : Message} (hr : d.workspace.registry.WellFormed)
    (hm : ∀ uri ds version, m ≠ .publish uri ds version) : d.Shows none (d.send m) :=
  .of_eq hr (d.phase_send m) (d.opened_send m) (congrArg (·.registry) (d.workspace_send m))
    (lastShown?_send hm)

lemma Shows.trans (h : d.Shows none d') (h' : d'.Shows none d'') : d.Shows none d'' where
  phase := h'.phase.trans h.phase
  opened := h'.opened.trans h.opened
  wellFormed := h'.wellFormed
  others uri hu := ⟨(h'.others uri hu).1.trans (h.others uri hu).1,
    (h'.others uri hu).2.trans (h.others uri hu).2⟩
  shown _ _ h := nomatch h

end Desk

namespace ProgressSink

variable {d : Desk}

lemma shows_tell (hr : d.workspace.registry.WellFormed) (sink : ProgressSink) (e : ScanEvent) :
    d.Shows none (sink.tell d e).1 := by
  unfold tell
  split
  · split
    · have hsend := Desk.shows_send (m := .createProgress d.nextRequest) hr (by simp)
      exact ⟨hsend.phase, hsend.opened, hsend.wellFormed, hsend.others, hsend.shown⟩
    · exact .refl hr
  · exact Desk.shows_send hr (by simp)
  · exact .refl hr

lemma shows_tellAll (hr : d.workspace.registry.WellFormed) (sink : ProgressSink)
    (events : List ScanEvent) : d.Shows none (sink.tellAll d events).1 := by
  induction events generalizing d sink with
  | nil => exact .refl hr
  | cons e events ih =>
    have hfirst := shows_tell hr sink e
    exact hfirst.trans (ih hfirst.wellFormed _)

end ProgressSink

/-- As long as a load comes to no document, it does nothing. -/
lemma Load.step?_idle {w w' : Workspace} {uri : Uri} {load : Load}
    {turn : Turn Load (Except Error Document)} (h : load.step? w uri = some (w', turn))
    (hturn : ∀ d, turn ≠ .done (.ok d)) : w' = w := by
  cases load with
  | lookup =>
    unfold Load.step? at h
    dsimp only at h
    split at h
    · cases h; rfl
    · split at h
      · cases h; rfl
      · split at h <;> cases h <;> rfl
  | reading kind path =>
    unfold Load.step? at h
    dsimp only at h
    split at h
    · split at h
      · cases h; exact absurd rfl (hturn _)
      · cases h; rfl
      · cases h; rfl
    · cases h

namespace Activity

open Registry

variable {w w' : Workspace} {uri : Uri} {stage : Option Load}
  {turn : Turn Activity (Except Error Answer)}

/-- A question for diagnostics is about no other document. -/
lemma mem_operations_of_diagnostics {op : Operation}
    (h : op ∈ (Activity.diagnostics uri stage).operations w) :
    op = .diagnose uri ∨ ∃ kind text, op = .load uri kind text := by
  cases stage with
  | none => cases h
  | some load =>
    rcases List.mem_append.mp h with h | h
    · cases load with
      | lookup => cases h
      | reading kind path =>
        simp only [Load.operations] at h
        split at h
        · split at h
          · exact .inr ⟨kind, _, List.mem_singleton.mp h⟩
          · cases h
        · cases h
    · unfold Load.followed at h
      split at h
      · exact .inl (List.mem_singleton.mp h)
      · cases h

/-- Diagnostics come out of a document that is registered by then. Until they do, nothing
happens. -/
lemma step?_diagnostics (hr : w.registry.WellFormed)
    (h : (Activity.diagnostics uri stage).step? w = some (w', turn)) :
    (w' = w ∧ ((∃ stage', turn = .more (.diagnostics uri stage')) ∨ ∃ e, turn = .done (.error e))) ∨
      ∃ ds, turn = .done (.ok (.diagnostics ds)) ∧ (w'.registry.get? uri).isSome = true := by
  cases stage with
  | none =>
    simp only [step?] at h
    split at h
    · cases h
      exact .inl ⟨rfl, .inl ⟨_, rfl⟩⟩
    · cases h
  | some load =>
    simp only [step?] at h
    rcases hs : load.step? w uri with _ | ⟨w₁, next | (e | d)⟩
    · rw [hs] at h; cases h
    · have hidle := Load.step?_idle hs (by rintro d ⟨⟩)
      rw [hs] at h; cases h
      exact .inl ⟨hidle, .inl ⟨_, rfl⟩⟩
    · have hidle := Load.step?_idle hs (by rintro d ⟨⟩)
      rw [hs] at h; cases h
      exact .inl ⟨hidle, .inr ⟨e, rfl⟩⟩
    · obtain ⟨hw, hd⟩ := Load.step?_eq hr hs
      have hr₁ : w₁.registry.WellFormed := by rw [hw]; exact hr.run _
      have hget := hd d rfl
      have hds := diagnose_fst hr₁ ((get?_eq_some hr₁).mp hget).1
      have happly : w₁.registry.apply (.diagnose uri) = (w₁.registry.diagnose d).2 := by
        simp [Registry.apply, hget]
      have hafter : (w₁.registry.apply (.diagnose uri)).get? uri = _ := get?_of_quiet hr₁ rfl uri
      rw [hs] at h
      simp only [afterLoad, Option.map_some, Option.some.injEq, Prod.mk.injEq] at h
      obtain ⟨rfl, rfl⟩ := h
      refine .inr ⟨_, by rw [hds]; rfl, ?_⟩
      show ((w₁.registry.diagnose d).2.get? uri).isSome = true
      rw [← happly, hafter, hget]
      rfl

end Activity

/-! ### Tasks -/

namespace Task

/-- A task that messages about documents and scans lead to. -/
def Proper : Task → Prop
  | .publishing uri activity _ => ∃ stage, activity = .diagnostics uri stage
  | .gathering activity _ => ∃ uri, activity = .dependents uri
  | .held _ task => task.Proper
  | .outline _ _ | .search _ _ => False
  | _ => True

/-- Whether a task is going to show a document, be it open or not. -/
def HasInHand (uri : Uri) : Task → Prop
  | .chores rest | .gathering _ rest => .publish uri ∈ rest
  | .publishing u _ rest => u = uri ∨ .publish uri ∈ rest
  | .held _ task => task.HasInHand uri
  | _ => False

/-- What a task shows with its next step. -/
def shows? (d : Desk) : Task → Option (Uri × List Diagnostic)
  | .publishing uri activity _ =>
    match activity.step? d.workspace with
    | some (_, .done (.ok (.diagnostics ds))) =>
      some (uri, limitDiagnostics d.settings.maxProblems ds)
    | _ => none
  | _ => none

end Task

namespace Turn

def Proper : Turn Task Handled → Prop
  | .more task => task.Proper
  | .done _ => True

def HasInHand (uri : Uri) : Turn Task Handled → Prop
  | .more task => task.HasInHand uri
  | .done _ => False

end Turn

namespace Task

open Registry

variable {d d' : Desk} {task : Task} {turn : Turn Task Handled}

/-- A step of a task shows what was worked out and nothing else. It takes a document in hand only
if that is open. -/
structure Moves (d : Desk) (task : Task) (d' : Desk) (turn : Turn Task Handled) : Prop where
  shows : d.Shows (task.shows? d) d'
  proper : turn.Proper
  inHand : ∀ uri, turn.HasInHand uri → task.HasInHand uri ∨ uri ∈ d.opened

lemma moves_chores {c : Chore} {rest : List Chore} (hr : d.workspace.registry.WellFormed)
    (h : (Task.chores (c :: rest)).leadStep? d = some (d', turn)) :
    Moves d (.chores (c :: rest)) d' turn := by
  cases c with
  | publish uri =>
    cases h
    refine ⟨.refl hr, ⟨_, rfl⟩, fun u hu => .inl ?_⟩
    rcases hu with rfl | hu
    · exact List.mem_cons_self
    · exact List.mem_cons_of_mem _ hu
  | publishOpen uri =>
    simp only [leadStep?, Option.some.injEq, Prod.mk.injEq] at h
    obtain ⟨rfl, rfl⟩ := h
    refine ⟨.refl hr, trivial, fun u hu => ?_⟩
    have hmem : .publish u ∈ if d.isOpen uri then .publish uri :: rest else rest := hu
    split at hmem
    · next hopen =>
      rcases List.mem_cons.mp hmem with hpub | hmem
      · cases hpub
        exact .inr (List.contains_iff_mem.mp hopen)
      · exact .inl (List.mem_cons_of_mem _ hmem)
    · exact .inl (List.mem_cons_of_mem _ hmem)
  | publishDependents uri =>
    simp only [leadStep?, Option.some.injEq, Prod.mk.injEq] at h
    obtain ⟨rfl, rfl⟩ := h
    refine ⟨.refl hr, ?_, fun u hu => .inl ?_⟩
    · split
      · exact ⟨uri, rfl⟩
      · trivial
    · split at hu
      all_goals exact List.mem_cons_of_mem _ hu

lemma moves_publishing {uri : Uri} {stage : Option Load} {rest : List Chore}
    (hinit : d.phase = .initialized) (hr : d.workspace.registry.WellFormed)
    (h : (Task.publishing uri (.diagnostics uri stage) rest).leadStep? d = some (d', turn)) :
    Moves d (.publishing uri (.diagnostics uri stage) rest) d' turn := by
  obtain ⟨⟨w, step⟩, hs, hnext⟩ := Option.map_eq_some_iff.mp h
  have hreg : w.registry = _ := congrArg (·.registry) (Activity.step?_eq hr hs)
  have hr' : w.registry.WellFormed := by rw [hreg]; exact hr.run _
  rcases Activity.step?_diagnostics hr hs with ⟨rfl, ⟨stage', rfl⟩ | ⟨e, rfl⟩⟩ | ⟨ds, rfl, hget⟩
  · have hnone : (Task.publishing uri (.diagnostics uri stage) rest).shows? d = none := by
      simp only [shows?, hs]
    cases hnext
    exact ⟨hnone ▸ .refl hr, ⟨_, rfl⟩, fun u hu => .inl hu⟩
  · have hnone : (Task.publishing uri (.diagnostics uri stage) rest).shows? d = none := by
      simp only [shows?, hs]
    cases e with
    | crashed =>
      cases hnext
      exact ⟨hnone ▸ .refl hr, trivial, fun u hu => hu.elim⟩
    | _ =>
      cases hnext
      exact ⟨hnone ▸ .refl hr, trivial, fun u hu => .inl (.inr hu)⟩
  · have hshows : (Task.publishing uri (.diagnostics uri stage) rest).shows? d =
        some (uri, limitDiagnostics d.settings.maxProblems ds) := by
      simp only [shows?, hs]
    simp only [Prod.mk.injEq] at hnext
    obtain ⟨rfl, rfl⟩ := hnext
    have hsend : Desk.canSend { d with workspace := w } = true := by simp [Desk.canSend, hinit]
    refine ⟨hshows ▸ ?_, trivial, fun u hu => .inl (.inr hu)⟩
    unfold Desk.publish Desk.send
    rw [if_pos hsend]
    refine ⟨rfl, rfl, hr', fun u hu => ?_, fun u shown hu => ?_⟩
    · have hne : uri ≠ u := fun h => hu _ (by rw [h])
      refine ⟨(lastShown?_append ..).trans (if_neg hne), ?_⟩
      show (w.registry.get? u).isSome = _
      rw [hreg]
      refine isSome_run hr fun op hop => ?_
      rcases Activity.mem_operations_of_diagnostics hop with rfl | ⟨kind, text, rfl⟩
      · exact ⟨rfl, by rintro _ _ ⟨⟩⟩
      · exact ⟨rfl, fun _ _ h => hne (by cases h; rfl)⟩
    · cases hu
      exact ⟨(lastShown?_append ..).trans (if_pos rfl), hget⟩

lemma moves_gathering {uri : Uri} {rest : List Chore} (hr : d.workspace.registry.WellFormed)
    (h : (Task.gathering (.dependents uri) rest).leadStep? d = some (d', turn)) :
    Moves d (.gathering (.dependents uri) rest) d' turn := by
  obtain ⟨⟨w, step⟩, hs, hnext⟩ := Option.map_eq_some_iff.mp h
  have hw := Activity.step?_eq hr hs
  have hreg : w.registry = _ := congrArg (·.registry) hw
  have hshows : d.Shows none { d with workspace := w } := by
    refine ⟨rfl, rfl, by rw [hreg]; exact hr.run _, fun u _ => ⟨rfl, ?_⟩, fun _ _ h => nomatch h⟩
    show (w.registry.get? u).isSome = _
    rw [hreg]
    exact isSome_run_of_quiet hr (fun op hop => (Workspace.quiet_of_dependents hop).1) u
  obtain ⟨answer, rfl⟩ : ∃ answer, step = .done answer := by
    simp only [Activity.step?] at hs
    split at hs
    · cases hs; exact ⟨_, rfl⟩
    · cases hs
  have hopen : ∀ (uris : List Uri) u, .publish u ∈ uris.map Chore.publishOpen ++ rest →
      Chore.publish u ∈ rest := by simp
  simp only at hnext
  split at hnext
  · cases hnext
    exact ⟨hshows, trivial, fun u hu => .inl (hopen _ u hu)⟩
  · cases hnext
    exact ⟨hshows, trivial, fun u hu => .inl hu⟩

lemma moves_scan {scan : Scan} {sink : ProgressSink} (hr : d.workspace.registry.WellFormed)
    (h : (Task.scan scan sink).leadStep? d = some (d', turn)) :
    Moves d (.scan scan sink) d' turn := by
  have hstep : ∀ sink' w events next, scan.step? d.workspace = some (w, events, next) →
      Moves d (.scan scan sink) (ProgressSink.tellAll { d with workspace := w } sink' events).1
        (next.map (.scan · (ProgressSink.tellAll { d with workspace := w } sink' events).2)
          fun _ => .silent) := by
    intro sink' w events next hs
    have hreg := Scan.registry_step? hs
    have hleft : d.Shows none { d with workspace := w } := .of_eq hr rfl rfl hreg fun _ => rfl
    have htold := ProgressSink.shows_tellAll hleft.wellFormed sink' events
    refine ⟨hleft.trans htold, ?_, fun u hu => ?_⟩
    · cases next <;> trivial
    · cases next <;> exact hu.elim
  cases sink with
  | asking id title => cases h
  | agreed title =>
    cases h
    exact ⟨Desk.shows_send hr (by simp), trivial, fun _ hu => hu.elim⟩
  | _ =>
    obtain ⟨⟨w, events, next⟩, hs, hnext⟩ := Option.map_eq_some_iff.mp h
    cases hnext
    exact hstep _ w events next hs

/-- **What one step of a task may show**, and what it may take in hand. -/
theorem moves_of_leadStep? (hinit : d.phase = .initialized) (hr : d.workspace.registry.WellFormed)
    (hp : task.Proper) (h : task.leadStep? d = some (d', turn)) : Moves d task d' turn := by
  cases task with
  | chores rest =>
    cases rest with
    | nil => cases h; exact ⟨.refl hr, trivial, fun _ hu => hu.elim⟩
    | cons c rest => exact moves_chores hr h
  | publishing uri activity rest =>
    obtain ⟨stage, rfl⟩ := hp
    exact moves_publishing hinit hr h
  | gathering activity rest =>
    obtain ⟨uri, rfl⟩ := hp
    exact moves_gathering hr h
  | outline id activity => exact hp.elim
  | search id activity => exact hp.elim
  | scan scan sink => exact moves_scan hr h
  | held ticket task =>
    simp only [leadStep?] at h
    split at h
    · cases h; exact ⟨.refl hr, hp, fun _ hu => .inl hu⟩
    · cases h
  | reader =>
    obtain ⟨d₁, hread, hpair⟩ := Option.map_eq_some_iff.mp h
    cases hpair
    unfold Desk.read? at hread
    split at hread
    · cases hread
    · cases hread
      exact ⟨.of_eq hr rfl rfl rfl fun _ => rfl, trivial, fun _ hu => hu.elim⟩

lemma moves_of_step? (hinit : d.phase = .initialized) (hr : d.workspace.registry.WellFormed)
    (hp : task.Proper) (h : task.step? d .lead = some (d', turn)) : Moves d task d' turn := by
  obtain ⟨⟨d₁, turn₁⟩, hlead, hback⟩ := Option.map_eq_some_iff.mp h
  have hmoves := moves_of_leadStep? hinit hr hp hlead
  cases turn₁ with
  | done handled => cases hback; exact hmoves
  | more task₁ =>
    simp only [holdBack] at hback
    split at hback
    · cases hback
      exact ⟨⟨hmoves.shows.phase, hmoves.shows.opened, hmoves.shows.wellFormed,
        hmoves.shows.others, hmoves.shows.shown⟩, hmoves.proper, hmoves.inHand⟩
    · cases hback; exact hmoves

/-- A task that has to wait shows nothing. -/
lemma shows?_of_waiting (h : task.step? d .lead = none) : task.shows? d = none := by
  cases task with
  | publishing uri activity rest =>
    have hwait : activity.step? d.workspace = none :=
      Option.map_eq_none_iff.mp (Option.map_eq_none_iff.mp h)
    simp only [shows?, hwait]
  | _ => rfl

end Task

/-! ### What an event does -/

namespace Server

variable {s : Server} {slot : Nat} {uri : Uri}

/-- A server that takes messages about documents and scans, whatever it is busy with. -/
structure Engaged (s : Server) : Prop where
  phase : s.desk.phase = .initialized
  wellFormed : s.desk.workspace.registry.WellFormed
  nodup : s.desk.opened.Nodup
  proper : ∀ slot ∈ s.tasks, slot.2.Proper

/-- What the task in a slot shows with its next step. -/
def shows? (s : Server) (slot : Nat) : Option (Uri × List Diagnostic) :=
  match s.tasks[slot]? with
  | some (_, .more task) => task.shows? s.desk
  | _ => none

/-- Whether the task in a slot is going to show a document, be it open or not. -/
def InHand (s : Server) (uri : Uri) (slot : Nat) : Prop :=
  ∃ key turn, s.tasks[slot]? = some (key, turn) ∧ turn.HasInHand uri

lemma inHand_of_shows? {ds : List Diagnostic} (h : s.shows? slot = some (uri, ds)) :
    s.InHand uri slot := by
  unfold shows? at h
  split at h
  · next key task hslot =>
    refine ⟨key, _, hslot, ?_⟩
    cases task with
    | publishing u activity rest =>
      simp only [Task.shows?] at h
      split at h
      · cases h; exact .inl rfl
      · cases h
    | _ => cases h
  · cases h

/-- What is in the slots after one of them got another task. -/
lemma proper_set {tasks : List (Option Nat × Turn Task Handled)} {key : Option Nat}
    {turn : Turn Task Handled} (h : ∀ slot ∈ tasks, slot.2.Proper) (hturn : turn.Proper) :
    ∀ slot' ∈ tasks.set slot (key, turn), slot'.2.Proper := fun _ hs =>
  (List.mem_or_eq_of_mem_set hs).elim (h _) fun heq => heq ▸ hturn

/-- **A task gets on.** It shows what it was about to show, and takes nothing in hand that is not
open. -/
theorem Engaged.proceed_spec (h : s.Engaged) (slot : Nat) :
    (s.proceed slot).Engaged ∧ s.desk.Shows (s.shows? slot) (s.proceed slot).desk ∧
      ∀ uri i, (s.proceed slot).InHand uri i → s.InHand uri i ∨ uri ∈ s.desk.opened := by
  rcases s.proceed_cases slot with ⟨heq, hwait⟩ | ⟨key, task, d, turn, hslot, hstep, heq⟩
  · have hnone : s.shows? slot = none := by
      unfold shows?
      split
      · next key task hslot => exact Task.shows?_of_waiting (hwait key task hslot)
      · rfl
    rw [heq, hnone]
    exact ⟨h, .refl h.wellFormed, fun _ _ hi => .inl hi⟩
  · have hproper : task.Proper := h.proper _ (List.mem_of_getElem? hslot)
    obtain ⟨hshows, hturn, hhand⟩ := Task.moves_of_step? h.phase h.wellFormed hproper hstep
    have hnext : s.shows? slot = task.shows? s.desk := by
      unfold shows?
      rw [hslot]
    rw [heq, hnext]
    refine ⟨⟨hshows.phase.trans h.phase, hshows.wellFormed, ?_, proper_set h.proper hturn⟩,
      hshows, fun uri i hi => ?_⟩
    · rw [hshows.opened]
      exact h.nodup
    · obtain ⟨key', turn', hget, hturn'⟩ := hi
      rw [List.getElem?_set] at hget
      split at hget
      · next hi =>
        split at hget
        · cases hget
          rcases hhand uri hturn' with htask | hopen
          · exact .inl ⟨key, .more task, hi ▸ hslot, htask⟩
          · exact .inr hopen
        · cases hget
      · exact .inl ⟨key', turn', hget, hturn'⟩

/-- A message about a document keeps it that way. -/
lemma Engaged.of_taken (h : s.Engaged) {d : Desk} {turn : Turn Task Handled} {number : Nat}
    (htaken : Taken s.desk d turn) : Engaged ⟨d, s.tasks ++ [(some number, turn)]⟩ := by
  have hproper : turn.Proper → ∀ slot ∈ s.tasks ++ [(some number, turn)], slot.2.Proper := by
    intro hturn slot hslot
    rcases List.mem_append.mp hslot with hslot | hslot
    · exact h.proper slot hslot
    · cases List.mem_singleton.mp hslot; exact hturn
  cases htaken with
  | ignored => exact ⟨h.phase, h.wellFormed, h.nodup, hproper trivial⟩
  | changed hop hget hopened =>
    refine ⟨h.phase, h.wellFormed.apply _, ?_, hproper trivial⟩
    rcases hopened with rfl | rfl
    · exact h.nodup
    · exact h.nodup.insert
  | closed uri =>
    refine ⟨(Desk.phase_send ..).trans h.phase, ?_, ?_, hproper trivial⟩
    · rw [Desk.workspace_send]
      exact h.wellFormed.apply (.remove uri)
    · rw [Desk.opened_send]
      exact h.nodup.erase uri

lemma resume_cases (accepted : Bool) (slot : Option Nat × Turn Task Handled) :
    resume accepted slot = slot ∨
      ∃ scan sink, resume accepted slot = (slot.1, .more (.scan scan sink)) := by
  unfold resume
  split
  · exact .inr ⟨_, _, rfl⟩
  · exact .inl rfl

theorem Engaged.happen (h : s.Engaged) (e : Event) : (s.happen e).Engaged := by
  cases e with
  | news m =>
    obtain ⟨d, turn, heq, htaken⟩ := takes_news h.phase h.wellFormed m
    show (s.dispatch m.number m.call).Engaged
    rw [heq]
    exact h.of_taken htaken
  | startScan =>
    show s.startScan.Engaged
    unfold startScan
    split
    · refine ⟨h.phase, h.wellFormed, h.nodup, fun slot hslot => ?_⟩
      rcases List.mem_append.mp hslot with hslot | hslot
      · exact h.proper slot hslot
      · cases List.mem_singleton.mp hslot; trivial
    · exact h
  | proceed slot => exact (h.proceed_spec slot).1
  | proceedLoad slot choice =>
    show (s.proceedLoad slot choice).Engaged
    rcases s.proceedLoad_cases slot choice with heq | ⟨key, scan, sink, w, scan', -, hload, heq⟩
    · rw [heq]; exact h
    · rw [heq]
      exact ⟨h.phase, Scan.wellFormed_loadStep? h.wellFormed hload, h.nodup,
        proper_set h.proper trivial⟩
  | answer accepted =>
    refine ⟨h.phase, h.wellFormed, h.nodup, fun slot hslot => ?_⟩
    obtain ⟨slot, hmem, rfl⟩ := List.mem_map.mp hslot
    rcases resume_cases accepted slot with heq | ⟨scan, sink, heq⟩
    · rw [heq]; exact h.proper slot hmem
    · rw [heq]; trivial
  | setStorage storage ready => exact ⟨h.phase, h.wellFormed, h.nodup, h.proper⟩

theorem Engaged.run (h : s.Engaged) (events : List Event) : (s.run events).Engaged := by
  induction events generalizing s with
  | nil => exact h
  | cons e events ih => exact ih (h.happen e)

lemma engaged_greeted (storage : Storage) (greeting : Greeting) (ops : List Operation) :
    (greeted storage greeting ops).Engaged where
  phase := rfl
  wellFormed := (calm_greeted storage greeting ops).serving.backed.wellFormed
  nodup := List.nodup_nil
  proper slot hslot := by cases List.mem_singleton.mp hslot; trivial

end Server

end Contracts
