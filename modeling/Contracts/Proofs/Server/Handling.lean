import Contracts.Server.Task
import Contracts.Proofs.Work.Dependents
import Contracts.Proofs.Work.Pool

/-!
The handling of a message, alone on the desk.

The chores of a message go through a pool, where they may have to wait for the editor to read what
it is sent. What comes of them does not depend on that: `outcome` does the chores one after the
other, without any waiting, and every step leaves it as it is. Nor can they get stuck, since the
editor reads what it is sent and lets go a task for each message. So the pool settles with the
outcome on the desk and nothing left to do.
-/

namespace Contracts

/-! ### Chores, done at once -/

/-- What chores see of a desk. -/
structure View where
  workspace : Workspace
  opened : List Uri
  maxProblems : Option Nat
  sent : List Message

def Desk.view (d : Desk) : View := ⟨d.workspace, d.opened, d.settings.maxProblems, d.sent⟩

namespace View

def isOpen (v : View) (uri : Uri) : Bool := v.opened.contains uri

def withRegistry (v : View) (r : Registry) : View :=
  { v with workspace := { v.workspace with registry := r } }

/-- Shows diagnostics of a document. -/
def publish (v : View) (uri : Uri) (ds : List Diagnostic) : View :=
  let version :=
    if v.isOpen uri then (v.workspace.registry.get? uri).map (·.version) else none
  { v with sent := v.sent ++ [.publish uri (limitDiagnostics v.maxProblems ds) version] }

/-- Works out the diagnostics of a registered document and shows them. -/
def display (v : View) (uri : Uri) : View :=
  match v.workspace.registry.get? uri with
  | none => v
  | some d =>
    match v.workspace.registry.diagnose d with
    | (.ok ds, r) => (v.withRegistry r).publish uri ds
    | (.error _, r) => v.withRegistry r

def displayOpen (v : View) (uri : Uri) : View := if v.isOpen uri then v.display uri else v

/-- After the maps that depend on the profile at a uri were looked for. -/
def gathered (v : View) (uri : Uri) : View :=
  { v with workspace := (v.workspace.dependentsOf uri).2 }

def hasProfile (v : View) (uri : Uri) : Bool :=
  (v.workspace.registry.get? uri).any (·.kind = .profile)

def perform (v : View) : Chore → View
  | .publish uri => v.display uri
  | .publishOpen uri => v.displayOpen uri
  | .publishDependents uri =>
    if v.hasProfile uri then (v.workspace.dependentUris uri).foldl displayOpen (v.gathered uri)
    else v

def performAll (v : View) (chores : List Chore) : View := chores.foldl perform v

end View

def Chore.uri : Chore → Uri
  | .publish uri | .publishOpen uri | .publishDependents uri => uri

/-- A bound on the steps of a chore, while there are so many documents, with one for the editor and
one for a wait for each message that is sent. -/
def Chore.weight (documents : Nat) : Chore → Nat
  | .publish _ => 5
  | .publishOpen _ => 6
  | .publishDependents _ => 2 + 6 * documents

namespace Task

/-- What comes of a task that handles a message. -/
def outcome (v : View) : Task → View
  | .chores rest => v.performAll rest
  | .publishing uri _ rest => (v.display uri).performAll rest
  | .gathering (.dependents uri) rest =>
    (v.gathered uri).performAll ((v.workspace.dependentUris uri).map .publishOpen ++ rest)
  | .held _ task => task.outcome v
  | _ => v

/-- A task that handles a message and is about registered documents only. -/
def Ready (r : Registry) (held : Nat) : Task → Prop
  | .chores rest => ∀ c ∈ rest, (r.get? c.uri).isSome = true
  | .publishing uri activity rest =>
    (activity = .diagnostics uri none ∨ activity = .diagnostics uri (some .lookup)) ∧
      (r.get? uri).isSome = true ∧ ∀ c ∈ rest, (r.get? c.uri).isSome = true
  | .gathering activity rest =>
    (∃ uri, activity = .dependents uri ∧ (r.get? uri).any (·.kind = .profile) = true) ∧
      ∀ c ∈ rest, (r.get? c.uri).isSome = true
  | .held ticket task => ticket < held ∧ task.Ready r held
  | _ => False

/-- A bound on the steps that a task still has, while there are so many documents. -/
def weight (documents : Nat) : Task → Nat
  | .chores rest => 1 + (rest.map (·.weight documents)).sum
  | .publishing _ (.diagnostics _ none) rest => 5 + (rest.map (·.weight documents)).sum
  | .publishing _ _ rest => 4 + (rest.map (·.weight documents)).sum
  | .gathering _ rest => 2 + 6 * documents + (rest.map (·.weight documents)).sum
  | .held _ task => 1 + task.weight documents
  | _ => 0

end Task

namespace Turn

def outcome (v : View) : Turn Task Handled → View
  | .more task => task.outcome v
  | .done _ => v

def Ready (r : Registry) (held : Nat) : Turn Task Handled → Prop
  | .more task => task.Ready r held
  | .done _ => True

def weight (documents : Nat) : Turn Task Handled → Nat
  | .more task => task.weight documents
  | .done _ => 0

end Turn

namespace View

open Registry

variable {v v' v'' : View} {u : Uri} {key : String}

/-- Nothing but what is known of texts and what was sent may differ. -/
structure Quietly (v v' : View) : Prop where
  opened : v'.opened = v.opened
  maxProblems : v'.maxProblems = v.maxProblems
  scans : v'.workspace.scans = v.workspace.scans
  registry : ∃ ops, (∀ op ∈ ops, op.isQuiet = true) ∧
    v'.workspace.registry = v.workspace.registry.run ops

lemma Quietly.refl (v : View) : v.Quietly v := ⟨rfl, rfl, rfl, [], by simp, rfl⟩

lemma Quietly.trans (h : v.Quietly v') (h' : v'.Quietly v'') : v.Quietly v'' := by
  obtain ⟨ops, hq, hreg⟩ := h.registry
  obtain ⟨ops', hq', hreg'⟩ := h'.registry
  refine ⟨h'.opened.trans h.opened, h'.maxProblems.trans h.maxProblems, h'.scans.trans h.scans,
    ops ++ ops', fun op hop => ?_, ?_⟩
  · exact (List.mem_append.mp hop).elim (hq op) (hq' op)
  · rw [hreg', hreg, run_append]

lemma Quietly.wellFormed (h : v.Quietly v') (hr : v.workspace.registry.WellFormed) :
    v'.workspace.registry.WellFormed := by
  obtain ⟨ops, -, hreg⟩ := h.registry
  rw [hreg]
  exact hr.run ops

lemma Quietly.backed (h : v.Quietly v') (hb : v.workspace.registry.Backed) :
    v'.workspace.registry.Backed := by
  obtain ⟨ops, -, hreg⟩ := h.registry
  rw [hreg]
  exact hb.run ops

lemma Quietly.length (h : v.Quietly v') (hr : v.workspace.registry.WellFormed) :
    v'.workspace.registry.documents.length = v.workspace.registry.documents.length := by
  obtain ⟨ops, hq, hreg⟩ := h.registry
  rw [hreg]
  exact length_run_of_quiet hr hq

lemma Quietly.targets (h : v.Quietly v') (hr : v.workspace.registry.WellFormed) :
    v'.workspace.registry.Targets u key ↔ v.workspace.registry.Targets u key := by
  obtain ⟨ops, hq, hreg⟩ := h.registry
  rw [hreg]
  exact targets_run_of_quiet hr hq

lemma Quietly.defines (h : v.Quietly v') (hr : v.workspace.registry.WellFormed) :
    v'.workspace.registry.Defines u key ↔ v.workspace.registry.Defines u key := by
  obtain ⟨ops, hq, hreg⟩ := h.registry
  rw [hreg]
  exact defines_run_of_quiet hr hq

lemma Quietly.isSome (h : v.Quietly v') (hr : v.workspace.registry.WellFormed) (u : Uri) :
    (v'.workspace.registry.get? u).isSome = (v.workspace.registry.get? u).isSome := by
  obtain ⟨ops, hq, hreg⟩ := h.registry
  rw [hreg, isSome_run_of_quiet hr hq]

lemma Quietly.isOpen (h : v.Quietly v') : v'.isOpen u = v.isOpen u := by
  unfold View.isOpen
  rw [h.opened]

lemma Quietly.mem_opened (h : v.Quietly v') : u ∈ v'.opened ↔ u ∈ v.opened := by rw [h.opened]

/-- To look for maps makes outlines. -/
lemma gathered_quietly (hr : v.workspace.registry.WellFormed) (hscans : v.workspace.scans = 0)
    (uri : Uri) : v.Quietly (v.gathered uri) ∧ (v.gathered uri).workspace.registry =
      v.workspace.registry.run ((Activity.dependents uri).operations v.workspace) := by
  have hw : (v.workspace.dependentsOf uri).2 = _ := Activity.dependentsOf_eq hr hscans
  unfold gathered
  rw [hw]
  exact ⟨⟨rfl, rfl, rfl, _, fun op hop => (Workspace.quiet_of_dependents hop).1, rfl⟩, rfl⟩

end View

/-- What chores leave of a desk as it is. -/
structure Desk.Frame (d d' : Desk) : Prop where
  phase : d'.phase = d.phase
  view : d.view.Quietly d'.view

namespace Desk

variable {d d' d'' : Desk}

lemma Frame.refl (d : Desk) : d.Frame d := ⟨rfl, .refl _⟩

lemma Frame.trans (h : d.Frame d') (h' : d'.Frame d'') : d.Frame d'' :=
  ⟨h'.phase.trans h.phase, h.view.trans h'.view⟩

lemma Frame.wellFormed (h : d.Frame d') (hr : d.workspace.registry.WellFormed) :
    d'.workspace.registry.WellFormed := h.view.wellFormed hr

lemma Frame.isSome (h : d.Frame d') (hr : d.workspace.registry.WellFormed) (uri : Uri) :
    (d'.workspace.registry.get? uri).isSome = (d.workspace.registry.get? uri).isSome :=
  h.view.isSome hr uri

lemma Frame.length (h : d.Frame d') (hr : d.workspace.registry.WellFormed) :
    d'.workspace.registry.documents.length = d.workspace.registry.documents.length :=
  h.view.length hr

/-- A step that leaves the registry alone. -/
lemma Frame.of_eq (hp : d'.phase = d.phase) (hs : d'.settings = d.settings)
    (ho : d'.opened = d.opened) (hw : d'.workspace = d.workspace) : d.Frame d' := by
  refine ⟨hp, ho, congrArg (·.maxProblems) hs, congrArg (·.scans) hw, [], by simp, ?_⟩
  exact congrArg (·.registry) hw

end Desk

/-! ### One step -/

namespace Task

open Registry

variable {d d' : Desk} {task : Task} {turn : Turn Task Handled}

/-- A step of a task that handles a message: it leads to the same outcome, and is one of those that
are paid for. -/
structure Advances (d : Desk) (task : Task) (d' : Desk) (turn : Turn Task Handled) : Prop where
  frame : d.Frame d'
  held : d'.held = d.held
  released : d'.released = d.released
  ready : turn.Ready d'.workspace.registry d.held
  outcome : turn.outcome d'.view = task.outcome d.view
  paid : let documents := d.workspace.registry.documents.length
    (d'.unread = d.unread ∧ turn.weight documents < task.weight documents) ∨
      (d'.unread = d.unread + 1 ∧ turn.weight documents + 2 < task.weight documents)

lemma view_publish (hinit : d.phase = .initialized) (uri : Uri) (ds : List Diagnostic) :
    (d.publish uri ds).view = d.view.publish uri ds ∧ (d.publish uri ds).unread = d.unread + 1 ∧
      d.Frame (d.publish uri ds) ∧ (d.publish uri ds).held = d.held ∧
      (d.publish uri ds).released = d.released := by
  have hsend : d.canSend = true := by simp [Desk.canSend, hinit]
  unfold Desk.publish Desk.send
  rw [if_pos hsend]
  exact ⟨rfl, rfl, .of_eq rfl rfl rfl rfl, rfl, rfl⟩

lemma advances_chores {c : Chore} {rest : List Chore}
    (hready : (Task.chores (c :: rest)).Ready d.workspace.registry d.held)
    (h : (Task.chores (c :: rest)).leadStep? d = some (d', turn)) :
    Advances d (.chores (c :: rest)) d' turn := by
  have hrest : ∀ c ∈ rest, (d.workspace.registry.get? c.uri).isSome = true :=
    fun x hx => hready x (List.mem_cons_of_mem _ hx)
  have hc := hready c List.mem_cons_self
  cases c with
  | publish uri =>
    cases h
    exact ⟨.refl d, rfl, rfl, ⟨.inl rfl, hc, hrest⟩, rfl,
      .inl ⟨rfl, by simp [Turn.weight, weight, Chore.weight]⟩⟩
  | publishOpen uri =>
    simp only [leadStep?, Option.some.injEq, Prod.mk.injEq] at h
    obtain ⟨rfl, rfl⟩ := h
    have hopen : d.view.isOpen uri = d.isOpen uri := rfl
    cases ho : d.isOpen uri with
    | true =>
      refine ⟨.refl d, rfl, rfl, fun x hx => ?_, ?_, .inl ⟨rfl, ?_⟩⟩
      · rcases List.mem_cons.mp hx with rfl | hx
        · exact hc
        · exact hrest x hx
      · simp only [if_true, Turn.outcome, outcome, View.performAll, List.foldl_cons, View.perform,
          View.displayOpen, hopen, ho]
      · simp only [if_true, Turn.weight, weight, List.map_cons, List.sum_cons, Chore.weight]
        omega
    | false =>
      refine ⟨.refl d, rfl, rfl, hrest, ?_, .inl ⟨rfl, ?_⟩⟩
      · simp only [Bool.false_eq_true, if_false, Turn.outcome, outcome, View.performAll,
          List.foldl_cons, View.perform, View.displayOpen, hopen, ho]
      · simp only [Bool.false_eq_true, if_false, Turn.weight, weight, List.map_cons,
          List.sum_cons, Chore.weight]
        omega
  | publishDependents uri =>
    simp only [leadStep?, Option.some.injEq, Prod.mk.injEq] at h
    obtain ⟨rfl, rfl⟩ := h
    have hprofile : d.view.hasProfile uri =
      (d.workspace.registry.get? uri).any (·.kind = .profile) := rfl
    cases hp : (d.workspace.registry.get? uri).any (·.kind = .profile) with
    | true =>
      refine ⟨.refl d, rfl, rfl, ⟨⟨uri, rfl, hp⟩, hrest⟩, ?_, .inl ⟨rfl, ?_⟩⟩
      · simp only [if_true, Turn.outcome, outcome, View.performAll, List.foldl_append,
          List.foldl_map, List.foldl_cons, View.perform, hprofile, hp]
      · simp only [if_true, Turn.weight, weight, List.map_cons, List.sum_cons, Chore.weight]
        omega
    | false =>
      refine ⟨.refl d, rfl, rfl, hrest, ?_, .inl ⟨rfl, ?_⟩⟩
      · simp only [Bool.false_eq_true, if_false, Turn.outcome, outcome, View.performAll,
          List.foldl_cons, View.perform, hprofile, hp]
      · simp only [Bool.false_eq_true, if_false, Turn.weight, weight, List.map_cons,
          List.sum_cons, Chore.weight]
        omega

lemma advances_publishing {uri : Uri} {activity : Activity} {rest : List Chore}
    (hinit : d.phase = .initialized) (hr : d.workspace.registry.WellFormed)
    (hready : (Task.publishing uri activity rest).Ready d.workspace.registry d.held)
    (h : (Task.publishing uri activity rest).leadStep? d = some (d', turn)) :
    Advances d (.publishing uri activity rest) d' turn := by
  obtain ⟨hactivity, huri, hrest⟩ := hready
  obtain ⟨doc, hdoc⟩ := Option.isSome_iff_exists.mp huri
  have hmem := ((get?_eq_some hr).mp hdoc).1
  rcases hactivity with rfl | rfl
  · simp only [leadStep?, within, Activity.step?] at h
    split at h
    · cases h
      exact ⟨.refl d, rfl, rfl, ⟨.inr rfl, huri, hrest⟩, rfl,
        .inl ⟨rfl, by simp [Turn.weight, weight]⟩⟩
    · cases h
  · have hds := diagnose_fst hr hmem
    have happly : d.workspace.registry.apply (.diagnose uri) =
        (d.workspace.registry.diagnose doc).2 := by simp [Registry.apply, hdoc]
    rcases hdiag : d.workspace.registry.diagnose doc with ⟨ds, r⟩
    rw [hdiag] at hds happly
    simp only [leadStep?, within, Activity.step?, Activity.afterLoad, Load.step?, hdoc,
      Option.map_some, hdiag] at h
    rw [show ds = .ok _ from hds] at h hdiag
    simp only [Except.map, Option.some.injEq, Prod.mk.injEq] at h
    obtain ⟨rfl, rfl⟩ := h
    -- the desk between the two parts of the step
    generalize hmid : ({ d with workspace := { d.workspace with registry := r } } : Desk) = mid
    have hinit' : mid.phase = .initialized := by rw [← hmid]; exact hinit
    have hframe : d.Frame mid := by
      rw [← hmid]
      exact ⟨rfl, rfl, rfl, rfl, [.diagnose uri], by simp [Operation.isQuiet], happly.symm⟩
    obtain ⟨hview, hunread, hpub, hheld, hreleased⟩ :=
      view_publish hinit' uri (d.workspace.registry.standing doc)
    have hframe' := hframe.trans hpub
    refine ⟨hframe', ?_, ?_, fun c hc => ?_, ?_, .inr ⟨?_, ?_⟩⟩
    · rw [hheld, ← hmid]
    · rw [hreleased, ← hmid]
    · rw [hframe'.isSome hr]
      exact hrest c hc
    · simp only [Turn.outcome, outcome]
      rw [hview, ← hmid]
      unfold View.display
      rw [show d.view.workspace = d.workspace from rfl, hdoc]
      simp only [hdiag]
      rfl
    · rw [hunread, ← hmid]
    · simp only [Turn.weight, weight]
      omega

lemma advances_gathering {activity : Activity} {rest : List Chore}
    (hr : d.workspace.registry.WellFormed)
    (hready : (Task.gathering activity rest).Ready d.workspace.registry d.held)
    (h : (Task.gathering activity rest).leadStep? d = some (d', turn)) :
    Advances d (.gathering activity rest) d' turn := by
  obtain ⟨⟨uri, rfl, hprofile⟩, hrest⟩ := hready
  obtain ⟨doc, hdoc, hkind⟩ : ∃ doc, d.workspace.registry.get? uri = some doc ∧
      doc.kind = .profile := by
    cases hdoc : d.workspace.registry.get? uri with
    | none => simp [hdoc] at hprofile
    | some doc => exact ⟨doc, rfl, by simpa [hdoc] using hprofile⟩
  have hspec := fun u => d.workspace.dependentUris_spec (u := u) hr hdoc hkind
  have hmem : ∀ u ∈ d.workspace.dependentUris uri,
      (d.workspace.registry.get? u).isSome = true := by
    intro u hu
    obtain ⟨key, -, e, he, -⟩ := (hspec u).1.mp hu
    rw [he]
    rfl
  have hlen := (hspec uri).2
  simp only [leadStep?, within, Activity.step?] at h
  split at h
  · next hscans =>
    have hturn : d' = { d with workspace := (d.workspace.dependentsOf uri).2 } ∧
        turn = .more (.chores ((d.workspace.dependentUris uri).map .publishOpen ++ rest)) := by
      unfold Workspace.dependentUris
      revert h
      rcases d.workspace.dependentsOf uri with ⟨e | uris, w⟩
      all_goals
        intro h
        cases h
        exact ⟨rfl, rfl⟩
    obtain ⟨rfl, rfl⟩ := hturn
    have hframe : d.Frame { d with workspace := (d.workspace.dependentsOf uri).2 } :=
      ⟨rfl, (View.gathered_quietly hr hscans uri).1⟩
    refine ⟨hframe, rfl, rfl, fun c hc => ?_, rfl, .inl ⟨rfl, ?_⟩⟩
    · rw [hframe.isSome hr]
      rcases List.mem_append.mp hc with hc | hc
      · obtain ⟨u, hu, rfl⟩ := List.mem_map.mp hc
        exact hmem u hu
      · exact hrest c hc
    · have hsum : (((d.workspace.dependentUris uri).map Chore.publishOpen).map
          (·.weight d.workspace.registry.documents.length)).sum =
            6 * (d.workspace.dependentUris uri).length := by
        rw [List.map_map]
        simp [Function.comp_def, Chore.weight, Nat.mul_comm]
      simp only [Turn.weight, weight, List.map_append, List.sum_append, hsum]
      omega
  · cases h

/-- Every step of a task that handles a message gets on with it. -/
theorem advances_of_leadStep? (hinit : d.phase = .initialized)
    (hr : d.workspace.registry.WellFormed) (hready : task.Ready d.workspace.registry d.held)
    (h : task.leadStep? d = some (d', turn)) : Advances d task d' turn := by
  cases task with
  | chores rest =>
    cases rest with
    | nil =>
      cases h
      exact ⟨.refl d, rfl, rfl, trivial, rfl, .inl ⟨rfl, by simp [Turn.weight, weight]⟩⟩
    | cons c rest => exact advances_chores hready h
  | publishing uri activity rest => exact advances_publishing hinit hr hready h
  | gathering activity rest => exact advances_gathering hr hready h
  | held ticket task =>
    simp only [leadStep?] at h
    split at h
    · cases h
      exact ⟨.refl d, rfl, rfl, hready.2, rfl, .inl ⟨rfl, by simp [Turn.weight, weight]⟩⟩
    · cases h
  | _ => exact hready.elim

/-- A task that handles a message does not wait for anything but the editor. -/
lemma isSome_leadStep? (hscans : d.workspace.scans = 0)
    (hready : task.Ready d.workspace.registry d.held) (hreleased : d.held ≤ d.released) :
    (task.leadStep? d).isSome = true := by
  cases task with
  | chores rest => rcases rest with _ | ⟨_ | _ | _, rest⟩ <;> rfl
  | publishing uri activity rest =>
    obtain ⟨hactivity, huri, -⟩ := hready
    obtain ⟨doc, hdoc⟩ := Option.isSome_iff_exists.mp huri
    rcases hactivity with rfl | rfl
    · simp [leadStep?, within, Activity.step?, hscans]
    · simp [leadStep?, within, Activity.step?, Activity.afterLoad, Load.step?, hdoc]
  | gathering activity rest =>
    obtain ⟨⟨uri, rfl, -⟩, -⟩ := hready
    simp [leadStep?, within, Activity.step?, hscans]
  | held ticket task =>
    have hlt : ticket < d.released := lt_of_lt_of_le hready.1 hreleased
    simp [leadStep?, hlt]
  | _ => exact hready.elim

end Task

/-! ### The whole of it -/

/-- A message is being handled: `outcome` is what it will come to, the rest of the desk is as it
was, and whoever waits for the editor has a message on the way that lets it go on. -/
structure Working (start : Desk) (outcome : View) (d : Desk) (turn : Turn Task Handled) :
    Prop where
  frame : start.Frame d
  letGo : d.held ≤ d.released + d.unread
  ready : turn.Ready d.workspace.registry d.held
  outcome : turn.outcome d.view = outcome

namespace Working

variable {start d d' : Desk} {outcome : View} {turn turn' : Turn Task Handled} {task : Task}

lemma ready_mono {r : Registry} {held : Nat} {task : Task} (h : task.Ready r held) :
    task.Ready r (held + 1) := by
  induction task with
  | held ticket task ih => exact ⟨Nat.lt_succ_of_lt h.1, ih h.2⟩
  | _ => exact h

/-- A step of the task that handles the message. -/
lemma step (hw : Working start outcome d (.more task)) (hinit : start.phase = .initialized)
    (hr : start.workspace.registry.WellFormed)
    (h : task.step? d .lead = some (d', turn')) :
    Working start outcome d' turn' ∧
      d'.unread + turn'.weight start.workspace.registry.documents.length <
        d.unread + task.weight start.workspace.registry.documents.length := by
  obtain ⟨⟨d₁, turn₁⟩, hlead, hback⟩ := Option.map_eq_some_iff.mp h
  have hadv := Task.advances_of_leadStep? (hw.frame.phase.trans hinit)
    (hw.frame.wellFormed hr) hw.ready hlead
  have hpaid := hadv.paid
  rw [hw.frame.length hr] at hpaid
  have hletGo := hw.letGo
  have hframe := hw.frame.trans hadv.frame
  have hheld := hadv.held
  have hreleased := hadv.released
  have hwork : Working start outcome d₁ turn₁ :=
    ⟨hframe, by omega, by rw [hheld]; exact hadv.ready, hadv.outcome.trans hw.outcome⟩
  cases turn₁ with
  | done handled => cases hback; exact ⟨hwork, by omega⟩
  | more task₁ =>
    simp only [Task.holdBack] at hback
    split at hback
    · next hhold =>
      cases hback
      refine ⟨⟨hframe.trans (.of_eq rfl rfl rfl rfl), ?_, ⟨Nat.lt_succ_self _, ?_⟩,
        hadv.outcome.trans hw.outcome⟩, ?_⟩
      · show d₁.held + 1 ≤ d₁.released + d₁.unread
        omega
      · rw [hheld]
        exact ready_mono hadv.ready
      · simp only [Turn.weight, Task.weight] at hpaid ⊢
        omega
    · cases hback
      exact ⟨hwork, by omega⟩

/-- The editor reads a message. -/
lemma read (hw : Working start outcome d turn) (h : d.read? = some d') :
    Working start outcome d' turn ∧ d'.unread < d.unread := by
  unfold Desk.read? at h
  split at h
  · cases h
  · next hunread =>
    cases h
    have hletGo := hw.letGo
    refine ⟨⟨hw.frame.trans (.of_eq rfl rfl rfl rfl), ?_, hw.ready, hw.outcome⟩, ?_⟩
    · show d.held ≤ min d.held (d.released + 1) + (d.unread - 1)
      omega
    · show d.unread - 1 < d.unread
      omega

end Working

/-- The slots of a server that handles one message: the editor, what is done, and the message. -/
def line (dones : List (Option Nat × Turn Task Handled)) (number : Nat)
    (turn : Turn Task Handled) : List (Option Nat × Turn Task Handled) :=
  (none, .more .reader) :: (dones ++ [(some number, turn)])

/-- Whether nothing is left to do in a slot. -/
def isDone (slot : Option Nat × Turn Task Handled) : Prop := ∃ handled, slot.2 = .done handled

section Line

variable {dones : List (Option Nat × Turn Task Handled)} {number : Nat}
  {turn : Turn Task Handled} {start d d' : Desk} {outcome : View}
  {slots : List (Option Nat × Turn Task Handled)} {place : Pool.Place}

lemma step?_side {d : Desk} {task : Task} (h : ∀ scan sink, task ≠ .scan scan sink) :
    task.step? d .side = none := by
  cases task with
  | scan s sink => exact absurd rfl (h s sink)
  | _ => rfl

lemma getElem?_line (dones : List (Option Nat × Turn Task Handled)) (number : Nat)
    (turn : Turn Task Handled) :
    (line dones number turn)[dones.length + 1]? = some (some number, turn) := by
  simp [line]

lemma set_line (turn' : Turn Task Handled) :
    (line dones number turn).set (dones.length + 1) (some number, turn') =
      line dones number turn' := by
  simp [line]

/-- While a message is handled, the editor reads or the task of the message gets on. -/
lemma stepAt?_line (hdones : ∀ slot ∈ dones, isDone slot)
    (hscan : ∀ scan sink, turn ≠ .more (.scan scan sink))
    (h : Pool.stepAt? Task.rules d (line dones number turn) place = some (d', slots)) :
    (d.read? = some d' ∧ slots = line dones number turn) ∨
      ∃ task turn', turn = .more task ∧ task.step? d .lead = some (d', turn') ∧
        slots = line dones number turn' := by
  obtain ⟨key, task, turn', hslot, hstep, rfl⟩ := Pool.stepAt?_eq_some.mp h
  obtain ⟨slot, strand⟩ := place
  dsimp only at hslot hstep ⊢
  cases slot with
  | zero =>
    cases hslot
    cases strand with
    | side => cases hstep
    | lead =>
      obtain ⟨⟨d₁, turn₁⟩, hlead, hback⟩ := Option.map_eq_some_iff.mp hstep
      obtain ⟨d₂, hread, hpair⟩ := Option.map_eq_some_iff.mp hlead
      have hless : d₂.unread ≤ d.unread := by
        unfold Desk.read? at hread
        split at hread
        · cases hread
        · cases hread
          exact Nat.sub_le _ _
      rw [← hpair, Task.holdBack, if_neg (by omega)] at hback
      cases hback
      exact .inl ⟨hread, rfl⟩
  | succ slot =>
    have hslot' : (dones ++ [(some number, turn)])[slot]? = some (key, .more task) := hslot
    rw [List.getElem?_append] at hslot'
    split at hslot'
    · obtain ⟨handled, hdone⟩ := hdones _ (List.mem_of_getElem? hslot')
      cases hdone
    · next hge =>
      obtain ⟨hlt, hlast⟩ := List.getElem?_eq_some_iff.mp hslot'
      have hslot : slot = dones.length := by
        rw [List.length_singleton] at hlt
        omega
      subst hslot
      simp only [Nat.sub_self, List.getElem_cons_zero, Prod.mk.injEq] at hlast
      obtain ⟨rfl, rfl⟩ := hlast
      cases strand with
      | side =>
        have hnone : task.step? d .side = none :=
          step?_side fun scan sink hs => hscan scan sink (congrArg Turn.more hs)
        rw [show Task.rules.step? d .side task = none from hnone] at hstep
        cases hstep
      | lead => exact .inr ⟨task, turn', rfl, hstep, set_line turn'⟩

lemma sum_weight_line (hdones : ∀ slot ∈ dones, isDone slot) (documents : Nat) :
    ((line dones number turn).map (·.2.weight documents)).sum = turn.weight documents := by
  have hzero : (dones.map (·.2.weight documents)).sum = 0 := by
    induction dones with
    | nil => rfl
    | cons slot dones ih =>
      obtain ⟨handled, hdone⟩ := hdones slot List.mem_cons_self
      rw [List.map_cons, List.sum_cons, ih fun s hs => hdones s (List.mem_cons_of_mem _ hs), hdone]
      rfl
  have hreader : Turn.weight documents (.more .reader) = 0 := rfl
  simp only [line, List.map_cons, List.map_append, List.sum_cons, List.sum_append, hzero,
    List.map_nil, List.sum_nil, hreader, Nat.zero_add, Nat.add_zero]

lemma tasks_line (hdones : ∀ slot ∈ dones, isDone slot) :
    Pool.tasks (line dones number turn) = .reader ::
      match turn with
      | .more task => [task]
      | .done _ => [] := by
  have hnil : Pool.tasks dones = [] := by
    refine List.filterMap_eq_nil_iff.mpr fun slot hslot => ?_
    obtain ⟨handled, hdone⟩ := hdones slot hslot
    obtain ⟨key, turn⟩ := slot
    cases (hdone : turn = .done handled)
    rfl
  unfold Pool.tasks at hnil
  unfold Pool.tasks line
  rw [List.filterMap_cons, List.filterMap_append, hnil]
  cases turn <;> rfl

/-- Where no place can get on, the editor has read everything and the message is handled. -/
lemma Working.isDone_of_stuck (hw : Working start outcome d turn)
    (hscans : start.workspace.scans = 0)
    (hstuck : ∀ place, Pool.stepAt? Task.rules d (line dones number turn) place = none) :
    d.unread = 0 ∧ ∃ handled, turn = .done handled := by
  have hunread : d.unread = 0 := by
    by_contra hne
    obtain ⟨d', hread⟩ : ∃ d', d.read? = some d' := ⟨_, if_neg hne⟩
    have hstep : Task.rules.step? d .lead .reader =
        some (Task.holdBack d (d', .more .reader)) := by
      show (Option.map _ (Option.map _ d.read?)) = _
      rw [hread]
      rfl
    have hnone := hstuck (0, .lead)
    simp only [Pool.stepAt?, line, List.getElem?_cons_zero, hstep, Option.map_some,
      reduceCtorEq] at hnone
  refine ⟨hunread, ?_⟩
  cases turn with
  | done handled => exact ⟨handled, rfl⟩
  | more task =>
    have hletGo := hw.letGo
    have hsome := Task.isSome_leadStep? (hw.frame.view.scans.trans hscans) hw.ready (by omega)
    obtain ⟨⟨d₁, turn₁⟩, hlead⟩ := Option.isSome_iff_exists.mp hsome
    have hstep : Task.rules.step? d .lead task = some (Task.holdBack d (d₁, turn₁)) := by
      show Option.map _ (task.leadStep? d) = _
      rw [hlead]
      rfl
    have hnone := hstuck (dones.length + 1, .lead)
    unfold Pool.stepAt? at hnone
    rw [getElem?_line] at hnone
    simp only [hstep, Option.map_some, reduceCtorEq] at hnone

/-- **A message is handled to its end.** What a task that the budget pays for is to come to is what
the pool settles with, and the editor has read all that it was sent. -/
theorem settle_line (hinit : start.phase = .initialized) (hscans : start.workspace.scans = 0)
    (hr : start.workspace.registry.WellFormed) (hdones : ∀ slot ∈ dones, isDone slot)
    (hw : Working start outcome start turn)
    (hbudget : start.unread + turn.weight start.workspace.registry.documents.length ≤
      Task.rules.budget start (Pool.tasks (line dones number turn))) :
    ∃ d handled, Pool.settle Task.rules start (line dones number turn) =
        (d, line dones number (.done handled)) ∧
      Working start outcome d (.done handled) ∧ d.unread = 0 := by
  have hnoScan : ∀ {d turn}, Working start outcome d turn →
      ∀ scan sink, turn ≠ .more (.scan scan sink) := by
    rintro d turn hw scan sink rfl
    exact hw.ready
  have hdescends : Pool.Descends Task.rules
      (fun d slots => ∃ turn, slots = line dones number turn ∧ Working start outcome d turn)
      (fun d slots => d.unread +
        (slots.map (·.2.weight start.workspace.registry.documents.length)).sum) := by
    rintro d _ place d' slots' ⟨turn, rfl, hw⟩ hstep
    rcases stepAt?_line hdones (hnoScan hw) hstep with ⟨hread, rfl⟩ | ⟨task, turn', rfl, hlead, rfl⟩
    · obtain ⟨hw', hless⟩ := hw.read hread
      exact ⟨⟨turn, rfl, hw'⟩, Nat.add_lt_add_right hless _⟩
    · obtain ⟨hw', hless⟩ := hw.step hinit hr hlead
      refine ⟨⟨turn', rfl, hw'⟩, ?_⟩
      simp only [sum_weight_line hdones]
      exact hless
  have hsettled := Pool.settle_spec hdescends ⟨turn, rfl, hw⟩
    (by simpa only [sum_weight_line hdones] using hbudget)
  dsimp only at hsettled
  generalize Pool.settle Task.rules start (line dones number turn) = after at hsettled ⊢
  obtain ⟨d, slots⟩ := after
  obtain ⟨⟨turn', rfl, hw'⟩, hstuck⟩ := hsettled
  obtain ⟨hunread, handled, rfl⟩ := hw'.isDone_of_stuck hscans hstuck
  exact ⟨d, handled, rfl, hw', hunread⟩

end Line

end Contracts
