import Contracts.Proofs.Work.System

/-!
Runs with one call taken out of them.

A question or a scan is under way while others get on. To say that it leaves no trace, the run with
it is compared with what is left of the run without it: its own turns are left out, and the numbers
of slots behind its own are smaller by one. A scan makes questions about all documents wait while it
is under way, so a caller who does the same takes its place.
-/

namespace Contracts

/-- The number of another slot when one is gone. -/
def renumber (slot other : Nat) : Nat := if slot < other then other - 1 else other

/-- The slot of a call after an action of others that is about another slot, if about any: it moves
when the list gets shorter before it. -/
def slotAfter {α : Type} (slot : Nat) (other? : Option Nat) (before after : List α) : Nat :=
  if other?.any (· < slot) then slot - (before.length - after.length) else slot

namespace Action

/-- The slot of the activity that an action is about. -/
def activity? : Action → Option Nat
  | .proceed slot | .abandon slot => some slot
  | _ => none

/-- The slot of the scan that an action is about. -/
def scan? : Action → Option Nat
  | .proceedScan slot | .proceedLoad slot _ => some slot
  | _ => none

/-- An action of others, when the activity in a slot is not there. -/
def besideActivity (slot : Nat) : Action → Action
  | .proceed other => .proceed (renumber slot other)
  | .abandon other => .abandon (renumber slot other)
  | a => a

/-- An action of others, when the scan in a slot is not there. -/
def besideScan (slot : Nat) : Action → Action
  | .proceedScan other => .proceedScan (renumber slot other)
  | .proceedLoad other choice => .proceedLoad (renumber slot other) choice
  | a => a

end Action

namespace System

/-- The step that the activity in a slot would do now. -/
def turn? (s : System) (slot : Nat) : Option (Workspace × Turn Activity (Except Error Answer)) :=
  s.activities[slot]?.bind (·.step? s.workspace)

/-- The step that the scan in a slot would do now. -/
def scanTurn? (s : System) (slot : Nat) : Option Scan.Step :=
  s.scans[slot]?.bind (·.step? s.workspace)

/-- The step that one of the loads of the scan in a slot would do now. -/
def pendingTurn? (s : System) (slot choice : Nat) : Option (Workspace × Scan) :=
  s.scans[slot]?.bind (·.loadStep? choice s.workspace)

/-- A run without the activity in a slot: what the others do, and the answer of the activity if it
comes to one. -/
def withoutActivity (s : System) (slot : Nat) :
    List Action → List Action × Option (Except Error Answer)
  | [] => ([], none)
  | a :: actions =>
    if a.activity? = some slot then
      match a, s.turn? slot with
      | .abandon _, _ => (actions, none)
      | _, some (_, .done answer) => (actions, some answer)
      | _, _ => (s.step a).withoutActivity slot actions
    else
      let rest := (s.step a).withoutActivity
        (slotAfter slot a.activity? s.activities (s.step a).activities) actions
      (a.besideActivity slot :: rest.1, rest.2)

/-- A run without the scan in a slot: what the others do, with a caller who leaves when the scan is
over, and the report of the scan if it comes to one. Those who leave without having entered are
left out, since they would leave in place of that caller. -/
def withoutScan (s : System) (slot : Nat) :
    List Action → List Action × Option (Except Error ScanReport)
  | [] => ([], none)
  | a :: actions =>
    if a.scan? = some slot then
      match a, s.scanTurn? slot with
      | .proceedScan _, some (_, _, .done report) => (.leave :: actions, some report)
      | _, _ => (s.step a).withoutScan slot actions
    else
      let rest := (s.step a).withoutScan
        (slotAfter slot a.scan? s.scans (s.step a).scans) actions
      match a, s.guards with
      | .leave, 0 => rest
      | _, _ => (a.besideScan slot :: rest.1, rest.2)

end System

/-- A run with a call in it goes as another one without the call, where `others` tells what is left
of any beginning of the run. At the end nothing is left of the call, and on the way the workspace is
the same. -/
structure System.Unseen (s base : System) (others : List Action → List Action)
    (actions : List Action) : Prop where
  ended : s.run actions = base.run (others actions)
  underWay : ∀ n, (s.run (actions.take n)).workspace =
    (base.run (others (actions.take n))).workspace

section

variable {α : Type} {slot other : Nat} {other? : Option Nat} {before after : List α}

lemma slotAfter_of_length (h : after.length = before.length) :
    slotAfter slot other? before after = slot := by
  simp [slotAfter, h]

lemma slotAfter_none : slotAfter slot none before after = slot := rfl

lemma slotAfter_eraseIdx (h : slot < before.length) :
    slotAfter slot (some other) before (before.eraseIdx other) =
      if other < slot then slot - 1 else slot := by
  unfold slotAfter
  by_cases hlt : other < slot
  · have hone : before.length - (before.eraseIdx other).length = 1 := by
      rw [List.length_eraseIdx_of_lt (hlt.trans h)]
      omega
    simp [hlt, hone]
  · simp [hlt]

end

/-! ### Lists with one element more -/

/-- A list is another one with an element more, in a slot. -/
def Extra {α : Type} (x : α) (slot : Nat) (l base : List α) : Prop :=
  ∃ as bs, l = as ++ x :: bs ∧ base = as ++ bs ∧ as.length = slot

namespace Extra

variable {α : Type} {x : α} {slot other : Nat} {l base : List α}

lemma last (x : α) (base : List α) : Extra x base.length (base ++ [x]) base :=
  ⟨base, [], rfl, (List.append_nil base).symm, rfl⟩

lemma getElem?_self (h : Extra x slot l base) : l[slot]? = some x := by
  obtain ⟨as, bs, rfl, -, rfl⟩ := h
  simp

lemma lt_length (h : Extra x slot l base) : slot < l.length := by
  obtain ⟨as, bs, rfl, -, rfl⟩ := h
  simp

lemma set_self (h : Extra x slot l base) (y : α) : Extra y slot (l.set slot y) base := by
  obtain ⟨as, bs, rfl, rfl, rfl⟩ := h
  exact ⟨as, bs, by simp, rfl, rfl⟩

lemma eraseIdx_self (h : Extra x slot l base) : l.eraseIdx slot = base := by
  obtain ⟨as, bs, rfl, rfl, rfl⟩ := h
  simp [List.eraseIdx_append_of_length_le]

lemma append (h : Extra x slot l base) (y : α) : Extra x slot (l ++ [y]) (base ++ [y]) := by
  obtain ⟨as, bs, rfl, rfl, rfl⟩ := h
  exact ⟨as, bs ++ [y], by simp, by simp, rfl⟩

/-- Before the slot nothing has moved, and behind it everything by one. -/
lemma renumber_cases (h : other ≠ slot) : other < slot ∧ renumber slot other = other ∨
    ∃ k, other = slot + (k + 1) ∧ renumber slot other = slot + k := by
  unfold renumber
  rcases Nat.lt_or_gt_of_ne h with h | h
  · exact .inl ⟨h, if_neg (Nat.not_lt.mpr h.le)⟩
  · obtain ⟨k, rfl⟩ := Nat.exists_eq_add_of_lt h
    exact .inr ⟨k, rfl, by rw [if_pos h]; omega⟩

lemma getElem?_other (h : Extra x slot l base) (hother : other ≠ slot) :
    l[other]? = base[renumber slot other]? := by
  obtain ⟨as, bs, rfl, rfl, rfl⟩ := h
  obtain ⟨hlt, heq⟩ | ⟨k, rfl, heq⟩ := renumber_cases hother
  · rw [heq, List.getElem?_append_left hlt, List.getElem?_append_left hlt]
  · rw [heq, List.getElem?_append_right (by omega), List.getElem?_append_right (by omega)]
    simp

lemma set_other (h : Extra x slot l base) (hother : other ≠ slot) (y : α) :
    Extra x slot (l.set other y) (base.set (renumber slot other) y) := by
  obtain ⟨as, bs, rfl, rfl, rfl⟩ := h
  obtain ⟨hlt, heq⟩ | ⟨k, rfl, heq⟩ := renumber_cases hother
  · refine ⟨as.set other y, bs, List.set_append_left _ _ hlt, ?_, List.length_set⟩
    rw [heq, List.set_append_left _ _ hlt]
  · refine ⟨as, bs.set k y, ?_, ?_, rfl⟩
    · simp [List.set_append_right]
    · simp [heq, List.set_append_right]

lemma eraseIdx_other (h : Extra x slot l base) (hother : other ≠ slot) :
    Extra x (if other < slot then slot - 1 else slot) (l.eraseIdx other)
      (base.eraseIdx (renumber slot other)) := by
  obtain ⟨as, bs, rfl, rfl, rfl⟩ := h
  obtain ⟨hlt, heq⟩ | ⟨k, rfl, heq⟩ := renumber_cases hother
  · refine ⟨as.eraseIdx other, bs, List.eraseIdx_append_of_lt_length hlt _, ?_, ?_⟩
    · rw [heq, List.eraseIdx_append_of_lt_length hlt]
    · rw [List.length_eraseIdx_of_lt hlt, if_pos hlt]
  · refine ⟨as, bs.eraseIdx k, ?_, ?_, (if_neg (by omega)).symm⟩
    · simp [List.eraseIdx_append_of_length_le]
    · simp [heq, List.eraseIdx_append_of_length_le]

end Extra

/-! ### One activity more -/

namespace System

variable {s base : System} {slot : Nat} {x : Activity} {a : Action}

/-- One system is the other with an activity more, in a slot. -/
structure Beside (s base : System) (slot : Nat) (x : Activity) : Prop where
  rest : s = { base with activities := s.activities }
  extra : Extra x slot s.activities base.activities

/-- An action that is not about activities does the same whatever activities there are. -/
lemma step_activities (ha : a.activity? = none) (hask : ∀ q, a ≠ .ask q) (l : List Activity) :
    ({ base with activities := l }).step a = { base.step a with activities := l } ∧
      (base.step a).activities = base.activities := by
  cases a with
  | ask q => exact absurd rfl (hask q)
  | proceed j | abandon j => cases ha
  | leave =>
    simp only [step]
    split <;> exact ⟨rfl, rfl⟩
  | proceedScan j =>
    simp only [step]
    split
    · exact ⟨rfl, rfl⟩
    · split <;> exact ⟨rfl, rfl⟩
  | proceedLoad j choice =>
    simp only [step]
    split
    · exact ⟨rfl, rfl⟩
    · split <;> exact ⟨rfl, rfl⟩
  | _ => exact ⟨rfl, rfl⟩

section

variable {w : Workspace} {b : Activity} {answer : Except Error Answer}

lemma step_proceed_waiting (h : s.turn? slot = none) : s.step (.proceed slot) = s := by
  unfold turn? at h
  cases hb : s.activities[slot]? with
  | none => simp only [step, hb]
  | some b =>
    rw [hb, Option.bind_some] at h
    simp only [step, hb, h]

lemma step_proceed_more (h : s.turn? slot = some (w, .more b)) : s.step (.proceed slot) =
    { s with workspace := w, activities := s.activities.set slot b } := by
  obtain ⟨x, hx, hturn⟩ := Option.bind_eq_some_iff.mp h
  simp only [step, hx, hturn]

lemma step_proceed_done (h : s.turn? slot = some (w, .done answer)) : s.step (.proceed slot) =
    { s with workspace := w, activities := s.activities.eraseIdx slot } := by
  obtain ⟨x, hx, hturn⟩ := Option.bind_eq_some_iff.mp h
  simp only [step, hx, hturn]

end

namespace Beside

lemma workspace_eq (h : Beside s base slot x) : s.workspace = base.workspace := by rw [h.rest]

lemma turn?_self (h : Beside s base slot x) : s.turn? slot = x.step? s.workspace := by
  rw [turn?, h.extra.getElem?_self, Option.bind_some]

lemma turn?_other {other : Nat} (h : Beside s base slot x) (hother : other ≠ slot) :
    base.turn? (renumber slot other) = s.turn? other := by
  rw [turn?, turn?, h.extra.getElem?_other hother, h.workspace_eq]

lemma proceed {other : Nat} (h : Beside s base slot x) (hother : other ≠ slot) :
    Beside (s.step (.proceed other)) (base.step (.proceed (renumber slot other)))
      (slotAfter slot (some other) s.activities (s.step (.proceed other)).activities) x := by
  have hsame := h.turn?_other hother
  obtain ⟨hrest, hextra⟩ := h
  rcases hturn : s.turn? other with _ | ⟨w, b | answer⟩
  · have hstep := step_proceed_waiting hturn
    rw [slotAfter_of_length (by rw [hstep]), hstep, step_proceed_waiting (hsame.trans hturn)]
    exact ⟨hrest, hextra⟩
  · have hstep := step_proceed_more hturn
    rw [slotAfter_of_length (by rw [hstep]; exact List.length_set), hstep,
      step_proceed_more (hsame.trans hturn)]
    exact ⟨by rw [hrest], hextra.set_other hother b⟩
  · have hstep := step_proceed_done hturn
    rw [hstep, slotAfter_eraseIdx hextra.lt_length, step_proceed_done (hsame.trans hturn)]
    exact ⟨by rw [hrest], hextra.eraseIdx_other hother⟩

/-- What others do goes on beside an activity as it does without it. -/
lemma step (h : Beside s base slot x) (ha : a.activity? ≠ some slot) :
    Beside (s.step a) (base.step (a.besideActivity slot))
      (slotAfter slot a.activity? s.activities (s.step a).activities) x := by
  by_cases hnone : a.activity? = none ∧ ∀ q, a ≠ .ask q
  · obtain ⟨hnone, hask⟩ := hnone
    obtain ⟨hstep, hsame⟩ : ({ base with activities := s.activities }).step a = _ ∧ _ :=
      step_activities hnone hask s.activities
    rw [← h.rest] at hstep
    have hbeside : a.besideActivity slot = a := by cases a <;> first | rfl | cases hnone
    rw [hnone, slotAfter_none, hbeside]
    refine ⟨by rw [hstep], ?_⟩
    rw [hstep, hsame]
    exact h.extra
  · cases a with
    | ask q => exact ⟨by rw [h.rest]; rfl, h.extra.append q.activity⟩
    | proceed other => exact h.proceed fun heq => ha (congrArg some heq)
    | abandon other =>
      have hother : other ≠ slot := fun heq => ha (congrArg some heq)
      refine ⟨by rw [h.rest]; rfl, ?_⟩
      have hslot : slotAfter slot (some other) s.activities (s.activities.eraseIdx other) = _ :=
        slotAfter_eraseIdx h.extra.lt_length
      exact hslot.symm ▸ h.extra.eraseIdx_other hother
    | _ => exact absurd ⟨rfl, by simp⟩ hnone

end Beside

namespace Unseen

variable {others others' : List Action → List Action} {actions : List Action}

/-- When the call is over, the runs are the same. -/
lemma refl (s : System) (actions : List Action) : Unseen s s id actions :=
  ⟨rfl, fun _ => rfl⟩

/-- One action more at the beginning, of which `before` is left. -/
lemma cons (before : List Action) (h : Unseen (s.step a) (base.run before) others' actions)
    (hworkspace : s.workspace = base.workspace) (hnil : others [] = [])
    (hcons : ∀ actions, others (a :: actions) = before ++ others' actions) :
    Unseen s base others (a :: actions) := by
  refine ⟨?_, fun n => ?_⟩
  · rw [hcons, run_cons, run_append]
    exact h.ended
  · cases n with
    | zero => rw [List.take_zero, hnil, run_nil, run_nil, hworkspace]
    | succ n =>
      rw [List.take_succ_cons, hcons, run_cons, run_append]
      exact h.underWay n

end Unseen

/-! ### One scan more -/

/-- One system has a scan more than the other, in a slot, where the other has a caller who makes
questions wait. -/
structure BesideScan (s base : System) (slot : Nat) (x : Scan) : Prop where
  rest : s = { base with scans := s.scans, guards := s.guards }
  extra : Extra x slot s.scans base.scans
  guards : base.guards = s.guards + 1

/-- An action that is not about scans does the same whatever scans there are. -/
lemma step_scans (ha : a.scan? = none) (hstart : ∀ roots, a ≠ .startScan roots)
    (henter : a ≠ .enter) (hleave : a ≠ .leave) (l : List Scan) (n : Nat) :
    ({ base with scans := l, guards := n }).step a =
      { base.step a with scans := l, guards := n } ∧
    (base.step a).scans = base.scans ∧ (base.step a).guards = base.guards := by
  cases a with
  | startScan roots => exact absurd rfl (hstart roots)
  | enter => exact absurd rfl henter
  | leave => exact absurd rfl hleave
  | proceedScan j | proceedLoad j choice => cases ha
  | proceed j =>
    simp only [step]
    split
    · exact ⟨rfl, rfl, rfl⟩
    · split <;> exact ⟨rfl, rfl, rfl⟩
  | _ => exact ⟨rfl, rfl, rfl⟩

section

variable {w : Workspace} {events : List ScanEvent} {b : Scan} {report : Except Error ScanReport}

lemma step_proceedScan_waiting (h : s.scanTurn? slot = none) : s.step (.proceedScan slot) = s := by
  unfold scanTurn? at h
  cases hb : s.scans[slot]? with
  | none => simp only [step, hb]
  | some b =>
    rw [hb, Option.bind_some] at h
    simp only [step, hb, h]

lemma step_proceedScan_more (h : s.scanTurn? slot = some (w, events, .more b)) :
    s.step (.proceedScan slot) = { s with workspace := w, scans := s.scans.set slot b } := by
  obtain ⟨x, hx, hturn⟩ := Option.bind_eq_some_iff.mp h
  simp only [step, hx, hturn]

lemma step_proceedScan_done (h : s.scanTurn? slot = some (w, events, .done report)) :
    s.step (.proceedScan slot) = { s with workspace := w, scans := s.scans.eraseIdx slot } := by
  obtain ⟨x, hx, hturn⟩ := Option.bind_eq_some_iff.mp h
  simp only [step, hx, hturn]

lemma step_leave_idle (h : s.guards = 0) : s.step .leave = s := if_pos h

lemma step_leave_of_ne (h : s.guards ≠ 0) : s.step .leave =
    { s with workspace := s.workspace.leaveScan, guards := s.guards - 1 } := if_neg h

lemma step_proceedLoad_waiting {choice : Nat} (h : s.pendingTurn? slot choice = none) :
    s.step (.proceedLoad slot choice) = s := by
  unfold pendingTurn? at h
  cases hb : s.scans[slot]? with
  | none => simp only [step, hb]
  | some b =>
    rw [hb, Option.bind_some] at h
    simp only [step, hb, h]

lemma step_proceedLoad_on {choice : Nat} (h : s.pendingTurn? slot choice = some (w, b)) :
    s.step (.proceedLoad slot choice) = { s with workspace := w, scans := s.scans.set slot b } := by
  obtain ⟨x, hx, hturn⟩ := Option.bind_eq_some_iff.mp h
  simp only [step, hx, hturn]

end

namespace BesideScan

variable {x : Scan} {other choice : Nat}

lemma workspace_eq (h : BesideScan s base slot x) : s.workspace = base.workspace := by rw [h.rest]

lemma scanTurn?_self (h : BesideScan s base slot x) : s.scanTurn? slot = x.step? s.workspace := by
  rw [scanTurn?, h.extra.getElem?_self, Option.bind_some]

lemma scanTurn?_other (h : BesideScan s base slot x) (hother : other ≠ slot) :
    base.scanTurn? (renumber slot other) = s.scanTurn? other := by
  rw [scanTurn?, scanTurn?, h.extra.getElem?_other hother, h.workspace_eq]

lemma proceedScan (h : BesideScan s base slot x) (hother : other ≠ slot) :
    BesideScan (s.step (.proceedScan other)) (base.step (.proceedScan (renumber slot other)))
      (slotAfter slot (some other) s.scans (s.step (.proceedScan other)).scans) x := by
  have hsame := h.scanTurn?_other hother
  obtain ⟨hrest, hextra, hguards⟩ := h
  rcases hturn : s.scanTurn? other with _ | ⟨w, events, b | report⟩
  · have hstep := step_proceedScan_waiting hturn
    rw [slotAfter_of_length (by rw [hstep]), hstep,
      step_proceedScan_waiting (hsame.trans hturn)]
    exact ⟨hrest, hextra, hguards⟩
  · have hstep := step_proceedScan_more hturn
    rw [slotAfter_of_length (by rw [hstep]; exact List.length_set), hstep,
      step_proceedScan_more (hsame.trans hturn)]
    exact ⟨by rw [hrest], hextra.set_other hother b, hguards⟩
  · have hstep := step_proceedScan_done hturn
    rw [hstep, slotAfter_eraseIdx hextra.lt_length, step_proceedScan_done (hsame.trans hturn)]
    exact ⟨by rw [hrest], hextra.eraseIdx_other hother, hguards⟩

lemma proceedLoad (h : BesideScan s base slot x) (hother : other ≠ slot) :
    BesideScan (s.step (.proceedLoad other choice))
      (base.step (.proceedLoad (renumber slot other) choice))
      (slotAfter slot (some other) s.scans (s.step (.proceedLoad other choice)).scans) x := by
  have hsame : base.pendingTurn? (renumber slot other) choice = s.pendingTurn? other choice := by
    rw [pendingTurn?, pendingTurn?, h.extra.getElem?_other hother, h.workspace_eq]
  obtain ⟨hrest, hextra, hguards⟩ := h
  rcases hturn : s.pendingTurn? other choice with _ | ⟨w, b⟩
  · have hstep := step_proceedLoad_waiting hturn
    rw [slotAfter_of_length (by rw [hstep]), hstep, step_proceedLoad_waiting (hsame.trans hturn)]
    exact ⟨hrest, hextra, hguards⟩
  · have hstep := step_proceedLoad_on hturn
    rw [slotAfter_of_length (by rw [hstep]; exact List.length_set), hstep,
      step_proceedLoad_on (hsame.trans hturn)]
    exact ⟨by rw [hrest], hextra.set_other hother b, hguards⟩

/-- What others do goes on beside a scan as it does without it. -/
lemma step (h : BesideScan s base slot x) (ha : a.scan? ≠ some slot) (hleave : a ≠ .leave) :
    BesideScan (s.step a) (base.step (a.besideScan slot))
      (slotAfter slot a.scan? s.scans (s.step a).scans) x := by
  by_cases hframe : a.scan? = none ∧ (∀ roots, a ≠ .startScan roots) ∧ a ≠ .enter
  · obtain ⟨hnone, hstart, henter⟩ := hframe
    obtain ⟨hstep, hscans, hguards⟩ :
        ({ base with scans := s.scans, guards := s.guards }).step a = _ ∧ _ ∧ _ :=
      step_scans hnone hstart henter hleave s.scans s.guards
    rw [← h.rest] at hstep
    have hbeside : a.besideScan slot = a := by cases a <;> first | rfl | cases hnone
    rw [hnone, slotAfter_none, hbeside]
    refine ⟨by rw [hstep], ?_, ?_⟩
    · rw [hstep, hscans]
      exact h.extra
    · rw [hstep, hguards]
      exact h.guards
  · cases a with
    | startScan roots => exact ⟨by rw [h.rest]; rfl, h.extra.append _, h.guards⟩
    | enter => exact ⟨by rw [h.rest]; rfl, h.extra, congrArg (· + 1) h.guards⟩
    | proceedScan other => exact h.proceedScan fun heq => ha (congrArg some heq)
    | proceedLoad other choice => exact h.proceedLoad fun heq => ha (congrArg some heq)
    | leave => exact absurd rfl hleave
    | _ => exact absurd ⟨rfl, by simp, by simp⟩ hframe

/-- A caller who entered may leave, and the one in place of the scan stays. -/
lemma leave (h : BesideScan s base slot x) (hguards : s.guards ≠ 0) :
    BesideScan (s.step .leave) (base.step .leave) slot x := by
  have hbase := h.guards
  rw [step_leave_of_ne hguards, step_leave_of_ne (by rw [hbase]; exact Nat.succ_ne_zero _)]
  refine ⟨by rw [h.rest], h.extra, ?_⟩
  show base.guards - 1 = s.guards - 1 + 1
  omega

end BesideScan

/-! ### Turn by turn -/

section

variable {actions : List Action} {w : Workspace} {answer : Except Error Answer}
  {report : Except Error ScanReport} {events : List ScanEvent} {choice : Nat}

lemma withoutActivity_other (ha : a.activity? ≠ some slot) :
    s.withoutActivity slot (a :: actions) =
      let rest := (s.step a).withoutActivity
        (slotAfter slot a.activity? s.activities (s.step a).activities) actions
      (a.besideActivity slot :: rest.1, rest.2) :=
  if_neg ha

lemma withoutActivity_abandon :
    s.withoutActivity slot (.abandon slot :: actions) = (actions, none) :=
  if_pos rfl

lemma withoutActivity_done (h : s.turn? slot = some (w, .done answer)) :
    s.withoutActivity slot (.proceed slot :: actions) = (actions, some answer) := by
  refine (if_pos rfl).trans ?_
  rw [h]

lemma withoutActivity_open (h : ∀ w answer, s.turn? slot ≠ some (w, .done answer)) :
    s.withoutActivity slot (.proceed slot :: actions) =
      (s.step (.proceed slot)).withoutActivity slot actions := by
  refine (if_pos rfl).trans ?_
  rcases hturn : s.turn? slot with _ | ⟨w, b | answer⟩
  · rfl
  · rfl
  · exact absurd hturn (h w answer)

lemma withoutScan_other (ha : a.scan? ≠ some slot) (hleave : a ≠ .leave) :
    s.withoutScan slot (a :: actions) =
      let rest := (s.step a).withoutScan (slotAfter slot a.scan? s.scans (s.step a).scans) actions
      (a.besideScan slot :: rest.1, rest.2) := by
  refine (if_neg ha).trans ?_
  cases a <;> first | rfl | exact absurd rfl hleave

lemma withoutScan_leave (hguards : s.guards ≠ 0) : s.withoutScan slot (.leave :: actions) =
    (.leave :: ((s.step .leave).withoutScan slot actions).1,
      ((s.step .leave).withoutScan slot actions).2) := by
  refine (if_neg (by simp [Action.scan?])).trans ?_
  cases hs : s.guards with
  | zero => exact absurd hs hguards
  | succ n => rfl

lemma withoutScan_leave_idle (hguards : s.guards = 0) : s.withoutScan slot (.leave :: actions) =
    (s.step .leave).withoutScan slot actions := by
  refine (if_neg (by simp [Action.scan?])).trans ?_
  rw [hguards]
  rfl

lemma withoutScan_done (h : s.scanTurn? slot = some (w, events, .done report)) :
    s.withoutScan slot (.proceedScan slot :: actions) = (.leave :: actions, some report) := by
  refine (if_pos rfl).trans ?_
  rw [h]

lemma withoutScan_open (h : ∀ w events report, s.scanTurn? slot ≠ some (w, events, .done report)) :
    s.withoutScan slot (.proceedScan slot :: actions) =
      (s.step (.proceedScan slot)).withoutScan slot actions := by
  refine (if_pos rfl).trans ?_
  rcases hturn : s.scanTurn? slot with _ | ⟨w, events, b | report⟩
  · rfl
  · rfl
  · exact absurd hturn (h w events report)

lemma withoutScan_load : s.withoutScan slot (.proceedLoad slot choice :: actions) =
    (s.step (.proceedLoad slot choice)).withoutScan slot actions :=
  if_pos rfl

end

end System

end Contracts
