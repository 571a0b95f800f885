import Mathlib.Data.List.Perm.Basic
import Contracts.Proofs.Work.Dependents
import Contracts.Proofs.Work.Loading

/-!
What questions about all documents wait for.

A census follows a run and gives a number to every scan that starts and to every caller that makes
questions wait. For each question that is under way it writes down which of those were so when it
was asked, and for each scan what it has loaded. The invariant ties the three together: the counter
of the workspace is the number of those under way, and a question that is past the barrier has
outlived all that it had to wait for. So what it reads of the registry holds every document that one
of these scans has loaded and nobody has closed.
-/

namespace Contracts

namespace Activity

/-- Questions about all documents, and those that only wait as these do. -/
def isWhole : Activity → Bool
  | .load _ _ | .outline _ _ => false
  | .diagnostics _ _ | .search _ _ | .dependents _ | .barrier => true

/-- Whether a question has not looked at any document yet because scans may be under way. -/
def atBarrier : Activity → Bool
  | .diagnostics _ none | .search _ none | .dependents _ | .barrier => true
  | _ => false

variable {w w' : Workspace} {a a' : Activity}

/-- At the barrier a question waits for the scans, and for nothing else. -/
lemma isSome_step?_of_atBarrier (h : a.atBarrier = true) :
    (a.step? w).isSome = true ↔ w.scans = 0 := by
  cases a with
  | load uri stage | outline uri stage => cases h
  | diagnostics uri stage =>
    cases stage with
    | none => simp only [step?]; split <;> simp_all
    | some stage => cases h
  | search query stage =>
    cases stage with
    | none => simp only [step?]; split <;> simp_all
    | some rest => cases h
  | dependents uri | barrier => simp only [step?]; split <;> simp_all

/-- A question stays the same question, and does not return to the barrier. -/
lemma step?_more (h : a.step? w = some (w', .more a')) :
    a'.isWhole = a.isWhole ∧ a'.atBarrier = false := by
  cases a with
  | load uri stage | outline uri stage =>
    rw [step?] at h
    obtain ⟨load, -, rfl⟩ := of_afterLoad_more h
    exact ⟨rfl, rfl⟩
  | diagnostics uri stage =>
    cases stage with
    | none =>
      simp only [step?] at h
      split at h
      · cases h; exact ⟨rfl, rfl⟩
      · cases h
    | some stage =>
      rw [step?] at h
      obtain ⟨load, -, rfl⟩ := of_afterLoad_more h
      exact ⟨rfl, rfl⟩
  | search query stage =>
    rcases stage with _ | ⟨_ | ⟨id, ids⟩, found⟩
    · simp only [step?] at h
      split at h
      · cases h; exact ⟨rfl, rfl⟩
      · cases h
    · cases h
    · cases h; exact ⟨rfl, rfl⟩
  | dependents uri | barrier =>
    simp only [step?] at h
    split at h <;> cases h

/-- What `d` is to a question that makes a step in a registry: a search takes it down among those it
will look at; a question for dependents answers with it, if it is a map of the namespace of the
profile; and diagnostics of a map that are worked out now find a profile, if it is one of the
namespace of the map. -/
def Reads (r : Registry) (d : Document) (turn : Turn Activity (Except Error Answer)) :
    Activity → Prop
  | .search query none => ∃ ids, turn = .more (.search query (some (ids, []))) ∧ d.id ∈ ids
  | .dependents uri => ∀ p key, r.get? uri = some p → p.defines key = true →
      d.targets? = some key → ∃ uris, turn = .done (.ok (.uris uris)) ∧ d.uri ∈ uris
  | .diagnostics uri (some _) => ∀ m key x, r.get? uri = some m → m.targets? = some key →
      m.stage.diagnostics? = none → d.defines key = true → turn = .done (.ok x) →
        x = .diagnostics (r.verdict m).1 ∧ (r.verdict m).2 = false
  | _ => True

/-- The maps of a namespace are among the dependents of its profile. -/
lemma reads_dependents {uri : Uri} {d : Document} {turn : Turn Activity (Except Error Answer)}
    (hr : w.registry.WellFormed) (hd : d ∈ w.registry.documents)
    (h : (dependents uri).step? w = some (w', turn)) :
    (dependents uri).Reads w.registry d turn := by
  intro p key hp hdefines htarget
  obtain ⟨hkind, hkey⟩ : p.kind = .profile ∧ p.textNamespace? = some key := by
    simpa [Document.defines] using hdefines
  have hmem : d.uri ∈ w.dependentUris uri := (Workspace.dependentUris_spec hr hp hkind).1.mpr
    ⟨key, hkey, d, (Registry.get?_eq_some hr).mpr ⟨hd, rfl⟩, htarget⟩
  simp only [step?] at h
  split at h
  · cases h
    unfold Workspace.dependentUris at hmem
    rcases hanswer : (w.dependentsOf uri).1 with e | uris
    · rw [hanswer] at hmem
      cases hmem
    · rw [hanswer] at hmem
      exact ⟨uris, rfl, hmem⟩
  · cases h

/-- Where a profile of the namespace of a map is registered, the map is checked against one. -/
lemma reads_diagnostics {uri : Uri} {d : Document} {stage : Load}
    {turn : Turn Activity (Except Error Answer)} (hr : w.registry.WellFormed)
    (hd : d ∈ w.registry.documents) (h : (diagnostics uri (some stage)).step? w = some (w', turn)) :
    (diagnostics uri (some stage)).Reads w.registry d turn := by
  rintro m key x hm htarget hunknown hdefines rfl
  simp only [step?] at h
  rcases of_afterLoad_done h with ⟨e, -, hx⟩ | ⟨w₁, m', hload, hnext⟩
  · cases hx
  · obtain ⟨rfl, hturn⟩ := Load.step?_of_registered hm hload
    obtain rfl : m = m' := by
      rcases hturn with hturn | ⟨e, hturn, -⟩ <;> cases hturn
      rfl
    have hverdict := (Registry.diagnose_eq hr hm hunknown).1
    have hx : (w₁.registry.diagnose m).1.map Answer.diagnostics = .ok x := congrArg Prod.snd hnext
    rw [hverdict] at hx
    cases hx
    have hkey := Document.textNamespace?_of_targets htarget
    exact ⟨rfl, Registry.verdict_of_defined hd hdefines hkey⟩

/-- A question that makes a step reads all documents that are registered. -/
lemma reads_of_step? {d : Document} {turn : Turn Activity (Except Error Answer)}
    (hr : w.registry.WellFormed) (hd : d ∈ w.registry.documents) (h : a.step? w = some (w', turn)) :
    a.Reads w.registry d turn := by
  cases a with
  | load uri stage | outline uri stage | barrier => trivial
  | diagnostics uri stage =>
    cases stage with
    | none => trivial
    | some stage => exact reads_diagnostics hr hd h
  | search query stage =>
    cases stage with
    | some rest => trivial
    | none =>
      simp only [step?] at h
      split at h
      · cases h
        exact ⟨_, rfl, List.mem_map_of_mem hd⟩
      · cases h
  | dependents uri => exact reads_dependents hr hd h

end Activity

/-- A question about all documents that has just been asked is at the barrier. -/
lemma Question.atBarrier_of_isWhole {q : Question} (h : q.activity.isWhole = true) :
    q.activity.atBarrier = true := by
  cases q <;> first | rfl | cases h

/-- Whether an action takes the document at `uri` out. -/
def Action.closes (uri : Uri) : Action → Bool
  | .closeDocument u | .remove u => u = uri
  | _ => false

/-- A document that a scan has loaded. -/
structure Landing where
  scan : Nat
  uri : Uri
  /-- Which document it is, unless another one was opened in its place. -/
  document? : Option Nat

/-- What is left of a landing after an action; `none` when the document is closed. -/
def Landing.after? (a : Action) (l : Landing) : Option Landing :=
  if a.closes l.uri then none
  else if a.replaces l.uri then some { l with document? := none }
  else some l

/-- Whether the document is registered. -/
def Landing.Holds (r : Registry) (l : Landing) : Prop :=
  ∃ d, r.get? l.uri = some d ∧ ∀ id, l.document? = some id → d.id = id

/-- A system with numbers for all that questions wait for. -/
structure Census where
  system : System
  /-- The numbers of the scans under way. -/
  scanIds : List Nat
  /-- The numbers of the callers that make questions wait. -/
  guardIds : List Nat
  /-- For each activity, what was under way when it was asked for. -/
  awaited : List (List Nat)
  landed : List Landing
  next : Nat

namespace Census

def ofStorage (storage : Storage) : Census := ⟨.ofStorage storage, [], [], [], [], 0⟩

/-- All that is under way and holds questions back. -/
def live (c : Census) : List Nat := c.scanIds ++ c.guardIds

/-- What a scan has loaded with an action. -/
def landing (c : Census) (a : Action) : List Landing :=
  match a with
  | .proceedLoad slot _ =>
    match c.scanIds[slot]?, c.system.loadAt? a with
    | some scan, some (uri, _) =>
      (c.system.loaded? uri a).toList.map fun d => ⟨scan, uri, some d.id⟩
    | _, _ => []
  | _ => []

/-- The census after one action. Of the callers that make questions wait, the one at `choice` is
the one to leave. -/
def step (c : Census) (a : Action) (choice : Nat) : Census :=
  let system := c.system.step a
  { system
    scanIds :=
      match a with
      | .startScan _ => c.scanIds ++ [c.next]
      | .proceedScan slot =>
        if system.scans.length < c.system.scans.length then c.scanIds.eraseIdx slot else c.scanIds
      | _ => c.scanIds
    guardIds :=
      match a with
      | .enter => c.guardIds ++ [c.next]
      | .leave => c.guardIds.eraseIdx (choice % c.guardIds.length)
      | _ => c.guardIds
    awaited :=
      match a with
      | .ask _ => c.awaited ++ [c.live]
      | .proceed slot | .abandon slot =>
        if system.activities.length < c.system.activities.length then c.awaited.eraseIdx slot
        else c.awaited
      | _ => c.awaited
    landed := c.landed.filterMap (Landing.after? a) ++ c.landing a
    next := c.next + 1 }

/-- The census after some actions, each with the choice of a caller. -/
def run (c : Census) (actions : List (Action × Nat)) : Census :=
  actions.foldl (fun c a => c.step a.1 a.2) c

@[simp] lemma run_nil (c : Census) : c.run [] = c := rfl

@[simp] lemma run_cons (c : Census) (a : Action × Nat) (actions : List (Action × Nat)) :
    c.run (a :: actions) = (c.step a.1 a.2).run actions := rfl

/-- Keeping a census does not change what happens. -/
lemma system_run (c : Census) (actions : List (Action × Nat)) :
    (c.run actions).system = c.system.run (actions.map (·.1)) := by
  induction actions generalizing c with
  | nil => rfl
  | cons a actions ih => exact ih (c.step a.1 a.2)

/-- The census is right about a system. -/
structure Sound (c : Census) : Prop where
  wellFormed : c.system.registry.WellFormed
  scans : c.scanIds.length = c.system.scans.length
  guards : c.guardIds.length = c.system.guards
  counter : c.system.workspace.scans = c.live.length
  activities : c.awaited.length = c.system.activities.length
  fresh : ∀ i ∈ c.live, i < c.next
  distinct : c.live.Nodup
  asked : ∀ ids ∈ c.awaited, ∀ i ∈ ids, i < c.next
  /-- A question that is past the barrier has outlived all that it had to wait for. -/
  past : ∀ (slot : Nat) (a : Activity) (ids : List Nat),
    c.system.activities[slot]? = some a → c.awaited[slot]? = some ids → a.isWhole = true →
      a.atBarrier = false → ∀ i ∈ ids, i ∉ c.live
  landed : ∀ l ∈ c.landed, l.Holds c.system.registry

end Census

namespace System

/-- What an action may do to the list of activities. -/
inductive Moves (s : System) : Action → List Activity → Prop
  | asked (q : Question) : Moves s (.ask q) (s.activities ++ [q.activity])
  | on {slot : Nat} {b b' : Activity} {w : Workspace} (there : s.activities[slot]? = some b)
      (turn : b.step? s.workspace = some (w, .more b')) :
      Moves s (.proceed slot) (s.activities.set slot b')
  | ended {a : Action} {slot : Nat} (there : slot < s.activities.length)
      (action : a = .proceed slot ∨ a = .abandon slot) : Moves s a (s.activities.eraseIdx slot)
  | still {a : Action} (action : ∀ q, a ≠ .ask q) : Moves s a s.activities

/-- What an action may do to the list of scans. -/
inductive Scans (s : System) : Action → List Scan → Prop
  | started (roots : List Path) : Scans s (.startScan roots) (s.scans ++ [.announcing roots])
  | ended {slot : Nat} (there : slot < s.scans.length) :
      Scans s (.proceedScan slot) (s.scans.eraseIdx slot)
  | still {a : Action} {scans : List Scan} (action : ∀ roots, a ≠ .startScan roots)
      (count : scans.length = s.scans.length) : Scans s a scans

variable {s : System} {a : Action}

lemma moves_step (s : System) (a : Action) : s.Moves a (s.step a).activities := by
  have hstill : (s.step a).activities = s.activities → (∀ q, a ≠ .ask q) →
      s.Moves a (s.step a).activities := fun h hask => by rw [h]; exact .still hask
  cases a with
  | ask q => exact .asked q
  | proceed slot =>
    cases hb : s.activities[slot]? with
    | none => exact hstill (by simp only [step, hb]) fun q h => by cases h
    | some b =>
      rcases hturn : b.step? s.workspace with _ | ⟨w, b' | answer⟩
      · exact hstill (by simp only [step, hb, hturn]) fun q h => by cases h
      · simp only [step, hb, hturn]
        exact .on hb hturn
      · simp only [step, hb, hturn]
        exact .ended (List.getElem?_eq_some_iff.mp hb).1 (.inl rfl)
  | abandon slot =>
    by_cases hlt : slot < s.activities.length
    · exact .ended hlt (.inr rfl)
    · exact hstill (List.eraseIdx_of_length_le (Nat.not_lt.mp hlt)) fun q h => by cases h
  | _ =>
    refine hstill ?_ fun q h => by cases h
    first
    | rfl
    | simp only [step]; split <;> rfl
    | simp only [step]; split; rfl; split <;> rfl

lemma scans_step (s : System) (a : Action) : s.Scans a (s.step a).scans := by
  have hstill : (s.step a).scans.length = s.scans.length → (∀ roots, a ≠ .startScan roots) →
      s.Scans a (s.step a).scans := fun h hstart => .still hstart h
  cases a with
  | startScan roots => exact .started roots
  | proceedScan slot =>
    cases hscan : s.scans[slot]? with
    | none => exact hstill (by simp only [step, hscan]) fun roots h => by cases h
    | some scan =>
      rcases hturn : scan.step? s.workspace with _ | ⟨w, events, scan' | report⟩
      · exact hstill (by simp only [step, hscan, hturn]) fun roots h => by cases h
      · exact hstill (by simp only [step, hscan, hturn, List.length_set]) fun roots h => by cases h
      · simp only [step, hscan, hturn]
        exact .ended (List.getElem?_eq_some_iff.mp hscan).1
  | proceedLoad slot choice =>
    refine hstill ?_ fun roots h => by cases h
    simp only [step]
    split
    · rfl
    · split
      · rfl
      · exact List.length_set
  | _ =>
    refine hstill ?_ fun roots h => by cases h
    first
    | rfl
    | simp only [step]; split <;> rfl
    | simp only [step]; split; rfl; split <;> rfl

/-- Scans and callers that make questions wait, together. -/
def holding (s : System) : Nat := s.scans.length + s.guards

/-- The counter of a workspace is the number of all that hold questions back. -/
lemma counter_step (hr : s.registry.WellFormed) (h : s.workspace.scans = s.holding) (a : Action) :
    (s.step a).workspace.scans = (s.step a).holding := by
  have hr : s.workspace.registry.WellFormed := hr
  cases a with
  | openDocument uri language version text =>
    simp only [step, Workspace.openDocument]
    cases (Kind.ofLanguage? language <|> Kind.ofUri? uri) <;> exact h
  | proceed slot =>
    simp only [step]
    cases s.activities[slot]? with
    | none => exact h
    | some b =>
      dsimp only
      rcases hturn : b.step? s.workspace with _ | ⟨w, b' | answer⟩
      · exact h
      all_goals
        rw [Activity.step?_eq hr hturn]
        exact h
  | startScan roots =>
    simp only [step, Workspace.enterScan, holding, List.length_append, List.length_singleton]
    rw [h, holding]
    omega
  | proceedScan slot =>
    simp only [step]
    cases hscan : s.scans[slot]? with
    | none => exact h
    | some scan =>
      dsimp only
      rcases hturn : scan.step? s.workspace with _ | ⟨w, events, scan' | report⟩
      · exact h
      · have hw := congrArg Workspace.scans (Scan.step?_spec hturn).1
        simp only [holding, List.length_set]
        exact hw.trans h
      · have hw : w.scans = _ - 1 := congrArg Workspace.scans (Scan.step?_spec hturn).1
        have hlt := (List.getElem?_eq_some_iff.mp hscan).1
        simp only [holding, List.length_eraseIdx, if_pos hlt] at h ⊢
        omega
  | proceedLoad slot choice =>
    simp only [step]
    rcases s.scans[slot]? with _ | scan
    · exact h
    · dsimp only
      rcases hturn : scan.loadStep? choice s.workspace with _ | ⟨w, scan'⟩
      · exact h
      · have hw : w.scans = s.workspace.scans := by
          obtain ⟨_, _, _, _, _, -, -, ⟨_, hload, -⟩ | ⟨_, hload, -⟩⟩ :=
              Scan.loadStep?_spec hturn <;>
            rw [(Load.step?_eq hr hload).1]
        simp only [holding, List.length_set]
        exact hw.trans h
  | enter =>
    simp only [step, Workspace.enterScan, holding]
    rw [h, holding]
    omega
  | leave =>
    simp only [step]
    split
    · exact h
    · next hg =>
      simp only [Workspace.leaveScan, holding] at h ⊢
      omega
  | _ => exact h

/-- An opening that is not a close leaves a document registered, be it a new one. -/
lemma registered_of_replaces {uri : Uri} (hr : s.registry.WellFormed)
    (ha : a.replaces uri = true) (hc : a.closes uri = false) :
    ∃ d, (s.step a).registry.get? uri = some d := by
  have hcreate : ∀ kind version text, s.operations a = [.create uri kind version text] →
      ∃ d, (s.step a).registry.get? uri = some d := by
    intro kind version text hops
    rw [registry_step hr, hops]
    refine ⟨.new s.registry.nextId uri kind version text, ?_⟩
    refine (Registry.get?_eq_some (hr.run _)).mpr ⟨?_, rfl⟩
    show _ ∈ (s.registry.apply (.create uri kind version text)).documents
    exact (Registry.mem_documents_apply hr).mpr (.inl rfl)
  cases a with
  | openDocument u language version text =>
    obtain ⟨rfl, hk⟩ : u = uri ∧ _ := of_decide_eq_true ha
    obtain ⟨kind, hkind⟩ := Option.isSome_iff_exists.mp hk
    exact hcreate kind version text (by simp only [operations, hkind])
  | create u kind version text =>
    obtain rfl : u = uri := of_decide_eq_true ha
    exact hcreate kind version text rfl
  | closeDocument u | remove u => simp_all [Action.replaces, Action.closes]
  | _ => cases ha

end System

/-- A document that a scan has loaded stays registered until it is closed. -/
lemma Landing.Holds.step {s : System} {a : Action} {l l' : Landing} (hr : s.registry.WellFormed)
    (h : l.Holds s.registry) (hl : l.after? a = some l') : l'.Holds (s.step a).registry := by
  obtain ⟨d, hd, hid⟩ := h
  unfold Landing.after? at hl
  split at hl
  · cases hl
  · next hc =>
    split at hl
    · next ha =>
      cases hl
      obtain ⟨e, he⟩ := System.registered_of_replaces hr ha (Bool.eq_false_iff.mpr hc)
      exact ⟨e, he, fun id h => nomatch h⟩
    · next ha =>
      cases hl
      obtain ⟨e, he, hg⟩ :=
        System.step_of_registered hr (Bool.eq_false_iff.mpr ha) hd (Document.Grown.refl d)
      exact ⟨e, he, fun id h => hg.id.trans (hid id h)⟩

namespace Census

variable {c : Census} {a : Action} {choice : Nat}

/-- By an action nothing starts or ends, or one does. -/
lemma live_step (c : Census) (a : Action) (choice : Nat) :
    (c.step a choice).live = c.live ∨ (c.step a choice).live.Perm (c.next :: c.live) ∨
      ∃ i, c.live.Perm (i :: (c.step a choice).live) := by
  cases a with
  | startScan roots =>
    refine .inr (.inl ?_)
    simp only [live, step, List.append_assoc, List.singleton_append]
    exact List.perm_middle
  | enter =>
    refine .inr (.inl ?_)
    simp only [live, step, ← List.append_assoc]
    exact List.perm_append_singleton _ _
  | proceedScan slot =>
    simp only [live, step]
    split
    · by_cases hlt : slot < c.scanIds.length
      · refine .inr (.inr ⟨c.scanIds[slot], ?_⟩)
        exact (List.getElem_cons_eraseIdx_perm hlt).symm.append_right _
      · exact .inl (by rw [List.eraseIdx_of_length_le (Nat.not_lt.mp hlt)])
    · exact .inl rfl
  | leave =>
    simp only [live, step]
    rcases Nat.eq_zero_or_pos c.guardIds.length with h0 | hpos
    · exact .inl (by rw [List.eq_nil_of_length_eq_zero h0]; rfl)
    · have hlt : choice % c.guardIds.length < c.guardIds.length := Nat.mod_lt _ hpos
      refine .inr (.inr ⟨c.guardIds[choice % c.guardIds.length], ?_⟩)
      exact ((List.getElem_cons_eraseIdx_perm hlt).symm.append_left _).trans List.perm_middle
  | _ => exact .inl rfl

lemma mem_live_step {i : Nat} (h : i ∈ (c.step a choice).live) : i ∈ c.live ∨ i = c.next := by
  rcases live_step c a choice with hsame | hnew | ⟨j, hover⟩
  · exact .inl (hsame ▸ h)
  · exact (List.mem_cons.mp (hnew.mem_iff.mp h)).symm
  · exact .inl (hover.mem_iff.mpr (List.mem_cons_of_mem _ h))

lemma nodup_live_step (hnd : c.live.Nodup) (hfresh : ∀ i ∈ c.live, i < c.next) :
    (c.step a choice).live.Nodup := by
  rcases live_step c a choice with hsame | hnew | ⟨j, hover⟩
  · rwa [hsame]
  · exact hnew.nodup_iff.mpr
      (List.nodup_cons.mpr ⟨fun h => Nat.lt_irrefl _ (hfresh _ h), hnd⟩)
  · exact (List.nodup_cons.mp (hover.nodup_iff.mp hnd)).2

lemma length_scanIds_step (h : c.scanIds.length = c.system.scans.length) :
    (c.step a choice).scanIds.length = (c.system.step a).scans.length := by
  have hscans := System.scans_step c.system a
  simp only [step]
  generalize (c.system.step a).scans = scans at hscans
  cases hscans with
  | started roots => simp [h]
  | @ended slot there =>
    have hlt := List.length_eraseIdx_add_one there
    have hlt' := List.length_eraseIdx_add_one (h ▸ there)
    dsimp only
    rw [if_pos (by omega)]
    omega
  | still action count =>
    cases a with
    | startScan roots => exact absurd rfl (action roots)
    | proceedScan slot => simp [count, h]
    | _ => exact h.trans count.symm

lemma length_guardIds_step (h : c.guardIds.length = c.system.guards) :
    (c.step a choice).guardIds.length = (c.system.step a).guards := by
  cases a with
  | enter => simp [step, System.step, h]
  | leave =>
    simp only [step, System.step]
    split
    · next h0 => rw [List.eq_nil_of_length_eq_zero (h.trans h0)]; exact h0.symm
    · next hne =>
      have hlt : choice % c.guardIds.length < c.guardIds.length := Nat.mod_lt _ (by omega)
      have herase := List.length_eraseIdx_add_one hlt
      dsimp only
      omega
  | _ =>
    refine h.trans ?_
    first
    | rfl
    | simp only [System.step]; split <;> rfl
    | simp only [System.step]; split; rfl; split <;> rfl

lemma length_awaited_step (h : c.awaited.length = c.system.activities.length) :
    (c.step a choice).awaited.length = (c.system.step a).activities.length := by
  have hmoves := System.moves_step c.system a
  simp only [step]
  generalize (c.system.step a).activities = activities at hmoves
  cases hmoves with
  | asked q => simp [h]
  | on there turn => simp [h]
  | ended there action =>
    have hlt := List.length_eraseIdx_add_one there
    have hlt' := List.length_eraseIdx_add_one (h ▸ there)
    rcases action with rfl | rfl
    all_goals
      dsimp only
      rw [if_pos (by omega)]
      omega
  | still action =>
    cases a with
    | ask q => exact absurd rfl (action q)
    | _ => simp [h]

lemma asked_step (hasked : ∀ ids ∈ c.awaited, ∀ i ∈ ids, i < c.next)
    (hfresh : ∀ i ∈ c.live, i < c.next) :
    ∀ ids ∈ (c.step a choice).awaited, ∀ i ∈ ids, i < (c.step a choice).next := by
  have hold : ∀ ids ∈ c.awaited, ∀ i ∈ ids, i < c.next + 1 :=
    fun ids hids i hi => Nat.lt_succ_of_lt (hasked ids hids i hi)
  intro ids hids
  simp only [step] at hids ⊢
  split at hids
  · rcases List.mem_append.mp hids with hids | hids
    · exact hold ids hids
    · cases List.mem_singleton.mp hids
      exact fun i hi => Nat.lt_succ_of_lt (hfresh i hi)
  · split at hids
    · exact hold ids (List.mem_of_mem_eraseIdx hids)
    · exact hold ids hids
  · split at hids
    · exact hold ids (List.mem_of_mem_eraseIdx hids)
    · exact hold ids hids
  · exact hold ids hids

/-- Questions get past the barrier only when nothing is under way, and what starts later is
nothing that they had to wait for. -/
lemma past_step (hc : c.Sound) (slot : Nat) (b : Activity) (ids : List Nat)
    (hb : (c.system.step a).activities[slot]? = some b)
    (hids : (c.step a choice).awaited[slot]? = some ids) (hw : b.isWhole = true)
    (hp : b.atBarrier = false) : ∀ i ∈ ids, i ∉ (c.step a choice).live := by
  have hold : ∀ (slot : Nat) (b : Activity), c.system.activities[slot]? = some b →
      c.awaited[slot]? = some ids → b.isWhole = true → b.atBarrier = false →
      ∀ i ∈ ids, i ∉ (c.step a choice).live := by
    intro slot b hb hids hw hp i hi hlive
    rcases mem_live_step hlive with hlive | rfl
    · exact hc.past slot b ids hb hids hw hp i hi hlive
    · exact Nat.lt_irrefl _ (hc.asked ids (List.mem_of_getElem? hids) _ hi)
  have hlen := hc.activities
  have hmoves := System.moves_step c.system a
  simp only [step] at hids
  generalize (c.system.step a).activities = activities at hb hids hmoves
  cases hmoves with
  | asked q =>
    rw [List.getElem?_append] at hb
    split at hb
    · next hlt =>
      rw [List.getElem?_append_left (by omega)] at hids
      exact hold slot b hb hids hw hp
    · cases List.mem_singleton.mp (List.mem_of_getElem? hb)
      rw [Question.atBarrier_of_isWhole hw] at hp
      cases hp
  | @on slot' b₀ b' w there turn =>
    simp only [List.length_set, Nat.lt_irrefl, if_false] at hids
    by_cases hslot : slot' = slot
    · subst hslot
      rw [List.getElem?_set_self (List.getElem?_eq_some_iff.mp there).1] at hb
      cases hb
      obtain ⟨hwhole, -⟩ := Activity.step?_more turn
      cases h₀ : b₀.atBarrier with
      | false => exact hold slot' b₀ there hids (hwhole ▸ hw) h₀
      | true =>
        have hzero := (Activity.isSome_step?_of_atBarrier h₀).mp (by rw [turn]; rfl)
        have hlive : c.live = [] := List.eq_nil_of_length_eq_zero (hc.counter.symm.trans hzero)
        rw [show (c.step (.proceed slot') choice).live = [] from hlive]
        exact fun i _ => List.not_mem_nil
    · rw [List.getElem?_set_ne hslot] at hb
      exact hold slot b hb hids hw hp
  | @ended _ slot' there action =>
    have hlt := List.length_eraseIdx_add_one there
    have hids : (c.awaited.eraseIdx slot')[slot]? = some ids := by
      rcases action with rfl | rfl
      all_goals
        dsimp only at hids
        rwa [if_pos (by omega)] at hids
    rw [List.getElem?_eraseIdx] at hb hids
    split at hb
    · next hlt' => exact hold slot b hb (by rwa [if_pos hlt'] at hids) hw hp
    · next hge => exact hold (slot + 1) b hb (by rwa [if_neg hge] at hids) hw hp
  | still action =>
    have hids : c.awaited[slot]? = some ids := by
      cases a with
      | ask q => exact absurd rfl (action q)
      | proceed slot' | abandon slot' => simpa using hids
      | _ => exact hids
    exact hold slot b hb hids hw hp

lemma landed_step (hc : c.Sound) :
    ∀ l ∈ (c.step a choice).landed, l.Holds (c.system.step a).registry := by
  intro l hl
  rcases List.mem_append.mp hl with hl | hl
  · obtain ⟨l', hl', hafter⟩ := List.mem_filterMap.mp hl
    exact (hc.landed l' hl').step hc.wellFormed hafter
  · unfold landing at hl
    split at hl
    · split at hl
      · obtain ⟨d, hd, rfl⟩ := List.mem_map.mp hl
        obtain ⟨e, he, hs⟩ :=
          System.registered_of_loaded? hc.wellFormed (Option.mem_toList.mp hd)
        exact ⟨e, he, fun id hid => by cases hid; exact hs.id⟩
      · cases hl
    · cases hl

/-- Every action keeps the census right. -/
theorem Sound.step (hc : c.Sound) (a : Action) (choice : Nat) : (c.step a choice).Sound := by
  have hscans : (c.step a choice).scanIds.length = (c.system.step a).scans.length :=
    length_scanIds_step hc.scans
  have hguards : (c.step a choice).guardIds.length = (c.system.step a).guards :=
    length_guardIds_step hc.guards
  have hholding : c.system.workspace.scans = c.system.holding := by
    rw [hc.counter, live, List.length_append, hc.scans, hc.guards, System.holding]
  exact {
    wellFormed := by
      show (c.system.step a).registry.WellFormed
      rw [System.registry_step hc.wellFormed]
      exact hc.wellFormed.run _
    scans := hscans
    guards := hguards
    counter := by
      rw [live, List.length_append, hscans, hguards]
      exact System.counter_step hc.wellFormed hholding a
    activities := length_awaited_step hc.activities
    fresh := fun i hi => by
      rcases mem_live_step hi with hi | rfl
      · exact Nat.lt_succ_of_lt (hc.fresh i hi)
      · exact Nat.lt_succ_self _
    distinct := nodup_live_step hc.distinct hc.fresh
    asked := asked_step hc.asked hc.fresh
    past := past_step hc
    landed := landed_step hc }

lemma sound_ofStorage (storage : Storage) : (ofStorage storage).Sound where
  wellFormed := Registry.wellFormed_empty
  scans := rfl
  guards := rfl
  counter := rfl
  activities := rfl
  fresh _ h := by cases h
  distinct := List.nodup_nil
  asked _ h := by cases h
  past slot a ids h := by simp [ofStorage, System.ofStorage] at h
  landed _ h := by cases h

/-- The census is right whatever is done. -/
theorem Sound.run (hc : c.Sound) (actions : List (Action × Nat)) : (c.run actions).Sound := by
  induction actions generalizing c with
  | nil => exact hc
  | cons a actions ih => exact ih (hc.step a.1 a.2)

/-- **Questions about all documents see what the scans before them have loaded.** In every run, (1)
the counter of the workspace is the number of scans and callers under way; (2) it goes up by one
when one of them starts, and down by one, never from zero, when one ends; (3) a question at the
barrier gets on exactly when none is under way; (4) a question that gets on has outlived all that
were under way when it was asked; (5) every document that a scan has loaded is registered then,
unless it was closed since, and is the same one unless it was opened anew; and (6) the step in which
a question gets on reads each of these documents. -/
theorem questions_outlive_scans (storage : Storage) (actions : List (Action × Nat)) :
    let c := (ofStorage storage).run actions
    let s := c.system
    s = (System.ofStorage storage).run (actions.map (·.1)) ∧
    (c.scanIds.length = s.scans.length ∧ c.guardIds.length = s.guards ∧ c.live.Nodup ∧
      s.workspace.scans = c.live.length) ∧
    (∀ a choice, let c' := c.step a choice
      (c'.live = c.live ∧ c'.system.workspace.scans = s.workspace.scans) ∨
      (c'.live.Perm (c.next :: c.live) ∧
        c'.system.workspace.scans = s.workspace.scans + 1) ∨
      ∃ i, c.live.Perm (i :: c'.live) ∧ s.workspace.scans = c'.system.workspace.scans + 1) ∧
    (∀ q ∈ s.activities, q.atBarrier = true →
      ((q.step? s.workspace).isSome = true ↔ c.live = [])) ∧
    (∀ (slot : Nat) (q : Activity) (ids : List Nat), s.activities[slot]? = some q →
      c.awaited[slot]? = some ids → q.isWhole = true → (q.step? s.workspace).isSome = true →
        ∀ i ∈ ids, i ∉ c.live) ∧
    (∀ l ∈ c.landed, l.Holds s.registry) ∧
    ∀ q ∈ s.activities, ∀ w turn, q.step? s.workspace = some (w, turn) → ∀ l ∈ c.landed, ∃ d,
      s.registry.get? l.uri = some d ∧ (∀ id, l.document? = some id → d.id = id) ∧
        q.Reads s.registry d turn := by
  intro c s
  have hc : c.Sound := (sound_ofStorage storage).run actions
  have hbarrier : ∀ q : Activity, q.atBarrier = true →
      ((q.step? s.workspace).isSome = true ↔ c.live = []) := fun q hq => by
    rw [Activity.isSome_step?_of_atBarrier hq, hc.counter, List.length_eq_zero_iff]
  refine ⟨system_run .., ⟨hc.scans, hc.guards, hc.distinct, hc.counter⟩, fun a choice => ?_,
    fun q _ => hbarrier q, fun slot q ids hq hids hw hstep i hi => ?_, hc.landed,
    fun q _ w turn hstep l hl => ?_⟩
  · intro c'
    have hcounter : c'.system.workspace.scans = c'.live.length := (hc.step a choice).counter
    have hbefore : s.workspace.scans = c.live.length := hc.counter
    rw [hcounter, hbefore]
    rcases live_step c a choice with hsame | hnew | ⟨i, hover⟩
    · exact .inl ⟨hsame, congrArg _ hsame⟩
    · exact .inr (.inl ⟨hnew, hnew.length_eq⟩)
    · exact .inr (.inr ⟨i, hover, hover.length_eq⟩)
  · cases hp : q.atBarrier with
    | true =>
      rw [(hbarrier q hp).mp hstep]
      exact List.not_mem_nil
    | false => exact hc.past slot q ids hq hids hw hp i hi
  · obtain ⟨d, hd, hid⟩ := hc.landed l hl
    have hmem := ((Registry.get?_eq_some hc.wellFormed).mp hd).1
    exact ⟨d, hd, hid, Activity.reads_of_step? hc.wellFormed hmem hstep⟩

end Census

end Contracts
