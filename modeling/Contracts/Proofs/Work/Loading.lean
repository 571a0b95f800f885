import Contracts.Proofs.Store.Persistence
import Contracts.Proofs.Work.System

/-!
Loads that race with editors and with each other.

A load asks the registry, may have to wait for its file, and then registers what it read. Anything
may happen in between: the uri may be opened, edited and closed, and other loads of it may be
through first. The invariant goes by the operations that reach the registry: a document that is
registered stays until it is replaced, and a text that was read finds it there.
-/

namespace Contracts

/-- Whether an action opens `uri`, or takes the document there out. -/
def Action.replaces (uri : Uri) : Action → Bool
  | .openDocument u language _ _ =>
    u = uri ∧ (Kind.ofLanguage? language <|> Kind.ofUri? u).isSome
  | .create u _ _ _ | .closeDocument u | .remove u => u = uri
  | _ => false

/-- The file that a load waits for cannot be read. -/
inductive Load.Fails (w : Workspace) : Load → Error → Prop
  | unread {kind : Kind} {path : Path} {failure : StorageFailure}
      (h : w.storage.read path = .failed failure) :
      Fails w (.reading kind path) (.storage path failure)
  | crashed {kind : Kind} {path : Path} (h : w.storage.read path = .crashed) :
      Fails w (.reading kind path) .crashed

namespace System

/-- The load that gets on with an action, be it asked for, part of another question or of a
scan. -/
def loadAt? (s : System) : Action → Option (Uri × Load)
  | .proceed slot =>
    match s.activities[slot]? with
    | some (.load uri load) | some (.outline uri load) | some (.diagnostics uri (some load)) =>
      some (uri, load)
    | _ => none
  | .proceedLoad slot choice =>
    match s.scans[slot]? with
    | some (.loading _ _ pending) => pending[choice]?
    | _ => none
  | _ => none

/-- The load of `uri` that gets on with an action, and what it comes to. -/
def loadTurn? (s : System) (uri : Uri) (a : Action) :
    Option (Load × Turn Load (Except Error Document)) :=
  match s.loadAt? a with
  | some (u, load) => if u = uri then (load.step? s.workspace uri).map (load, ·.2) else none
  | none => none

/-- The document that a load of `uri` ends with in an action. -/
def loaded? (s : System) (uri : Uri) (a : Action) : Option Document :=
  match s.loadTurn? uri a with
  | some (_, .done (.ok d)) => some d
  | _ => none

/-- The documents that loads of `uri` end with in some actions. -/
def loaded (uri : Uri) : System → List Action → List Document
  | _, [] => []
  | s, a :: actions => (s.loaded? uri a).toList ++ (s.step a).loaded uri actions

/-- The edits of `uri` that are accepted in an action, with their version. -/
def accepted? (s : System) (uri : Uri) : Action → Option (List Edit × Int)
  | .changeDocument u edits version =>
    if u = uri ∧ (s.workspace.changeDocument u edits version).1.isOk then some (edits, version)
    else none
  | .update u edits version =>
    if u = uri ∧ (s.registry.update u edits version).1.isOk then some (edits, version) else none
  | _ => none

/-- The edits of `uri` that are accepted in some actions, in order. -/
def accepted (uri : Uri) : System → List Action → List (List Edit × Int)
  | _, [] => []
  | s, a :: actions => (s.accepted? uri a).toList ++ (s.step a).accepted uri actions

/-- The edits that an action is meant to make at `uri`. -/
def editAt? (uri : Uri) : Action → Option (List Edit × Int)
  | .changeDocument u edits version | .update u edits version =>
    if u = uri then some (edits, version) else none
  | _ => none

end System

/-! ### Which operations an action is made of -/

section Quiet

variable {w : Workspace} {uri u : Uri} {load : Load} {op : Operation}

lemma Load.rewrites_of_mem (h : op ∈ load.operations w u) : op.rewrites uri = false := by
  unfold Load.operations at h
  split at h
  · cases h
  · split at h
    · split at h
      · cases List.mem_singleton.mp h; rfl
      · cases h
    · cases h

lemma Load.rewrites_of_followed {next : Document → Operation}
    (hnext : ∀ d, (next d).rewrites uri = false) (h : op ∈ load.followed w u next) :
    op.rewrites uri = false := by
  unfold Load.followed at h
  split at h
  · cases List.mem_singleton.mp h; exact hnext _
  · cases h

/-- Questions put no text anywhere, but for texts that are read from storage. -/
lemma Activity.rewrites_of_mem {a : Activity} (h : op ∈ a.operations w) :
    op.rewrites uri = false := by
  cases a with
  | load u stage => exact Load.rewrites_of_mem h
  | outline u stage =>
    rcases List.mem_append.mp h with h | h
    · exact Load.rewrites_of_mem h
    · exact Load.rewrites_of_followed (fun _ => rfl) h
  | diagnostics u stage =>
    cases stage with
    | none => cases h
    | some stage =>
      rcases List.mem_append.mp h with h | h
      · exact Load.rewrites_of_mem h
      · exact Load.rewrites_of_followed (fun _ => rfl) h
  | search query stage =>
    rcases stage with _ | ⟨_ | ⟨id, ids⟩, found⟩
    · cases h
    · cases h
    · cases List.mem_singleton.mp h; rfl
  | dependents u =>
    simp only [operations] at h
    split at h
    · split at h
      · cases h
      · split at h
        · cases h
        · rcases List.mem_cons.mp h with rfl | h
          · rfl
          · split at h
            · cases List.mem_singleton.mp h; rfl
            · cases h
    · cases h
  | barrier => cases h

end Quiet

/-- A load of a registered document changes nothing, and ends with that document, unless it waits
for a file that cannot be read. -/
lemma Load.step?_of_registered {w w' : Workspace} {uri : Uri} {d : Document} {load : Load}
    {turn : Turn Load (Except Error Document)} (h : w.registry.get? uri = some d)
    (hstep : load.step? w uri = some (w', turn)) :
    w' = w ∧ (turn = .done (.ok d) ∨ ∃ x, turn = .done (.error x) ∧ load.Fails w x) := by
  cases load with
  | lookup =>
    simp only [Load.step?, h] at hstep
    cases hstep
    exact ⟨rfl, .inl rfl⟩
  | reading kind path =>
    unfold Load.step? at hstep
    dsimp only at hstep
    split at hstep
    · split at hstep
      · rw [Registry.createIfAbsent_of_some h] at hstep
        cases hstep
        exact ⟨rfl, .inl rfl⟩
      · next hf => cases hstep; exact ⟨rfl, .inr ⟨_, rfl, .unread hf⟩⟩
      · next hf => cases hstep; exact ⟨rfl, .inr ⟨_, rfl, .crashed hf⟩⟩
    · cases hstep

namespace System

open Registry Document

variable {s : System} {uri : Uri} {a : Action} {actions : List Action} {op : Operation}
  {d first : Document} {edits : List (List Edit × Int)} {start : Nat}

/-- Only an action that opens, closes or edits a uri puts a text there that is not from storage. -/
lemma rewrites_of_mem (ha : a.replaces uri = false) (hedit : editAt? uri a = none)
    (h : op ∈ s.operations a) : op.rewrites uri = false := by
  have hedit' : ∀ (u : Uri) (changes : List Edit) (version : Int),
      (if u = uri then some (changes, version) else none) = none →
        (Operation.update u changes version).rewrites uri = false := by
    intro u changes version hn
    simpa [Operation.rewrites] using hn
  cases a with
  | openDocument u language version text =>
    simp only [operations] at h
    split at h
    · next kind hk =>
      cases List.mem_singleton.mp h
      have hne : ¬ u = uri := by simpa [Action.replaces, hk] using ha
      exact decide_eq_false hne
    · cases h
  | changeDocument u changes version =>
    cases List.mem_singleton.mp h
    exact hedit' u changes version hedit
  | update u changes version =>
    cases List.mem_singleton.mp h
    exact hedit' u changes version hedit
  | closeDocument u | remove u | create u kind version text =>
    cases List.mem_singleton.mp h
    exact ha
  | findProfile key | mapsTargeting key => cases List.mem_singleton.mp h; rfl
  | proceed slot =>
    simp only [operations] at h
    split at h
    · exact Activity.rewrites_of_mem h
    · cases h
  | proceedLoad slot choice =>
    simp only [operations] at h
    split at h
    · split at h
      · exact Load.rewrites_of_mem h
      · cases h
    · cases h
  | _ => cases h

/-- What an action that edits a uri does to the registry. -/
lemma operations_of_edit {changes : List Edit} {version : Int}
    (h : editAt? uri a = some (changes, version)) :
    s.operations a = [.update uri changes version] ∧
      s.accepted? uri a = if (s.registry.update uri changes version).1.isOk
        then some (changes, version) else none := by
  cases a with
  | changeDocument u changes' version' =>
    simp only [editAt?, Option.ite_none_right_eq_some, Option.some.injEq, Prod.mk.injEq] at h
    obtain ⟨rfl, rfl, rfl⟩ := h
    exact ⟨rfl, if_congr (by simp [Workspace.changeDocument, registry]) rfl rfl⟩
  | update u changes' version' =>
    simp only [editAt?, Option.ite_none_right_eq_some, Option.some.injEq, Prod.mk.injEq] at h
    obtain ⟨rfl, rfl, rfl⟩ := h
    exact ⟨rfl, if_congr (by simp) rfl rfl⟩
  | _ => cases h

lemma accepted?_of_noEdit (h : editAt? uri a = none) : s.accepted? uri a = none := by
  cases a with
  | changeDocument u changes version =>
    simp only [editAt?, ite_eq_right_iff, reduceCtorEq, imp_false] at h
    simp [accepted?, h]
  | update u changes version =>
    simp only [editAt?, ite_eq_right_iff, reduceCtorEq, imp_false] at h
    simp [accepted?, h]
  | _ => rfl

/-! ### A document that is registered -/

/-- One action leaves the document of a uri registered, with an edit at most. -/
lemma step_of_registered (hr : s.registry.WellFormed) (ha : a.replaces uri = false)
    (h : s.registry.get? uri = some d) (hg : Grown first edits d) :
    ∃ e, (s.step a).registry.get? uri = some e ∧
      Grown first (edits ++ (s.accepted? uri a).toList) e := by
  rw [registry_step hr]
  cases hedit : editAt? uri a with
  | none =>
    rw [accepted?_of_noEdit hedit]
    obtain ⟨e, he, hs⟩ := get?_run hr h fun op => rewrites_of_mem ha hedit
    exact ⟨e, he, by simpa using hg.sameText hs⟩
  | some edit =>
    obtain ⟨changes, version⟩ := edit
    obtain ⟨hops, hacc⟩ := operations_of_edit (s := s) hedit
    have hu := ((get?_eq_some hr).mp h).2
    rw [update_of_some h] at hacc
    rw [hops, hacc, Registry.run_cons, Registry.run_nil]
    refine ⟨_, get?_apply hr h rfl, ?_⟩
    by_cases hv : d.version < version
    · rw [if_neg (not_le.mpr hv)]
      simpa [Operation.effect, hu, hv, Except.isOk, Except.toBool] using hg.edited hv
    · rw [if_pos (not_lt.mp hv)]
      have hs : SameText d ((Operation.update uri changes version).effect s.registry d) :=
        sameText_effect (by simp [Operation.edits, hv])
      simpa [Except.isOk, Except.toBool] using hg.sameText hs

lemma loadTurn?_eq_some {load : Load} {turn : Turn Load (Except Error Document)} :
    s.loadTurn? uri a = some (load, turn) ↔
      s.loadAt? a = some (uri, load) ∧ ∃ w, load.step? s.workspace uri = some (w, turn) := by
  unfold loadTurn?
  split
  · next u l hl =>
    rw [hl]
    split
    · next hu =>
      subst hu
      simp only [Option.map_eq_some_iff, Prod.exists, Prod.mk.injEq, Option.some.injEq, true_and]
      constructor
      · rintro ⟨w, t, hstep, rfl, rfl⟩
        exact ⟨rfl, w, hstep⟩
      · rintro ⟨rfl, w, hstep⟩
        exact ⟨w, turn, hstep, rfl, rfl⟩
    · next hu => simp [hu]
  · next hl => simp [hl]

lemma loadTurn?_of_registered (h : s.registry.get? uri = some d) {load : Load}
    {turn : Turn Load (Except Error Document)} (ht : s.loadTurn? uri a = some (load, turn)) :
    turn = .done (.ok d) ∨ ∃ x, turn = .done (.error x) ∧ load.Fails s.workspace x := by
  obtain ⟨-, w, hstep⟩ := loadTurn?_eq_some.mp ht
  exact (Load.step?_of_registered h hstep).2

lemma loaded?_of_registered (h : s.registry.get? uri = some d) {e : Document}
    (he : s.loaded? uri a = some e) : e = d := by
  unfold loaded? at he
  split at he
  · next load x ht =>
    cases he
    rcases loadTurn?_of_registered h ht with hd | ⟨x, hx, -⟩
    · cases hd; rfl
    · cases hx
  · cases he

/-- From one document on, all is as it was left, edits aside, and loads agree on it. -/
lemma run_of_registered (hr : s.registry.WellFormed)
    (hactions : ∀ a ∈ actions, a.replaces uri = false) (h : s.registry.get? uri = some d)
    (hg : Grown first edits d) (ho : s.registry.OnlyArrival uri start first.id) :
    ∃ e, (s.run actions).registry.get? uri = some e ∧
      Grown first (edits ++ s.accepted uri actions) e ∧
      (∀ x ∈ s.loaded uri actions, x.id = first.id) ∧
      (s.run actions).registry.OnlyArrival uri start first.id := by
  induction actions generalizing s d edits with
  | nil => exact ⟨d, h, by simpa [accepted] using hg, fun x hx => (List.not_mem_nil hx).elim, ho⟩
  | cons a actions ih =>
    have ha := hactions a List.mem_cons_self
    have hr' : (s.step a).registry.WellFormed := by rw [registry_step hr]; exact hr.run _
    have ho' : (s.step a).registry.OnlyArrival uri start first.id := by
      rw [registry_step hr]
      refine ho.run hr h fun op hop => ?_
      cases hedit : editAt? uri a with
      | none => exact Operation.replaces_of_rewrites (rewrites_of_mem ha hedit hop)
      | some edit =>
        rw [(operations_of_edit hedit).1] at hop
        cases List.mem_singleton.mp hop
        rfl
    obtain ⟨e, he, hge⟩ := step_of_registered hr ha h hg
    obtain ⟨x, hx, hgx, hloads, honly⟩ :=
      ih hr' (fun b hb => hactions b (List.mem_cons_of_mem _ hb)) he hge ho'
    refine ⟨x, hx, by simpa [accepted] using hgx, fun y hy => ?_, honly⟩
    rcases List.mem_append.mp hy with hy | hy
    · rw [loaded?_of_registered h (Option.mem_toList.mp hy)]
      exact hg.id
    · exact hloads y hy

/-! ### A uri without a document -/

/-- A load that gets on comes before all else that its action does. -/
lemma operations_of_loadAt? {u : Uri} {load : Load} (h : s.loadAt? a = some (u, load)) :
    ∃ more, s.operations a = load.operations s.workspace u ++ more ∧
      ∀ op ∈ more, ∀ uri, op.rewrites uri = false := by
  cases a with
  | proceed slot =>
    simp only [loadAt?] at h
    simp only [operations]
    split at h
    · next hs =>
      cases h
      rw [hs]
      exact ⟨[], (List.append_nil _).symm, fun op hop => by cases hop⟩
    · next hs =>
      cases h
      rw [hs]
      exact ⟨_, rfl, fun op hop uri => Load.rewrites_of_followed (fun _ => rfl) hop⟩
    · next hs =>
      cases h
      rw [hs]
      exact ⟨_, rfl, fun op hop uri => Load.rewrites_of_followed (fun _ => rfl) hop⟩
    · cases h
  | proceedLoad slot choice =>
    simp only [loadAt?] at h
    split at h
    · next hs =>
      simp only [operations, hs, h]
      exact ⟨[], (List.append_nil _).symm, fun op hop => by cases hop⟩
    · cases h
  | _ => cases h

/-- A document that a load ends with is registered then. -/
lemma registered_of_loaded? (hr : s.registry.WellFormed) (h : s.loaded? uri a = some d) :
    ∃ e, (s.step a).registry.get? uri = some e ∧ SameText d e := by
  unfold loaded? at h
  split at h
  · next load x ht =>
    cases h
    obtain ⟨hat, w, hstep⟩ := loadTurn?_eq_some.mp ht
    obtain ⟨more, hops, hmore⟩ := operations_of_loadAt? hat
    obtain ⟨hw, hget⟩ := Load.step?_eq hr hstep
    have hget := hget d rfl
    rw [hw] at hget
    rw [registry_step hr, hops, Registry.run_append]
    exact get?_run (hr.run _) hget fun op hop => hmore op hop uri
  · cases h

lemma accepted?_of_unregistered (h : s.registry.get? uri = none) : s.accepted? uri a = none := by
  cases hedit : editAt? uri a with
  | none => exact accepted?_of_noEdit hedit
  | some edit =>
    rw [(operations_of_edit hedit).2, update_of_none h]
    rfl

/-- By one action the first document may come to a uri, and if so it is from storage. -/
lemma step_of_vacant (hr : s.registry.WellFormed) (ha : a.replaces uri = false)
    (hv : s.registry.Vacant uri start) :
    (s.step a).registry.Vacant uri start ∨ ∃ n kind text d, start ≤ n ∧
      (s.step a).registry.get? uri = some d ∧ SameText (.new n uri kind 0 text) d ∧
      (s.step a).registry.OnlyArrival uri start n := by
  rw [registry_step hr]
  cases hedit : editAt? uri a with
  | none => exact hv.run hr fun op => rewrites_of_mem ha hedit
  | some edit =>
    rw [(operations_of_edit hedit).1]
    have hop : (Operation.update uri edit.1 edit.2).replaces uri = false := rfl
    rcases hv.apply hr hop with hv | ⟨n, kind, text, hle, hget, ho⟩
    · exact .inl hv
    · exact .inr ⟨n, kind, text, _, hle, hget, .refl _, ho⟩

/-- Loads of a uri that nobody opens fail, or agree on the document that came first. -/
lemma run_of_vacant (hr : s.registry.WellFormed)
    (hactions : ∀ a ∈ actions, a.replaces uri = false) (hv : s.registry.Vacant uri start) :
    ((s.run actions).registry.get? uri = none ∧ s.loaded uri actions = []) ∨
    ∃ n kind text d, start ≤ n ∧ (s.run actions).registry.get? uri = some d ∧
      Grown (.new n uri kind 0 text) (s.accepted uri actions) d ∧
      (∀ x ∈ s.loaded uri actions, x.id = n) ∧
      (s.run actions).registry.OnlyArrival uri start n := by
  induction actions generalizing s with
  | nil => exact .inl ⟨hv.unregistered, rfl⟩
  | cons a actions ih =>
    have hrest : ∀ b ∈ actions, b.replaces uri = false :=
      fun b hb => hactions b (List.mem_cons_of_mem _ hb)
    have hr' : (s.step a).registry.WellFormed := by rw [registry_step hr]; exact hr.run _
    have hacc : s.accepted uri (a :: actions) = (s.step a).accepted uri actions := by
      simp [accepted, accepted?_of_unregistered hv.unregistered]
    rw [hacc]
    rcases step_of_vacant hr (hactions a List.mem_cons_self) hv with
      hv' | ⟨n, kind, text, d, hle, hget, hs, ho⟩
    · -- no load can be through yet
      have hnone : s.loaded? uri a = none := by
        by_contra hsome
        obtain ⟨x, hx⟩ := Option.ne_none_iff_exists'.mp hsome
        obtain ⟨e, he, -⟩ := registered_of_loaded? hr hx
        rw [hv'.unregistered] at he
        cases he
      have hloaded : s.loaded uri (a :: actions) = (s.step a).loaded uri actions := by
        simp [loaded, hnone]
      rw [hloaded]
      exact ih hr' hrest hv'
    · obtain ⟨e, he, hg, hloads, honly⟩ :=
        run_of_registered hr' hrest hget ((Grown.refl _).sameText hs) ho
      refine .inr ⟨n, kind, text, e, hle, he, hg, fun x hx => ?_, honly⟩
      rcases List.mem_append.mp hx with hx | hx
      · obtain ⟨y, hy, hxy⟩ := registered_of_loaded? hr (Option.mem_toList.mp hx)
        rw [hget] at hy
        cases hy
        exact hxy.id.symm.trans hs.id
      · exact hloads x hx

/-! ### Whatever happens in between -/

/-- **An editor's copy is never overwritten, and racing loads agree.** As long as a uri is neither
opened again nor closed: (1) the document that was opened stays registered, with the edits that it
accepted, in order and with growing versions, and a load of it ends with that document, unless it
found none before the opening and its file cannot be read; (2) if there was no document at first,
all loads that succeed end with one that came from storage, and no other comes. -/
theorem editor_copy_kept (storage : Storage) (before window : List Action) (uri : Uri)
    (hwindow : ∀ a ∈ window, a.replaces uri = false) :
    let s := (ofStorage storage).run before
    (∀ language version text d w,
      s.workspace.openDocument uri language version text = (.ok d, w) →
      let opened := s.step (.openDocument uri language version text)
      let now := opened.run window
      d.version = version ∧ d.text = text ∧
      ∃ e, now.registry.get? uri = some e ∧ Grown d (opened.accepted uri window) e ∧
        ∀ a load turn, now.loadTurn? uri a = some (load, turn) →
          turn = .done (.ok e) ∨ ∃ x, turn = .done (.error x) ∧ load.Fails now.workspace x) ∧
    (s.registry.get? uri = none →
      ((s.run window).registry.get? uri = none ∧ s.loaded uri window = []) ∨
      ∃ n kind text e, s.registry.nextId ≤ n ∧ (s.run window).registry.get? uri = some e ∧
        Grown (.new n uri kind 0 text) (s.accepted uri window) e ∧
        (∀ d ∈ s.loaded uri window, d.id = n) ∧
        (s.run window).registry.OnlyArrival uri s.registry.nextId n) := by
  intro s
  have hr : s.registry.WellFormed := wellFormed_run storage before
  refine ⟨fun language version text d w hopen => ?_, fun hnone =>
    run_of_vacant hr hwindow (vacant_nextId hr hnone)⟩
  intro opened now
  have hstep : opened.registry = w.registry := by
    show (s.step _).registry = _
    simp only [step, hopen, registry]
  have hr' : opened.registry.WellFormed := by
    show (s.step _).registry.WellFormed
    rw [registry_step hr]
    exact hr.run _
  have hnew : ∃ kind, d = .new s.registry.nextId uri kind version text ∧
      opened.registry = s.registry.apply (.create uri kind version text) := by
    rw [hstep]
    unfold Workspace.openDocument at hopen
    split at hopen
    · cases hopen
    · next kind hk => cases hopen; exact ⟨kind, rfl, rfl⟩
  obtain ⟨kind, rfl, hreg⟩ := hnew
  have hget : opened.registry.get? uri = some (.new s.registry.nextId uri kind version text) := by
    refine (get?_eq_some hr').mpr ⟨?_, rfl⟩
    rw [hreg]
    exact (mem_documents_apply hr).mpr (.inl rfl)
  have honly : opened.registry.OnlyArrival uri opened.registry.nextId s.registry.nextId :=
    fun e he _ hle => absurd (hr'.fresh e he) (Nat.not_lt.mpr hle)
  obtain ⟨e, he, hg, -, -⟩ := run_of_registered hr' hwindow hget (Grown.refl _) honly
  exact ⟨rfl, rfl, e, he, by simpa using hg, fun a load turn ht => loadTurn?_of_registered he ht⟩

/-- The load of a map waits for a file that is not there, and an editor opens the map. -/
def loadWaits : List Action := [.ask (.load (fileUri "w.suma")), .proceed 0]

/-- The load goes on, and then the map is edited. -/
theorem editor_copy_kept_weather :
    let opened := ((ofStorage noFiles).run loadWaits).step
      (.openDocument (fileUri "w.suma") "comlink-map" 1 "")
    let window : List Action := [.proceed 0, .changeDocument (fileUri "w.suma") [] 2]
    (∀ a ∈ window, a.replaces (fileUri "w.suma") = false) ∧
      ∃ e, (opened.run window).registry.get? (fileUri "w.suma") = some e ∧ e.version = 2 := by
  intro opened window
  have hwindow : ∀ a ∈ window, a.replaces (fileUri "w.suma") = false := by decide
  obtain ⟨-, -, e, he, hg, -⟩ :=
    (editor_copy_kept noFiles loadWaits window (fileUri "w.suma") hwindow).1 "comlink-map" 1 "" _ _
      rfl
  exact ⟨hwindow, e, he, hg.version.trans (by decide +kernel)⟩

/-- The map is open in the editor, but the load ends with the error of its file. -/
theorem load_fails_after_opening :
    let opened := ((ofStorage noFiles).run loadWaits).step
      (.openDocument (fileUri "w.suma") "comlink-map" 1 "")
    (opened.registry.get? (fileUri "w.suma")).isSome = true ∧
      ∃ kind path failure, opened.loadTurn? (fileUri "w.suma") (.proceed 0) =
        some (.reading kind path, .done (.error (.storage path failure))) :=
  ⟨by decide +kernel, _, _, _, rfl⟩

end System

end Contracts
