import Contracts.Proofs.Work.Erasure

/-!
Calls that are refused.

A call that the workspace answers at one go is refused before anything is done. A question ends in
an error only after some turns, but until then it has changed nothing, unless it is a search, which
is never refused. A scan fails while it walks its roots, and it registers documents only after that.
So a run with a refused call is the run of the others alone.
-/

namespace Contracts

/-- An error that says nothing of what the text of a document is like: the call was not admitted, or
the storage did not serve it. -/
def Error.isRefusal : Error → Bool
  | .unreadable _ | .malformedOutline => false
  | _ => true

namespace System

/-- The error that a call ends in which is answered at one go. -/
def refusal? (s : System) : Action → Option Error
  | .openDocument uri language version text =>
    errorOf (s.workspace.openDocument uri language version text).1
  | .changeDocument uri edits version => errorOf (s.workspace.changeDocument uri edits version).1
  | .closeDocument uri => errorOf (s.workspace.closeDocument uri).1
  | .update uri edits version => errorOf (s.registry.update uri edits version).1
  | .remove uri => errorOf (s.registry.remove uri).1
  | _ => none
where
  errorOf {α : Type} : Except Error α → Option Error
    | .ok _ => none
    | .error e => some e

end System

/-! ### Calls that are refused at once -/

namespace Registry

variable {r : Registry} {uri : Uri} {e : Error}

lemma update_of_refused {edits : List Edit} {version : Int}
    (h : (r.update uri edits version).1 = .error e) : (r.update uri edits version).2 = r := by
  cases hd : r.get? uri with
  | none => rw [update_of_none hd]
  | some d =>
    rw [update_of_some hd] at h ⊢
    by_cases hv : version ≤ d.version
    · rw [if_pos hv]
    · rw [if_neg hv] at h
      cases h

lemma remove_of_refused (h : (r.remove uri).1 = .error e) : (r.remove uri).2 = r := by
  cases hd : r.get? uri with
  | none => rw [remove_of_none hd]
  | some d =>
    rw [remove_of_some hd] at h
    cases h

end Registry

namespace Workspace

variable {w : Workspace} {uri : Uri} {e : Error}

lemma openDocument_of_refused {language text : String} {version : Int}
    (h : (w.openDocument uri language version text).1 = .error e) :
    (w.openDocument uri language version text).2 = w := by
  unfold openDocument at h ⊢
  split at h
  · rfl
  · cases h

lemma changeDocument_of_refused {edits : List Edit} {version : Int}
    (h : (w.changeDocument uri edits version).1 = .error e) :
    (w.changeDocument uri edits version).2 = w :=
  congrArg (fun r => { w with registry := r }) (Registry.update_of_refused h)

lemma closeDocument_of_refused (h : (w.closeDocument uri).1 = .error e) :
    (w.closeDocument uri).2 = w :=
  congrArg (fun r => { w with registry := r }) (Registry.remove_of_refused h)

end Workspace

/-! ### Questions that are refused -/

lemma Load.quiet {w w' : Workspace} {uri : Uri} {load : Load}
    {turn : Turn Load (Except Error Document)} (h : load.step? w uri = some (w', turn))
    (hturn : ∀ d, turn ≠ .done (.ok d)) : w' = w := by
  cases load with
  | lookup =>
    simp only [Load.step?] at h
    split at h
    · next d _ =>
      cases h
      exact absurd rfl (hturn d)
    · split at h
      · cases h; rfl
      · split at h <;> cases h <;> rfl
  | reading kind path =>
    simp only [Load.step?] at h
    split at h
    · split at h
      · cases h
        exact absurd rfl (hturn _)
      · cases h; rfl
      · cases h; rfl
    · cases h

/-- Diagnostics fail only where the outline has no namespace. -/
lemma Registry.diagnose_error {r : Registry} {d : Document} {e : Error}
    (h : (r.diagnose d).1 = .error e) : e = .malformedOutline := by
  unfold Registry.diagnose at h
  split at h
  · cases h
  · dsimp only at h
    split at h
    · split at h
      · cases h; rfl
      · cases h
    · cases h
    · cases h; rfl

lemma Document.isRefusal_of_namespaceKey {d : Document} {e : Error}
    (h : d.namespaceKey.1 = .error e) : e.isRefusal = false := by
  unfold Document.namespaceKey at h
  split at h
  · cases h; rfl
  · split at h
    · cases h
    · cases h; rfl

/-- Asking for the dependents of a uri is refused only where nothing is done. -/
lemma Workspace.dependentsOf_refused {w : Workspace} {uri : Uri} {e : Error}
    (h : (w.dependentsOf uri).1 = .error e) (he : e.isRefusal = true) :
    (w.dependentsOf uri).2 = w := by
  unfold Workspace.dependentsOf at h ⊢
  cases hd : w.registry.get? uri with
  | none => rfl
  | some d =>
    rw [hd] at h
    dsimp only at h ⊢
    cases hkind : d.kind with
    | map => rfl
    | profile =>
      rw [hkind] at h
      dsimp only at h
      have hkey := (Activity.namespaceKey_eq (r := w.registry) (d := d)).1
      split at h
      · cases h
      · cases h
      · next hn =>
        cases h
        rw [hn] at hkey
        rw [Document.isRefusal_of_namespaceKey hkey.symm] at he
        cases he

namespace Activity

def isSearch : Activity → Bool
  | .search _ _ => true
  | _ => false

variable {w w' : Workspace} {x x' : Activity} {uri : Uri} {load : Load}
  {turn : Turn Activity (Except Error Answer)}

/-- What leaves a question open, or refuses it. -/
def Declines (turn : Turn Activity (Except Error Answer)) : Prop :=
  ∀ answer, turn = .done answer → ∃ e, answer = .error e ∧ e.isRefusal = true

lemma quiet_afterLoad {again : Load → Activity}
    {next : Workspace → Document → Workspace × Except Error Answer}
    (hnext : ∀ w d e, (next w d).2 = .error e → e.isRefusal = false)
    (h : afterLoad (load.step? w uri) again next = some (w', turn)) (hturn : Declines turn) :
    w' = w := by
  rcases hload : load.step? w uri with _ | ⟨w₁, stage | (e | d)⟩
  · rw [hload] at h
    cases h
  · rw [hload] at h
    cases h
    exact Load.quiet hload (by simp)
  · rw [hload] at h
    cases h
    exact Load.quiet hload (by simp)
  · rw [hload] at h
    cases h
    obtain ⟨e, he, hrefusal⟩ := hturn _ rfl
    rw [hnext _ _ e he] at hrefusal
    cases hrefusal

/-- Until it is refused, a question other than a search changes nothing. -/
lemma quiet (hx : x.isSearch = false) (h : x.step? w = some (w', turn)) (hturn : Declines turn) :
    w' = w := by
  cases x with
  | load uri stage =>
    simp only [step?] at h
    exact quiet_afterLoad (by simp) h hturn
  | outline uri stage =>
    simp only [step?] at h
    refine quiet_afterLoad (fun w d e he => ?_) h hturn
    dsimp only at he
    split at he <;> cases he
    rfl
  | diagnostics uri stage =>
    cases stage with
    | none =>
      simp only [step?] at h
      split at h <;> cases h
      rfl
    | some stage =>
      simp only [step?] at h
      refine quiet_afterLoad (fun w d e he => ?_) h hturn
      cases hd : (w.registry.diagnose d).1 with
      | error e' =>
        rw [hd] at he
        cases he
        rw [Registry.diagnose_error hd]
        rfl
      | ok ds =>
        rw [hd] at he
        cases he
  | search query stage => cases hx
  | dependents uri =>
    simp only [step?] at h
    split at h
    · cases h
      obtain ⟨e, he, hrefusal⟩ := hturn _ rfl
      cases hd : (w.dependentsOf uri).1 with
      | error e' =>
        rw [hd] at he
        cases he
        exact Workspace.dependentsOf_refused hd hrefusal
      | ok uris =>
        rw [hd] at he
        cases he
    · cases h
  | barrier =>
    simp only [step?] at h
    split at h <;> cases h
    rfl

lemma isSearch_of_more (hx : x.isSearch = false) (h : x.step? w = some (w', .more x')) :
    x'.isSearch = false := by
  have hagain : ∀ {uri load again next}, (∀ stage, (again stage).isSearch = false) →
      afterLoad (Load.step? w uri load) again next = some (w', .more x') →
      x'.isSearch = false := by
    intro uri load again next hsearch h
    rcases hload : load.step? w uri with _ | ⟨w₁, stage | (e | d)⟩ <;> rw [hload] at h <;> cases h
    exact hsearch stage
  cases x with
  | load uri stage | outline uri stage =>
    simp only [step?] at h
    exact hagain (fun _ => rfl) h
  | diagnostics uri stage =>
    cases stage with
    | none =>
      simp only [step?] at h
      split at h <;> cases h
      rfl
    | some stage =>
      simp only [step?] at h
      exact hagain (fun _ => rfl) h
  | search query stage => cases hx
  | dependents uri | barrier =>
    simp only [step?] at h
    split at h <;> cases h

end Activity

/-! ### Scans that fail -/

lemma Scan.isLoading_of_loadStep? {w w' : Workspace} {x x' : Scan} {choice : Nat}
    (h : x.loadStep? choice w = some (w', x')) : x.isLoading = true ∧ x'.isLoading = true := by
  obtain ⟨_, _, _, _, _, rfl, -, ⟨_, -, rfl⟩ | ⟨_, -, rfl⟩⟩ := loadStep?_spec h
  · exact ⟨rfl, rfl⟩
  · exact ⟨rfl, rfl⟩

/-! ### Runs -/

namespace System

section

variable {s base : System} {slot : Nat} {x : Activity} {actions : List Action} {w : Workspace}
  {e : Error}

namespace Beside

/-- A turn of its own that leaves a question open. -/
lemma proceed_open (h : Beside s base slot x) (hx : x.isSearch = false)
    (hopen : ∀ w answer, s.turn? slot ≠ some (w, .done answer)) :
    ∃ x', x'.isSearch = false ∧ Beside (s.step (.proceed slot)) base slot x' := by
  rcases hturn : s.turn? slot with _ | ⟨w, x' | answer⟩
  · rw [step_proceed_waiting hturn]
    exact ⟨x, hx, h⟩
  · rw [step_proceed_more hturn]
    rw [h.turn?_self] at hturn
    obtain rfl : w = s.workspace := Activity.quiet hx hturn (by simp [Activity.Declines])
    exact ⟨x', Activity.isSearch_of_more hx hturn, by rw [h.rest], h.extra.set_self x'⟩
  · exact absurd hturn (hopen w answer)

/-- The turn in which a question is refused. -/
lemma proceed_refused (h : Beside s base slot x) (hx : x.isSearch = false)
    (hturn : s.turn? slot = some (w, .done (.error e))) (he : e.isRefusal = true) :
    s.step (.proceed slot) = base := by
  rw [step_proceed_done hturn]
  rw [h.turn?_self] at hturn
  obtain rfl : w = s.workspace :=
    Activity.quiet hx hturn fun answer hanswer => by cases hanswer; exact ⟨e, rfl, he⟩
  rw [h.extra.eraseIdx_self, h.rest]

/-- **A refused question** leaves no trace in a run, whatever others do meanwhile. -/
lemma unseen (h : Beside s base slot x) (hx : x.isSearch = false)
    (hend : (s.withoutActivity slot actions).2 = some (.error e)) (he : e.isRefusal = true) :
    Unseen s base (fun actions => (s.withoutActivity slot actions).1) actions := by
  induction actions generalizing s base slot x with
  | nil => cases hend
  | cons a actions ih =>
    by_cases ha : a.activity? = some slot
    · cases a with
      | proceed other =>
        cases ha
        by_cases hopen : ∀ w answer, s.turn? slot ≠ some (w, .done answer)
        · obtain ⟨x', hx', h'⟩ := h.proceed_open hx hopen
          rw [withoutActivity_open hopen] at hend
          exact .cons [] (ih h' hx' hend) h.workspace_eq rfl
            fun actions => congrArg Prod.fst (withoutActivity_open hopen)
        · push Not at hopen
          obtain ⟨w, answer, hturn⟩ := hopen
          rw [withoutActivity_done hturn] at hend
          cases hend
          have hover := h.proceed_refused hx hturn he
          exact .cons [] (hover ▸ .refl _ actions) h.workspace_eq rfl
            fun actions => congrArg Prod.fst (withoutActivity_done hturn)
      | abandon other =>
        cases ha
        rw [withoutActivity_abandon] at hend
        cases hend
      | _ => cases ha
    · rw [withoutActivity_other ha] at hend
      exact .cons [a.besideActivity slot] (ih (h.step ha) hx hend) h.workspace_eq rfl
        fun actions => congrArg Prod.fst (withoutActivity_other ha)

end Beside

end

section

variable {s base : System} {slot choice : Nat} {x : Scan} {actions : List Action} {w : Workspace}
  {events : List ScanEvent} {report : Except Error ScanReport} {e : Error}

namespace BesideScan

/-- A step of a scan, or of one of its loads, that does not end it. -/
lemma on (h : BesideScan s base slot x) (w : Workspace) (x' : Scan) :
    BesideScan { s with workspace := w, scans := s.scans.set slot x' }
      { base with workspace := w } slot x' :=
  ⟨by rw [h.rest], h.extra.set_self x', h.guards⟩

/-- A turn of its own that does not end a scan. -/
lemma proceedScan_open (h : BesideScan s base slot x)
    (hopen : ∀ w events report, s.scanTurn? slot ≠ some (w, events, .done report)) :
    ∃ x', BesideScan (s.step (.proceedScan slot)) base slot x' := by
  rcases hturn : s.scanTurn? slot with _ | ⟨w, events, x' | report⟩
  · rw [step_proceedScan_waiting hturn]
    exact ⟨x, h⟩
  · rw [step_proceedScan_more hturn]
    rw [h.scanTurn?_self] at hturn
    obtain rfl : w = base.workspace := (Scan.step?_spec hturn).1.trans h.workspace_eq
    exact ⟨x', h.on base.workspace x'⟩
  · exact absurd hturn (hopen w events report)

/-- When the scan is over, the caller in its place leaves. -/
lemma proceedScan_done (h : BesideScan s base slot x)
    (hturn : s.scanTurn? slot = some (w, events, .done report)) :
    s.step (.proceedScan slot) = base.run [.leave] := by
  have hactivities : s.activities = base.activities := by rw [h.rest]
  rw [step_proceedScan_done hturn]
  rw [h.scanTurn?_self] at hturn
  obtain rfl := (Scan.step?_spec hturn).1
  rw [run_cons, run_nil, step_leave_of_ne (by rw [h.guards]; exact Nat.succ_ne_zero _),
    h.extra.eraseIdx_self, h.workspace_eq, h.guards, hactivities]
  rfl

/-- A scan that has not begun to load has no loads that could get on. -/
lemma proceedLoad_waiting (h : BesideScan s base slot x) (hx : x.isLoading = false) :
    s.step (.proceedLoad slot choice) = s := by
  rcases hturn : s.pendingTurn? slot choice with _ | ⟨w, b⟩
  · exact step_proceedLoad_waiting hturn
  · rw [pendingTurn?, h.extra.getElem?_self, Option.bind_some] at hturn
    rw [(Scan.isLoading_of_loadStep? hturn).1] at hx
    cases hx

/-- A scan that has begun to load does not fail any more. -/
lemma ne_error_of_isLoading (h : BesideScan s base slot x) (hx : x.isLoading = true) :
    (s.withoutScan slot actions).2 ≠ some (.error e) := by
  induction actions generalizing s base slot x with
  | nil => nofun
  | cons a actions ih =>
    by_cases ha : a.scan? = some slot
    · cases a with
      | proceedScan other =>
        cases ha
        rcases hturn : s.scanTurn? slot with _ | ⟨w, events, b | report⟩
        · rw [withoutScan_open (by simp [hturn]), step_proceedScan_waiting hturn]
          exact ih h hx
        · rw [withoutScan_open (by simp [hturn]), step_proceedScan_more hturn]
          rw [h.scanTurn?_self] at hturn
          exact ih (h.on w b) ((Scan.step?_spec hturn).2 hx)
        · rw [withoutScan_done hturn]
          rw [h.scanTurn?_self] at hturn
          obtain ⟨r, rfl⟩ := (Scan.step?_spec hturn).2 hx
          simp
      | proceedLoad other choice =>
        cases ha
        rw [withoutScan_load]
        rcases hturn : s.pendingTurn? slot choice with _ | ⟨w, b⟩
        · rw [step_proceedLoad_waiting hturn]
          exact ih h hx
        · rw [step_proceedLoad_on hturn]
          obtain ⟨y, -, hload⟩ := Option.bind_eq_some_iff.mp hturn
          exact ih (h.on w b) (Scan.isLoading_of_loadStep? hload).2
      | _ => cases ha
    · by_cases hleave : a = .leave
      · subst hleave
        by_cases hguards : s.guards = 0
        · rw [withoutScan_leave_idle hguards, step_leave_idle hguards]
          exact ih h hx
        · rw [withoutScan_leave hguards]
          exact ih (h.leave hguards) hx
      · rw [withoutScan_other ha hleave]
        exact ih (h.step ha hleave) hx

/-- **A scan that fails** leaves what a caller leaves who makes questions wait for the same time. -/
lemma unseen (h : BesideScan s base slot x) (hx : x.isLoading = false)
    (hend : (s.withoutScan slot actions).2 = some (.error e)) :
    Unseen s base (fun actions => (s.withoutScan slot actions).1) actions := by
  induction actions generalizing s base slot x with
  | nil => cases hend
  | cons a actions ih =>
    by_cases ha : a.scan? = some slot
    · cases a with
      | proceedScan other =>
        cases ha
        by_cases hopen : ∀ w events report, s.scanTurn? slot ≠ some (w, events, .done report)
        · obtain ⟨x', h'⟩ := h.proceedScan_open hopen
          rw [withoutScan_open hopen] at hend
          -- the run ends in an error, so this step was not the one that begins to load
          have hx' : x'.isLoading = false :=
            Bool.eq_false_iff.mpr fun hloading => h'.ne_error_of_isLoading hloading hend
          exact .cons [] (ih h' hx' hend) h.workspace_eq rfl
            fun actions => congrArg Prod.fst (withoutScan_open hopen)
        · push Not at hopen
          obtain ⟨w, events, report, hturn⟩ := hopen
          exact .cons [.leave] (h.proceedScan_done hturn ▸ .refl _ actions) h.workspace_eq rfl
            fun actions => congrArg Prod.fst (withoutScan_done hturn)
      | proceedLoad other choice =>
        cases ha
        rw [withoutScan_load] at hend
        exact .cons [] (ih ((h.proceedLoad_waiting hx).symm ▸ h) hx hend) h.workspace_eq rfl
          fun actions => congrArg Prod.fst withoutScan_load
      | _ => cases ha
    · by_cases hleave : a = .leave
      · subst hleave
        by_cases hguards : s.guards = 0
        · rw [withoutScan_leave_idle hguards] at hend
          exact .cons [] (ih ((step_leave_idle hguards).symm ▸ h) hx hend) h.workspace_eq rfl
            fun actions => congrArg Prod.fst (withoutScan_leave_idle hguards)
        · rw [withoutScan_leave hguards] at hend
          exact .cons [.leave] (ih (h.leave hguards) hx hend) h.workspace_eq rfl
            fun actions => congrArg Prod.fst (withoutScan_leave hguards)
      · rw [withoutScan_other ha hleave] at hend
        exact .cons [a.besideScan slot] (ih (h.step ha hleave) hx hend) h.workspace_eq rfl
          fun actions => congrArg Prod.fst (withoutScan_other ha hleave)

end BesideScan

end

/-! ### All calls -/

section

variable {s : System} {uri : Uri} {edits : List Edit} {version : Int} {e : Error}

/-- A change is refused where no document is registered, and where its version is not greater than
the one that the document has. -/
lemma refusal?_changeDocument :
    s.refusal? (.changeDocument uri edits version) = some e ↔
      s.registry.get? uri = none ∧ e = .notFound uri ∨
      ∃ d, s.registry.get? uri = some d ∧ version ≤ d.version ∧
        e = .versionOutOfOrder uri d.version version := by
  have hsame : s.refusal? (.changeDocument uri edits version) =
      refusal?.errorOf (s.registry.update uri edits version).1 := rfl
  rw [hsame]
  cases hd : s.registry.get? uri with
  | none => simp [Registry.update_of_none hd, refusal?.errorOf, eq_comm]
  | some d =>
    have huri : d.uri = uri := by simpa using List.find?_some hd
    by_cases hv : version ≤ d.version
    · simp [Registry.update_of_some hd, hv, refusal?.errorOf, huri, eq_comm]
    · simp [Registry.update_of_some hd, hv, refusal?.errorOf]

/-- A call that is answered at one go is refused before anything is done. -/
lemma step_of_refusal? {a : Action} (h : s.refusal? a = some e) : s.step a = s := by
  have herror : ∀ {α : Type} {r : Except Error α}, refusal?.errorOf r = some e → r = .error e := by
    rintro α (error | value) h
    · exact congrArg _ (Option.some.inj h)
    · cases h
  cases a with
  | openDocument uri language version text =>
    simp only [step, Workspace.openDocument_of_refused (herror h)]
  | changeDocument uri edits version =>
    simp only [step, Workspace.changeDocument_of_refused (herror h)]
  | closeDocument uri => simp only [step, Workspace.closeDocument_of_refused (herror h)]
  | update uri edits version =>
    simp only [step, Registry.update_of_refused (herror h)]
    rfl
  | remove uri =>
    simp only [step, Registry.remove_of_refused (herror h)]
    rfl
  | _ => cases h

lemma beside_ask (s : System) (q : Question) :
    Beside (s.step (.ask q)) s s.activities.length q.activity :=
  ⟨rfl, Extra.last _ _⟩

lemma besideScan_startScan (s : System) (roots : List Path) :
    BesideScan (s.step (.startScan roots)) (s.step .enter) s.scans.length (.announcing roots) :=
  ⟨rfl, Extra.last _ _, rfl⟩

/-- **Refused calls leave no trace.** A call that is answered at one go and refused leaves the
system as it was, and a change is refused exactly if there is no document for it or its version is
not greater than that of the document. A run with a question that is refused in it is the run of the
others alone, and a run with a scan that fails is the run of the others with a caller who makes
questions wait as long as the scan is under way. -/
theorem refused_leaves_no_trace (s : System) :
    (∀ a e, s.refusal? a = some e → s.step a = s) ∧
    (∀ uri edits version e, s.refusal? (.changeDocument uri edits version) = some e ↔
      s.registry.get? uri = none ∧ e = .notFound uri ∨
      ∃ d, s.registry.get? uri = some d ∧ version ≤ d.version ∧
        e = .versionOutOfOrder uri d.version version) ∧
    (∀ q actions e, q.activity.isSearch = false → e.isRefusal = true →
      ((s.step (.ask q)).withoutActivity s.activities.length actions).2 = some (.error e) →
      Unseen (s.step (.ask q)) s
        (fun actions => ((s.step (.ask q)).withoutActivity s.activities.length actions).1)
        actions) ∧
    ∀ roots actions e,
      ((s.step (.startScan roots)).withoutScan s.scans.length actions).2 = some (.error e) →
      Unseen (s.step (.startScan roots)) (s.step .enter)
        (fun actions => ((s.step (.startScan roots)).withoutScan s.scans.length actions).1)
        actions :=
  ⟨fun _ _ => step_of_refusal?, fun _ _ _ _ => refusal?_changeDocument,
    fun q _ _ hq he hend => (beside_ask s q).unseen hq hend he,
    fun roots _ _ hend => (besideScan_startScan s roots).unseen rfl hend⟩

/-- A storage that nobody may read or walk. -/
def locked : Storage := ⟨fun _ => .failed MemoryFiles.denied, fun _ => .failed MemoryFiles.denied⟩

/-- An editor opens a map. Another one is not there to be changed, and this one is changed only to a
greater version. Meanwhile a load may not read another file and a scan may not walk its root. -/
theorem refused_leaves_no_trace_locked :
    let s := ofStorage locked
    s.step (.changeDocument (fileUri "x.suma") [] 2) = s ∧
    (s.run [openMap]).step (.changeDocument (fileUri "w.suma") [] 1) = s.run [openMap] ∧
    s.run [.ask (.load (fileUri "x.suma")), .proceed 0, openMap, .proceed 0] = s.run [openMap] ∧
    s.run [.startScan [.ofText "/ws"], .proceedScan 0, .leave, openMap, .proceedScan 0] =
      s.run [.enter, openMap, .leave] := by
  intro s
  obtain ⟨hcall, hchange, hquestion, hscan⟩ := refused_leaves_no_trace s
  have hmissing := hcall _ _ ((hchange (fileUri "x.suma") [] 2 _).mpr (.inl ⟨rfl, rfl⟩))
  obtain ⟨hcall, hchange, -, -⟩ := refused_leaves_no_trace (s.run [openMap])
  have hversion := hcall _ _ ((hchange (fileUri "w.suma") [] 1 _).mpr (.inr ⟨_, rfl, le_rfl, rfl⟩))
  have hload := hquestion (.load (fileUri "x.suma")) [.proceed 0, openMap, .proceed 0] _ rfl rfl rfl
  have hwalk := hscan [.ofText "/ws"] [.proceedScan 0, .leave, openMap, .proceedScan 0] _ rfl
  exact ⟨hmissing, hversion, hload.ended, hwalk.ended⟩

end

end System

end Contracts
