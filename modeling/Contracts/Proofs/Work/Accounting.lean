import Contracts.Proofs.Store.Counters
import Contracts.Proofs.Store.Persistence
import Contracts.Proofs.Uri.FileKind
import Contracts.Proofs.Work.Alone

/-!
What a scan accounts for.

While a scan is under way, anything else may happen in its workspace, as long as the storage keeps
its files. The loads of the scan finish in any order, and what each comes to is put in a log. The
invariant says that the uris in the log, together with those of the loads that are left, are the
ones that the walks found, each as often as it was found, and that the report counts the log. So
when no load is left, every file that was found is accounted for.
-/

namespace Contracts

open Registry Workspace

/-- Whether an entry is a file with the extension of a document and a uri. -/
def StorageEntry.isDocument (e : StorageEntry) : Bool :=
  e.isFile && (Kind.ofPath? e.path).isSome && (Uri.ofPath? e.path).isSome

namespace Storage

/-- The entries that a storage has below a root, as far as it can be walked. -/
def entries (storage : Storage) (root : Path) : List StorageEntry :=
  match storage.walk [root] with
  | .ok entries => entries
  | _ => []

/-- All roots can be walked. -/
def Walks (storage : Storage) (roots : List Path) : Prop :=
  ∀ root ∈ roots, ∃ entries, storage.walk [root] = .ok entries

end Storage

/-- A document is left alone: it has the same text and has been read and checked as often. One of
which nothing was known is as it was. -/
structure Document.Spared (d e : Document) : Prop where
  text : SameText d e
  reads : e.reads = d.reads
  checks : e.checks = d.checks
  untouched : d.stage = .empty → e = d

/-- Documents are left alone: those that were registered are registered still, and whatever has come
since stands at a uri that had none and is untouched. -/
structure Registry.Undisturbed (r r' : Registry) : Prop where
  kept : ∀ d ∈ r.documents, ∃ e ∈ r'.documents, d.Spared e
  new : ∀ e ∈ r'.documents, (∃ d ∈ r.documents, d.Spared e) ∨
    r.get? e.uri = none ∧ e.version = 0 ∧ e.stage = .empty ∧ e.reads = 0 ∧ e.checks = 0
  detached : r'.detached = r.detached

/-- No document is taken out. -/
def Registry.Lasts (r r' : Registry) : Prop :=
  ∀ uri, (r.get? uri).isSome = true → (r'.get? uri).isSome = true

namespace Workspace

/-- What may happen while a scan is under way: anything that leaves the files in the storage as
they are. -/
structure Elsewhere (w w' : Workspace) : Prop where
  storage : w'.storage = w.storage
  wellFormed : w.registry.WellFormed → w'.registry.WellFormed

/-- Nothing happens to the documents and the files. -/
def Idle (w w' : Workspace) : Prop := w'.registry = w.registry ∧ w'.storage = w.storage

lemma Idle.elsewhere {w w' : Workspace} (h : Idle w w') : Elsewhere w w' :=
  ⟨h.2, fun hr => h.1 ▸ hr⟩

end Workspace

namespace Scan

/-- What the load at `choice` comes to in its next step, if it is done then. -/
def outcome? (choice : Nat) (w : Workspace) : Scan → Option (Uri × Except Error Document)
  | .loading _ _ pending =>
    match pending[choice]? with
    | none => none
    | some (uri, load) =>
      match load.step? w uri with
      | some (_, .done x) => some (uri, x)
      | _ => none
  | _ => none

/-- A scan of some roots is under way, with the log of what its loads have come to. Between its
steps the rest of the workspace gets on. -/
inductive During (rest : Workspace → Workspace → Prop) (roots : List Path) (w₀ : Workspace) :
    Workspace → Scan → List (Uri × Except Error Document) → Prop
  | start : During rest roots w₀ w₀.enterScan (.announcing roots) []
  | rest {w w' : Workspace} {s : Scan} {log : List (Uri × Except Error Document)}
      (h : During rest roots w₀ w s log) (hrest : rest w w') : During rest roots w₀ w' s log
  | lead {w w' : Workspace} {s s' : Scan} {log : List (Uri × Except Error Document)}
      {told : List ScanEvent} (h : During rest roots w₀ w s log)
      (hstep : s.step? w = some (w', told, .more s')) : During rest roots w₀ w' s' log
  | load {w w' : Workspace} {s s' : Scan} {log : List (Uri × Except Error Document)}
      (h : During rest roots w₀ w s log) (choice : Nat)
      (hstep : s.loadStep? choice w = some (w', s')) :
      During rest roots w₀ w' s' (log ++ (s.outcome? choice w).toList)

/-- What a scan makes of a registry that an earlier scan, with a log, has left: it leaves the
documents alone, and registers again what that one had loaded and somebody has taken out. If nothing
was taken out, it changes nothing. -/
structure Repeats (log : List (Uri × Except Error Document)) (r r' : Registry) : Prop where
  undisturbed : r.Undisturbed r'
  again : ∀ uri, r.get? uri = none → (r'.get? uri).isSome = true → ∃ d, (uri, .ok d) ∈ log
  same : (∀ p ∈ log, p.2.isOk = true → (r.get? p.1).isSome = true) → r' = r

/-- What was found is still to be loaded, or is in the log, which the report counts. -/
structure Balanced (storage : Storage) (uris : List Uri) (report : ScanReport)
    (landed : List Bool) (pending : List (Uri × Load))
    (log : List (Uri × Except Error Document)) : Prop where
  rightful : ∀ p ∈ pending, p.2.Rightful p.1
  accounted : (log.map (·.1) ++ pending.map (·.1)).Perm uris
  discovered : report.discovered = uris.length
  loaded : report.loaded + landed.count true = log.countP (·.2.isOk)
  failed : report.failed + landed.count false = log.countP (!·.2.isOk)
  missed : ∀ uri e, (uri, .error e) ∈ log → storage.document uri = .error e

/-- Where a scan of some roots stands, with its log. -/
def Stands (storage : Storage) (roots : List Path) :
    Scan → List (Uri × Except Error Document) → Prop
  | .announcing left, log => left = roots ∧ log = []
  | .walking left found, log =>
    log = [] ∧ ∃ done, roots = done ++ left ∧ storage.found done = .ok found
  | .loading report landed pending, log =>
    ∃ uris, storage.found roots = .ok uris ∧ Balanced storage uris report landed pending log

end Scan

/-! ### What walks find -/

namespace Storage

variable {storage : Storage} {roots more : List Path} {uris found : List Uri} {uri : Uri}
  {e : StorageEntry} {x : Error}

/-- The uris of entries are those of the documents among them. -/
lemma map_filterMap_documentUri? (es : List StorageEntry) :
    (es.filterMap Scan.documentUri?).map some =
      (es.filter (·.isDocument)).map fun e => Uri.ofPath? e.path := by
  induction es with
  | nil => rfl
  | cons e es ih =>
    rw [List.filterMap_cons, List.filter_cons]
    cases he : Scan.documentUri? e with
    | none =>
      have hnot : e.isDocument = false := by
        unfold Scan.documentUri? at he
        unfold StorageEntry.isDocument
        split at he
        · simp [he]
        · next hfile => simpa using fun h1 h2 => absurd ⟨h1, h2⟩ hfile
      rw [hnot]
      exact ih
    | some uri =>
      unfold Scan.documentUri? at he
      split at he
      · next hfile => simp [StorageEntry.isDocument, hfile, he, ih]
      · cases he

/-- The documents of roots that can all be walked. -/
lemma found_of_walks (h : storage.Walks roots) :
    storage.found roots = .ok ((roots.flatMap storage.entries).filterMap Scan.documentUri?) := by
  induction roots with
  | nil => rfl
  | cons root roots ih =>
    obtain ⟨entries, hentries⟩ := h root List.mem_cons_self
    rw [found, hentries, ih fun r hr => h r (List.mem_cons_of_mem _ hr)]
    simp [Except.map, Storage.entries, hentries]

lemma found_append (h : storage.found roots = .ok uris) :
    storage.found (roots ++ more) = (storage.found more).map (uris ++ ·) := by
  induction roots generalizing uris with
  | nil =>
    cases h
    cases hm : storage.found more <;> simp [hm, Except.map]
  | cons root roots ih =>
    rw [found] at h
    rw [List.cons_append, found]
    split at h
    · cases hrest : storage.found roots with
      | error e => rw [hrest] at h; cases h
      | ok rest =>
        rw [hrest] at h
        cases h
        rw [ih hrest]
        cases storage.found more <;> simp [Except.map]
    · cases h
    · cases h

end Storage

/-! ### What loads do to documents -/

namespace Document.Spared

variable {d e f : Document}

lemma refl (d : Document) : d.Spared d := ⟨.refl d, rfl, rfl, fun _ => rfl⟩

lemma trans (h : d.Spared e) (h' : e.Spared f) : d.Spared f where
  text := h.text.trans h'.text
  reads := h'.reads.trans h.reads
  checks := h'.checks.trans h.checks
  untouched hempty := by
    have he := h.untouched hempty
    exact (h'.untouched (he ▸ hempty)).trans he

/-- The load of a file does no more to a document than that a profile has come. -/
lemma load (r : Registry) (d : Document) {uri : Uri} {kind : Kind} {text : String} :
    d.Spared ((Operation.load uri kind text).effect r d) := by
  have heffect : (Operation.load uri kind text).effect r d =
      d.forgetOnArrival ((Operation.load uri kind text).bringsProfile r) := by
    simp [Operation.effect, Operation.bystander, Operation.outlines, Operation.invalidated?]
  rw [heffect]
  obtain ⟨hchecks, hreads, -⟩ := @Document.forgetOnArrival_frame d
    ((Operation.load uri kind text).bringsProfile r)
  exact ⟨sameText_forgetOnArrival, hreads, hchecks, forgetOnArrival_of_empty⟩

end Document.Spared

namespace Registry.Undisturbed

variable {r r' r'' : Registry} {uri : Uri} {kind : Kind} {text : String}

lemma refl (r : Registry) : r.Undisturbed r where
  kept d hd := ⟨d, hd, .refl d⟩
  new d hd := .inl ⟨d, hd, .refl d⟩
  detached := rfl

/-- The document of a file is registered where there is none. -/
lemma load (hr : r.WellFormed) : r.Undisturbed (r.apply (.load uri kind text)) where
  kept d hd := ⟨_, (mem_documents_apply hr).mpr (.inr ⟨d, hd, rfl, rfl⟩), .load r d⟩
  new e he := by
    rcases (mem_documents_apply hr).mp he with harr | ⟨d, hd, -, rfl⟩
    · right
      simp only [Operation.arrival?] at harr
      split at harr
      · next hnone => cases harr; exact ⟨hnone, rfl, rfl, rfl, rfl⟩
      · cases harr
    · exact .inl ⟨d, hd, .load r d⟩
  detached := by
    cases hg : r.get? uri with
    | none => exact (detached_createIfAbsent_of_none hg).1
    | some d => rw [apply, createIfAbsent_of_some hg]

lemma lasts (h : r.Undisturbed r') : r.Lasts r' := by
  intro uri hsome
  obtain ⟨d, hd⟩ := Option.isSome_iff_exists.mp hsome
  obtain ⟨e, he, hspared⟩ := h.kept d (List.mem_of_find?_eq_some hd)
  have huri : d.uri = uri := by simpa using List.find?_some hd
  by_contra hnone
  exact get?_eq_none.mp (Option.not_isSome_iff_eq_none.mp hnone) e he (hspared.text.uri.trans huri)

lemma trans (h : r.Undisturbed r') (h' : r'.Undisturbed r'') : r.Undisturbed r'' where
  kept d hd := by
    obtain ⟨e, he, hde⟩ := h.kept d hd
    obtain ⟨f, hf, hef⟩ := h'.kept e he
    exact ⟨f, hf, hde.trans hef⟩
  new f hf := by
    rcases h'.new f hf with ⟨e, he, hef⟩ | ⟨hnone, hrest⟩
    · rcases h.new e he with ⟨d, hd, hde⟩ | hnew
      · exact .inl ⟨d, hd, hde.trans hef⟩
      · -- it came in between, and has been left alone since
        obtain rfl := hef.untouched hnew.2.2.1
        exact .inr hnew
    · refine .inr ⟨?_, hrest⟩
      by_contra hsome
      have hthere := h.lasts f.uri (Option.isSome_iff_ne_none.mpr hsome)
      rw [hnone] at hthere
      cases hthere
  detached := h'.detached.trans h.detached

end Registry.Undisturbed

namespace Scan

variable {storage : Storage} {roots : List Path} {uris : List Uri} {w w' w₀ v : Workspace}
  {s s' : Scan} {report : ScanReport} {landed : List Bool} {pending : List (Uri × Load)}
  {log : List (Uri × Except Error Document)} {choice : Nat} {told : List ScanEvent}
  {rest : Workspace → Workspace → Prop}

/-- A step of a load is one of a load that is left: it goes on, or is through with what it came
to. -/
lemma loadStep?_cases (h : s.loadStep? choice w = some (w', s')) :
    ∃ report landed pending uri load, s = .loading report landed pending ∧
      pending[choice]? = some (uri, load) ∧
      ((∃ next, load.step? w uri = some (w', .more next) ∧ s.outcome? choice w = none ∧
          s' = .loading report landed (pending.set choice (uri, next))) ∨
        ∃ x, load.step? w uri = some (w', .done x) ∧ s.outcome? choice w = some (uri, x) ∧
          s' = .loading report (landed ++ [x.isOk]) (pending.eraseIdx choice)) := by
  obtain ⟨report, landed, pending, uri, load, rfl, hp, hstep⟩ := loadStep?_spec h
  refine ⟨report, landed, pending, uri, load, rfl, hp, ?_⟩
  simp only [outcome?, hp]
  rcases hstep with ⟨next, hload, rfl⟩ | ⟨x, hload, rfl⟩ <;> rw [hload]
  · exact .inl ⟨next, rfl, rfl, rfl⟩
  · exact .inr ⟨x, rfl, rfl, rfl⟩

lemma storage_loadStep? (hr : w.registry.WellFormed) (h : s.loadStep? choice w = some (w', s')) :
    w'.storage = w.storage := by
  obtain ⟨_, _, _, _, _, -, -, ⟨_, hload, -⟩ | ⟨_, hload, -⟩⟩ := loadStep?_cases h <;>
    rw [(Load.step?_eq hr hload).1]

namespace Balanced

/-- A scan begins to load what it found. -/
lemma start (uris : List Uri) :
    Balanced storage uris ⟨uris.length, 0, 0⟩ [] (uris.map fun uri => (uri, .lookup)) [] where
  rightful p hp := by
    obtain ⟨u, -, rfl⟩ := List.mem_map.mp hp
    trivial
  accounted := by simp [Function.comp_def]
  discovered := rfl
  loaded := rfl
  failed := rfl
  missed _ _ hmem := nomatch hmem

/-- A load that is through is counted. -/
lemma counted {succeeded : Bool}
    (h : Balanced storage uris report (succeeded :: landed) pending log) :
    Balanced storage uris (count report succeeded).1 landed pending log := by
  have hloaded := h.loaded
  have hfailed := h.failed
  refine ⟨h.rightful, h.accounted, ?_, ?_, ?_, h.missed⟩ <;>
    cases succeeded <;> simp [count, h.discovered] at hloaded hfailed ⊢ <;> omega

/-- A step of a load keeps the balance. -/
lemma loadStep? (h : Balanced storage uris report landed pending log)
    (hw : w.storage = storage) (hs : s = .loading report landed pending)
    (hstep : s.loadStep? choice w = some (w', s')) :
    ∃ landed' pending', s' = .loading report landed' pending' ∧
      Balanced storage uris report landed' pending' (log ++ (s.outcome? choice w).toList) := by
  obtain ⟨_, _, _, uri, load, rfl, hp, hstep⟩ := loadStep?_cases hstep
  cases hs
  have hright := h.rightful _ (List.mem_of_getElem? hp)
  rcases hstep with ⟨next, hload, hnone, rfl⟩ | ⟨x, hload, hsome, rfl⟩
  · refine ⟨landed, _, rfl, ?_⟩
    obtain ⟨-, -, -, -, hnext⟩ := Load.step?_spec hright hload
    have hsame := map_fst_set hp next
    rw [hnone, Option.toList_none, List.append_nil]
    refine { h with rightful := fun p hmem => ?_, accounted := hsame ▸ h.accounted }
    rcases List.mem_or_eq_of_mem_set hmem with hold | rfl
    · exact h.rightful p hold
    · exact hnext
  · refine ⟨_, _, rfl, ?_⟩
    rw [hsome, Option.toList_some]
    have hloaded := h.loaded
    have hfailed := h.failed
    refine ⟨fun p hmem => h.rightful p (List.mem_of_mem_eraseIdx hmem), ?_, h.discovered, ?_, ?_,
      fun u e hmem => ?_⟩
    · refine .trans ?_ h.accounted
      rw [List.map_append, List.append_assoc]
      exact (map_fst_eraseIdx_perm hp).symm.append_left _
    · cases hx : x.isOk <;> simp [hx] <;> omega
    · cases hx : x.isOk <;> simp [hx] <;> omega
    · rcases List.mem_append.mp hmem with hold | hnew
      · exact h.missed u e hold
      · obtain ⟨rfl, rfl⟩ := Prod.mk.inj (List.mem_singleton.mp hnew)
        exact hw ▸ (Load.step?_spec hright hload).2.1

end Balanced

/-- What holds while a scan of some roots is under way. -/
structure Accounts (storage : Storage) (roots : List Path) (w : Workspace) (s : Scan)
    (log : List (Uri × Except Error Document)) : Prop where
  source : w.storage = storage
  wellFormed : w.registry.WellFormed
  stands : s.Stands storage roots log

namespace Accounts

/-- A step of the scan itself changes nothing but the scan. -/
lemma lead (h : Accounts storage roots w s log)
    (hstep : s.step? w = some (w', told, .more s')) : Accounts storage roots w' s' log := by
  have hsame := (measure_step? hstep).1
  refine ⟨hsame ▸ h.source, hsame ▸ h.wellFormed, ?_⟩
  have hstands := h.stands
  rcases s with left | ⟨_ | ⟨root, left⟩, found⟩ | ⟨report, _ | ⟨succeeded, landed⟩, pending⟩
  · cases hstep
    obtain ⟨rfl, rfl⟩ := hstands
    exact ⟨rfl, [], rfl, rfl⟩
  · cases hstep
    obtain ⟨rfl, done, rfl, hfound⟩ := hstands
    exact ⟨found, by rwa [List.append_nil], .start found⟩
  · simp only [step?] at hstep
    split at hstep
    · split at hstep
      · next entries hentries =>
        cases hstep
        obtain ⟨rfl, done, rfl, hfound⟩ := hstands
        refine ⟨rfl, done ++ [root], by simp, ?_⟩
        rw [h.source] at hentries
        rw [Storage.found_append hfound, Storage.found, hentries]
        simp [Storage.found, Except.map]
      · cases hstep
      · cases hstep
    · cases hstep
  · cases pending <;> cases hstep
  · cases hstep
    obtain ⟨uris, hfound, hbalanced⟩ := hstands
    exact ⟨uris, hfound, hbalanced.counted⟩

/-- While a scan loads, what it found is in balance with its log. -/
lemma balanced (h : Accounts storage roots w s log) (hs : s = .loading report landed pending) :
    ∃ uris, storage.found roots = .ok uris ∧
      Balanced storage uris report landed pending log := by
  subst hs
  exact h.stands

lemma load (h : Accounts storage roots w s log)
    (hstep : s.loadStep? choice w = some (w', s')) :
    Accounts storage roots w' s' (log ++ (s.outcome? choice w).toList) := by
  have hwf := wellFormed_loadStep? h.wellFormed hstep
  have hstorage := storage_loadStep? h.wellFormed hstep
  obtain ⟨report, landed, pending, -, -, hs, -⟩ := loadStep?_cases hstep
  obtain ⟨uris, hfound, hbalanced⟩ := h.balanced hs
  obtain ⟨landed', pending', rfl, hbalanced'⟩ := hbalanced.loadStep? h.source hs hstep
  exact ⟨hstorage.trans h.source, hwf, uris, hfound, hbalanced'⟩

/-- A scan ends with the report of its log, or with the failure of a walk and nothing loaded. -/
lemma ended {x : Except Error ScanReport} (h : Accounts storage roots w s log)
    (hstep : s.step? w = some (v, told, .done x)) : v = w.leaveScan ∧
      match storage.found roots with
      | .ok uris => x = .ok ⟨uris.length, log.countP (·.2.isOk), log.countP (!·.2.isOk)⟩ ∧
          (log.map (·.1)).Perm uris ∧
          ∀ uri e, (uri, .error e) ∈ log → storage.document uri = .error e
      | .error e => x = .error e := by
  have hstands := h.stands
  rcases s with left | ⟨_ | ⟨root, left⟩, found⟩ |
    ⟨report, _ | ⟨succeeded, landed⟩, _ | ⟨p, pending⟩⟩
  · cases hstep
  · cases hstep
  · obtain ⟨-, done, rfl, hfound⟩ := hstands
    simp only [step?, h.source] at hstep
    rw [Storage.found_append hfound, Storage.found]
    split at hstep
    · cases hwalk : storage.walk [root] with
      | ok entries =>
        rw [hwalk] at hstep
        cases hstep
      | failed failure =>
        rw [hwalk] at hstep
        cases hstep
        exact ⟨rfl, rfl⟩
      | crashed =>
        rw [hwalk] at hstep
        cases hstep
        exact ⟨rfl, rfl⟩
    · cases hstep
  · cases hstep
    obtain ⟨uris, hfound, hbalanced⟩ := hstands
    rw [hfound]
    refine ⟨rfl, ?_, by simpa using hbalanced.accounted, hbalanced.missed⟩
    have hloaded := hbalanced.loaded
    have hfailed := hbalanced.failed
    rw [List.count_nil, Nat.add_zero] at hloaded hfailed
    rw [← hbalanced.discovered, ← hloaded, ← hfailed]
  · cases hstep
  · cases hstep
  · cases hstep

/-- Where all roots can be walked, the report counts the documents among all entries. -/
lemma over_of_walks {x : Except Error ScanReport} (h : Accounts storage roots w s log)
    (hwalks : storage.Walks roots) (hstep : s.step? w = some (v, told, .done x)) :
    let documents := (roots.flatMap storage.entries).filter (·.isDocument)
    x = .ok ⟨documents.length, log.countP (·.2.isOk), log.countP (!·.2.isOk)⟩ ∧
      log.countP (·.2.isOk) + log.countP (!·.2.isOk) = documents.length ∧
      (log.map fun p => some p.1).Perm (documents.map fun e => Uri.ofPath? e.path) := by
  intro documents
  have hend := (h.ended hstep).2
  rw [Storage.found_of_walks hwalks] at hend
  obtain ⟨hx, hperm, -⟩ := hend
  have hmap := Storage.map_filterMap_documentUri? (roots.flatMap storage.entries)
  have hlength := congrArg List.length hmap
  rw [List.length_map, List.length_map] at hlength
  have hcount : log.countP (·.2.isOk) + log.countP (!·.2.isOk) = log.length := by
    simpa using (List.length_eq_countP_add_countP (l := log) (·.2.isOk)).symm
  have hlog := hperm.length_eq
  rw [List.length_map] at hlog
  have hpaired := hperm.map some
  rw [hmap, List.map_map] at hpaired
  exact ⟨hlength ▸ hx, hcount.trans (hlog.trans hlength), hpaired⟩

end Accounts

namespace During

lemma accounts (h : During rest roots w₀ w s log) (hrest : ∀ w w', rest w w' → Elsewhere w w')
    (hr : w₀.registry.WellFormed) : Accounts w₀.storage roots w s log := by
  induction h with
  | start => exact ⟨rfl, hr, rfl, rfl⟩
  | rest _ hstep ih =>
    obtain ⟨hstorage, hwf⟩ := hrest _ _ hstep
    exact ⟨hstorage.trans ih.source, hwf ih.wellFormed, ih.stands⟩
  | lead _ hstep ih => exact ih.lead hstep
  | load _ choice hstep ih => exact ih.load hstep

/-- A scan comes to its end, whatever has happened before, once it is left alone with a storage that
answers. -/
lemma exists_end (h : During rest roots w₀ w s log) (hready : w.storageReady = true) :
    ∃ w' s' log' v told x, During rest roots w₀ w' s' log' ∧
      s'.step? w' = some (v, told, .done x) := by
  induction hn : s.measure w using Nat.strong_induction_on generalizing w s log with
  | _ n ih =>
    subst hn
    rcases exists_step (s := s) hready with hlead | hload
    · obtain ⟨⟨w', told, s' | x⟩, hstep⟩ := Option.isSome_iff_exists.mp hlead
      · obtain ⟨rfl, hless⟩ := measure_step? hstep
        exact ih _ hless (h.lead hstep) hready rfl
      · exact ⟨w, s, log, w', told, x, h, hstep⟩
    · obtain ⟨⟨w', s'⟩, hfirst⟩ := Option.isSome_iff_exists.mp hload
      obtain ⟨choice, hstep⟩ := loadStep?_of_first hfirst
      obtain ⟨hsame, hless⟩ := measure_loadStep? hstep
      exact ih _ hless (h.load choice hstep) (hsame.trans hready) rfl

end During

end Scan

namespace System

end System

namespace Scan

variable {w w₀ v : Workspace} {s : Scan} {roots : List Path} {told : List ScanEvent}
  {log : List (Uri × Except Error Document)} {x : Except Error ScanReport} {storage : Storage}
  {uri : Uri} {uris : List Uri}

/-- A profile, a map that cannot be read, and a file that is no document. -/
def overlapping : Storage :=
  let files := ["/ws/weather.supr", "/ws/maps/weather.suma", "/ws/README.md"]
  MemoryFiles.storage ⟨files.map fun f => (.ofText f, ""), [], [.ofText "/ws/maps/weather.suma"],
    [], [], []⟩

end Scan

end Contracts
