import Contracts.Work.Scan
import Contracts.Proofs.Work.Answers

/-!
Where a scan ends that runs alone.

The loads of a scan get on in any order. The invariant says that each document that was found is
still to be loaded, or is registered as the storage has it, or cannot be loaded at all; so when no
load is left, the registry has been given the same texts whatever the order was.
-/

namespace Contracts

/-- The uris of the documents that a storage has below some roots. -/
def Storage.found (storage : Storage) : List Path → Except Error (List Uri)
  | [] => .ok []
  | root :: roots =>
    match storage.walk [root] with
    | .ok entries => (storage.found roots).map (entries.filterMap Scan.documentUri? ++ ·)
    | .failed failure => .error (.storage root failure)
    | .crashed => .error .crashed

/-- Whether a storage has a document at a uri. -/
def Storage.holds (storage : Storage) (uri : Uri) : Bool := (storage.document uri).isOk

/-- The report of a scan that found some documents and tried to load all of them. -/
def ScanReport.ofFound (storage : Storage) (uris : List Uri) : ScanReport where
  discovered := uris.length
  loaded := uris.countP storage.holds
  failed := uris.countP (!storage.holds ·)

/-- A uri of a file of this machine, as paths have one. -/
def Uri.IsFile (u : Uri) : Prop := ∃ path, u = ⟨"file", some .none, path, none, none⟩

/-- Uris of files have different texts. -/
lemma Uri.IsFile.eq_of_text {u v : Uri} (hu : u.IsFile) (hv : v.IsFile) (h : u.text = v.text) :
    u = v := by
  obtain ⟨p, rfl⟩ := hu
  obtain ⟨q, rfl⟩ := hv
  have hlist := congrArg String.toList h
  simp only [Uri.text, String.toList_append, Option.elim_none, List.append_assoc,
    List.append_cancel_left_eq, List.append_cancel_right_eq] at hlist
  rw [String.toList_inj.mp hlist]

namespace Scan

open Registry Workspace

/-- A scan runs to its end: it does a step itself, or one of its loads does, and before each step
the registry may list its documents in another order. -/
inductive Ends : Workspace → Scan → Workspace → Except Error ScanReport → Prop
  | listing {w v : Workspace} {s : Scan} {x : Except Error ScanReport} {ds : List Document}
      (hperm : ds.Perm w.registry.documents) (hends : Ends (w.listing ds) s v x) : Ends w s v x
  | lead {w w₁ v : Workspace} {s s₁ : Scan} {x : Except Error ScanReport} {told : List ScanEvent}
      (hstep : s.step? w = some (w₁, told, .more s₁)) (hends : Ends w₁ s₁ v x) : Ends w s v x
  | load {w w₁ v : Workspace} {s s₁ : Scan} {x : Except Error ScanReport} (choice : Nat)
      (hstep : s.loadStep? choice w = some (w₁, s₁)) (hends : Ends w₁ s₁ v x) : Ends w s v x
  | done {w v : Workspace} {s : Scan} {x : Except Error ScanReport} {told : List ScanEvent}
      (hstep : s.step? w = some (v, told, .done x)) : Ends w s v x

/-- While a scan is under way, documents with some uris are there as the storage has them, and
nothing is known of their texts. -/
structure Stocked (storage : Storage) (uris : List Uri) (w : Workspace) : Prop where
  source : w.storage = storage
  ready : w.storageReady = true
  assorted : w.registry.Assorted
  empty : ∀ d ∈ w.registry.documents, d.stage = .empty
  drawn : ∀ d ∈ w.registry.documents, d.uri ∈ uris ∧ storage.document d.uri = .ok d.plain

/-- Each document that was found is still to be loaded, or is there, or cannot be loaded; and the
loads that are through are counted, or about to be. -/
structure Covers (storage : Storage) (uris : List Uri) (w : Workspace) (report : ScanReport)
    (landed : List Bool) (pending : List (Uri × Load)) : Prop where
  stocked : Stocked storage uris w
  scans : w.scans = 1
  rightful : ∀ p ∈ pending, p.1 ∈ uris ∧ p.2.Rightful p.1
  accounted : ∀ u ∈ uris, u ∈ pending.map (·.1) ∨ (w.registry.get? u).isSome = true ∨
    storage.holds u = false
  discovered : report.discovered = uris.length
  loaded : report.loaded + landed.count true + (pending.map (·.1)).countP storage.holds =
    uris.countP storage.holds
  failed : report.failed + landed.count false + (pending.map (·.1)).countP (!storage.holds ·) =
    uris.countP (!storage.holds ·)

/-- No scan is under way any more, and the documents with some uris that the storage has are there,
but no other ones. -/
structure Scanned (storage : Storage) (uris : List Uri) (w : Workspace) : Prop where
  stocked : Stocked storage uris w
  scans : w.scans = 0
  complete : ∀ u ∈ uris, (w.registry.get? u).isSome = true ∨ storage.holds u = false

variable {storage : Storage} {uris uris' : List Uri} {w w' v v' : Workspace} {s : Scan}
  {report : ScanReport} {landed : List Bool} {pending : List (Uri × Load)} {choice : Nat}
  {uri : Uri} {load : Load} {ds : List Document} {x x' : Except Error ScanReport}
  {roots : List Path} {found : List Uri} {d p : Document}

lemma holds_of_document (h : storage.document uri = .ok d) : storage.holds uri = true := by
  rw [Storage.holds, h]
  rfl

namespace Stocked

lemma listing (h : Stocked storage uris w) (hds : ds.Perm w.registry.documents) :
    Stocked storage uris (w.listing ds) where
  source := h.source
  ready := h.ready
  assorted := h.assorted.reordered hds
  empty d hd := h.empty d (hds.mem_iff.mp hd)
  drawn d hd := h.drawn d (hds.mem_iff.mp hd)

lemma mono (h : Stocked storage uris w) (huris : ∀ u ∈ uris, u ∈ uris') : Stocked storage uris' w :=
  { h with drawn := fun d hd => ⟨huris _ (h.drawn d hd).1, (h.drawn d hd).2⟩ }

/-- A document that the storage has is registered. -/
lemma arrived {kind : Kind} {text : String} (h : Stocked storage uris w) (hu : uri ∈ uris)
    (hnone : w.registry.get? uri = none)
    (hdoc : storage.document uri = .ok (.new 0 uri kind 0 text)) :
    Stocked storage uris
      { w with registry := (w.registry.createIfAbsent uri kind text).2 } := by
  obtain ⟨-, harrived⟩ := createIfAbsent_of_absent (r := w.registry) h.assorted hnone
  refine ⟨h.source, h.ready, harrived.assorted, harrived.empty h.empty, fun e he => ?_⟩
  have hplain := harrived.plain.mem_iff.mp (List.mem_map_of_mem he)
  rcases List.mem_cons.mp hplain with hnew | hold
  · have huri : e.uri = uri := congrArg Document.uri hnew
    rw [huri, hnew]
    exact ⟨hu, hdoc⟩
  · obtain ⟨e', he', hsame⟩ := List.mem_map.mp hold
    have huri : e'.plain.uri = e.plain.uri := congrArg Document.uri hsame
    rw [← e.plain_uri, ← huri, ← hsame]
    exact h.drawn e' he'

end Stocked

lemma isSome_get?_listing (hds : ds.Perm w.registry.documents) :
    ((w.listing ds).registry.get? uri).isSome = (w.registry.get? uri).isSome := by
  have hplain : (w.listing ds).registry.plain.Perm w.registry.plain := hds.map _
  rw [Bool.eq_iff_iff, get?_isSome_iff, get?_isSome_iff]
  simp only [hplain.mem_iff]

/-- A load that gets on stays the one of its document. -/
lemma map_fst_set (hp : pending[choice]? = some (uri, load)) (next : Load) :
    (pending.set choice (uri, next)).map (·.1) = pending.map (·.1) := by
  obtain ⟨hlt, hget⟩ := List.getElem?_eq_some_iff.mp hp
  rw [List.map_set]
  refine List.ext_getElem (by simp) fun i hi hi' => ?_
  rw [List.getElem_set]
  split
  · next hci => subst hci; simp [hget]
  · rfl

/-- A load that is through is taken from those that are left. -/
lemma map_fst_eraseIdx_perm (hp : pending[choice]? = some (uri, load)) :
    (pending.map (·.1)).Perm (uri :: (pending.eraseIdx choice).map (·.1)) := by
  obtain ⟨hlt, hget⟩ := List.getElem?_eq_some_iff.mp hp
  have hperm := (List.getElem_cons_eraseIdx_perm hlt).symm.map (·.1)
  rwa [hget] at hperm

namespace Covers

lemma listing (h : Covers storage uris w report landed pending)
    (hds : ds.Perm w.registry.documents) :
    Covers storage uris (w.listing ds) report landed pending :=
  { h with
    stocked := h.stocked.listing hds
    accounted := fun u hu => by
      rw [isSome_get?_listing hds]
      exact h.accounted u hu }

/-- A load that is through is counted. -/
lemma counted {succeeded : Bool} (h : Covers storage uris w report (succeeded :: landed) pending) :
    Covers storage uris w (count report succeeded).1 landed pending := by
  have hloaded := h.loaded
  have hfailed := h.failed
  refine { h with discovered := ?_, loaded := ?_, failed := ?_ } <;>
    cases succeeded <;> simp [count, h.discovered] at hloaded hfailed ⊢ <;> omega

/-- A load goes on to the file of its document. -/
lemma reading (h : Covers storage uris w report landed pending)
    (hp : pending[choice]? = some (uri, load)) {next : Load} (hnext : next.Rightful uri) :
    Covers storage uris w report landed (pending.set choice (uri, next)) := by
  have hsame := map_fst_set hp next
  refine { h with rightful := fun p hmem => ?_, accounted := ?_, loaded := ?_, failed := ?_ }
  · rcases List.mem_or_eq_of_mem_set hmem with hold | rfl
    · exact h.rightful p hold
    · exact ⟨(h.rightful _ (List.mem_of_getElem? hp)).1, hnext⟩
  · rw [hsame]; exact h.accounted
  · rw [hsame]; exact h.loaded
  · rw [hsame]; exact h.failed

/-- A load is through: its document is there now, or cannot be loaded. -/
lemma through (h : Covers storage uris w report landed pending)
    (hp : pending[choice]? = some (uri, load)) (hw : Stocked storage uris w')
    (hscans : w'.scans = 1)
    (hkept : ∀ u, (w.registry.get? u).isSome = true → (w'.registry.get? u).isSome = true)
    (hthere : storage.holds uri = true → (w'.registry.get? uri).isSome = true) :
    Covers storage uris w' report (landed ++ [storage.holds uri]) (pending.eraseIdx choice) := by
  have hcons := map_fst_eraseIdx_perm hp
  have hloaded := h.loaded
  have hfailed := h.failed
  rw [hcons.countP_eq, List.countP_cons] at hloaded hfailed
  refine ⟨hw, hscans, fun p hmem => h.rightful p (List.mem_of_mem_eraseIdx hmem), fun u hu => ?_,
    h.discovered, ?_, ?_⟩
  · rcases h.accounted u hu with hpending | hthere' | hnot
    · rcases List.mem_cons.mp (hcons.mem_iff.mp hpending) with rfl | hrest
      · cases hh : storage.holds u with
        | false => exact .inr (.inr rfl)
        | true => exact .inr (.inl (hthere hh))
      · exact .inl hrest
    · exact .inr (.inl (hkept u hthere'))
    · exact .inr (.inr hnot)
  · cases hh : storage.holds uri <;> simp [hh] at hloaded ⊢ <;> omega
  · cases hh : storage.holds uri <;> simp [hh] at hfailed ⊢ <;> omega

end Covers

/-- A step of a load covers what was found, as before. -/
lemma Covers.loadStep? {s₁ : Scan} (h : Covers storage uris w report landed pending)
    (hstep : (Scan.loading report landed pending).loadStep? choice w = some (w', s₁)) :
    ∃ landed' pending', s₁ = .loading report landed' pending' ∧
      Covers storage uris w' report landed' pending' := by
  obtain ⟨_, _, _, uri, load, heq, hp, hturn⟩ := Scan.loadStep?_spec hstep
  cases heq
  obtain ⟨hu, hright⟩ := h.rightful _ (List.mem_of_getElem? hp)
  have hw := h.stocked
  rcases hturn with ⟨next, hload, rfl⟩ | ⟨e | d, hload, rfl⟩
  · obtain ⟨rfl, -, -, -, hnext⟩ := Load.step?_spec hright hload
    exact ⟨_, _, rfl, h.reading hp hnext⟩
  · obtain ⟨rfl, hdoc, -⟩ := Load.step?_spec hright hload
    have hfalse : storage.holds uri = false := by
      rw [Storage.holds, ← hw.source, hdoc]
      rfl
    refine ⟨_, _, rfl, ?_⟩
    have hthrough := h.through hp hw h.scans (fun _ hs => hs) (by simp [hfalse])
    rwa [hfalse] at hthrough
  · rcases Load.step?_spec hright hload with ⟨rfl, hget⟩ | ⟨hnone, kind, text, hdoc, -, rfl⟩
    · obtain ⟨hd, rfl⟩ := hw.assorted.get?_eq_some.mp hget
      have htrue := holds_of_document (hw.drawn d hd).2
      refine ⟨_, _, rfl, ?_⟩
      have hthrough := h.through hp hw h.scans (fun _ hs => hs) fun _ => by simp [hget]
      rwa [htrue] at hthrough
    · rw [hw.source] at hdoc
      have hw₁ := hw.arrived hu hnone hdoc
      obtain ⟨-, harrived⟩ := createIfAbsent_of_absent hw.assorted hnone
      refine ⟨_, _, rfl, ?_⟩
      have hthrough := h.through hp hw₁ h.scans
        (fun u hs => harrived.isSome_get?.mpr (.inr hs))
        fun _ => harrived.isSome_get?.mpr (.inl rfl)
      rwa [holds_of_document hdoc] at hthrough

/-- A scan that has loaded all it can is over. -/
lemma Covers.over (h : Covers storage uris w report [] []) :
    report = .ofFound storage uris ∧ Scanned storage uris w.leaveScan := by
  have hw := h.stocked
  refine ⟨?_, ⟨hw.source, hw.ready, hw.assorted, hw.empty, hw.drawn⟩, ?_, fun u hu => ?_⟩
  · have hdiscovered := h.discovered
    have hloaded := h.loaded
    have hfailed := h.failed
    simp only [List.count_nil, List.map_nil, List.countP_nil, Nat.add_zero] at hloaded hfailed
    rw [ScanReport.ofFound, ← hdiscovered, ← hloaded, ← hfailed]
  · show w.scans - 1 = 0
    rw [h.scans]
  · exact (h.accounted u hu).resolve_left List.not_mem_nil

/-- A scan that loads ends with all that was found. -/
theorem Covers.ends (hends : Ends w s v x) (hs : s = .loading report landed pending)
    (h : Covers storage uris w report landed pending) :
    x = .ok (.ofFound storage uris) ∧ Scanned storage uris v := by
  induction hends generalizing report landed pending with
  | listing hperm _ ih => exact ih hs (h.listing hperm)
  | lead hstep _ ih =>
    subst hs
    rcases landed with _ | ⟨succeeded, landed⟩
    · cases pending <;> simp [step?] at hstep
    · simp only [step?] at hstep
      cases hstep
      exact ih rfl h.counted
  | load choice hstep _ ih =>
    subst hs
    obtain ⟨landed', pending', rfl, h'⟩ := h.loadStep? hstep
    exact ih rfl h'
  | done hstep =>
    subst hs
    rcases landed with _ | ⟨succeeded, landed⟩
    · cases pending with
      | cons p pending => simp [step?] at hstep
      | nil =>
        simp only [step?] at hstep
        cases hstep
        obtain ⟨rfl, hover⟩ := h.over
        exact ⟨rfl, hover⟩
    · simp only [step?] at hstep
      cases hstep

/-! ### Before the loads -/

/-- What a walk of some roots adds to what was found. -/
def reached (storage : Storage) (found : List Uri) (roots : List Path) : Except Error (List Uri) :=
  (storage.found roots).map (found ++ ·)

/-- Nothing is registered yet. -/
structure Bare (storage : Storage) (w : Workspace) : Prop where
  stocked : Stocked storage [] w
  scans : w.scans = 1

lemma Bare.documents (h : Bare storage w) : w.registry.documents = [] :=
  List.eq_nil_iff_forall_not_mem.mpr fun d hd => List.not_mem_nil (h.stocked.drawn d hd).1

/-- A scan begins to load what it found. -/
lemma Bare.covers (h : Bare storage w) (found : List Uri) :
    Covers storage found w ⟨found.length, 0, 0⟩ [] (found.map fun uri => (uri, .lookup)) where
  stocked := h.stocked.mono fun _ hu => nomatch hu
  scans := h.scans
  rightful p hp := by
    obtain ⟨u, hu, rfl⟩ := List.mem_map.mp hp
    exact ⟨hu, trivial⟩
  accounted u hu := .inl (by simpa using hu)
  discovered := rfl
  loaded := by simp [List.map_map, Function.comp_def]
  failed := by simp [List.map_map, Function.comp_def]

lemma Bare.over (h : Bare storage w) : Scanned storage [] w.leaveScan := by
  have hw := h.stocked
  refine ⟨⟨hw.source, hw.ready, hw.assorted, hw.empty, hw.drawn⟩, ?_, fun u hu => nomatch hu⟩
  show w.scans - 1 = 0
  rw [h.scans]

/-- A scan that walks ends with the first failure of a walk, or else with all that is found. -/
lemma Bare.ends_walking (hends : Ends w s v x) (hs : s = .walking roots found)
    (h : Bare storage w) :
    x = (reached storage found roots).map (.ofFound storage) ∧
      Scanned storage ((reached storage found roots).toOption.getD []) v := by
  induction hends generalizing roots found with
  | listing hperm _ ih => exact ih hs ⟨h.stocked.listing hperm, h.scans⟩
  | load choice hstep _ _ =>
    subst hs
    cases hstep
  | lead hstep hafter ih =>
    subst hs
    rcases roots with _ | ⟨root, roots⟩
    · simp only [step?] at hstep
      cases hstep
      have hreached : reached storage found [] = .ok found := by
        simp [reached, Storage.found, Except.map]
      rw [hreached]
      exact (h.covers found).ends hafter rfl
    · simp only [step?, if_pos h.stocked.ready, h.stocked.source] at hstep
      split at hstep
      · next entries hentries =>
        cases hstep
        have hreached : reached storage found (root :: roots) =
            reached storage (found ++ entries.filterMap documentUri?) roots := by
          unfold reached
          rw [Storage.found, hentries]
          cases storage.found roots <;> simp [Except.map]
        rw [hreached]
        exact ih rfl h
      · cases hstep
      · cases hstep
  | done hstep =>
    subst hs
    rcases roots with _ | ⟨root, roots⟩
    · simp only [step?] at hstep
      cases hstep
    · simp only [step?, if_pos h.stocked.ready, h.stocked.source] at hstep
      split at hstep
      · cases hstep
      · next failure hfailure =>
        cases hstep
        rw [reached, Storage.found, hfailure]
        exact ⟨rfl, h.over⟩
      · next hcrashed =>
        cases hstep
        rw [reached, Storage.found, hcrashed]
        exact ⟨rfl, h.over⟩

/-- **Where a scan ends.** A scan that runs alone reports what the storage has below the roots, or
the first failure of a walk, and leaves the documents registered that the storage has there. -/
theorem ends_announcing (hends : Ends w s v x) (hs : s = .announcing roots)
    (h : Bare storage w) :
    x = (storage.found roots).map (.ofFound storage) ∧
      Scanned storage ((storage.found roots).toOption.getD []) v := by
  induction hends with
  | listing hperm _ ih => exact ih hs ⟨h.stocked.listing hperm, h.scans⟩
  | load choice hstep _ _ =>
    subst hs
    cases hstep
  | lead hstep hafter _ =>
    subst hs
    simp only [step?] at hstep
    cases hstep
    have hreached : reached storage [] roots = storage.found roots := by
      unfold reached
      cases storage.found roots <;> simp [Except.map]
    exact hreached ▸ h.ends_walking hafter rfl
  | done hstep =>
    subst hs
    simp only [step?] at hstep
    cases hstep

lemma bare_enterScan (storage : Storage) :
    Bare storage (Workspace.ofStorage storage).enterScan where
  stocked := ⟨rfl, rfl, assorted_empty, (by intro d h; cases h), (by intro d h; cases h)⟩
  scans := rfl

/-! ### What a scan leaves behind -/

/-- The uris that walks find are those of files, which differ in their paths only. -/
lemma isFile_of_found (h : storage.found roots = .ok uris) : ∀ u ∈ uris, u.IsFile := by
  have hentry : ∀ (e : StorageEntry) (u : Uri), documentUri? e = some u → u.IsFile := by
    intro e u he
    unfold documentUri? at he
    split at he
    · unfold Uri.ofPath? at he
      split at he
      · cases he
        exact ⟨_, rfl⟩
      · cases he
    · cases he
  induction roots generalizing uris with
  | nil =>
    cases h
    exact fun u hu => nomatch hu
  | cons root roots ih =>
    rw [Storage.found] at h
    split at h
    · cases hrest : storage.found roots with
      | error e => rw [hrest] at h; cases h
      | ok rest =>
        rw [hrest] at h
        cases h
        intro u hu
        rcases List.mem_append.mp hu with hu | hu
        · obtain ⟨e, -, he⟩ := List.mem_filterMap.mp hu
          exact hentry e u he
        · exact ih hrest u hu
    · cases h
    · cases h

namespace Scanned

/-- After a scan nothing is known that is not so. -/
lemma settled (h : Scanned storage uris w) (hfiles : ∀ u ∈ uris, u.IsFile) :
    w.Settled storage w.registry.plain where
  storage := h.stocked.source
  ready := h.stocked.ready
  scans := h.scans
  assorted := h.stocked.assorted
  truthful d hd ds hds := by
    rw [h.stocked.empty d hd] at hds
    cases hds
  plain := .refl _
  texts := by
    have huris : (w.registry.plain.map (·.uri)).Nodup := by
      unfold Registry.plain
      rw [List.map_map]
      exact h.stocked.assorted.uris
    show (w.registry.plain.map (Uri.text ∘ Document.uri)).Nodup
    rw [← List.map_map]
    refine List.Nodup.map_on (fun u hu u' hu' htext => ?_) huris
    have hfile : ∀ u ∈ w.registry.plain.map (·.uri), u.IsFile := by
      intro u hu
      obtain ⟨p, hp, rfl⟩ := List.mem_map.mp hu
      obtain ⟨d, hd, rfl⟩ := List.mem_map.mp hp
      exact hfiles _ (h.stocked.drawn d hd).1
    exact (hfile u hu).eq_of_text (hfile u' hu') htext

lemma mem_plain (h : Scanned storage uris w) :
    p ∈ w.registry.plain ↔ ∃ u ∈ uris, storage.document u = .ok p := by
  constructor
  · intro hp
    obtain ⟨d, hd, rfl⟩ := List.mem_map.mp hp
    obtain ⟨hu, hdoc⟩ := h.stocked.drawn d hd
    exact ⟨_, hu, hdoc⟩
  · rintro ⟨u, hu, hdoc⟩
    have hget : (w.registry.get? u).isSome = true :=
      (h.complete u hu).resolve_right (by simp [holds_of_document hdoc])
    obtain ⟨q, hq, rfl⟩ := get?_isSome_iff.mp hget
    obtain ⟨d, hd, rfl⟩ := List.mem_map.mp hq
    have hdoc' := (h.stocked.drawn d hd).2
    rw [d.plain_uri, hdoc'] at hdoc
    cases hdoc
    exact hq

/-- Scans that find the same leave the same texts registered. -/
lemma plain_perm (h : Scanned storage uris w) (h' : Scanned storage uris w') :
    w'.registry.plain.Perm w.registry.plain := by
  have hnodup : ∀ {w : Workspace}, Scanned storage uris w → w.registry.plain.Nodup := by
    intro w h
    refine List.Nodup.of_map (·.uri) ?_
    unfold Registry.plain
    rw [List.map_map]
    exact h.stocked.assorted.uris
  refine (List.perm_ext_iff_of_nodup (hnodup h') (hnodup h)).mpr fun p => ?_
  rw [h.mem_plain, h'.mem_plain]

end Scanned

end Scan

end Contracts
