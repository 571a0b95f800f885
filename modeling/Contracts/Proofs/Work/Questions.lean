import Contracts.Proofs.Store.Order
import Contracts.Proofs.Work.System

/-!
Questions to a workspace in which nothing is opened, edited or closed.

They may be asked in any order, each may be left at any point for others, and the registry may list
its documents in another order each time. All this changes what is known of the documents, but not
what is answered: that depends on the texts alone, and so does what a question comes to at its end.
-/

namespace Contracts

/-- The document that a storage has at a uri. -/
def Storage.document (storage : Storage) (uri : Uri) : Except Error Document :=
  match Kind.ofUri? uri with
  | none => .error (.unrecognizedKind uri)
  | some kind =>
    match uri.filePath? with
    | none => .error (.notAFile uri)
    | some path =>
      match storage.read path with
      | .ok text => .ok (.new 0 uri kind 0 text)
      | .failed failure => .error (.storage path failure)
      | .crashed => .error .crashed

/-- The uri of the document that a question is about. -/
def Activity.uri? : Activity → Option Uri
  | .load uri _ | .outline uri _ | .diagnostics uri _ | .dependents uri => some uri
  | .search _ _ | .barrier => none

namespace Workspace

open Registry

/-- The workspace with the documents of its registry in another order. -/
def listing (w : Workspace) (ds : List Document) : Workspace :=
  { w with registry := { w.registry with documents := ds } }

/-- Whatever is asked about registered documents, step by step: other questions may come between
the steps of one, and before each the registry may list its documents in another order. -/
inductive Questioned : Workspace → Workspace → Prop
  | refl (w : Workspace) : Questioned w w
  | listing {w w' : Workspace} {ds : List Document} (h : Questioned w w')
      (hperm : ds.Perm w'.registry.documents) : Questioned w (w'.listing ds)
  | asked {w w' w'' : Workspace} {a : Activity} {turn : Turn Activity (Except Error Answer)}
      (h : Questioned w w') (hreg : ∀ uri, a.uri? = some uri → (w'.registry.get? uri).isSome)
      (hstep : a.step? w' = some (w'', turn)) : Questioned w w''
  | findProfile {w w' : Workspace} (h : Questioned w w') (key : String) :
      Questioned w { w' with registry := (w'.registry.findProfile key).2 }
  | mapsTargeting {w w' : Workspace} (h : Questioned w w') (key : String) :
      Questioned w { w' with registry := (w'.registry.mapsTargeting key).2 }

end Workspace

/-- A question comes to an answer, with others before each of its steps. -/
inductive Activity.Ends : Workspace → Activity → Workspace → Except Error Answer → Prop
  | meanwhile {w w₁ w' : Workspace} {a : Activity} {x : Except Error Answer}
      (h : w.Questioned w₁) (hends : Ends w₁ a w' x) : Ends w a w' x
  | more {w w₁ w' : Workspace} {a b : Activity} {x : Except Error Answer}
      (hstep : a.step? w = some (w₁, .more b)) (hends : Ends w₁ b w' x) : Ends w a w' x
  | done {w w' : Workspace} {a : Activity} {x : Except Error Answer}
      (hstep : a.step? w = some (w', .done x)) : Ends w a w' x

namespace Workspace

open Registry

/-- No scan is under way, the storage answers, and the registry was given certain texts, of which
it knows nothing that is not so. -/
structure Settled (storage : Storage) (ps : List Document) (w : Workspace) : Prop where
  storage : w.storage = storage
  ready : w.storageReady = true
  scans : w.scans = 0
  assorted : w.registry.Assorted
  truthful : w.registry.Truthful
  plain : w.registry.plain.Perm ps
  texts : (ps.map (·.uri.text)).Nodup

/-- Only what is known of the documents has changed. -/
def Later (w w' : Workspace) : Prop :=
  ∃ f r, Registry.Later f w.registry r ∧ w' = { w with registry := r }

variable {storage : Storage} {ps ds : List Document} {w w' w'' : Workspace} {uri : Uri}
  {load : Load} {a : Activity} {d : Document}

lemma Later.refl (w : Workspace) : Later w w := ⟨id, _, .refl _, rfl⟩

namespace Settled

lemma verdict (h : w.Settled storage ps) (d : Document) :
    verdictAmong w.registry.plain d = verdictAmong ps d :=
  verdictAmong_of_perm h.plain h.texts d

lemma later (h : w.Settled storage ps) (hl : Later w w') : w'.Settled storage ps := by
  obtain ⟨f, r, hf, rfl⟩ := hl
  exact ⟨h.storage, h.ready, h.scans, hf.assorted h.assorted, hf.truthful h.truthful,
    hf.plain ▸ h.plain, h.texts⟩

lemma listing (h : w.Settled storage ps) (hds : ds.Perm w.registry.documents) :
    (w.listing ds).Settled storage ps where
  storage := h.storage
  ready := h.ready
  scans := h.scans
  assorted := h.assorted.reordered hds
  truthful := h.truthful.reordered ((h.plain.map _).nodup_iff.mpr h.texts) hds
  plain := (hds.map _).trans h.plain
  texts := h.texts

lemma mem (h : w.Settled storage ps) (hd : d ∈ w.registry.documents) : d.plain ∈ ps :=
  h.plain.mem_iff.mp (List.mem_map_of_mem hd)

/-- A document is registered at a uri if there is one among those that were given. -/
lemma isSome_get? (h : w.Settled storage ps) :
    (w.registry.get? uri).isSome = true ↔ ∃ d ∈ ps, d.uri = uri := by
  simp only [get?_isSome_iff, h.plain.mem_iff]

lemma get?_eq_none (h : w.Settled storage ps) :
    w.registry.get? uri = none ↔ ∀ d ∈ ps, d.uri ≠ uri := by
  rw [← Option.not_isSome_iff_eq_none, h.isSome_get?]
  simp

end Settled

end Workspace

/-! ### Steps of a load -/

namespace Load

/-- A load goes for the file of its uri. -/
def Rightful (uri : Uri) : Load → Prop
  | .lookup => True
  | .reading kind path => Kind.ofUri? uri = some kind ∧ uri.filePath? = some path

variable {w w' : Workspace} {uri : Uri} {load : Load}

/-- A load finds its document registered, or registers the one that the storage has, and fails
only if the storage has none. -/
lemma step?_spec {turn : Turn Load (Except Error Document)} (hl : load.Rightful uri)
    (h : load.step? w uri = some (w', turn)) :
    match turn with
    | .more next => w' = w ∧ w.registry.get? uri = none ∧ load = .lookup ∧ next ≠ .lookup ∧
        next.Rightful uri
    | .done (.error e) => w' = w ∧ w.storage.document uri = .error e ∧
        (load = .lookup → w.registry.get? uri = none)
    | .done (.ok d) => (w' = w ∧ w.registry.get? uri = some d) ∨
        w.registry.get? uri = none ∧ ∃ kind text,
          w.storage.document uri = .ok (.new 0 uri kind 0 text) ∧
          d = (w.registry.createIfAbsent uri kind text).1 ∧
          w' = { w with registry := (w.registry.createIfAbsent uri kind text).2 } := by
  cases load with
  | lookup =>
    unfold step? at h
    dsimp only at h
    split at h
    · next d hd => cases h; exact .inl ⟨rfl, hd⟩
    · next hnone =>
      split at h
      · next hk => cases h; exact ⟨rfl, by simp [Storage.document, hk], fun _ => hnone⟩
      · next kind hk =>
        split at h
        · next hp => cases h; exact ⟨rfl, by simp [Storage.document, hk, hp], fun _ => hnone⟩
        · next path hp => cases h; exact ⟨rfl, hnone, rfl, by simp, hk, hp⟩
  | reading kind path =>
    obtain ⟨hk, hp⟩ := hl
    unfold step? at h
    dsimp only at h
    split at h
    · split at h
      · next text htext =>
        cases h
        cases hg : w.registry.get? uri with
        | some d => exact .inl (by rw [Registry.createIfAbsent_of_some hg]; exact ⟨rfl, rfl⟩)
        | none => exact .inr ⟨rfl, kind, text, by simp [Storage.document, hk, hp, htext], rfl, rfl⟩
      · next failure hf =>
        cases h
        exact ⟨rfl, by simp [Storage.document, hk, hp, hf], fun h => nomatch h⟩
      · next hf =>
        cases h
        exact ⟨rfl, by simp [Storage.document, hk, hp, hf], fun h => nomatch h⟩
    · cases h

/-- A load gets on as long as the storage answers. -/
lemma isSome_step? (h : w.storageReady = true) : (load.step? w uri).isSome = true := by
  cases load with
  | lookup =>
    unfold step?
    dsimp only
    split
    · rfl
    · split
      · rfl
      · split <;> rfl
  | reading kind path =>
    unfold step?
    dsimp only
    rw [if_pos h]
    split <;> rfl

end Load

/-! ### Steps of a question -/

namespace Activity

open Registry Workspace

variable {storage : Storage} {ps : List Document} {w w' : Workspace} {uri : Uri} {load : Load}
  {a : Activity} {d : Document} {turn : Turn Activity (Except Error Answer)}

/-- What follows the load of a registered document follows at once. -/
lemma later_afterLoad {again : Load → Activity}
    {next : Workspace → Document → Workspace × Except Error Answer}
    (hreg : (w.registry.get? uri).isSome = true)
    (hnext : ∀ d, w.registry.get? uri = some d → Later w (next w d).1)
    (h : afterLoad (load.step? w uri) again next = some (w', turn)) : Later w w' := by
  obtain ⟨d, hd⟩ := Option.isSome_iff_exists.mp hreg
  -- the step of the load itself changes nothing
  have hload : ∀ w₁ t, load.step? w uri = some (w₁, t) →
      w₁ = w ∧ ∀ e, t = .done (.ok e) → w.registry.get? uri = some e := by
    intro w₁ t hs
    cases load with
    | lookup =>
      simp only [Load.step?, hd] at hs
      cases hs
      exact ⟨rfl, fun e he => by cases he; exact hd⟩
    | reading kind path =>
      simp only [Load.step?] at hs
      split at hs
      · split at hs
        · rw [createIfAbsent_of_some hd] at hs
          cases hs
          exact ⟨rfl, fun e he => by cases he; exact hd⟩
        · cases hs
          exact ⟨rfl, fun e he => nomatch he⟩
        · cases hs
          exact ⟨rfl, fun e he => nomatch he⟩
      · cases hs
  rcases hs : load.step? w uri with _ | ⟨w₁, load' | (e | e)⟩
  · rw [hs] at h; cases h
  · rw [hs] at h; cases h
    exact (hload _ _ hs).1 ▸ .refl w
  · rw [hs] at h; cases h
    exact (hload _ _ hs).1 ▸ .refl w
  · obtain ⟨rfl, hget⟩ := hload _ _ hs
    rw [hs] at h
    simp only [afterLoad, Option.map_some, Option.some.injEq, Prod.mk.injEq] at h
    exact h.1 ▸ hnext e (hget e rfl)

lemma later_outline (hr : w.registry.Assorted) (hd : d ∈ w.registry.documents) :
    Later w { w with registry := (w.registry.outline d).2 } := by
  obtain ⟨-, f, hf⟩ := outline_of_derived hr hd
  exact ⟨f, _, hf, rfl⟩

lemma later_searchDocument (hr : w.registry.Assorted) (query : String) (id : Nat) :
    Later w (w.searchDocument query id).2 := by
  rw [searchDocument_eq]
  cases hd : w.registry.document? id with
  | none => simpa [Registry.apply, hd] using Later.refl w
  | some d =>
    have hmem : d ∈ w.registry.documents := by
      unfold document? at hd
      rw [hr.alone, List.append_nil] at hd
      exact List.mem_of_find?_eq_some hd
    simpa [Registry.apply, hd] using later_outline hr hmem

/-- The maps that depend on a document: those whose text has the namespace of the profile. -/
def dependentsAmong (ds : List Document) (d : Document) : List Uri :=
  if d.kind = .profile then d.textNamespace?.elim [] (urisAmong ds .map) else []

lemma dependentsOf_of_assorted (hr : w.registry.Assorted) :
    Later w (w.dependentsOf uri).2 ∧ (w.dependentsOf uri).1 =
      (w.registry.get? uri).elim (.error (.notFound uri)) fun d =>
        .ok (dependentsAmong w.registry.plain d) := by
  unfold Workspace.dependentsOf
  cases hg : w.registry.get? uri with
  | none => exact ⟨.refl w, rfl⟩
  | some d =>
    obtain ⟨hd, -⟩ := hr.get?_eq_some.mp hg
    unfold dependentsAmong
    dsimp only [Option.elim_some]
    cases hk : d.kind with
    | map => exact ⟨.refl w, by simp⟩
    | profile =>
      obtain ⟨-, f, hf⟩ := outline_of_derived hr hd
      obtain ⟨hkey, hreg⟩ := namespaceKey_eq (r := w.registry) (d := d)
      rw [(hr.derived d hd).namespaceKey_fst] at hkey
      rw [← hreg] at hf
      rcases hns : w.registry.namespaceKey d with ⟨key, r⟩
      rw [hns] at hkey hf
      unfold Document.textNamespace?
      cases ht : d.textTree with
      | error e =>
        rw [ht] at hkey
        cases hkey
        exact ⟨⟨f, r, hf, rfl⟩, rfl⟩
      | ok t =>
        rw [ht] at hkey
        cases hkey
        have huris : (r.documentsIn .map t.namespaceKey).1.map (·.uri) =
            urisAmong w.registry.plain .map t.namespaceKey :=
          hf.plain ▸ documentsIn_uris (hf.assorted hr).derived
        exact ⟨⟨_, _, hf.trans (later_outlineAll r .map), rfl⟩, congrArg Except.ok huris⟩

/-- A question about a registered document changes only what is known of documents. -/
theorem later_step? (hw : w.Settled storage ps)
    (hreg : ∀ uri, a.uri? = some uri → (w.registry.get? uri).isSome)
    (h : a.step? w = some (w', turn)) : Later w w' := by
  have hr := hw.assorted
  cases a with
  | load uri load =>
    simp only [step?] at h
    exact later_afterLoad (hreg uri rfl) (fun d _ => .refl w) h
  | outline uri load =>
    simp only [step?] at h
    exact later_afterLoad (hreg uri rfl)
      (fun d hd => later_outline hr (hr.get?_eq_some.mp hd).1) h
  | diagnostics uri stage =>
    cases stage with
    | none =>
      simp only [step?, if_pos hw.scans] at h
      cases h
      exact .refl w
    | some load =>
      simp only [step?] at h
      refine later_afterLoad (hreg uri rfl) (fun d hd => ?_) h
      obtain ⟨-, f, hf⟩ := diagnose_of_truthful hr hw.truthful (hr.get?_eq_some.mp hd).1
      exact ⟨f, _, hf, rfl⟩
  | search query stage =>
    rcases stage with _ | ⟨_ | ⟨id, ids⟩, found⟩
    · simp only [step?, if_pos hw.scans] at h
      cases h
      exact .refl w
    · simp only [step?] at h
      cases h
      exact .refl w
    · simp only [step?, Option.some.injEq, Prod.mk.injEq] at h
      exact h.1 ▸ later_searchDocument hr query id
  | dependents uri =>
    simp only [step?, if_pos hw.scans] at h
    cases h
    exact (dependentsOf_of_assorted hr).1
  | barrier =>
    simp only [step?, if_pos hw.scans] at h
    cases h
    exact .refl w

end Activity

namespace Workspace

variable {storage : Storage} {ps : List Document} {w w' : Workspace}

/-- The documents under their ids, without what is known of them. -/
def roster (w : Workspace) : List (Nat × Document) :=
  w.registry.documents.map fun d => (d.id, d.plain)

lemma Later.roster (h : Later w w') : w'.roster = w.roster := by
  obtain ⟨f, r, hf, rfl⟩ := h
  refine hf.map_eq fun d hd => ?_
  rw [(hf.sameText d hd).id, (hf.sameText d hd).plain]

/-- Questions leave a workspace settled, with the documents it had. -/
theorem Questioned.settled (h : w.Questioned w') (hw : w.Settled storage ps) :
    w'.Settled storage ps ∧ w'.roster.Perm w.roster := by
  have hlater : ∀ {w' w'' : Workspace}, w'.Settled storage ps ∧ w'.roster.Perm w.roster →
      Later w' w'' → w''.Settled storage ps ∧ w''.roster.Perm w.roster :=
    fun hbefore hl => ⟨hbefore.1.later hl, hl.roster ▸ hbefore.2⟩
  induction h with
  | refl => exact ⟨hw, .refl _⟩
  | listing _ hperm ih => exact ⟨ih.1.listing hperm, (hperm.map _).trans ih.2⟩
  | asked _ hreg hstep ih => exact hlater ih (Activity.later_step? ih.1 hreg hstep)
  | findProfile _ key ih =>
    exact hlater ih ⟨_, _, Registry.later_outlineAll _ .profile, rfl⟩
  | mapsTargeting _ key ih =>
    exact hlater ih ⟨_, _, Registry.later_outlineAll _ .map, rfl⟩

lemma Questioned.isSome_get? (h : w.Questioned w') (hw : w.Settled storage ps) (uri : Uri) :
    (w'.registry.get? uri).isSome = (w.registry.get? uri).isSome := by
  rw [Bool.eq_iff_iff, hw.isSome_get?, (h.settled hw).1.isSome_get?]

end Workspace

end Contracts
