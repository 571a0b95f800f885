import Contracts.Proofs.Work.Questions

/-!
What questions come to at their ends.

Of a settled workspace it is only known which texts it was given. That is enough to say what each
question is answered with, up to the order of what is listed, and every question is answered.
-/

namespace Contracts

open Registry Workspace

/-- The symbols of the text of a document that match a query. -/
def Document.hits (query : String) (d : Document) : List Hit :=
  match d.textOutline with
  | .ok outline => search d.uri query outline
  | .error _ => []

namespace Activity

/-- Answers that differ in the order of what they list at most. -/
inductive Alike : Except Error Answer → Except Error Answer → Prop
  | same (x : Except Error Answer) : Alike x x
  | hits {hs hs' : List Hit} (h : hs.Perm hs') : Alike (.ok (.hits hs)) (.ok (.hits hs'))
  | uris {us us' : List Uri} (h : us.Perm us') : Alike (.ok (.uris us)) (.ok (.uris us'))

/-- The diagnostics at a uri, of one of the documents or of the one that the storage has. -/
def diagnosticsAmong (storage : Storage) (ps : List Document) (uri : Uri) :
    Except Error (List Diagnostic) :=
  match ps.find? (·.uri == uri) with
  | some d => .ok (verdictAmong ps d)
  | none => (storage.document uri).map (verdictAmong ps)

/-- The maps that depend on the document at a uri. -/
def dependentsAt (ps : List Document) (uri : Uri) : Except Error (List Uri) :=
  match ps.find? (·.uri == uri) with
  | some d => .ok (dependentsAmong ps d)
  | none => .error (.notFound uri)

variable {storage : Storage} {ps : List Document} {w w' v : Workspace} {uri : Uri} {load : Load}
  {a b : Activity} {d : Document} {x y z : Except Error Answer} {query : String}

lemma Alike.symm (h : Alike x y) : Alike y x := by
  cases h with
  | same => exact .same _
  | hits h => exact .hits h.symm
  | uris h => exact .uris h.symm

lemma Alike.trans (h : Alike x y) (h' : Alike y z) : Alike x z := by
  cases h with
  | same => exact h'
  | hits h =>
    cases h' with
    | same => exact .hits h
    | hits h' => exact .hits (h.trans h')
  | uris h =>
    cases h' with
    | same => exact .uris h
    | uris h' => exact .uris (h.trans h')

/-- The document at a uri is the one that was given. -/
lemma find?_of_settled (hw : w.Settled storage ps) :
    ps.find? (·.uri == uri) = (w.registry.get? uri).map (·.plain) := by
  cases hg : w.registry.get? uri with
  | none =>
    have hnone := hw.get?_eq_none.mp hg
    simpa using hnone
  | some d =>
    obtain ⟨hd, rfl⟩ := hw.assorted.get?_eq_some.mp hg
    cases hf : ps.find? (·.uri == d.uri) with
    | none => simpa using List.find?_eq_none.mp hf _ (hw.mem hd)
    | some p =>
      have hu : p.uri = d.plain.uri := by simpa using List.find?_some hf
      have heq := List.inj_on_of_nodup_map hw.texts (List.mem_of_find?_eq_some hf) (hw.mem hd)
        (congrArg Uri.text hu)
      rw [heq]
      rfl

/-! ### Diagnostics -/

/-- The load on which a question for diagnostics waits: one of a registered document has not
begun. -/
def Awaits (w : Workspace) (uri : Uri) (stage : Option Load) : Prop :=
  ∀ load ∈ stage, load.Rightful uri ∧ ((w.registry.get? uri).isSome = true → load = .lookup)

variable {stage : Option Load}

lemma diagnostics_more (hw : w.Settled storage ps) (hstage : Awaits w uri stage)
    (h : (Activity.diagnostics uri stage).step? w = some (w', .more b)) :
    w' = w ∧ ∃ load, b = .diagnostics uri (some load) ∧ Awaits w uri (some load) ∧
      ∀ before ∈ stage, before = .lookup ∧ load ≠ .lookup := by
  cases stage with
  | none =>
    simp only [step?, if_pos hw.scans] at h
    cases h
    exact ⟨rfl, .lookup, rfl, fun load hl => by cases hl; exact ⟨trivial, fun _ => rfl⟩,
      by rintro before ⟨⟩⟩
  | some load =>
    simp only [step?] at h
    obtain ⟨next, hload, rfl⟩ := of_afterLoad_more h
    obtain ⟨rfl, hnone, hlookup, hne, hnext⟩ := Load.step?_spec (hstage load rfl).1 hload
    refine ⟨rfl, next, rfl, fun load hl => ?_, fun before hb => ?_⟩
    · cases hl
      exact ⟨hnext, fun hs => by simp [hnone] at hs⟩
    · cases hb
      exact ⟨hlookup, hne⟩

lemma diagnostics_done (hw : w.Settled storage ps) (hstage : Awaits w uri stage)
    (h : (Activity.diagnostics uri stage).step? w = some (w', .done x)) :
    x = (diagnosticsAmong storage ps uri).map .diagnostics ∧
      ((w.registry.get? uri).isSome = true → w'.Settled storage ps) := by
  cases stage with
  | none =>
    simp only [step?, if_pos hw.scans] at h
    cases h
  | some load =>
    obtain ⟨hright, hlookup⟩ := hstage load rfl
    simp only [step?] at h
    unfold diagnosticsAmong
    rw [find?_of_settled hw]
    rcases of_afterLoad_done h with ⟨e, hload, rfl⟩ | ⟨w₁, d, hload, hnext⟩
    · obtain ⟨rfl, hdoc, hnone⟩ := Load.step?_spec hright hload
      have hget : w'.registry.get? uri = none := by
        by_contra hn
        exact hn (hnone (hlookup (Option.isSome_iff_ne_none.mpr hn)))
      rw [hget, ← hw.storage, Option.map_none, hdoc]
      exact ⟨rfl, by simp⟩
    · rcases Load.step?_spec hright hload with ⟨rfl, hget⟩ | ⟨hnone, kind, text, hdoc, rfl, rfl⟩
      · obtain ⟨hfound, f, hf⟩ := diagnose_of_truthful hw.assorted hw.truthful
          (hw.assorted.get?_eq_some.mp hget).1
        rw [hget, Option.map_some]
        cases hnext
        refine ⟨?_, fun _ => hw.later ⟨f, _, hf, rfl⟩⟩
        rw [hfound, hw.verdict]
        rfl
      · -- nothing is known of the document that has just been read
        obtain ⟨hnew, harrived⟩ := createIfAbsent_of_absent hw.assorted hnone
        have htexts := (hw.plain.map (·.uri.text)).nodup_iff.mpr hw.texts
        cases hnext
        rw [hnone, ← hw.storage, Option.map_none, hdoc, hnew]
        refine ⟨?_, by simp⟩
        rw [(diagnose_of_assorted harrived.assorted harrived.mem rfl).1, ← verdictAmong_plain,
          verdictAmong_of_perm_cons harrived.plain htexts, hw.verdict]
        rfl

/-- Diagnostics are those among the texts, of the registered document or of the one in storage. -/
theorem ends_diagnostics (h : Ends w a v x) (hw : w.Settled storage ps)
    (ha : a = .diagnostics uri stage) (hstage : Awaits w uri stage) :
    x = (diagnosticsAmong storage ps uri).map .diagnostics ∧
      ((w.registry.get? uri).isSome = true → v.Settled storage ps) := by
  induction h generalizing stage with
  | meanwhile hq _ ih =>
    unfold Awaits at hstage
    rw [← hq.isSome_get? hw uri] at hstage ⊢
    exact ih (hq.settled hw).1 ha hstage
  | more hstep _ ih =>
    subst ha
    obtain ⟨rfl, load, rfl, hload, -⟩ := diagnostics_more hw hstage hstep
    exact ih hw rfl hload
  | done hstep =>
    subst ha
    exact diagnostics_done hw hstage hstep

/-- Diagnostics are answered. -/
lemma exists_ends_diagnostics (hw : w.Settled storage ps) :
    ∃ v x, Ends w (.diagnostics uri none) v x := by
  have hstep : ∀ load, ((Activity.diagnostics uri (some load)).step? w).isSome = true :=
    fun load => by simpa [step?, afterLoad] using Load.isSome_step? hw.ready
  -- a load does two steps at most
  have hreading : ∀ load, load ≠ .lookup → load.Rightful uri →
      ∃ v x, Ends w (.diagnostics uri (some load)) v x := by
    intro load hne hright
    obtain ⟨⟨w₁, turn⟩, h⟩ := Option.isSome_iff_exists.mp (hstep load)
    cases turn with
    | done x => exact ⟨_, _, .done h⟩
    | more b =>
      simp only [step?] at h
      obtain ⟨next, hload, -⟩ := of_afterLoad_more h
      exact absurd (Load.step?_spec hright hload).2.2.1 hne
  have hlookup : ∃ v x, Ends w (.diagnostics uri (some .lookup)) v x := by
    obtain ⟨⟨w₁, turn⟩, h⟩ := Option.isSome_iff_exists.mp (hstep .lookup)
    cases turn with
    | done x => exact ⟨_, _, .done h⟩
    | more b =>
      have hafter := h
      simp only [step?] at hafter
      obtain ⟨next, hload, rfl⟩ := of_afterLoad_more hafter
      obtain ⟨rfl, -, -, hne, hright⟩ :=
        Load.step?_spec (show Load.Rightful uri .lookup from trivial) hload
      obtain ⟨v, x, hends⟩ := hreading next hne hright
      exact ⟨v, x, .more h hends⟩
  obtain ⟨v, x, hends⟩ := hlookup
  exact ⟨v, x, .more (by simp only [step?, if_pos hw.scans]) hends⟩

/-! ### Dependents -/

lemma dependents_step? (hw : w.Settled storage ps) :
    (Activity.dependents uri).step? w =
      some ((w.dependentsOf uri).2, .done ((w.dependentsOf uri).1.map .uris)) := by
  simp only [step?, if_pos hw.scans]

lemma dependentsOf_alike (hw : w.Settled storage ps) :
    Alike ((w.dependentsOf uri).1.map .uris) ((dependentsAt ps uri).map .uris) := by
  unfold dependentsAt
  rw [find?_of_settled hw, (dependentsOf_of_assorted hw.assorted).2]
  cases w.registry.get? uri with
  | none => exact .same _
  | some d =>
    refine .uris ?_
    show (dependentsAmong w.registry.plain d).Perm (dependentsAmong ps d)
    unfold dependentsAmong
    split
    · cases d.textNamespace? with
      | none => exact .refl _
      | some key => exact (hw.plain.filter _).map _
    · exact .refl _

/-- The dependents of a document are the maps among the texts that have its namespace. -/
theorem ends_dependents (h : Ends w a v x) (hw : w.Settled storage ps)
    (ha : a = .dependents uri) : Alike x ((dependentsAt ps uri).map .uris) := by
  induction h with
  | meanwhile hq _ ih => exact ih (hq.settled hw).1 ha
  | more hstep _ _ =>
    rw [ha, dependents_step? hw] at hstep
    cases hstep
  | done hstep =>
    rw [ha, dependents_step? hw] at hstep
    cases hstep
    exact dependentsOf_alike hw

/-! ### Searches -/

/-- A search finds the symbols of the text of a document, whatever is known of it. -/
lemma searchDocument_of_derived {id : Nat} (hd : w.registry.document? id = some d)
    (hder : d.Derived) : (w.searchDocument query id).1 = d.hits query := by
  unfold searchDocument Document.hits
  rw [hd, ← hder.outline_fst]
  unfold Registry.outline
  dsimp only
  cases d.outline.1 <;> rfl

lemma searchDocument_hits (hw : w.Settled storage ps) {id : Nat} (h : (id, d) ∈ w.roster) :
    (w.searchDocument query id).1 = d.hits query := by
  obtain ⟨e, he, hed⟩ := List.mem_map.mp h
  cases hed
  rw [searchDocument_of_derived (hw.assorted.document?_id he) (hw.assorted.derived e he)]
  rfl

/-- A search has found what it is to find, but for the documents that are still to look at. -/
def Seeks (ps : List Document) (w : Workspace) (query : String) (stage : List Nat × List Hit) :
    Prop :=
  ∃ rest : List (Nat × Document), rest.map (·.1) = stage.1 ∧ (∀ e ∈ rest, e ∈ w.roster) ∧
    (stage.2 ++ rest.flatMap (·.2.hits query)).Perm (ps.flatMap (·.hits query))

lemma seeks_start (hw : w.Settled storage ps) :
    Seeks ps w query (w.registry.documents.map (·.id), []) := by
  refine ⟨w.roster, ?_, fun _ h => h, ?_⟩
  · unfold roster
    rw [List.map_map]
    rfl
  · have hplain : w.roster.flatMap (·.2.hits query) = w.registry.plain.flatMap (·.hits query) := by
      unfold roster Registry.plain
      rw [List.flatMap_map, List.flatMap_map]
    rw [List.nil_append, hplain]
    exact hw.plain.flatMap_right _

lemma Seeks.next {id : Nat} {ids : List Nat} {found : List Hit} (hw : w.Settled storage ps)
    (h : Seeks ps w query (id :: ids, found)) :
    Seeks ps (w.searchDocument query id).2 query
      (ids, found ++ (w.searchDocument query id).1) := by
  obtain ⟨_ | ⟨⟨id', d⟩, rest⟩, hids, hmem, hperm⟩ := h
  · cases hids
  · cases hids
    rw [searchDocument_hits hw (hmem _ List.mem_cons_self)]
    refine ⟨rest, rfl, fun e he => ?_, ?_⟩
    · rw [(later_searchDocument hw.assorted query id').roster]
      exact hmem e (List.mem_cons_of_mem _ he)
    · rw [List.append_assoc]
      simpa only [List.flatMap_cons] using hperm

/-- A search finds the symbols of all texts. -/
theorem ends_search (h : Ends w a v x) (hw : w.Settled storage ps)
    {stage : Option (List Nat × List Hit)} (ha : a = .search query stage)
    (hstage : ∀ s ∈ stage, Seeks ps w query s) :
    Alike x (.ok (.hits (ps.flatMap (·.hits query)))) := by
  induction h generalizing stage with
  | meanwhile hq _ ih =>
    obtain ⟨hw₁, hroster⟩ := hq.settled hw
    refine ih hw₁ ha fun s hs => ?_
    obtain ⟨rest, hids, hmem, hperm⟩ := hstage s hs
    exact ⟨rest, hids, fun e he => hroster.mem_iff.mpr (hmem e he), hperm⟩
  | more hstep _ ih =>
    subst ha
    rcases stage with _ | ⟨_ | ⟨id, ids⟩, found⟩
    · simp only [step?, if_pos hw.scans] at hstep
      cases hstep
      exact ih hw rfl fun s hs => by cases hs; exact seeks_start hw
    · simp only [step?] at hstep
      cases hstep
    · simp only [step?] at hstep
      cases hstep
      refine ih (hw.later (later_searchDocument hw.assorted query id)) rfl fun s hs => ?_
      cases hs
      exact (hstage _ rfl).next hw
  | done hstep =>
    subst ha
    rcases stage with _ | ⟨_ | ⟨id, ids⟩, found⟩
    · simp only [step?, if_pos hw.scans] at hstep
      cases hstep
    · obtain ⟨rest, hids, -, hperm⟩ := hstage _ rfl
      cases List.map_eq_nil_iff.mp hids
      simp only [step?] at hstep
      cases hstep
      exact .hits (by simpa using hperm)
    · simp only [step?] at hstep
      cases hstep

/-- A search is answered. -/
lemma exists_ends_search (hw : w.Settled storage ps) : ∃ v x, Ends w (.search query none) v x := by
  have hrest : ∀ (ids : List Nat) (w : Workspace) (found : List Hit),
      ∃ v x, Ends w (.search query (some (ids, found))) v x := by
    intro ids
    induction ids with
    | nil => exact fun w found => ⟨w, _, .done rfl⟩
    | cons id ids ih =>
      intro w found
      obtain ⟨v, x, h⟩ :=
        ih (w.searchDocument query id).2 (found ++ (w.searchDocument query id).1)
      exact ⟨v, x, .more rfl h⟩
  obtain ⟨v, x, h⟩ := hrest (w.registry.documents.map (·.id)) w []
  exact ⟨v, x, .more (by simp only [step?, if_pos hw.scans]) h⟩

end Activity

/-! ### Two workspaces that were given the same -/

namespace Workspace

open Activity

/-- A question is answered by two workspaces, and alike by both of them in whatever way it is
asked. -/
structure AnswerAlike (w w' : Workspace) (a : Activity) : Prop where
  left : ∃ v x, Ends w a v x
  right : ∃ v x, Ends w' a v x
  alike : ∀ {v v' x x'}, Ends w a v x → Ends w' a v' x' → Alike x x'

/-- Two workspaces tell the same of profiles, and answer alike whatever they are asked. -/
structure Agree (w w' : Workspace) : Prop where
  findProfile : ∀ key, (w.registry.findProfile key).1.map (·.uri) =
    (w'.registry.findProfile key).1.map (·.uri)
  diagnostics : ∀ uri, AnswerAlike w w' (.diagnostics uri none)
  dependents : ∀ uri, AnswerAlike w w' (.dependents uri)
  search : ∀ query, AnswerAlike w w' (.search query none)

variable {storage : Storage} {ps : List Document} {w w' : Workspace}

/-- **The texts decide.** Two settled workspaces that were given the same texts agree. -/
theorem Settled.agree (hw : w.Settled storage ps) (hw' : w'.Settled storage ps) :
    w.Agree w' where
  findProfile key := by
    rw [findProfile_uri hw.assorted, findProfile_uri hw'.assorted,
      leader?_of_perm hw.plain hw.texts, leader?_of_perm hw'.plain hw.texts]
  diagnostics uri := by
    refine ⟨exists_ends_diagnostics hw, exists_ends_diagnostics hw', fun {v v' x x'} h h' => ?_⟩
    have hnone : ∀ w, Awaits w uri none := fun w load hl => nomatch hl
    rw [(ends_diagnostics h hw rfl (hnone w)).1, (ends_diagnostics h' hw' rfl (hnone w')).1]
    exact .same _
  dependents uri := ⟨⟨_, _, .done (dependents_step? hw)⟩, ⟨_, _, .done (dependents_step? hw')⟩,
    fun h h' => (ends_dependents h hw rfl).trans (ends_dependents h' hw' rfl).symm⟩
  search query := by
    refine ⟨exists_ends_search hw, exists_ends_search hw', fun {v v' x x'} h h' => ?_⟩
    have hnone : ∀ w s, s ∈ (none : Option (List Nat × List Hit)) → Seeks ps w query s :=
      fun w s hs => nomatch hs
    exact (ends_search h hw rfl (hnone w)).trans (ends_search h' hw' rfl (hnone w')).symm

end Workspace

end Contracts
