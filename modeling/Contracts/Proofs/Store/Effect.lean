import Contracts.Proofs.Store.Operation

/-!
The effect of every operation on the documents of a well-formed registry. Documents are told apart
by their ids and, as long as they are registered, by their uris, so a change that goes by an id is
one that goes by a uri.
-/

namespace Contracts.Registry

open Document

variable {r : Registry} {d e : Document} {uri : Uri} {kind : Kind} {version : Int} {text : String}

lemma documents_elim_forgetProfile (previous : Option Document) :
    (previous.elim r r.forgetProfile).documents =
      r.documents.map (·.forgetFor (previous.bind (·.definedNamespace?))) := by
  cases previous with
  | none => simp
  | some e => exact documents_forgetProfile

lemma detached_elim_forgetProfile (previous : Option Document) :
    (previous.elim r r.forgetProfile).detached = r.detached ∧
      (previous.elim r r.forgetProfile).nextId = r.nextId := by
  cases previous with
  | none => exact ⟨rfl, rfl⟩
  | some e => exact ⟨detached_forgetProfile, nextId_forgetProfile⟩

lemma documents_ite_invalidateUnresolved :
    (if kind = .profile then r.invalidateUnresolved else r).documents =
      r.documents.map (·.forgetOnArrival (kind = .profile)) := by
  split
  · next h => simp [documents_invalidateUnresolved, h]
  · next h => simp [h]

lemma detached_ite_invalidateUnresolved :
    (if kind = .profile then r.invalidateUnresolved else r).detached = r.detached ∧
      (if kind = .profile then r.invalidateUnresolved else r).nextId = r.nextId := by
  split <;> exact ⟨rfl, rfl⟩

/-! ### Registering and removing -/

lemma documents_create :
    (r.create uri kind version text).2.documents =
      insertSorted (.new r.nextId uri kind version text)
        ((r.documents.filter (·.uri != uri)).map
          ((Operation.create uri kind version text).effect r)) := by
  unfold create
  simp only [documents_ite_invalidateUnresolved, documents_elim_forgetProfile]
  rw [show ((r.take uri).add uri kind version text).2.documents =
      insertSorted (.new r.nextId uri kind version text)
        (r.documents.filter (·.uri != uri)) from rfl,
    map_insertSorted fun e => sameText_forgetFor.uri,
    map_insertSorted fun e => sameText_forgetOnArrival.uri,
    forgetFor_of_empty rfl, forgetOnArrival_of_empty rfl, List.map_map]
  rfl

lemma detached_create :
    (r.create uri kind version text).2.detached =
        r.detached ++ r.documents.filter (·.uri == uri) ∧
      (r.create uri kind version text).2.nextId = r.nextId + 1 := by
  unfold create
  exact ⟨detached_ite_invalidateUnresolved.1.trans (detached_elim_forgetProfile _).1,
    detached_ite_invalidateUnresolved.2.trans (detached_elim_forgetProfile _).2⟩

lemma createIfAbsent_of_some (h : r.get? uri = some d) :
    r.createIfAbsent uri kind text = (d, r) := by
  simp [createIfAbsent, h]

lemma documents_createIfAbsent_of_none (h : r.get? uri = none) :
    (r.createIfAbsent uri kind text).2.documents =
      insertSorted (.new r.nextId uri kind 0 text)
        (r.documents.map ((Operation.load uri kind text).effect r)) := by
  unfold createIfAbsent
  simp only [h, documents_ite_invalidateUnresolved]
  rw [show (r.add uri kind 0 text).2.documents =
      insertSorted (.new r.nextId uri kind 0 text) r.documents from rfl,
    map_insertSorted fun e => sameText_forgetOnArrival.uri, forgetOnArrival_of_empty rfl]
  congr 1
  refine List.map_congr_left fun e _ => ?_
  simp [Operation.effect, Operation.bystander, Operation.outlines, Operation.invalidated?,
    Operation.bringsProfile, h]

lemma detached_createIfAbsent_of_none (h : r.get? uri = none) :
    (r.createIfAbsent uri kind text).2.detached = r.detached ∧
      (r.createIfAbsent uri kind text).2.nextId = r.nextId + 1 := by
  unfold createIfAbsent
  simp only [h]
  exact ⟨detached_ite_invalidateUnresolved.1, detached_ite_invalidateUnresolved.2⟩

lemma remove_of_some (h : r.get? uri = some d) :
    r.remove uri = (.ok d, (r.take uri).forgetProfile d) := by
  simp [remove, h]

lemma remove_of_none (h : r.get? uri = none) : r.remove uri = (.error (.notFound uri), r) := by
  simp [remove, h]

lemma update_of_none (h : r.get? uri = none) {edits : List Edit} :
    r.update uri edits version = (.error (.notFound uri), r) := by
  simp [update, h]

/-! ### Editing -/

/-- Of the documents that a registry knows, none has the id of another. -/
lemma WellFormed.eq_of_known_id (hr : r.WellFormed) (hd : d ∈ r.documents ++ r.detached)
    (he : e ∈ r.documents ++ r.detached) (h : d.id = e.id) : d = e :=
  List.inj_on_of_nodup_map hr.ids hd he h

lemma WellFormed.eq_of_id (hr : r.WellFormed) (hd : d ∈ r.documents) (he : e ∈ r.documents)
    (h : d.id = e.id) : d = e :=
  hr.eq_of_known_id (List.mem_append_left _ hd) (List.mem_append_left _ he) h

lemma WellFormed.id_lt (hr : r.WellFormed) (hd : d ∈ r.documents) : d.id < r.nextId :=
  hr.fresh d (List.mem_append_left _ hd)

lemma WellFormed.eq_of_uri (hr : r.WellFormed) (hd : d ∈ r.documents) (he : e ∈ r.documents)
    (h : d.uri = e.uri) : d = e :=
  List.inj_on_of_nodup_map hr.uris hd he h

/-- No document is both registered and not. -/
lemma WellFormed.id_ne (hr : r.WellFormed) (hd : d ∈ r.documents) (he : e ∈ r.detached) :
    d.id ≠ e.id := by
  have hnd := hr.ids
  rw [List.map_append] at hnd
  exact (List.nodup_append.mp hnd).2.2 _ (List.mem_map_of_mem hd) _ (List.mem_map_of_mem he)

lemma WellFormed.derived_of_mem (hr : r.WellFormed) (hd : d ∈ r.documents) : d.Derived :=
  hr.derived d (List.mem_append_left _ hd)

/-- Changing the document at a uri by its id changes no other one. -/
lemma documents_modify (hr : r.WellFormed) (h : r.get? uri = some d) (f : Document → Document) :
    (r.modify d.id f).documents =
      r.documents.map fun e => if e.uri = uri then f e else e := by
  obtain ⟨hd, rfl⟩ := (get?_eq_some hr).mp h
  refine List.map_congr_left fun e he => ?_
  by_cases hu : e.uri = d.uri
  · simp [hr.eq_of_uri he hd hu]
  · have : e.id ≠ d.id := fun hid =>
      hu (congrArg _ (hr.eq_of_id he hd hid))
    simp [hu, this]

lemma detached_modify (hr : r.WellFormed) (h : r.get? uri = some d) (r' : Registry)
    (hdet : r'.detached = r.detached) (f : Document → Document) :
    (r'.modify d.id f).detached = r.detached := by
  obtain ⟨hd, rfl⟩ := (get?_eq_some hr).mp h
  rw [show (r'.modify d.id f).detached = r'.detached.map fun e => if e.id = d.id then f e else e
    from rfl, hdet]
  refine (List.map_congr_left fun e he => ?_).trans (List.map_id _)
  simp [(hr.id_ne hd he).symm]

/-- The registry after an edit that is accepted. -/
def afterEdit (r : Registry) (d : Document) (edits : List Edit) (version : Int) : Registry :=
  let r := r.modify d.id fun _ => d.edited edits version
  if d.kind = .profile then
    (d.knownNamespace?.elim r r.invalidateDependents).invalidateUnresolved
  else r

lemma documents_afterEdit {edits : List Edit} :
    (r.afterEdit d edits version).documents =
      ((r.modify d.id fun _ => d.edited edits version).documents.map
        (·.forgetFor d.definedNamespace?)).map (·.forgetOnArrival (d.kind = .profile)) := by
  unfold afterEdit definedNamespace?
  by_cases hk : d.kind = .profile
  · simp only [hk, if_true, decide_true, documents_invalidateUnresolved]
    cases d.knownNamespace? with
    | none => simp
    | some key => rw [Option.elim_some, documents_invalidateDependents]
  · simp [hk]

lemma detached_afterEdit {edits : List Edit} :
    (r.afterEdit d edits version).detached =
        (r.modify d.id fun _ => d.edited edits version).detached ∧
      (r.afterEdit d edits version).nextId = r.nextId := by
  unfold afterEdit
  dsimp only
  split
  · cases d.knownNamespace? <;> exact ⟨rfl, rfl⟩
  · exact ⟨rfl, rfl⟩

lemma update_of_some (h : r.get? uri = some d) {edits : List Edit} :
    r.update uri edits version =
      if version ≤ d.version then (.error (.versionOutOfOrder d.uri d.version version), r)
      else (.ok (d.edited edits version), r.afterEdit d edits version) := by
  unfold update Document.update afterEdit
  by_cases hv : version ≤ d.version
  · simp only [h, hv, if_true]
  · by_cases hk : d.kind = .profile
    · simp only [h, hv, hk, if_true, if_false, edited]
    · simp only [h, hv, hk, if_false, edited]

lemma map_afterEdit (hr : r.WellFormed) (h : r.get? uri = some d) (hv : d.version < version)
    {edits : List Edit} :
    (r.afterEdit d edits version).documents =
      r.documents.map ((Operation.update uri edits version).effect r) := by
  rw [documents_afterEdit, documents_modify hr h, List.map_map, List.map_map]
  obtain ⟨hd, rfl⟩ := (get?_eq_some hr).mp h
  refine List.map_congr_left fun e he => ?_
  by_cases hu : e.uri = d.uri
  · rw [hr.eq_of_uri he hd hu]
    simp only [Function.comp_apply, if_true, Operation.effect, hv, and_self]
    rw [forgetFor_of_empty rfl, forgetOnArrival_of_empty rfl]
  · simp [Operation.effect, Operation.bystander, Operation.outlines, Operation.invalidated?,
      Operation.bringsProfile, h, hv, hu]

/-! ### Working diagnostics out -/

lemma diagnose_of_known {ds : List Diagnostic} (h : d.stage.diagnostics? = some ds) :
    r.diagnose d = (.ok ds, r) := by
  simp [diagnose, h]

/-- A profile is found in the same place as long as no text changes. -/
lemma profile?_map {r' : Registry} {f : Document → Document} {key : String}
    (hf : ∀ e ∈ r.documents, SameText e (f e)) (h : r'.documents = r.documents.map f) :
    r'.profile? key = (r.profile? key).map f := by
  unfold profile?
  rw [h, List.find?_map]
  congr 1
  refine List.find?_congr fun e he => ?_
  simp [(hf e he).defines key]

/-- The document of which diagnostics are worked out, before they are kept. -/
def examined (d : Document) : Document := { d with checks := d.checks + 1 }.outline.2

lemma sameText_examined : SameText d (examined d) :=
  SameText.trans (e := { d with checks := d.checks + 1 }) ⟨rfl, rfl, rfl, rfl, rfl⟩ sameText_outline

lemma examined_stage (hd : d.Derived) (hn : d.stage.diagnostics? = none) :
    (examined d).stage = .outlined d.textTree d.textOutline := by
  have hd' : Derived { d with checks := d.checks + 1 } := ⟨hd.tree, hd.outline⟩
  exact hd'.outline_stage hn

lemma examined_derived (hd : d.Derived) : (examined d).Derived :=
  Derived.outline_derived (d := { d with checks := d.checks + 1 }) ⟨hd.tree, hd.outline⟩

/-- The profiles that a map is checked against are those whose texts have its namespace. -/
lemma contract?_modify (hr : r.WellFormed) (h : r.get? uri = some d) {key : String} :
    (r.modify d.id fun _ => examined d).contract? key =
      ((r.profile? key).bind (·.textContract?),
        (r.modify d.id fun _ => examined d).outlineAll .profile) := by
  have hmod := documents_modify hr h fun _ => examined d
  obtain ⟨hd, hu⟩ := (get?_eq_some hr).mp h
  have hsame : ∀ e ∈ r.documents, SameText e (if e.uri = uri then examined d else e) := by
    intro e he
    split
    · next heu => rw [hr.eq_of_uri he hd (heu.trans hu.symm)]; exact sameText_examined
    · exact .refl e
  rw [contract?_eq]
  · rw [profile?_map hsame hmod]
    cases hp : r.profile? key with
    | none => rfl
    | some p => simp [(hsame p (profile?_eq_some hp).1).textContract?]
  · rw [hmod]
    refine hr.inOrder.map fun e => ?_
    split
    · next heu => rw [sameText_examined.uri, hu, heu]
    · rfl
  · intro e he
    rw [hmod] at he
    obtain ⟨x, hx, rfl⟩ := List.mem_map.mp he
    split
    · exact examined_derived (hr.derived_of_mem hd)
    · exact hr.derived_of_mem hx

lemma diagnose_of_unreadable (hd : d.Derived) (hn : d.stage.diagnostics? = none) {x : SyntaxError}
    (ht : d.textTree = .error x) :
    r.diagnose d = (.ok [x.diagnostic d.text.toList],
      (r.modify d.id fun _ => examined d).modify d.id
        (·.keepDiagnostics [x.diagnostic d.text.toList] false)) := by
  have hs := examined_stage hd hn
  have hid : (examined d).id = d.id := sameText_examined.id
  have htext : (examined d).text = d.text := sameText_examined.text
  rw [textOutline, ht] at hs
  unfold diagnose
  rw [hn]
  simp only [show { d with checks := d.checks + 1 }.outline.2 = examined d from rfl, hs, hid, htext]

lemma diagnose_of_readable (hd : d.Derived) (hn : d.stage.diagnostics? = none) {tree : Tree}
    (ht : d.textTree = .ok tree) :
    let found := (r.modify d.id fun _ => examined d).examine tree tree.namespaceKey
    r.diagnose d =
      (.ok found.1.1, found.2.modify d.id (·.keepDiagnostics found.1.1 found.1.2)) := by
  have hs := examined_stage hd hn
  have hid : (examined d).id = d.id := sameText_examined.id
  rw [textOutline, ht] at hs
  unfold diagnose
  rw [hn]
  simp only [show { d with checks := d.checks + 1 }.outline.2 = examined d from rfl, hs, hid]
  rfl

/-- Two changes of the document at a uri, with a change of other documents between them. -/
lemma documents_modify_twice (hr : r.WellFormed) (h : r.get? uri = some d) {r' : Registry}
    {g : Document → Document} (hg : ∀ e, (g e).id = e.id) (hgd : g (examined d) = examined d)
    (hdoc : r'.documents = (r.modify d.id fun _ => examined d).documents.map g)
    (k : Document → Document) :
    (r'.modify d.id k).documents =
      r.documents.map fun e => if e.uri = uri then k (examined d) else g e := by
  have hmod : (r'.modify d.id k).documents =
      r'.documents.map fun e => if e.id = d.id then k e else e := rfl
  rw [hmod, hdoc, documents_modify hr h, List.map_map, List.map_map]
  obtain ⟨hd, rfl⟩ := (get?_eq_some hr).mp h
  refine List.map_congr_left fun e he => ?_
  by_cases hu : e.uri = d.uri
  · simp [hu, hgd, sameText_examined.id]
  · have : e.id ≠ d.id := fun hid =>
      hu (congrArg _ (hr.eq_of_id he hd hid))
    simp [hu, hg, this]

/-- Working diagnostics out answers with the verdict on the texts, and keeps it. -/
lemma diagnose_eq (hr : r.WellFormed) (h : r.get? uri = some d)
    (hn : d.stage.diagnostics? = none) :
    (r.diagnose d).1 = .ok (r.verdict d).1 ∧
      (r.diagnose d).2.documents = r.documents.map ((Operation.diagnose uri).effect r) := by
  obtain ⟨hd, hu⟩ := (get?_eq_some hr).mp h
  have hder := hr.derived_of_mem hd
  -- whatever happens to the others, the document itself keeps the verdict
  have heffect : ∀ g : Document → Document,
      (∀ e ∈ r.documents, e.uri ≠ uri → g e = (Operation.diagnose uri).bystander r e) →
      (r.documents.map fun e => if e.uri = uri then
          (examined d).keepDiagnostics (r.verdict d).1 (r.verdict d).2 else g e) =
        r.documents.map ((Operation.diagnose uri).effect r) := by
    intro g hg
    refine List.map_congr_left fun e he => ?_
    by_cases heu : e.uri = uri
    · rw [hr.eq_of_uri he hd (heu.trans hu.symm)]
      simp [Operation.effect, hu, hn, examined]
    · simp [Operation.effect, heu, hg e he heu]
  cases ht : d.textTree with
  | error e =>
    rw [diagnose_of_unreadable hder hn ht]
    have hv : r.verdict d = ([e.diagnostic d.text.toList], false) := by simp [verdict, ht]
    refine ⟨by rw [hv], ?_⟩
    rw [← heffect id fun x _ _ => ?_, hv]
    · exact documents_modify_twice hr h (fun _ => rfl) rfl (List.map_id _).symm _
    · simp [Operation.bystander, Operation.outlines, Operation.invalidated?,
        Operation.bringsProfile, h, textNamespace?, ht, Except.toOption]
  | ok tree =>
    rw [diagnose_of_readable hder hn ht]
    have hkind : tree.kind = d.kind := readTree_kind ht
    cases tree with
    | profile p =>
      have hv : r.verdict d = ([], false) := by simp [verdict, ht]
      have hk : d.kind = .profile := hkind.symm
      refine ⟨by rw [hv]; rfl, ?_⟩
      rw [← heffect (·.forgetFor (some (Tree.profile p).namespaceKey)) fun x _ _ => ?_, hv]
      · exact documents_modify_twice hr h (fun _ => sameText_forgetFor.id)
          (forgetFor_of_profile (sameText_examined.kind.trans hk))
          (documents_invalidateDependents _) _
      · simp [Operation.bystander, Operation.outlines, Operation.invalidated?,
          Operation.bringsProfile, h, hk, hn, textNamespace?, ht, Except.toOption]
    | map m =>
      have hk : d.kind = .map := hkind.symm
      have hexamine : (r.modify d.id fun _ => examined d).examine (.map m) (Tree.map m).namespaceKey
          = (r.verdict d, (r.modify d.id fun _ => examined d).outlineAll .profile) := by
        unfold examine verdict
        simp only [contract?_modify hr h, ht]
        cases (r.profile? (Tree.map m).namespaceKey).bind (·.textContract?) <;> rfl
      dsimp only
      rw [hexamine]
      refine ⟨rfl, ?_⟩
      rw [← heffect (fun x => if x.kind = .profile then x.outline.2 else x) fun x _ _ => ?_]
      · refine documents_modify_twice hr h (fun x => ?_) ?_ rfl _
        · split
          · exact sameText_outline.id
          · rfl
        · rw [if_neg (by simp [sameText_examined.kind, hk])]
      · simp [Operation.bystander, Operation.outlines, Operation.invalidated?,
          Operation.bringsProfile, h, hk, hn, textNamespace?, ht, Except.toOption]

lemma contract?_snd (r : Registry) (key : String) :
    (r.contract? key).2 = r.outlineAll .profile := by
  have hf : (r.findProfile key).2 = r.outlineAll .profile := rfl
  unfold contract?
  rcases hq : r.findProfile key with ⟨_ | p, r'⟩ <;> rw [hq] at hf
  · exact hf
  · dsimp only
    split <;> exact hf

lemma examine_frame (r : Registry) (tree : Tree) (key : String) :
    (r.examine tree key).2.detached = r.detached ∧ (r.examine tree key).2.nextId = r.nextId := by
  cases tree with
  | profile p => exact ⟨rfl, rfl⟩
  | map m =>
    have hc := contract?_snd r key
    unfold examine
    rcases hq : r.contract? key with ⟨_ | c, r'⟩ <;> rw [hq] at hc <;> cases hc <;>
      exact ⟨rfl, rfl⟩

lemma detached_diagnose (hr : r.WellFormed) (h : r.get? uri = some d)
    (hn : d.stage.diagnostics? = none) :
    (r.diagnose d).2.detached = r.detached ∧ (r.diagnose d).2.nextId = r.nextId := by
  have hd := hr.derived_of_mem ((get?_eq_some hr).mp h).1
  have hmod := detached_modify hr h r rfl fun _ => examined d
  cases ht : d.textTree with
  | error e =>
    rw [diagnose_of_unreadable hd hn ht]
    exact ⟨detached_modify hr h _ hmod _, rfl⟩
  | ok tree =>
    rw [diagnose_of_readable hd hn ht]
    obtain ⟨hdet, hnext⟩ :=
      examine_frame (r.modify d.id fun _ => examined d) tree tree.namespaceKey
    exact ⟨detached_modify hr h _ (hdet.trans hmod) _, hnext⟩

/-! ### All operations -/

lemma document?_eq_some (hr : r.WellFormed) {id : Nat} :
    r.document? id = some d ↔ d ∈ r.documents ++ r.detached ∧ d.id = id := by
  unfold document?
  constructor
  · intro h
    exact ⟨List.mem_of_find?_eq_some h, by simpa using List.find?_some h⟩
  · rintro ⟨hd, rfl⟩
    cases hf : (r.documents ++ r.detached).find? (·.id == d.id) with
    | none => simpa using List.find?_eq_none.mp hf d hd
    | some e =>
      have heq : e.id = d.id := by simpa using List.find?_some hf
      rw [hr.eq_of_known_id (List.mem_of_find?_eq_some hf) hd heq]

lemma outline_snd : (r.outline d).2 = r.modify d.id fun _ => d.outline.2 := by
  have hid := (sameText_outline (d := d)).id
  unfold Registry.outline
  rcases hd : d.outline with ⟨o, d'⟩
  rw [hd] at hid
  dsimp only at hid ⊢
  rw [hid]

lemma map_outline (hr : r.WellFormed) {id : Nat} {ds : List Document}
    (hds : ∀ e ∈ ds, e ∈ r.documents ++ r.detached) (h : r.document? id = some d) :
    (ds.map fun e => if e.id = d.id then d.outline.2 else e) =
      ds.map fun e => if e.id = id then e.outline.2 else e := by
  obtain ⟨hd, rfl⟩ := (document?_eq_some hr).mp h
  refine List.map_congr_left fun e he => ?_
  split
  · next hid => rw [hr.eq_of_known_id (hds e he) hd hid]
  · rfl

lemma map_outline_of_none {id : Nat} {ds : List Document}
    (hds : ∀ e ∈ ds, e ∈ r.documents ++ r.detached) (h : r.document? id = none) :
    (ds.map fun e => if e.id = id then e.outline.2 else e) = ds := by
  refine (List.map_congr_left fun e he => ?_).trans (List.map_id _)
  have : e.id ≠ id := by simpa using List.find?_eq_none.mp h e (hds e he)
  simp [this]

/-- An operation that neither makes outlines nor clears anything leaves its bystanders alone. -/
lemma bystander_eq_self {op : Operation} (hout : op.outlines r d = false)
    (hinv : op.invalidated? r = none) (hbring : op.bringsProfile r = false) :
    op.bystander r d = d := by
  simp [Operation.bystander, hout, hinv, hbring]

lemma map_effect_eq_self {op : Operation} (h : ∀ e ∈ r.documents, op.effect r e = e) :
    r.documents.map (op.effect r) = r.documents := by
  rw [List.map_congr_left h, List.map_id']

lemma place_of_keeps {op : Operation} (harr : op.arrival? r = none)
    (hkeeps : ∀ e, op.keeps e = true) :
    place (op.arrival? r) ((r.documents.filter op.keeps).map (op.effect r)) =
      r.documents.map (op.effect r) := by
  rw [harr, List.filter_eq_self.mpr fun e _ => hkeeps e]
  rfl

/-- An edit that is refused does nothing. -/
lemma effect_update_of_refused (hr : r.WellFormed) {edits : List Edit}
    (h : ∀ d, r.get? uri = some d → ¬ d.version < version) (he : e ∈ r.documents) :
    (Operation.update uri edits version).effect r e = e := by
  have hedit : ¬ (e.uri = uri ∧ e.version < version) := fun ⟨hu, hv⟩ =>
    h e ((get?_eq_some hr).mpr ⟨he, hu⟩) hv
  simp only [Operation.effect, hedit, if_false]
  cases hg : r.get? uri with
  | none =>
    exact bystander_eq_self rfl (by simp [Operation.invalidated?, hg])
      (by simp [Operation.bringsProfile, hg])
  | some d =>
    exact bystander_eq_self rfl (by simp [Operation.invalidated?, hg, h d hg])
      (by simp [Operation.bringsProfile, hg, h d hg])

/-- Diagnostics that are known are not worked out again. -/
lemma effect_diagnose_of_known (hr : r.WellFormed)
    (h : ∀ d, r.get? uri = some d → d.stage.diagnostics? ≠ none) (he : e ∈ r.documents) :
    (Operation.diagnose uri).effect r e = e := by
  have hdiag : ¬ (e.uri = uri ∧ e.stage.diagnostics? = none) := fun ⟨hu, hn⟩ =>
    h e ((get?_eq_some hr).mpr ⟨he, hu⟩) hn
  simp only [Operation.effect, hdiag, if_false]
  cases hg : r.get? uri with
  | none =>
    exact bystander_eq_self (by simp [Operation.outlines, hg])
      (by simp [Operation.invalidated?, hg]) rfl
  | some d =>
    exact bystander_eq_self (by simp [Operation.outlines, hg, h d hg])
      (by simp [Operation.invalidated?, hg, h d hg]) rfl

/-- Making the outline of one document leaves the others as they are. -/
lemma effect_outline {id : Nat} :
    (Operation.outline id).effect r e = if e.id = id then e.outline.2 else e := by
  simp [Operation.effect, Operation.bystander, Operation.outlines, Operation.invalidated?,
    Operation.bringsProfile]

/-- All that an operation does to the registered documents. -/
theorem documents_apply (hr : r.WellFormed) (op : Operation) :
    (r.apply op).documents =
      place (op.arrival? r) ((r.documents.filter op.keeps).map (op.effect r)) := by
  cases op with
  | create uri kind version text => exact documents_create
  | load uri kind text =>
    cases h : r.get? uri with
    | none =>
      simp only [apply, Operation.arrival?, h, if_true, place, Option.elim_some]
      rw [documents_createIfAbsent_of_none h, List.filter_eq_self.mpr]
      exact fun _ _ => rfl
    | some d =>
      rw [place_of_keeps (by simp [Operation.arrival?, h]) fun _ => rfl, map_effect_eq_self]
      · simp only [apply, createIfAbsent_of_some h]
      · exact fun e _ => bystander_eq_self rfl rfl (by simp [Operation.bringsProfile, h])
  | update uri edits version =>
    rw [place_of_keeps rfl fun _ => rfl]
    cases h : r.get? uri with
    | none =>
      rw [map_effect_eq_self fun e he => effect_update_of_refused hr (by simp [h]) he]
      simp only [apply, update_of_none h]
    | some d =>
      by_cases hv : d.version < version
      · simp only [apply, update_of_some h, if_neg (not_le.mpr hv), map_afterEdit hr h hv]
      · rw [map_effect_eq_self fun e he => effect_update_of_refused hr (by simpa [h] using hv) he]
        simp only [apply, update_of_some h, if_pos (not_lt.mp hv)]
  | remove uri =>
    cases h : r.get? uri with
    | none =>
      have hkeeps : ∀ e ∈ r.documents, (Operation.remove uri).keeps e = true := fun e he => by
        simpa [Operation.keeps] using get?_eq_none.mp h e he
      rw [List.filter_eq_self.mpr hkeeps, map_effect_eq_self]
      · simp only [apply, remove_of_none h]; rfl
      · exact fun e _ => bystander_eq_self rfl (by simp [Operation.invalidated?, h]) rfl
    | some d =>
      simp only [apply, remove_of_some h, documents_forgetProfile]
      refine List.map_congr_left fun e _ => ?_
      simp [Operation.effect, Operation.bystander, Operation.outlines, Operation.invalidated?,
        Operation.bringsProfile, h]
  | lookThrough kind =>
    rw [place_of_keeps rfl fun _ => rfl]
    refine List.map_congr_left fun e _ => ?_
    simp [Operation.effect, Operation.bystander, Operation.outlines, Operation.invalidated?,
      Operation.bringsProfile]
  | outline id =>
    have heffect : (fun e : Document => if e.id = id then e.outline.2 else e) =
        (Operation.outline id).effect r := funext fun e => effect_outline.symm
    rw [place_of_keeps rfl fun _ => rfl, ← heffect]
    have hds : ∀ e ∈ r.documents, e ∈ r.documents ++ r.detached :=
      fun e he => List.mem_append_left _ he
    cases h : r.document? id with
    | none =>
      rw [map_outline_of_none hds h]
      simp only [apply, h, Option.elim_none]
    | some d =>
      rw [← map_outline hr hds h]
      simp only [apply, h, Option.elim_some, outline_snd]
      rfl
  | diagnose uri =>
    rw [place_of_keeps rfl fun _ => rfl]
    cases h : r.get? uri with
    | none =>
      rw [map_effect_eq_self fun e he => effect_diagnose_of_known hr (by simp [h]) he]
      simp only [apply, h, Option.elim_none]
    | some d =>
      cases hn : d.stage.diagnostics? with
      | none =>
        simp only [apply, h, Option.elim_some]
        exact (diagnose_eq hr h hn).2
      | some ds =>
        rw [map_effect_eq_self fun e he => effect_diagnose_of_known hr (by simp [h, hn]) he]
        simp only [apply, h, Option.elim_some, diagnose_of_known hn]

lemma map_outside {op : Operation} (h : ∀ e, op.outside e = e) :
    r.detached.map op.outside = r.detached := by
  rw [List.map_congr_left fun e _ => h e, List.map_id']

lemma filter_keeps {op : Operation} (h : ∀ e ∈ r.documents, op.keeps e = true) :
    (r.documents.filter fun e => !op.keeps e) = [] := by
  rw [List.filter_eq_nil_iff]
  intro e he
  simp [h e he]

/-- All that an operation does to the documents that are not registered. -/
theorem detached_apply (hr : r.WellFormed) (op : Operation) :
    (r.apply op).detached =
      r.detached.map op.outside ++ r.documents.filter fun e => !op.keeps e := by
  cases op with
  | create uri kind version text =>
    rw [map_outside fun _ => rfl]
    simp only [apply, detached_create.1, Operation.keeps]
    congr 2
    funext e
    cases h : e.uri == uri <;> simp_all
  | load uri kind text =>
    rw [map_outside fun _ => rfl, filter_keeps fun _ _ => rfl, List.append_nil]
    cases h : r.get? uri with
    | none => exact (detached_createIfAbsent_of_none h).1
    | some d => simp only [apply, createIfAbsent_of_some h]
  | update uri edits version =>
    rw [map_outside fun _ => rfl, filter_keeps fun _ _ => rfl, List.append_nil]
    cases h : r.get? uri with
    | none =>
      simp only [apply, update_of_none h]
    | some d =>
      by_cases hv : version ≤ d.version
      · simp only [apply, update_of_some h, if_pos hv]
      · simp only [apply, update_of_some h, if_neg hv, detached_afterEdit.1]
        exact detached_modify hr h r rfl _
  | remove uri =>
    rw [map_outside fun _ => rfl]
    cases h : r.get? uri with
    | none =>
      have hkeeps : ∀ e ∈ r.documents, (Operation.remove uri).keeps e = true := fun e he => by
        simpa [Operation.keeps] using get?_eq_none.mp h e he
      rw [filter_keeps hkeeps, List.append_nil]
      simp only [apply, remove_of_none h]
    | some d =>
      simp only [apply, remove_of_some h, detached_forgetProfile, Operation.keeps]
      show r.detached ++ r.documents.filter (·.uri == uri) = _
      congr 2
      funext e
      cases h : e.uri == uri <;> simp_all
  | lookThrough kind =>
    rw [map_outside fun _ => rfl, filter_keeps fun _ _ => rfl, List.append_nil]
    rfl
  | outline id =>
    rw [filter_keeps fun _ _ => rfl, List.append_nil]
    have hds : ∀ e ∈ r.detached, e ∈ r.documents ++ r.detached :=
      fun e he => List.mem_append_right _ he
    show _ = r.detached.map fun e => if e.id = id then e.outline.2 else e
    cases h : r.document? id with
    | none =>
      rw [map_outline_of_none hds h]
      simp only [apply, h, Option.elim_none]
    | some d =>
      rw [← map_outline hr hds h]
      simp only [apply, h, Option.elim_some, outline_snd]
      rfl
  | diagnose uri =>
    rw [map_outside fun _ => rfl, filter_keeps fun _ _ => rfl, List.append_nil]
    cases h : r.get? uri with
    | none => simp only [apply, h, Option.elim_none]
    | some d =>
      simp only [apply, h, Option.elim_some]
      cases hn : d.stage.diagnostics? with
      | none => exact (detached_diagnose hr h hn).1
      | some ds => rw [diagnose_of_known hn]

lemma nextId_apply (hr : r.WellFormed) (op : Operation) :
    (r.apply op).nextId = r.nextId + if op.arrival? r = none then 0 else 1 := by
  cases op with
  | create uri kind version text =>
    simp only [apply, detached_create.2, Operation.arrival?, reduceCtorEq, if_false]
  | load uri kind text =>
    cases h : r.get? uri with
    | none =>
      simp only [apply, (detached_createIfAbsent_of_none h).2, Operation.arrival?, h, if_true,
        reduceCtorEq, if_false]
    | some d => simp [apply, createIfAbsent_of_some h, Operation.arrival?, h]
  | update uri edits version =>
    cases h : r.get? uri with
    | none =>
      simp [apply, update_of_none h, Operation.arrival?]
    | some d =>
      by_cases hv : version ≤ d.version
      · simp [apply, update_of_some h, hv, Operation.arrival?]
      · simp [apply, update_of_some h, hv, Operation.arrival?, detached_afterEdit.2]
  | remove uri =>
    cases h : r.get? uri with
    | none => simp [apply, remove_of_none h, Operation.arrival?]
    | some d =>
      simp only [apply, remove_of_some h, nextId_forgetProfile, Operation.arrival?, if_true]
      rfl
  | lookThrough kind => rfl
  | outline id =>
    cases h : r.document? id with
    | none => simp [apply, h, Operation.arrival?]
    | some d => simp only [apply, h, Option.elim_some, outline_snd]; rfl
  | diagnose uri =>
    cases h : r.get? uri with
    | none => simp [apply, h, Operation.arrival?]
    | some d =>
      simp only [apply, h, Option.elim_some, Operation.arrival?, if_true, Nat.add_zero]
      cases hn : d.stage.diagnostics? with
      | none => exact (detached_diagnose hr h hn).2
      | some ds => rw [diagnose_of_known hn]

end Contracts.Registry
