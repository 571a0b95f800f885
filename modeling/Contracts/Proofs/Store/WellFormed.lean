import Contracts.Proofs.Store.Effect

/-!
A registry stays well-formed whatever is done to it: no operation changes which document a document
is, and one that arrives takes an id that was never given before.
-/

namespace Contracts.Registry

open Document

variable {r : Registry} {d e : Document}

lemma sameText_bystander (op : Operation) : SameText d (op.bystander r d) := by
  refine SameText.trans (SameText.trans ?_ sameText_forgetFor) sameText_forgetOnArrival
  split
  · exact sameText_outline
  · exact .refl d

/-- Only an edit changes the text of a document. -/
lemma sameText_effect {op : Operation} (h : op.edits d = false) : SameText d (op.effect r d) := by
  cases op with
  | update uri edits version =>
    have hn : ¬ (d.uri = uri ∧ d.version < version) := by simpa [Operation.edits] using h
    simp only [Operation.effect, if_neg hn]
    exact sameText_bystander _
  | diagnose uri =>
    unfold Operation.effect
    dsimp only
    split
    · exact sameText_examined.trans sameText_keepDiagnostics
    · exact sameText_bystander _
  | _ => exact sameText_bystander _

/-- An edit leaves nothing known. -/
lemma effect_of_edits {op : Operation} (h : op.edits d = true) :
    (op.effect r d).stage = .empty := by
  cases op with
  | update uri edits version =>
    have hc : d.uri = uri ∧ d.version < version := by simpa [Operation.edits] using h
    simp [Operation.effect, hc, edited]
  | _ => cases h

/-- No operation changes which document it is. -/
lemma effect_identity (op : Operation) :
    (op.effect r d).id = d.id ∧ (op.effect r d).uri = d.uri ∧ (op.effect r d).kind = d.kind := by
  cases h : op.edits d with
  | false => exact ⟨(sameText_effect h).id, (sameText_effect h).uri, (sameText_effect h).kind⟩
  | true =>
    cases op with
    | update uri edits version =>
      have hc : d.uri = uri ∧ d.version < version := by simpa [Operation.edits] using h
      simp only [Operation.effect, if_pos hc]
      exact ⟨rfl, rfl, rfl⟩
    | _ => cases h

lemma bystander_derived (op : Operation) (hd : d.Derived) : (op.bystander r d).Derived := by
  unfold Operation.bystander
  refine Derived.forgetOnArrival_derived (Derived.forgetFor_derived ?_)
  split
  · exact hd.outline_derived
  · exact hd

lemma effect_derived (op : Operation) (hd : d.Derived) : (op.effect r d).Derived := by
  cases op with
  | update uri edits version =>
    unfold Operation.effect
    dsimp only
    split
    · exact derived_of_empty rfl
    · exact bystander_derived _ hd
  | diagnose uri =>
    unfold Operation.effect
    dsimp only
    split
    · exact (examined_derived hd).keepDiagnostics_derived
    · exact bystander_derived _ hd
  | _ => exact bystander_derived _ hd

lemma outside_id (op : Operation) : (op.outside d).id = d.id := by
  unfold Operation.outside
  split
  · split
    · exact sameText_outline.id
    · rfl
  · rfl

lemma outside_derived (op : Operation) (hd : d.Derived) : (op.outside d).Derived := by
  unfold Operation.outside
  split
  · split
    · exact hd.outline_derived
    · exact hd
  · exact hd

lemma arrival?_eq_some {op : Operation} (h : op.arrival? r = some d) :
    d.id = r.nextId ∧ d.stage = .empty ∧ d.reads = 0 ∧ d.checks = 0 := by
  cases op with
  | create uri kind version text => cases h; exact ⟨rfl, rfl, rfl, rfl⟩
  | load uri kind text =>
    simp only [Operation.arrival?] at h
    split at h
    · cases h; exact ⟨rfl, rfl, rfl, rfl⟩
    · cases h
  | _ => cases h

/-- A document that arrives takes the uri of none that stays. -/
lemma arrival?_uri {op : Operation} (h : op.arrival? r = some d) (he : e ∈ r.documents)
    (hk : op.keeps e = true) : e.uri ≠ d.uri := by
  cases op with
  | create uri kind version text =>
    have hu : e.uri ≠ uri := by simpa [Operation.keeps] using hk
    cases h; exact hu
  | load uri kind text =>
    simp only [Operation.arrival?] at h
    split at h
    · next hg => cases h; exact get?_eq_none.mp hg e he
    · cases h
  | _ => cases h

lemma place_perm (arrival? : Option Document) (ds : List Document) :
    (place arrival? ds).Perm (arrival?.toList ++ ds) := by
  cases arrival? with
  | none => exact .refl _
  | some d => exact insertSorted_perm d ds

lemma mem_place {arrival? : Option Document} {ds : List Document} :
    d ∈ place arrival? ds ↔ arrival? = some d ∨ d ∈ ds := by
  rw [(place_perm arrival? ds).mem_iff, List.mem_append, Option.mem_toList]

/-- A document that is registered after an operation is new or has come out of one before it. -/
theorem mem_documents_apply (hr : r.WellFormed) {op : Operation} :
    d ∈ (r.apply op).documents ↔ op.arrival? r = some d ∨
      ∃ e ∈ r.documents, op.keeps e = true ∧ op.effect r e = d := by
  rw [documents_apply hr, mem_place, List.mem_map]
  simp only [List.mem_filter, and_assoc]

lemma ids_apply (hr : r.WellFormed) (op : Operation) :
    (((r.apply op).documents ++ (r.apply op).detached).map (·.id)).Perm
      ((op.arrival? r).toList.map (·.id) ++ (r.documents ++ r.detached).map (·.id)) := by
  have hkept : ((r.documents.filter op.keeps).map (op.effect r)).map (·.id) =
      (r.documents.filter op.keeps).map (·.id) := by
    rw [List.map_map]
    exact List.map_congr_left fun e _ => (effect_identity op).1
  have houtside : (r.detached.map op.outside).map (·.id) = r.detached.map (·.id) := by
    rw [List.map_map]
    exact List.map_congr_left fun e _ => outside_id op
  have hsplit : ((r.documents.filter op.keeps).map (·.id) ++
      (r.documents.filter fun e => !op.keeps e).map (·.id)).Perm (r.documents.map (·.id)) := by
    rw [← List.map_append]
    exact (List.filter_append_perm op.keeps r.documents).map _
  rw [documents_apply hr, detached_apply hr, List.map_append, List.map_append, houtside]
  refine ((place_perm _ _).map _).append_right _ |>.trans ?_
  rw [List.map_append, hkept, List.append_assoc, List.map_append]
  refine List.Perm.append_left _ ?_
  refine (List.Perm.append_left _ List.perm_append_comm).trans ?_
  rw [← List.append_assoc]
  exact hsplit.append_right _

/-- Every operation keeps a registry well-formed. -/
theorem WellFormed.apply (hr : r.WellFormed) (op : Operation) : (r.apply op).WellFormed where
  ids := by
    rw [(ids_apply hr op).nodup_iff]
    cases harr : op.arrival? r with
    | none => simpa using hr.ids
    | some d =>
      refine List.nodup_cons.mpr ⟨fun hmem => ?_, hr.ids⟩
      obtain ⟨e, he, hid⟩ := List.mem_map.mp hmem
      have hlt := hr.fresh e he
      dsimp only at hid
      rw [hid, (arrival?_eq_some harr).1] at hlt
      exact Nat.lt_irrefl _ hlt
  fresh d hd := by
    have hmem := (ids_apply hr op).mem_iff.mp (List.mem_map_of_mem hd)
    rw [nextId_apply hr]
    rcases List.mem_append.mp hmem with h | h
    · cases harr : op.arrival? r with
      | none => simp [harr] at h
      | some e =>
        have hid : d.id = e.id := by simpa [harr] using h
        simp [hid, (arrival?_eq_some harr).1]
    · obtain ⟨e, he, hid⟩ := List.mem_map.mp h
      have hlt := hr.fresh e he
      rw [hid] at hlt
      omega
  uris := by
    have hkept : ((r.documents.filter op.keeps).map (op.effect r)).map (·.uri) =
        (r.documents.filter op.keeps).map (·.uri) := by
      rw [List.map_map]
      exact List.map_congr_left fun e _ => (effect_identity op).2.1
    rw [documents_apply hr, ((place_perm _ _).map _).nodup_iff, List.map_append, hkept]
    have hnd : ((r.documents.filter op.keeps).map (·.uri)).Nodup :=
      hr.uris.sublist (List.filter_sublist.map _)
    cases harr : op.arrival? r with
    | none => simpa using hnd
    | some d =>
      refine List.nodup_cons.mpr ⟨fun hmem => ?_, hnd⟩
      obtain ⟨e, he, hu⟩ := List.mem_map.mp hmem
      obtain ⟨he, hk⟩ := List.mem_filter.mp he
      exact arrival?_uri harr he hk hu
  inOrder := by
    rw [documents_apply hr]
    have h : InOrder ((r.documents.filter op.keeps).map (op.effect r)) :=
      InOrder.map (hr.inOrder.filter _) fun e => (effect_identity op).2.1
    cases op.arrival? r with
    | none => exact h
    | some d => exact inOrder_insertSorted h
  derived d hd := by
    rcases List.mem_append.mp hd with hd | hd
    · rcases (mem_documents_apply hr).mp hd with harr | ⟨e, he, -, rfl⟩
      · exact derived_of_empty (arrival?_eq_some harr).2.1
      · exact effect_derived op (hr.derived_of_mem he)
    · rw [detached_apply hr] at hd
      rcases List.mem_append.mp hd with hd | hd
      · obtain ⟨e, he, rfl⟩ := List.mem_map.mp hd
        exact outside_derived op (hr.derived e (List.mem_append_right _ he))
      · exact hr.derived_of_mem (List.mem_filter.mp hd).1

theorem wellFormed_empty : empty.WellFormed where
  ids := List.nodup_nil
  fresh _ h := by cases h
  uris := List.nodup_nil
  inOrder := List.Pairwise.nil
  derived _ h := by cases h

/-- A registry is well-formed whatever has been done to it. -/
theorem WellFormed.run (hr : r.WellFormed) (ops : List Operation) : (r.run ops).WellFormed := by
  induction ops generalizing r with
  | nil => exact hr
  | cons op ops ih => exact ih (hr.apply op)

/-- A document that was created for a uri is the one that is registered there. -/
lemma get?_createIfAbsent (hr : r.WellFormed) {uri : Uri} {kind : Kind} {text : String} :
    (r.createIfAbsent uri kind text).2.get? uri = some (r.createIfAbsent uri kind text).1 := by
  cases h : r.get? uri with
  | some d => rw [createIfAbsent_of_some h]; exact h
  | none =>
    have hr' : (r.createIfAbsent uri kind text).2.WellFormed := hr.apply (.load uri kind text)
    have hnew : (r.createIfAbsent uri kind text).1 = .new r.nextId uri kind 0 text := by
      simp only [createIfAbsent, h]; rfl
    rw [get?_eq_some hr', documents_createIfAbsent_of_none h, mem_insertSorted, hnew]
    exact ⟨.inl rfl, rfl⟩

end Contracts.Registry
