import Contracts.Proofs.Store.WellFormed

/-!
How long a document stays registered.

Only a new document for its uri or its removal takes a document out of a registry. A text that is
read from storage never does: where a document is registered already, that one stays. Until it is
taken out, the text of a document is the one it came with and the edits it has accepted, in order.
-/

namespace Contracts

namespace Operation

/-- Whether an operation registers a new document at `uri` in any case, or takes the one there
out. -/
def replaces (uri : Uri) : Operation → Bool
  | .create u _ _ _ | .remove u => u = uri
  | _ => false

/-- Whether an operation is meant to put another text at `uri`. A text that is read from storage is
only meant for a uri without a document. -/
def rewrites (uri : Uri) : Operation → Bool
  | .create u _ _ _ | .remove u | .update u _ _ => u = uri
  | _ => false

lemma replaces_of_rewrites {uri : Uri} {op : Operation} (h : op.rewrites uri = false) :
    op.replaces uri = false := by
  cases op <;> first | exact h | rfl

lemma keeps_of_replaces {op : Operation} {d : Document} (h : op.replaces d.uri = false) :
    op.keeps d = true := by
  have hne : ∀ u, decide (u = d.uri) = false → (d.uri != u) = true := fun u hu => by
    simpa using Ne.symm (of_decide_eq_false hu)
  cases op with
  | create uri kind version text => exact hne uri h
  | remove uri => exact hne uri h
  | _ => rfl

lemma edits_of_rewrites {op : Operation} {d : Document} (h : op.rewrites d.uri = false) :
    op.edits d = false := by
  by_contra hn
  obtain ⟨changes, version, rfl, -⟩ := edits_iff.mp (by simpa using hn)
  simp [rewrites] at h

/-- Where nothing is replaced, only a text from storage can arrive, and only where there is none. -/
lemma arrival?_of_replaces {r : Registry} {op : Operation} {d : Document}
    (h : op.arrival? r = some d) (hop : op.replaces d.uri = false) :
    r.get? d.uri = none ∧ ∃ kind text, op = .load d.uri kind text ∧
      d = .new r.nextId d.uri kind 0 text := by
  cases op with
  | create uri kind version text => cases h; simp [replaces, Document.new] at hop
  | load uri kind text =>
    simp only [arrival?] at h
    split at h
    · next hg => cases h; exact ⟨hg, kind, text, rfl, rfl⟩
    · cases h
  | _ => cases h

end Operation

namespace Document

/-- `d` is what `first` has become by the edits that it accepted, with their versions. -/
structure Grown (first : Document) (accepted : List (List Edit × Int)) (d : Document) : Prop where
  id : d.id = first.id
  uri : d.uri = first.uri
  kind : d.kind = first.kind
  text : d.text = accepted.foldl (fun text edit => applyEdits text edit.1) first.text
  version : d.version = ((accepted.map (·.2)).getLast?).getD first.version
  increasing : (first.version :: accepted.map (·.2)).Pairwise (· < ·)

variable {first d e : Document} {accepted : List (List Edit × Int)}

lemma Grown.refl (d : Document) : Grown d [] d :=
  ⟨rfl, rfl, rfl, rfl, rfl, List.pairwise_singleton _ _⟩

lemma Grown.sameText (h : Grown first accepted d) (hs : SameText d e) : Grown first accepted e :=
  ⟨hs.id.trans h.id, hs.uri.trans h.uri, hs.kind.trans h.kind, hs.text.trans h.text,
    hs.version.trans h.version, h.increasing⟩

/-- Versions that only grow are none of them later than the last. -/
lemma le_getLast?_getD {v : Int} {vs : List Int} (h : (v :: vs).Pairwise (· < ·)) :
    ∀ x ∈ v :: vs, x ≤ vs.getLast?.getD v := by
  induction vs generalizing v with
  | nil => simp
  | cons w ws ih =>
    obtain ⟨hv, hws⟩ := List.pairwise_cons.mp h
    intro x hx
    rw [List.getLast?_cons, Option.getD_some]
    rcases List.mem_cons.mp hx with rfl | hx
    · exact (hv w List.mem_cons_self).le.trans (ih hws w List.mem_cons_self)
    · exact ih hws x hx

/-- A version that is accepted is later than all before it. -/
lemma Grown.edited (h : Grown first accepted d) {edits : List Edit} {version : Int}
    (hv : d.version < version) : Grown first (accepted ++ [(edits, version)])
      (d.edited edits version) where
  id := h.id
  uri := h.uri
  kind := h.kind
  text := by simp [Document.edited, h.text]
  version := by simp [Document.edited]
  increasing := by
    rw [h.version] at hv
    rw [List.map_append, ← List.cons_append, List.pairwise_append]
    refine ⟨h.increasing, List.pairwise_singleton _ _, fun x hx y hy => ?_⟩
    cases List.mem_singleton.mp hy
    exact (le_getLast?_getD h.increasing x hx).trans_lt hv

end Document

namespace Registry

open Document

variable {r : Registry} {d e first : Document} {op : Operation} {ops : List Operation} {uri : Uri}

/-- Every document that is known after an operation is new or was known before. -/
lemma known_apply (hr : r.WellFormed)
    (hd : d ∈ (r.apply op).documents ++ (r.apply op).detached) :
    op.arrival? r = some d ∨
      ∃ e ∈ r.documents ++ r.detached, e.id = d.id ∧ e.uri = d.uri := by
  rcases List.mem_append.mp hd with hd | hd
  · rcases (mem_documents_apply hr).mp hd with harr | ⟨e, he, -, rfl⟩
    · exact .inl harr
    · exact .inr ⟨e, List.mem_append_left _ he, (effect_identity op).1.symm,
        (effect_identity op).2.1.symm⟩
  · rw [detached_apply hr] at hd
    rcases List.mem_append.mp hd with hd | hd
    · obtain ⟨e, he, rfl⟩ := List.mem_map.mp hd
      refine .inr ⟨e, List.mem_append_right _ he, (outside_id op).symm, ?_⟩
      unfold Operation.outside
      split
      · split
        · exact sameText_outline.uri.symm
        · rfl
      · rfl
    · exact .inr ⟨d, List.mem_append_left _ (List.mem_filter.mp hd).1, rfl, rfl⟩

/-- A document that is not replaced stays registered. -/
lemma get?_apply (hr : r.WellFormed) (h : r.get? uri = some d) (hop : op.replaces uri = false) :
    (r.apply op).get? uri = some (op.effect r d) := by
  obtain ⟨hd, rfl⟩ := (get?_eq_some hr).mp h
  refine (get?_eq_some (hr.apply op)).mpr ⟨?_, (effect_identity op).2.1⟩
  exact (mem_documents_apply hr).mpr (.inr ⟨d, hd, Operation.keeps_of_replaces hop, rfl⟩)

lemma get?_apply_of_none (hr : r.WellFormed) (h : r.get? uri = none)
    (hop : op.replaces uri = false) :
    (r.apply op).get? uri = none ∨ ∃ kind text, op = .load uri kind text ∧
      (r.apply op).get? uri = some (.new r.nextId uri kind 0 text) := by
  cases hg : (r.apply op).get? uri with
  | none => exact .inl rfl
  | some d =>
    obtain ⟨hd, rfl⟩ := (get?_eq_some (hr.apply op)).mp hg
    rcases (mem_documents_apply hr).mp hd with harr | ⟨e, he, -, rfl⟩
    · obtain ⟨-, kind, text, rfl, hnew⟩ := Operation.arrival?_of_replaces harr hop
      exact .inr ⟨kind, text, rfl, congrArg some hnew⟩
    · exact absurd (effect_identity op).2.1.symm (get?_eq_none.mp h e he)

/-- What is not meant for a document leaves its text alone. -/
lemma get?_run (hr : r.WellFormed) (h : r.get? uri = some d)
    (hops : ∀ op ∈ ops, op.rewrites uri = false) :
    ∃ e, (r.run ops).get? uri = some e ∧ SameText d e := by
  induction ops generalizing r d with
  | nil => exact ⟨d, h, .refl d⟩
  | cons op ops ih =>
    have hop := hops op List.mem_cons_self
    have hu := ((get?_eq_some hr).mp h).2
    obtain ⟨e, he, hs⟩ := ih (hr.apply op)
      (get?_apply hr h (Operation.replaces_of_rewrites hop))
      fun o ho => hops o (List.mem_cons_of_mem _ ho)
    exact ⟨e, he, (sameText_effect (Operation.edits_of_rewrites (hu ▸ hop))).trans hs⟩

/-- What is registered at a uri stays, and nothing comes, if no operation is about it. -/
lemma isSome_run (hr : r.WellFormed)
    (hops : ∀ op ∈ ops, op.replaces uri = false ∧ ∀ kind text, op ≠ .load uri kind text) :
    ((r.run ops).get? uri).isSome = (r.get? uri).isSome := by
  induction ops generalizing r with
  | nil => rfl
  | cons op ops ih =>
    obtain ⟨hreplaces, hload⟩ := hops op List.mem_cons_self
    have hfirst : ((r.apply op).get? uri).isSome = (r.get? uri).isSome := by
      cases hg : r.get? uri with
      | some d => rw [get?_apply hr hg hreplaces]; rfl
      | none =>
        rcases get?_apply_of_none hr hg hreplaces with hnone | ⟨kind, text, rfl, -⟩
        · rw [hnone]
        · exact absurd rfl (hload kind text)
    rw [run_cons, ih (hr.apply op) fun o ho => hops o (List.mem_cons_of_mem _ ho), hfirst]

/-- Of the documents that are known, all that came to `uri` since `start` was the next id are one
document, which has the id `id`. -/
def OnlyArrival (r : Registry) (uri : Uri) (start id : Nat) : Prop :=
  ∀ e ∈ r.documents ++ r.detached, e.uri = uri → start ≤ e.id → e.id = id

/-- No document has come to `uri` since `start` was the next id, and none is registered there. -/
structure Vacant (r : Registry) (uri : Uri) (start : Nat) : Prop where
  unregistered : r.get? uri = none
  later : start ≤ r.nextId
  earlier : ∀ e ∈ r.documents ++ r.detached, e.uri = uri → e.id < start

variable {start id : Nat}

lemma vacant_nextId (hr : r.WellFormed) (h : r.get? uri = none) : r.Vacant uri r.nextId :=
  ⟨h, le_rfl, fun e he _ => hr.fresh e he⟩

/-- No document arrives where one is registered. -/
lemma OnlyArrival.apply (hr : r.WellFormed) (h : r.get? uri = some d)
    (hop : op.replaces uri = false) (ho : r.OnlyArrival uri start id) :
    (r.apply op).OnlyArrival uri start id := by
  rintro e he rfl hle
  rcases known_apply hr he with harr | ⟨x, hx, hid, hu⟩
  · have hnone := (Operation.arrival?_of_replaces harr hop).1
    rw [h] at hnone
    cases hnone
  · rw [← hid] at hle ⊢
    exact ho x hx hu hle

lemma OnlyArrival.run (hr : r.WellFormed) (h : r.get? uri = some d)
    (hops : ∀ op ∈ ops, op.replaces uri = false) (ho : r.OnlyArrival uri start id) :
    (r.run ops).OnlyArrival uri start id := by
  induction ops generalizing r d with
  | nil => exact ho
  | cons op ops ih =>
    have hop := hops op List.mem_cons_self
    exact ih (hr.apply op) (get?_apply hr h hop) (fun o ho => hops o (List.mem_cons_of_mem _ ho))
      (ho.apply hr h hop)

/-- A uri without a document stays so, or a text from storage has come, and nothing before it. -/
lemma Vacant.apply (hr : r.WellFormed) (hv : r.Vacant uri start) (hop : op.replaces uri = false) :
    (r.apply op).Vacant uri start ∨ ∃ n kind text, start ≤ n ∧
      (r.apply op).get? uri = some (.new n uri kind 0 text) ∧
      (r.apply op).OnlyArrival uri start n := by
  have hknown : ∀ e ∈ (r.apply op).documents ++ (r.apply op).detached, e.uri = uri →
      e.id < start ∨ (r.apply op).get? uri = some e := by
    rintro e he rfl
    rcases known_apply hr he with harr | ⟨x, hx, hid, hu⟩
    · exact .inr ((get?_eq_some (hr.apply op)).mpr
        ⟨(mem_documents_apply hr).mpr (.inl harr), rfl⟩)
    · exact .inl (hid ▸ hv.earlier x hx hu)
  rcases get?_apply_of_none hr hv.unregistered hop with hnone | ⟨kind, text, -, hsome⟩
  · refine .inl ⟨hnone, ?_, fun e he hu => ?_⟩
    · rw [nextId_apply hr]
      exact hv.later.trans (Nat.le_add_right _ _)
    · rcases hknown e he hu with hlt | hget
      · exact hlt
      · rw [hnone] at hget
        cases hget
  · refine .inr ⟨_, kind, text, hv.later, hsome, fun e he hu hle => ?_⟩
    rcases hknown e he hu with hlt | hget
    · exact absurd hlt (Nat.not_lt.mpr hle)
    · rw [hsome] at hget
      cases hget
      rfl

lemma Vacant.run (hr : r.WellFormed) (hv : r.Vacant uri start)
    (hops : ∀ op ∈ ops, op.rewrites uri = false) :
    (r.run ops).Vacant uri start ∨ ∃ n kind text d, start ≤ n ∧
      (r.run ops).get? uri = some d ∧ SameText (.new n uri kind 0 text) d ∧
      (r.run ops).OnlyArrival uri start n := by
  induction ops generalizing r with
  | nil => exact .inl hv
  | cons op ops ih =>
    have hrest : ∀ o ∈ ops, o.rewrites uri = false := fun o ho => hops o (List.mem_cons_of_mem _ ho)
    have hop := Operation.replaces_of_rewrites (hops op List.mem_cons_self)
    rcases hv.apply hr hop with hv | ⟨n, kind, text, hle, hget, ho⟩
    · exact ih (hr.apply op) hv hrest
    · obtain ⟨d, hd, hs⟩ := get?_run (hr.apply op) hget hrest
      have honly : ((r.apply op).run ops).OnlyArrival uri start n :=
        ho.run (hr.apply op) hget fun o ho => Operation.replaces_of_rewrites (hrest o ho)
      exact .inr ⟨n, kind, text, d, hle, hd, hs, honly⟩

end Registry

end Contracts
