import Mathlib.Data.List.Find
import Mathlib.Data.List.Nodup
import Mathlib.Data.String.Basic
import Contracts.Store.Registry
import Contracts.Proofs.Store.Document

/-!
Looking documents up.

A registry keeps its documents in the order of their uris, so the profile that is found for a
namespace is the first one in the list whose text has it. Outlines that are made on the way change
nothing about which one that is.
-/

namespace Contracts

namespace Uri

lemma before_irrefl (a : Uri) : a.before a = false := by simp [before]

lemma not_before_trans {a b c : Uri} (hab : b.before a = false) (hbc : c.before b = false) :
    c.before a = false := by
  simp only [before, decide_eq_false_iff_not, not_lt] at *
  exact le_trans hab hbc

lemma not_before_of_before {a b : Uri} (h : a.before b = true) : b.before a = false := by
  simp only [before, decide_eq_true_eq, decide_eq_false_iff_not, not_lt] at *
  exact le_of_lt h

end Uri

namespace Registry

/-- No document stands behind one with a later uri. -/
def InOrder (ds : List Document) : Prop := ds.Pairwise fun a b => b.uri.before a.uri = false

variable {d : Document} {ds : List Document}

lemma insertSorted_perm (d : Document) (ds : List Document) :
    (insertSorted d ds).Perm (d :: ds) := by
  induction ds with
  | nil => exact .refl _
  | cons e es ih =>
    unfold insertSorted
    split
    · exact .refl _
    · exact (ih.cons e).trans (.swap d e es)

lemma mem_insertSorted {e : Document} : e ∈ insertSorted d ds ↔ e = d ∨ e ∈ ds := by
  rw [(insertSorted_perm d ds).mem_iff, List.mem_cons]

lemma map_insertSorted {f : Document → Document} (hf : ∀ e, (f e).uri = e.uri) :
    (insertSorted d ds).map f = insertSorted (f d) (ds.map f) := by
  induction ds with
  | nil => rfl
  | cons e es ih =>
    simp only [insertSorted, List.map_cons, hf]
    split
    · rfl
    · rw [List.map_cons, ih]

lemma inOrder_insertSorted (h : InOrder ds) : InOrder (insertSorted d ds) := by
  induction ds with
  | nil => exact List.pairwise_singleton _ _
  | cons e es ih =>
    have hes : InOrder es := List.Pairwise.of_cons h
    have hd : ∀ x ∈ es, x.uri.before e.uri = false :=
      fun x hx => List.rel_of_pairwise_cons h hx
    unfold insertSorted
    split
    · next hlt =>
      have hle := Uri.not_before_of_before hlt
      refine List.pairwise_cons.mpr ⟨fun x hx => ?_, h⟩
      rcases List.mem_cons.mp hx with rfl | hx
      · exact hle
      · exact Uri.not_before_trans hle (hd x hx)
    · next hge =>
      refine List.pairwise_cons.mpr ⟨fun x hx => ?_, ih hes⟩
      rcases mem_insertSorted.mp hx with rfl | hx
      · simpa using hge
      · exact hd x hx

lemma InOrder.map {f : Document → Document} (h : InOrder ds)
    (hf : ∀ e, (f e).uri = e.uri) : InOrder (ds.map f) := by
  unfold InOrder at *
  simpa only [List.pairwise_map, hf] using h

/-- In a list in order, what comes before the place of `d` is not found any more. -/
lemma find?_insertSorted {p : Document → Bool} (h : InOrder ds) (hp : p d = true) :
    (insertSorted d ds).find? p =
      match ds.find? p with
      | some e => if d.uri.before e.uri then some d else some e
      | none => some d := by
  induction ds with
  | nil => simp [insertSorted, hp]
  | cons e es ih =>
    have hes : InOrder es := List.Pairwise.of_cons h
    unfold insertSorted
    by_cases hlt : d.uri.before e.uri = true
    · rw [if_pos hlt, List.find?_cons_of_pos hp]
      cases hf : (e :: es).find? p with
      | none => rfl
      | some x =>
        -- whatever is found stands at `e` or behind it
        have hle : x.uri.before e.uri = false := by
          rcases List.mem_cons.mp (List.mem_of_find?_eq_some hf) with rfl | hx
          · exact Uri.before_irrefl _
          · exact List.rel_of_pairwise_cons h hx
        have hx : d.uri.before x.uri = true := by
          by_contra hn
          have := Uri.not_before_trans hle (Bool.eq_false_iff.mpr hn)
          rw [hlt] at this
          cases this
        simp [hx]
    · rw [if_neg hlt]
      by_cases he : p e = true
      · simp [List.find?_cons_of_pos he, hlt]
      · rw [List.find?_cons_of_neg he, List.find?_cons_of_neg he, ih hes]

lemma find?_insertSorted_of_neg {p : Document → Bool} (hp : p d = false) :
    (insertSorted d ds).find? p = ds.find? p := by
  induction ds with
  | nil => simp [insertSorted, hp]
  | cons e es ih =>
    unfold insertSorted
    split
    · rw [List.find?_cons_of_neg (by simp [hp])]
    · rw [List.find?_cons, List.find?_cons, ih]

/-- Of documents in order the first one has the lowest uri. -/
lemma lowest?_of_inOrder (h : InOrder ds) : lowest? ds = ds.head? := by
  cases ds with
  | nil => rfl
  | cons b es =>
    have hb : ∀ x ∈ es, x.uri.before b.uri = false :=
      fun x hx => List.rel_of_pairwise_cons h hx
    clear h
    unfold lowest?
    rw [List.foldl_cons, List.head?_cons]
    -- nothing takes the place of the first one
    induction es with
    | nil => rfl
    | cons x xs ih =>
      rw [List.foldl_cons]
      simp only [hb x (List.mem_cons_self ..), Bool.false_eq_true, if_false]
      exact ih fun y hy => hb y (List.mem_cons_of_mem _ hy)

/-- Documents are known by their ids and registered documents by their uris, they stand in order,
and what is known of them belongs to their texts. -/
structure WellFormed (r : Registry) : Prop where
  ids : ((r.documents ++ r.detached).map (·.id)).Nodup
  fresh : ∀ d ∈ r.documents ++ r.detached, d.id < r.nextId
  uris : (r.documents.map (·.uri)).Nodup
  inOrder : InOrder r.documents
  derived : ∀ d ∈ r.documents ++ r.detached, d.Derived

/-- The first profile whose text has the namespace `key`. -/
def profile? (r : Registry) (key : String) : Option Document :=
  r.documents.find? (·.defines key)

variable {r : Registry} {uri : Uri} {key : String}

lemma get?_eq_some_of_nodup (hr : (r.documents.map (·.uri)).Nodup) :
    r.get? uri = some d ↔ d ∈ r.documents ∧ d.uri = uri := by
  unfold get?
  constructor
  · intro h
    exact ⟨List.mem_of_find?_eq_some h, by simpa using List.find?_some h⟩
  · rintro ⟨hd, rfl⟩
    cases hf : r.documents.find? (·.uri == d.uri) with
    | none => simpa using List.find?_eq_none.mp hf d hd
    | some e =>
      have he := List.mem_of_find?_eq_some hf
      have heq : e.uri = d.uri := by simpa using List.find?_some hf
      exact congrArg some (List.inj_on_of_nodup_map hr he hd heq)

lemma get?_eq_some (hr : r.WellFormed) : r.get? uri = some d ↔ d ∈ r.documents ∧ d.uri = uri :=
  get?_eq_some_of_nodup hr.uris

lemma get?_eq_none : r.get? uri = none ↔ ∀ d ∈ r.documents, d.uri ≠ uri := by
  simp [get?]

lemma profile?_eq_some (h : r.profile? key = some d) : d ∈ r.documents ∧ d.defines key = true :=
  ⟨List.mem_of_find?_eq_some h, by simpa using List.find?_some h⟩

lemma profile?_eq_none :
    r.profile? key = none ↔ ∀ d ∈ r.documents, d.defines key = false := by
  simp [profile?]

/-- The profile that is found is the first one whose text has the namespace. -/
lemma findProfile_eq (ho : InOrder r.documents) (hd : ∀ d ∈ r.documents, d.Derived) :
    r.findProfile key = ((r.profile? key).map (·.outline.2), r.outlineAll .profile) := by
  have hmap : InOrder (r.outlineAll .profile).documents :=
    ho.map fun e => by split <;> first | exact Document.sameText_outline.uri | rfl
  unfold findProfile documentsIn
  simp only [Prod.mk.injEq, and_true]
  rw [lowest?_of_inOrder (hmap.filter _), List.head?_filter]
  unfold outlineAll profile?
  rw [List.find?_map]
  have hp : r.documents.find? ((fun d : Document => decide (d.kind = .profile ∧
        d.knownNamespace? = some key)) ∘ fun d => if d.kind = .profile then d.outline.2 else d) =
      r.documents.find? (·.defines key) := by
    refine List.find?_congr fun e he => ?_
    by_cases hk : e.kind = .profile
    · simp [Document.defines, hk, Document.sameText_outline.kind, (hd e he).outline_known]
    · simp [Document.defines, hk]
  rw [hp]
  cases hf : r.documents.find? (·.defines key) with
  | none => rfl
  | some e =>
    have he := Document.defines_iff.mp (by simpa using List.find?_some hf)
    simp [he.1]

/-- The contract that maps of a namespace are checked against is the one of the first profile. -/
lemma contract?_eq (ho : InOrder r.documents) (hd : ∀ d ∈ r.documents, d.Derived) :
    r.contract? key = ((r.profile? key).bind (·.textContract?), r.outlineAll .profile) := by
  unfold contract?
  rw [findProfile_eq ho hd]
  cases hp : r.profile? key with
  | none => rfl
  | some e =>
    obtain ⟨hmem, -⟩ := profile?_eq_some hp
    obtain ⟨t, ht⟩ := Option.ne_none_iff_exists'.mp (Document.outline_tree? (d := e))
    have := (hd e hmem).outline_derived.tree t ht
    rw [Document.sameText_outline.textTree] at this
    simp only [Option.map_some, Option.bind_some, ht, this, Document.textContract?]
    rcases e.textTree with _ | _ | _ <;> rfl

end Registry

end Contracts
