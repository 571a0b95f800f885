import Mathlib.Data.List.Basic
import Mathlib.Tactic.Common

/-!
Lists that leave nothing out.

Whatever a walk through a tree comes by has a place, the way to it by the number of the child at
each node. The walk comes by the places in their lexicographic order, in which a node stands in
front of all that is below it and behind all that is below a sibling in front of it. What it tells
is a list in that order, with one entry for each thing that holds at a place.
-/

namespace Contracts

variable {α β : Type} {P Q : List Nat → α → Prop} {xs ys : List α} {x : α}

/-- `xs` lists what holds at any place, in the order of the places. -/
def Enumerates (holds : List Nat → α → Prop) (xs : List α) : Prop :=
  ∃ found : List (List Nat × α), found.Pairwise (fun a b => a.1 < b.1) ∧
    (∀ place x, (place, x) ∈ found ↔ holds place x) ∧ found.map (·.2) = xs

namespace Enumerates

lemma congr (h : Enumerates P xs) (hPQ : ∀ place x, P place x ↔ Q place x) : Enumerates Q xs := by
  obtain ⟨found, hordered, hmem, hmap⟩ := h
  exact ⟨found, hordered, fun place x => (hmem place x).trans (hPQ place x), hmap⟩

lemma nil : Enumerates (fun _ (_ : α) => False) [] :=
  ⟨[], .nil, by simp, rfl⟩

lemma single (place : List Nat) (x : α) : Enumerates (fun p y => p = place ∧ y = x) [x] :=
  ⟨[(place, x)], List.pairwise_singleton _ _, by simp, rfl⟩

lemma ite {p : Prop} [Decidable p] (h : Enumerates P xs) :
    Enumerates (fun place x => p ∧ P place x) (if p then xs else []) := by
  split
  · next hp => exact h.congr fun place x => (and_iff_right hp).symm
  · next hp => exact nil.congr fun place x => by simp [hp]

lemma append (hP : Enumerates P xs) (hQ : Enumerates Q ys)
    (hlt : ∀ {p q x y}, P p x → Q q y → p < q) :
    Enumerates (fun place x => P place x ∨ Q place x) (xs ++ ys) := by
  obtain ⟨found, hordered, hmem, rfl⟩ := hP
  obtain ⟨more, hordered', hmem', rfl⟩ := hQ
  refine ⟨found ++ more, ?_, fun place x => ?_, List.map_append⟩
  · refine List.pairwise_append.mpr ⟨hordered, hordered', fun a ha b hb => ?_⟩
    exact hlt ((hmem _ _).mp ha) ((hmem' _ _).mp hb)
  · rw [List.mem_append, hmem, hmem']

/-- What holds in a tree holds in the tree that has it as a child. -/
lemma below (i : Nat) (h : Enumerates P xs) :
    Enumerates (fun place x => ∃ q, place = i :: q ∧ P q x) xs := by
  obtain ⟨found, hordered, hmem, rfl⟩ := h
  refine ⟨found.map fun e => (i :: e.1, e.2), ?_, fun place x => ?_, by simp [Function.comp_def]⟩
  · rw [List.pairwise_map]
    exact hordered.imp fun hab => by simpa using hab
  · simp only [List.mem_map, Prod.mk.injEq, Prod.exists]
    constructor
    · rintro ⟨q, y, hq, rfl, rfl⟩
      exact ⟨q, rfl, (hmem q y).mp hq⟩
    · rintro ⟨q, rfl, hq⟩
      exact ⟨q, x, (hmem q x).mpr hq, rfl, rfl⟩

lemma filter (h : Enumerates P xs) (keep : α → Bool) :
    Enumerates (fun place x => P place x ∧ keep x = true) (xs.filter keep) := by
  obtain ⟨found, hordered, hmem, rfl⟩ := h
  refine ⟨found.filter fun e => keep e.2, hordered.filter _, fun place x => ?_, ?_⟩
  · rw [List.mem_filter, hmem]
  · rw [List.filter_map]
    rfl

private lemma flatMapFrom {ds : List β} {R : β → List Nat → α → Prop} {f : β → List α}
    (h : ∀ d ∈ ds, Enumerates (R d) (f d)) (n : Nat) :
    Enumerates (fun place x => ∃ i d q, ds[i]? = some d ∧ place = (n + i) :: q ∧ R d q x)
      (ds.flatMap f) := by
  induction ds generalizing n with
  | nil => exact nil.congr fun place x => by simp
  | cons d ds ih =>
    have hhead := (h d List.mem_cons_self).below n
    have htail := ih (fun e he => h e (List.mem_cons_of_mem _ he)) (n + 1)
    refine (hhead.append htail ?_).congr fun place x => ?_
    · rintro _ _ _ _ ⟨q, rfl, -⟩ ⟨i, _, _, -, rfl, -⟩
      exact List.cons_lt_cons_iff.mpr (.inl (by omega))
    · constructor
      · rintro (⟨q, rfl, hq⟩ | ⟨i, e, q, he, rfl, hq⟩)
        · exact ⟨0, d, q, rfl, rfl, hq⟩
        · exact ⟨i + 1, e, q, he, by rw [Nat.add_assoc, Nat.add_comm 1], hq⟩
      · rintro ⟨_ | i, e, q, he, rfl, hq⟩
        · cases he
          exact .inl ⟨q, rfl, hq⟩
        · exact .inr ⟨i, e, q, he, by rw [Nat.add_assoc, Nat.add_comm 1], hq⟩

/-- What holds in the children, one child after the other. -/
lemma flatMap {ds : List β} {R : β → List Nat → α → Prop} {f : β → List α}
    (h : ∀ d ∈ ds, Enumerates (R d) (f d)) :
    Enumerates (fun place x => ∃ i d q, ds[i]? = some d ∧ place = i :: q ∧ R d q x)
      (ds.flatMap f) := by
  simpa only [Nat.zero_add] using flatMapFrom h 0

/-- What some of the children themselves are told as. -/
lemma map_filter {ds : List β} {keep : β → Bool} {f : β → α} :
    Enumerates (fun place x => ∃ i d, ds[i]? = some d ∧ place = [i] ∧ keep d = true ∧ x = f d)
      ((ds.filter keep).map f) := by
  have heq : (ds.filter keep).map f = ds.flatMap fun d => if keep d = true then [f d] else [] := by
    induction ds with
    | nil => rfl
    | cons d ds ih => by_cases hd : keep d = true <;> simp [hd, ih]
  rw [heq]
  refine (flatMap fun d _ => (single [] (f d)).ite).congr fun place x => ?_
  constructor
  · rintro ⟨i, d, q, hd, rfl, hkeep, rfl, rfl⟩
    exact ⟨i, d, hd, rfl, hkeep, rfl⟩
  · rintro ⟨i, d, hd, rfl, hkeep, rfl⟩
    exact ⟨i, d, [], hd, rfl, hkeep, rfl, rfl⟩

lemma mem_iff (h : Enumerates P xs) : x ∈ xs ↔ ∃ place, P place x := by
  obtain ⟨found, -, hmem, rfl⟩ := h
  simp [← hmem]

lemma eq_nil_iff (h : Enumerates P xs) : xs = [] ↔ ∀ place x, ¬ P place x := by
  rw [List.eq_nil_iff_forall_not_mem]
  simp only [h.mem_iff, not_exists]
  exact forall_comm

end Enumerates

end Contracts
