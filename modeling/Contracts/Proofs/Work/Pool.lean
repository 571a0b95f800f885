import Mathlib.Tactic.Ring
import Mathlib.Tactic.Linarith
import Contracts.Work.Pool

/-!
When a pool settles.

A pool runs for a bounded number of steps, so it has to be shown that it does not stop too early.
Two invariants carry the argument: every place that could get on stands in the queue, and the bound
still pays for what is left, where a step costs as much as the places that it may let into the
queue.
-/

namespace Contracts.Pool

variable {σ κ τ α : Type} {rules : Rules σ τ α} {s s' : σ} {slots slots' : List (κ × Turn τ α)}
  {queue : List Place} {place : Place}

/-- By a step a task does one in its slot, and all other slots stay. -/
lemma stepAt?_eq_some :
    stepAt? rules s slots place = some (s', slots') ↔ ∃ key task turn,
      slots[place.1]? = some (key, .more task) ∧ rules.step? s place.2 task = some (s', turn) ∧
      slots' = slots.set place.1 (key, turn) := by
  unfold stepAt?
  split
  · next key task hslot =>
    rw [hslot]
    simp only [Option.map_eq_some_iff, Prod.exists, Prod.mk.injEq, Option.some.injEq,
      Turn.more.injEq]
    constructor
    · rintro ⟨s₁, turn, hstep, rfl, rfl⟩
      exact ⟨key, task, turn, ⟨rfl, rfl⟩, hstep, rfl⟩
    · rintro ⟨_, _, turn, ⟨rfl, rfl⟩, hstep, rfl⟩
      exact ⟨s', turn, hstep, rfl, rfl⟩
  · next h =>
    simp only [reduceCtorEq, false_iff, not_exists]
    rintro key task turn ⟨hslot, -⟩
    exact h key task hslot

lemma length_of_stepAt? (h : stepAt? rules s slots place = some (s', slots')) :
    slots'.length = slots.length := by
  obtain ⟨key, task, turn, -, -, rfl⟩ := stepAt?_eq_some.mp h
  exact List.length_set

lemma places_of_stepAt? (h : stepAt? rules s slots place = some (s', slots')) :
    places slots' = places slots := by
  unfold places
  rw [length_of_stepAt? h]

/-- Only a place of the pool has a step. -/
lemma mem_places (h : (stepAt? rules s slots place).isSome = true) : place ∈ places slots := by
  obtain ⟨⟨s', slots'⟩, hstep⟩ := Option.isSome_iff_exists.mp h
  obtain ⟨key, task, turn, hslot, -, -⟩ := stepAt?_eq_some.mp hstep
  refine List.mem_flatMap.mpr ⟨place.1, ?_, ?_⟩
  · exact List.mem_range.mpr (List.getElem?_eq_some_iff.mp hslot).1
  · obtain ⟨slot, _ | _⟩ := place <;> simp

lemma length_ready_le : (ready rules s slots queue).length ≤ (places slots).length :=
  List.length_filter_le _ _

lemma mem_ready (h : (stepAt? rules s slots place).isSome = true) (hq : place ∉ queue) :
    place ∈ ready rules s slots queue := by
  refine List.mem_filter.mpr ⟨mem_places h, ?_⟩
  simp [hq, h]

variable {P : σ → List (κ × Turn τ α) → Prop} {μ : σ → List (κ × Turn τ α) → Nat}

/-- Steps that make something less, and keep what has to be kept. -/
def Descends (rules : Rules σ τ α) (P : σ → List (κ × Turn τ α) → Prop)
    (μ : σ → List (κ × Turn τ α) → Nat) : Prop :=
  ∀ s slots place s' slots', P s slots → stepAt? rules s slots place = some (s', slots') →
    P s' slots' ∧ μ s' slots' < μ s slots

/-- A run that has enough steps ends where no place can get on. -/
lemma run_spec (hstep : Descends rules P μ) {n : Nat} (hP : P s slots)
    (hqueue : ∀ place, (stepAt? rules s slots place).isSome = true → place ∈ queue)
    (hsteps : μ s slots * ((places slots).length + 1) + queue.length ≤ n) :
    let after := run rules n s slots queue
    P after.1 after.2 ∧ ∀ place, stepAt? rules after.1 after.2 place = none := by
  have hstuck : ∀ {s slots}, (∀ place, (stepAt? rules s slots place).isSome = true → place ∈ []) →
      ∀ place, stepAt? (κ := κ) rules s slots place = none := fun h place => by
    cases hs : stepAt? rules _ _ place with
    | none => rfl
    | some next => exact absurd (h place (by rw [hs]; rfl)) List.not_mem_nil
  induction n generalizing s slots queue with
  | zero =>
    have hnil : queue = [] := List.eq_nil_of_length_eq_zero (by omega)
    exact ⟨hP, hstuck (hnil ▸ hqueue)⟩
  | succ n ih =>
    cases queue with
    | nil => exact ⟨hP, hstuck hqueue⟩
    | cons place queue =>
      rw [List.length_cons] at hsteps
      cases hplace : stepAt? rules s slots place with
      | none =>
        simp only [run, hplace]
        refine ih hP (fun p hp => ?_) (by omega)
        refine (List.mem_cons.mp (hqueue p hp)).resolve_left fun hpp => ?_
        rw [hpp, hplace] at hp
        cases hp
      | some next =>
        obtain ⟨s₁, slots₁⟩ := next
        obtain ⟨hP₁, hless⟩ := hstep s slots place s₁ slots₁ hP hplace
        simp only [run, hplace]
        refine ih hP₁ (fun p hp => ?_) ?_
        · by_cases hpq : p ∈ place :: queue
          · exact List.mem_append_left _ hpq
          · exact List.mem_append_right _ (mem_ready hp hpq)
        · -- the step pays for the places that it lets into the queue
          have hready : (ready rules s₁ slots₁ (place :: queue)).length ≤ (places slots).length :=
            places_of_stepAt? hplace ▸ length_ready_le
          have hpay : (μ s₁ slots₁ + 1) * ((places slots).length + 1) ≤
              μ s slots * ((places slots).length + 1) := Nat.mul_le_mul_right _ hless
          rw [places_of_stepAt? hplace, List.length_append, List.length_cons]
          linarith

/-- **A pool settles.** If each step makes something less that the budget pays for, all tasks get
as far as they can, and what each step keeps holds of the pool then. -/
theorem settle_spec (hstep : Descends rules P μ) (hP : P s slots)
    (hbudget : μ s slots ≤ rules.budget s (tasks slots)) :
    let after := settle rules s slots
    P after.1 after.2 ∧ ∀ place, stepAt? rules after.1 after.2 place = none := by
  refine run_spec hstep hP (fun p hp => mem_ready hp List.not_mem_nil) ?_
  have hready : (ready rules s slots []).length ≤ (places slots).length := length_ready_le
  have hpay := Nat.mul_le_mul_right ((places slots).length + 1) hbudget
  linarith

end Contracts.Pool
