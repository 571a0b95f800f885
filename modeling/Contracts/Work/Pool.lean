import Contracts.Work.Activity

/-!
Pools of tasks that share a state. A pool settles when each task has run as far as it can.

A task may have two strands: what it does itself, and what it has set going beside that. The
strands that could get on stand in a queue. The one in front runs until it has to wait; whenever a
step lets another strand get on, that one joins the queue at its end.
-/

namespace Contracts

inductive Strand where
  /-- What a task does itself. -/
  | lead
  /-- What a task has set going and waits for. -/
  | side
deriving DecidableEq, Repr

namespace Pool

/-- How the tasks of a pool run. -/
structure Rules (σ τ α : Type) where
  /-- One step of a strand of a task; `none` if it has to wait. -/
  step? : σ → Strand → τ → Option (σ × Turn τ α)
  /-- A bound on the steps that some tasks still have together. -/
  budget : σ → List τ → Nat

variable {σ κ τ α : Type} (rules : Rules σ τ α)

/-- A strand of the task in a slot of the pool. -/
abbrev Place := Nat × Strand

def places (slots : List (κ × Turn τ α)) : List Place :=
  (List.range slots.length).flatMap fun slot => [(slot, .lead), (slot, .side)]

/-- What comes of a place when its strand does a step; `none` if it cannot. -/
def stepAt? (s : σ) (slots : List (κ × Turn τ α)) (place : Place) :
    Option (σ × List (κ × Turn τ α)) :=
  match slots[place.1]? with
  | some (key, .more task) =>
    (rules.step? s place.2 task).map fun (s, turn) => (s, slots.set place.1 (key, turn))
  | _ => none

/-- The places outside a queue whose strands could get on. -/
def ready (s : σ) (slots : List (κ × Turn τ α)) (queue : List Place) : List Place :=
  (places slots).filter fun place =>
    !queue.contains place && (stepAt? rules s slots place).isSome

/-- Lets the strands of a queue run, until `n` times one did a step or had to leave the queue. -/
def run : Nat → σ → List (κ × Turn τ α) → List Place → σ × List (κ × Turn τ α)
  | 0, s, slots, _ => (s, slots)
  | _ + 1, s, slots, [] => (s, slots)
  | n + 1, s, slots, place :: queue =>
    match stepAt? rules s slots place with
    | none => run n s slots queue
    | some (s, slots) =>
      let queue := place :: queue
      run n s slots (queue ++ ready rules s slots queue)

/-- The tasks of a pool that are not done. -/
def tasks (slots : List (κ × Turn τ α)) : List τ :=
  slots.filterMap fun
    | (_, .more task) => some task
    | _ => none

/-- Runs a pool until every task waits or is done. Each step lets no more strands join the queue
than there are, and each of those leaves it once. -/
def settle (s : σ) (slots : List (κ × Turn τ α)) : σ × List (κ × Turn τ α) :=
  let steps := rules.budget s (tasks slots)
  run rules ((steps + 1) * ((places slots).length + 1)) s slots (ready rules s slots [])

end Pool

end Contracts
