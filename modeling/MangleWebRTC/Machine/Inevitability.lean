import MangleWebRTC.Machine.TransitionSystem
import Mathlib.Order.Lattice
import Mathlib.Order.WellFounded

/-! # States that every run comes to

A goal is inevitable when every permitted way to go on leads to it, and there is one
until it is met. A rank that every permitted step decreases makes a goal inevitable;
steps that do not decrease it are paid from a budget.
-/

namespace MangleWebRTC.Machine

namespace TransitionSystem

universe uState uEvent uRank

variable {State : Type uState} {Event : Type uEvent} {Rank : Type uRank}

/-- Every run of permitted steps comes to the goal, and none stops before it. -/
inductive Inevitable (sys : TransitionSystem State Event) (permitted : State → Event → Prop)
    (goal : State → Prop) : State → Prop
  | now {state : State} (hgoal : goal state) : Inevitable sys permitted goal state
  | later {state : State}
      (hprogress : ∃ event next, permitted state event ∧ sys.step state event = some next)
      (hall : ∀ event next, permitted state event → sys.step state event = some next →
        Inevitable sys permitted goal next) : Inevitable sys permitted goal state

section Rules

variable {sys : TransitionSystem State Event} {permitted : State → Event → Prop}
  {goal : State → Prop}

/-- A permitted step decreases the rank, and there is one as long as the goal is not met. -/
theorem inevitable_of_decreasing [LT Rank] [WellFoundedLT Rank] (rank : State → Rank)
    (invariant : State → Prop)
    (hprogress : ∀ state, invariant state → ¬ goal state →
      ∃ event next, permitted state event ∧ sys.step state event = some next)
    (hstep : ∀ state event next, invariant state → permitted state event →
      sys.step state event = some next → invariant next ∧ rank next < rank state)
    {state : State} (hstate : invariant state) : sys.Inevitable permitted goal state := by
  induction hrank : rank state using WellFoundedLT.induction generalizing state with
  | ind value ih =>
      by_cases hgoal : goal state
      · exact .now hgoal
      · refine .later (hprogress state hstate hgoal) fun event next hpermitted hnext => ?_
        obtain ⟨hkept, hless⟩ := hstep state event next hstate hpermitted hnext
        exact ih (rank next) (hrank ▸ hless) hkept rfl

/-- When all other steps decrease a rank, an execution without an end has steps of a kind
again and again. -/
theorem Execution.not_finitelyOften [LT Rank] [WellFoundedLT Rank] {kind : Event → Prop}
    (rank : State → Rank) (invariant : State → Prop)
    (hkept : ∀ state event next, invariant state → sys.step state event = some next →
      invariant next)
    (hstep : ∀ state event next, invariant state → ¬ kind event →
      sys.step state event = some next → rank next < rank state)
    {start : State} (hstart : invariant start) (execution : sys.Execution start) :
    ¬ execution.FinitelyOften kind := by
  rintro ⟨bound, hrare⟩
  have hall : ∀ time, invariant (execution.states time) := by
    intro time
    induction time with
    | zero => exact execution.starts.symm ▸ hstart
    | succ time ih => exact hkept _ _ _ ih (execution.steps time)
  have hnone : ∀ value time, bound ≤ time → rank (execution.states time) = value → False := by
    intro value
    induction value using WellFoundedLT.induction with
    | ind value ih =>
        rintro time hlate rfl
        exact ih _ (hstep _ _ _ (hall time) (hrare time hlate) (execution.steps time)) (time + 1)
          (Nat.le_succ_of_le hlate) rfl
  exact hnone _ bound le_rfl rfl

end Rules

/-! ## Budgets -/

/-- What is left of a budget after an event. -/
def charge (costly : Event → Bool) (event : Event) (budget : Nat) : Option Nat :=
  match costly event, budget with
  | false, budget => some budget
  | true, rest + 1 => some rest
  | true, 0 => none

theorem charge_eq_some {costly : Event → Bool} {event : Event} {budget rest : Nat} :
    charge costly event budget = some rest ↔
      (costly event = true ∧ budget = rest + 1) ∨ (costly event = false ∧ budget = rest) := by
  unfold charge
  split <;> simp_all

/-- A system in which the events of a kind can be taken a given number of times. -/
def budgeted (sys : TransitionSystem State Event) (costly : Event → Bool) :
    TransitionSystem (State × Nat) Event where
  init state := sys.init state.1
  step state event := (charge costly event state.2).bind fun budget =>
    (sys.step state.1 event).map fun next => (next, budget)

theorem budgeted_step_eq_some {sys : TransitionSystem State Event} {costly : Event → Bool}
    {state next : State × Nat} {event : Event} :
    (sys.budgeted costly).step state event = some next ↔
      charge costly event state.2 = some next.2 ∧ sys.step state.1 event = some next.1 := by
  simp only [budgeted, Option.bind_eq_some_iff, Option.map_eq_some_iff]
  constructor
  · rintro ⟨budget, hcharge, other, hstep, rfl⟩
    exact ⟨hcharge, hstep⟩
  · rintro ⟨hcharge, hstep⟩
    exact ⟨next.2, hcharge, next.1, hstep, rfl⟩

end TransitionSystem

end MangleWebRTC.Machine
