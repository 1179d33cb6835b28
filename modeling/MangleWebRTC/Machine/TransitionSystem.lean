import Mathlib.Order.Basic
import Mathlib.Data.List.Basic
import Mathlib.Logic.Function.Iterate
import Mathlib.Tactic.Choose

/-! # Guarded transition systems

A system is a set of initial states and a partial step function on named
events; an event without a successor is not enabled. Runs are lists of events.
Reachability is relative to a guard on steps, so that a property proved under
an environment assumption speaks about every run whose steps meet it.
-/

namespace MangleWebRTC.Machine

universe uState uEvent uAbstract uAbstractEvent

/-- Initial states and a step function. Nondeterminism is the choice of event. -/
structure TransitionSystem (State : Type uState) (Event : Type uEvent) where
  init : State → Prop
  step : State → Event → Option State

namespace TransitionSystem

variable {State : Type uState} {Event : Type uEvent} (sys : TransitionSystem State Event)

/-- Execute a list of events, failing at the first one that is not enabled. -/
def run : State → List Event → Option State
  | state, [] => some state
  | state, event :: rest => (sys.step state event).bind fun next => run next rest

@[simp] theorem run_nil (state : State) : sys.run state [] = some state := rfl

@[simp] theorem run_cons (state : State) (event : Event) (rest : List Event) :
    sys.run state (event :: rest) = (sys.step state event).bind (sys.run · rest) := rfl

theorem run_append (state : State) (first second : List Event) :
    sys.run state (first ++ second) = (sys.run state first).bind (sys.run · second) := by
  induction first generalizing state with
  | nil => rfl
  | cons event rest ih =>
      simp only [List.cons_append, run_cons]
      cases sys.step state event with
      | none => rfl
      | some next => exact ih next

/-- A replay that succeeds and passes a test. -/
theorem exists_run_of_any (start : State) (events : List Event) (test : State → Bool)
    (hreplay : (sys.run start events).any test = true) :
    ∃ final, sys.run start events = some final ∧ test final = true := by
  simpa [Option.any_eq_true] using hreplay

/-- States reached from `start` by steps that all meet the guard. -/
inductive ReachableFrom (guard : State → Event → Prop) (start : State) : State → Prop
  | refl : ReachableFrom guard start start
  | tail {state next : State} {event : Event} (prior : ReachableFrom guard start state)
      (hguard : guard state event) (hstep : sys.step state event = some next) :
      ReachableFrom guard start next

/-- States reached from some initial state by steps that all meet the guard. -/
def ReachableIf (guard : State → Event → Prop) (state : State) : Prop :=
  ∃ start, sys.init start ∧ sys.ReachableFrom guard start state

/-- States reached by any run. -/
def Reachable (state : State) : Prop := sys.ReachableIf (fun _ _ => True) state

variable {sys}

/-- A predicate kept by every guarded step is kept by every guarded run. -/
theorem ReachableFrom.invariant {guard : State → Event → Prop} {start state : State}
    (hreach : sys.ReachableFrom guard start state) (invariant : State → Prop)
    (hstart : invariant start)
    (hstep : ∀ state event next, invariant state → guard state event →
      sys.step state event = some next → invariant next) : invariant state := by
  induction hreach with
  | refl => exact hstart
  | tail _ hguard hnext ih => exact hstep _ _ _ ih hguard hnext

/-- A predicate that holds initially and is kept by every guarded step holds in
every state reached by guarded steps. -/
theorem ReachableIf.invariant {guard : State → Event → Prop} {state : State}
    (hreach : sys.ReachableIf guard state) (invariant : State → Prop)
    (hinit : ∀ start, sys.init start → invariant start)
    (hstep : ∀ state event next, invariant state → guard state event →
      sys.step state event = some next → invariant next) : invariant state := by
  obtain ⟨start, hstart, hreach⟩ := hreach
  exact hreach.invariant invariant (hinit start hstart) hstep

theorem ReachableFrom.trans {guard : State → Event → Prop} {start middle state : State}
    (hfirst : sys.ReachableFrom guard start middle)
    (hsecond : sys.ReachableFrom guard middle state) : sys.ReachableFrom guard start state := by
  induction hsecond with
  | refl => exact hfirst
  | tail _ hguard hnext ih => exact .tail ih hguard hnext

/-- A state that is reached from a reachable one, by whatever steps. -/
theorem Reachable.trans {guard : State → Event → Prop} {state next : State}
    (hreach : sys.Reachable state) (hfrom : sys.ReachableFrom guard state next) :
    sys.Reachable next := by
  induction hfrom with
  | refl => exact hreach
  | tail _ _ hstep ih =>
      obtain ⟨start, hstart, hprior⟩ := ih
      exact ⟨start, hstart, .tail hprior trivial hstep⟩

/-- One more guarded step. -/
theorem ReachableIf.tail {guard : State → Event → Prop} {state next : State} {event : Event}
    (hreach : sys.ReachableIf guard state) (hguard : guard state event)
    (hstep : sys.step state event = some next) : sys.ReachableIf guard next := by
  obtain ⟨start, hstart, hfrom⟩ := hreach
  exact ⟨start, hstart, .tail hfrom hguard hstep⟩

/-- A relation under which every step of one system is matched by a run of another, or by
a new start there: every reachable state is matched by a reachable one. -/
theorem ReachableIf.simulates {Abstract : Type uAbstract} {AbstractEvent : Type uAbstractEvent}
    {abstract : TransitionSystem Abstract AbstractEvent} {guard : State → Event → Prop}
    {abstractGuard : Abstract → AbstractEvent → Prop} {state : State}
    (hreach : sys.ReachableIf guard state) (relation : State → Abstract → Prop)
    (hinit : ∀ start, sys.init start → ∃ other, abstract.init other ∧ relation start other)
    (hstep : ∀ state event next other, relation state other → guard state event →
      sys.step state event = some next → ∃ after, relation next after ∧
        (abstract.ReachableFrom abstractGuard other after ∨ abstract.init after)) :
    ∃ other, abstract.ReachableIf abstractGuard other ∧ relation state other := by
  apply hreach.invariant fun state =>
    ∃ other, abstract.ReachableIf abstractGuard other ∧ relation state other
  · intro start hstart
    obtain ⟨other, hother, hrelated⟩ := hinit start hstart
    exact ⟨other, ⟨other, hother, .refl⟩, hrelated⟩
  · rintro before event next ⟨other, ⟨start, hstart, hfrom⟩, hrelated⟩ hguard hnext
    obtain ⟨after, hafter, hruns | hnew⟩ := hstep before event next other hrelated hguard hnext
    · exact ⟨after, ⟨start, hstart, hfrom.trans hruns⟩, hafter⟩
    · exact ⟨after, ⟨after, hnew, .refl⟩, hafter⟩

/-- A map under which every step of one system is a step of another, or changes nothing
there, leads from reachable states to reachable states. -/
theorem ReachableIf.map {Abstract : Type uAbstract} {AbstractEvent : Type uAbstractEvent}
    {abstract : TransitionSystem Abstract AbstractEvent} {guard : State → Event → Prop}
    {abstractGuard : Abstract → AbstractEvent → Prop} {state : State}
    (hreach : sys.ReachableIf guard state) (image : State → Abstract) (inv : State → Prop)
    (hinit : ∀ start, sys.init start → inv start ∧ abstract.init (image start))
    (hstep : ∀ state event next, inv state → guard state event →
      sys.step state event = some next → inv next ∧ (image next = image state ∨
        ∃ other, abstractGuard (image state) other ∧
          abstract.step (image state) other = some (image next))) :
    abstract.ReachableIf abstractGuard (image state) := by
  have hmatched : ∃ other, abstract.ReachableIf abstractGuard other ∧
      inv state ∧ image state = other := by
    refine hreach.simulates (fun state other => inv state ∧ image state = other) ?_ ?_
    · intro start hstart
      obtain ⟨hinv, hother⟩ := hinit start hstart
      exact ⟨image start, hother, hinv, rfl⟩
    · rintro before event next _ ⟨hinv, rfl⟩ hguard hnext
      obtain ⟨hnextInv, hsame | ⟨other, hother, htaken⟩⟩ :=
        hstep before event next hinv hguard hnext
      · exact ⟨image next, ⟨hnextInv, rfl⟩, .inl (hsame ▸ .refl)⟩
      · exact ⟨image next, ⟨hnextInv, rfl⟩, .inl (.tail .refl hother htaken)⟩
  obtain ⟨other, hreachable, -, rfl⟩ := hmatched
  exact hreachable

/-- Every event of a list meets the guard at the state in which it occurs. -/
def Guarded (sys : TransitionSystem State Event) (guard : State → Event → Prop) :
    State → List Event → Prop
  | _, [] => True
  | state, event :: rest => guard state event ∧
      ∀ next, sys.step state event = some next → Guarded sys guard next rest

/-- A run is a reachability proof for its last state. -/
theorem ReachableFrom.of_run {guard : State → Event → Prop} {events : List Event}
    {start state : State} (hguarded : sys.Guarded guard start events)
    (hrun : sys.run start events = some state) : sys.ReachableFrom guard start state := by
  induction events generalizing start with
  | nil =>
      obtain rfl : start = state := by simpa using hrun
      exact .refl
  | cons event rest ih =>
      obtain ⟨next, hnext, hrest⟩ := Option.bind_eq_some_iff.mp hrun
      have hfirst : sys.ReachableFrom guard start next := .tail .refl hguarded.1 hnext
      exact hfirst.trans (ih (hguarded.2 next hnext) hrest)

/-- A guard that each event meets at every state. -/
theorem guarded_of_forall {guard : State → Event → Prop} {events : List Event}
    (hevents : ∀ event ∈ events, ∀ state, guard state event) (state : State) :
    sys.Guarded guard state events := by
  induction events generalizing state with
  | nil => trivial
  | cons event rest ih =>
      obtain ⟨hevent, hrest⟩ := List.forall_mem_cons.mp hevents
      exact ⟨hevent state, fun next _ => ih hrest next⟩

theorem guarded_true (events : List Event) (state : State) :
    sys.Guarded (fun _ _ => True) state events :=
  guarded_of_forall (fun _ _ _ => trivial) state

theorem Reachable.of_run {events : List Event} {start state : State} (hinit : sys.init start)
    (hrun : sys.run start events = some state) : sys.Reachable state :=
  ⟨start, hinit, .of_run (guarded_true events start) hrun⟩

/-- A decidable guard can be checked along a concrete run. -/
def checkGuarded (sys : TransitionSystem State Event) (guard : State → Event → Prop)
    [∀ state event, Decidable (guard state event)] : State → List Event → Bool
  | _, [] => true
  | state, event :: rest => decide (guard state event) &&
      match sys.step state event with
      | none => true
      | some next => checkGuarded sys guard next rest

theorem guarded_of_check {guard : State → Event → Prop}
    [∀ state event, Decidable (guard state event)] {events : List Event} {state : State}
    (hcheck : checkGuarded sys guard state events = true) : sys.Guarded guard state events := by
  induction events generalizing state with
  | nil => trivial
  | cons event rest ih =>
      simp only [checkGuarded, Bool.and_eq_true, decide_eq_true_eq] at hcheck
      refine ⟨hcheck.1, fun next hnext => ih ?_⟩
      rw [hnext] at hcheck
      exact hcheck.2

/-- A property holds in every state that a list of events passes through. -/
def Throughout (sys : TransitionSystem State Event) (property : State → Prop) :
    State → List Event → Prop
  | state, [] => property state
  | state, event :: rest => property state ∧
      ∀ next, sys.step state event = some next → Throughout sys property next rest

theorem Throughout.start {property : State → Prop} {state : State} {events : List Event}
    (hall : sys.Throughout property state events) : property state := by
  cases events with
  | nil => exact hall
  | cons event rest => exact hall.1

theorem Throughout.final {property : State → Prop} {start final : State} {events : List Event}
    (hall : sys.Throughout property start events) (hrun : sys.run start events = some final) :
    property final := by
  induction events generalizing start with
  | nil =>
      obtain rfl : start = final := by simpa using hrun
      exact hall
  | cons event rest ih =>
      obtain ⟨next, hnext, hrest⟩ := Option.bind_eq_some_iff.mp hrun
      exact ih (hall.2 next hnext) hrest

/-- Two properties that agree on the states a run can reach hold throughout the same runs. -/
theorem throughout_congr {property other : State → Prop} {start : State}
    {events : List Event} (hiff : ∀ state, sys.ReachableFrom (fun _ _ => True) start state →
      (property state ↔ other state)) :
    sys.Throughout property start events ↔ sys.Throughout other start events := by
  induction events generalizing start with
  | nil => exact hiff start .refl
  | cons event rest ih =>
      apply and_congr (hiff start .refl)
      refine forall₂_congr fun next hnext => ih fun state hreach => hiff state ?_
      have hfirst : sys.ReachableFrom (fun _ _ => True) start next := .tail .refl trivial hnext
      exact hfirst.trans hreach

/-- A guard is exact for a property: good steps keep an invariant that gives the
property, and a bad step breaks the property at once. Then the property holds
throughout a run if and only if all its steps meet the guard. -/
theorem throughout_iff_guarded {guard : State → Event → Prop} {property : State → Prop}
    (invariant : State → Prop) (hproperty : ∀ state, invariant state → property state)
    (hgood : ∀ state event next, invariant state → guard state event →
      sys.step state event = some next → invariant next)
    (hbad : ∀ state event next, invariant state → ¬ guard state event →
      sys.step state event = some next → ¬ property next)
    {events : List Event} {start final : State} (hstart : invariant start)
    (hrun : sys.run start events = some final) :
    sys.Throughout property start events ↔ sys.Guarded guard start events := by
  induction events generalizing start with
  | nil => exact iff_of_true (hproperty start hstart) trivial
  | cons event rest ih =>
      obtain ⟨next, hnext, hrest⟩ := Option.bind_eq_some_iff.mp hrun
      constructor
      · intro hall
        have hguard : guard start event := by
          by_contra hguard
          exact hbad start event next hstart hguard hnext (hall.2 next hnext).start
        refine ⟨hguard, fun other hother => ?_⟩
        obtain rfl := Option.some.inj (hnext.symm.trans hother)
        exact (ih (hgood _ _ _ hstart hguard hnext) hrest).mp (hall.2 next hnext)
      · intro hguarded
        refine ⟨hproperty start hstart, fun other hother => ?_⟩
        obtain rfl := Option.some.inj (hnext.symm.trans hother)
        exact (ih (hgood _ _ _ hstart hguarded.1 hnext) hrest).mpr (hguarded.2 next hnext)

/-! ## Infinite executions -/

variable (sys) in
/-- An execution without an end. -/
structure Execution (start : State) where
  states : Nat → State
  events : Nat → Event
  starts : states 0 = start
  steps : ∀ time, sys.step (states time) (events time) = some (states (time + 1))

/-- Events of a kind occur at finitely many times only. -/
def Execution.FinitelyOften {start : State} (execution : sys.Execution start)
    (kind : Event → Prop) : Prop :=
  ∃ bound, ∀ time, bound ≤ time → ¬ kind (execution.events time)

/-- An event that can be repeated at every state of a set, and stays in it, has an
execution that consists of nothing else. -/
theorem exists_execution_of_repeat {event : Event} {invariant : State → Prop}
    (hstep : ∀ state, invariant state → ∃ next, sys.step state event = some next ∧ invariant next)
    {start : State} (hstart : invariant start) :
    ∃ execution : sys.Execution start, ∀ time, execution.events time = event := by
  choose! next hnext hkept using hstep
  have hall : ∀ time, invariant (next^[time] start) := by
    intro time
    induction time with
    | zero => exact hstart
    | succ time ih => exact (Function.iterate_succ_apply' next time start).symm ▸ hkept _ ih
  refine ⟨⟨fun time => next^[time] start, fun _ => event, rfl, fun time => ?_⟩, fun _ => rfl⟩
  rw [Function.iterate_succ_apply']
  exact hnext _ (hall time)

end TransitionSystem

end MangleWebRTC.Machine
