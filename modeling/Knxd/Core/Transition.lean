import Mathlib

/-!
# Runs of an event-driven machine

An event-driven program is a partial function that takes a state and an event
to the next state; it is undefined where the event cannot happen.  A run is a
sequence of such steps.  Assumptions about the environment, and conditions under
which a property of the program holds, are predicates on the state before a step
and the event of the step, so that one notion of run serves for all of them.
-/

namespace Knxd.Transition

variable {State Event : Type*}

/-- States reached from `start` by steps that are all `allowed`. -/
inductive Path (step : State → Event → Option State) (allowed : State → Event → Prop)
    (start : State) : State → Prop
  | refl : Path step allowed start start
  | step {before after : State} {event : Event} :
      Path step allowed start before → allowed before event →
      step before event = some after → Path step allowed start after

/-- No assumption about the events. -/
def anyEvent (_ : State) (_ : Event) : Prop := True

def run (step : State → Event → Option State) : State → List Event → Option State
  | state, [] => some state
  | state, event :: events => (step state event).bind fun next => run step next events

/-- Executes a list of events and gives up at the first one that is not allowed. -/
def runAllowed (step : State → Event → Option State) (allowed : State → Event → Prop)
    [∀ state event, Decidable (allowed state event)] : State → List Event → Option State
  | state, [] => some state
  | state, event :: events =>
    if allowed state event then
      (step state event).bind fun next => runAllowed step allowed next events
    else none

section Rules

variable {step : State → Event → Option State} {allowed : State → Event → Prop}
variable {start before after : State}

/-- The induction rule for invariants: what holds at the start and is kept by
every allowed step holds in every state reached. -/
theorem Path.invariant (Inv : State → Prop) (hpath : Path step allowed start after)
    (hstart : Inv start)
    (hkeep : ∀ state event next, Inv state → allowed state event →
      step state event = some next → Inv next) : Inv after := by
  induction hpath with
  | refl => exact hstart
  | step _ hallowed hstep ih => exact hkeep _ _ _ ih hallowed hstep

/-- The rule for a condition that cannot be weakened: a property follows from an invariant of the
runs whose steps are all allowed, and the first step that is not allowed breaks it. -/
theorem Path.invariant_iff (Inv Good : State → Prop) (hpath : Path step allowed start after)
    (hstart : Inv start)
    (hkeep : ∀ state event next, Inv state → allowed state event →
      step state event = some next → Inv next)
    (hgood : ∀ state, Inv state → Good state)
    (hneeds : ∀ state event next, Inv state → step state event = some next → Good next →
      allowed state event) :
    Good after ∧ ∀ event next, step after event = some next →
      (Good next ↔ allowed after event) := by
  have hinv : Inv after := hpath.invariant Inv hstart hkeep
  refine ⟨hgood after hinv, fun event next hstep => ⟨hneeds after event next hinv hstep, ?_⟩⟩
  intro hallowed
  exact hgood next (hkeep after event next hinv hallowed hstep)

theorem Path.trans {middle : State} (hfirst : Path step allowed start middle)
    (hsecond : Path step allowed middle after) : Path step allowed start after := by
  induction hsecond with
  | refl => exact hfirst
  | step _ hallowed hstep ih => exact .step ih hallowed hstep

theorem path_of_runAllowed [∀ state event, Decidable (allowed state event)]
    {events : List Event} (hrun : runAllowed step allowed start events = some after) :
    Path step allowed start after := by
  induction events generalizing start with
  | nil =>
    obtain rfl : start = after := by simpa [runAllowed] using hrun
    exact .refl
  | cons _ _ ih =>
    rw [runAllowed] at hrun
    split at hrun
    · next hallowed =>
      obtain ⟨next, hstep, hrest⟩ := Option.bind_eq_some_iff.mp hrun
      exact (Path.step .refl hallowed hstep).trans (ih hrest)
    · simp at hrun

/-- A list of events in two parts. -/
theorem run_append {middle : State} {first : List Event} (second : List Event)
    (hfirst : run step start first = some middle) :
    run step start (first ++ second) = run step middle second := by
  induction first generalizing start with
  | nil =>
    obtain rfl : start = middle := by simpa [run] using hfirst
    rfl
  | cons _ _ ih =>
    obtain ⟨_, hstep, hrest⟩ := Option.bind_eq_some_iff.mp hfirst
    rw [List.cons_append, run, hstep]
    exact ih hrest

theorem path_of_run {events : List Event} (hrun : run step start events = some after) :
    Path step anyEvent start after := by
  induction events generalizing start with
  | nil =>
    obtain rfl : start = after := by simpa [run] using hrun
    exact .refl
  | cons _ _ ih =>
    obtain ⟨_, hstep, hrest⟩ := Option.bind_eq_some_iff.mp hrun
    exact (Path.step .refl trivial hstep).trans (ih hrest)

instance decidableAnyEvent (state : State) (event : Event) : Decidable (anyEvent state event) :=
  isTrue trivial

/-- Whether a computation ends in a state with a given property. -/
instance decidableLast {P : State → Prop} [DecidablePred P] :
    (next : Option State) → Decidable (∃ state, next = some state ∧ P state)
  | none => isFalse fun ⟨_, hnone, _⟩ => nomatch hnone
  | some state =>
    if hstate : P state then isTrue ⟨state, rfl, hstate⟩
    else isFalse fun ⟨_, hsame, hother⟩ => hstate (Option.some.inj hsame ▸ hother)

/-- What a computation shows of its last state, and what follows from it. -/
theorem exists_state {next : Option State} {D P : State → Prop}
    (hcomputed : ∃ state, next = some state ∧ D state)
    (hfollows : ∀ state, next = some state → D state → P state) :
    ∃ state, next = some state ∧ P state :=
  hcomputed.imp fun state hstate => ⟨hstate.1, hfollows state hstate.1 hstate.2⟩

/-- A path on given events, what its computation shows, and what follows from it. -/
theorem exists_path_of [∀ state event, Decidable (allowed state event)] {D P : State → Prop}
    (events : List Event)
    (hrun : ∃ state, runAllowed step allowed start events = some state ∧ D state)
    (hfollows : ∀ state, Path step allowed start state → D state → P state) :
    ∃ state, Path step allowed start state ∧ P state :=
  hrun.imp fun state hstate =>
    have hpath := path_of_runAllowed hstate.1
    ⟨hpath, hfollows state hpath hstate.2⟩

theorem exists_path [∀ state event, Decidable (allowed state event)] {P : State → Prop}
    (events : List Event)
    (hrun : ∃ state, runAllowed step allowed start events = some state ∧ P state) :
    ∃ state, Path step allowed start state ∧ P state :=
  exists_path_of events hrun fun _ _ hstate => hstate

/-- An infinite run whose steps are all `allowed`. -/
def Behaviour (step : State → Event → Option State) (allowed : State → Event → Prop)
    (states : ℕ → State) : Prop :=
  ∀ time, ∃ event, allowed (states time) event ∧ step (states time) event = some (states (time + 1))

theorem Behaviour.path {states : ℕ → State} (hstates : Behaviour step allowed states) (time : ℕ) :
    Path step allowed (states 0) (states time) := by
  induction time with
  | zero => exact .refl
  | succ time ih =>
    obtain ⟨_, hallowed, hstep⟩ := hstates time
    exact .step ih hallowed hstep

end Rules

end Knxd.Transition
