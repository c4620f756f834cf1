/-!
# Runs of a state machine

A machine takes one step for each event of a run.  A run keeps to a guard if
every event meets it in the state in which it is taken; what guarded steps
preserve then holds in every state of the run.
-/

namespace PcapdroidFormal.Foundation

variable {State Event : Type} (step : State → Event → State)

/-- The state after a sequence of events. -/
def run (state : State) (events : List Event) : State := events.foldl step state

@[simp] theorem run_nil (state : State) : run step state [] = state := rfl

@[simp] theorem run_cons (state : State) (event : Event) (events : List Event) :
    run step state (event :: events) = run step (step state event) events := rfl

theorem run_append (state : State) (first second : List Event) :
    run step state (first ++ second) = run step (run step state first) second := by
  simp [run]

/-- Every event of the run meets the guard when it is taken. -/
def Guarded (Guard : State → Event → Prop) : State → List Event → Prop
  | _, [] => True
  | state, event :: events => Guard state event ∧ Guarded Guard (step state event) events

/-- A property preserved by the guarded steps holds at the end of a guarded run. -/
theorem Guarded.invariant {Guard : State → Event → Prop} {Invariant : State → Prop}
    (preserved : ∀ state event, Invariant state → Guard state event →
      Invariant (step state event))
    {state : State} {events : List Event} (guarded : Guarded step Guard state events)
    (initial : Invariant state) : Invariant (run step state events) := by
  induction events generalizing state with
  | nil => exact initial
  | cons event events ih =>
    obtain ⟨first, rest⟩ := guarded
    exact ih rest (preserved state event initial first)

/-- A property preserved by every step holds at the end of every run. -/
theorem run_invariant {Invariant : State → Prop}
    (preserved : ∀ state event, Invariant state → Invariant (step state event))
    {state : State} (initial : Invariant state) (events : List Event) :
    Invariant (run step state events) := by
  induction events generalizing state with
  | nil => exact initial
  | cons event events ih => exact ih (preserved state event initial)

/-- The states of a guarded run are reached by guarded runs. -/
theorem Guarded.of_append {Guard : State → Event → Prop} {state : State}
    {first second : List Event} (guarded : Guarded step Guard state (first ++ second)) :
    Guarded step Guard state first := by
  induction first generalizing state with
  | nil => trivial
  | cons event events ih =>
    obtain ⟨head, rest⟩ := guarded
    exact ⟨head, ih rest⟩

/-- Where the guard says exactly when a step preserves the invariant, the invariant holds in
every state of a run just if the run is guarded. -/
theorem guarded_iff {Guard : State → Event → Prop} {Valid Invariant : State → Prop}
    (valid : ∀ state event, Valid state → Invariant state → Valid (step state event))
    (exact : ∀ state event, Valid state → Invariant state →
      (Invariant (step state event) ↔ Guard state event))
    {state : State} (initial : Valid state) (holds : Invariant state) (events : List Event) :
    (∀ first second, events = first ++ second → Invariant (run step state first)) ↔
      Guarded step Guard state events := by
  induction events generalizing state with
  | nil =>
    refine ⟨fun _ => trivial, fun _ first second split => ?_⟩
    rw [(List.append_eq_nil_iff.mp split.symm).1]
    exact holds
  | cons event events ih =>
    have here := exact state event initial holds
    constructor
    · intro all
      have next : Invariant (step state event) := all [event] events rfl
      refine ⟨here.mp next, (ih (valid state event initial holds) next).mp ?_⟩
      intro first second split
      exact all (event :: first) second (by rw [split, List.cons_append])
    · rintro ⟨guard, rest⟩ first second split
      have later := (ih (valid state event initial holds) (here.mpr guard)).mpr rest
      cases first with
      | nil => exact holds
      | cons head first =>
        obtain ⟨rfl, tail⟩ := List.cons.inj split
        exact later first second tail

def labels {Label : Type} (label : State → Event → Label) : State → List Event → List Label
  | _, [] => []
  | state, event :: events => label state event :: labels label (step state event) events

/-- A machine that is simulated step by step is simulated over whole runs. -/
theorem run_simulation {Abstract Label : Type} (abstractStep : Abstract → Label → Abstract)
    (view : State → Abstract) (label : State → Event → Label) {Invariant : State → Prop}
    (preserved : ∀ state event, Invariant state → Invariant (step state event))
    (simulated : ∀ state event, Invariant state →
      view (step state event) = abstractStep (view state) (label state event))
    {state : State} (initial : Invariant state) (events : List Event) :
    view (run step state events) =
      run abstractStep (view state) (labels step label state events) := by
  induction events generalizing state with
  | nil => rfl
  | cons event events ih =>
    rw [run_cons, ih (preserved state event initial), simulated state event initial]
    rfl

/-- A property of the labels of all steps. -/
theorem forall_labels {Label : Type} (label : State → Event → Label) {Allowed : Label → Prop}
    {state : State} {events : List Event}
    (allowed : ∀ state, ∀ event ∈ events, Allowed (label state event)) :
    ∀ taken ∈ labels step label state events, Allowed taken := by
  induction events generalizing state with
  | nil => exact List.forall_mem_nil _
  | cons event events ih =>
    refine List.forall_mem_cons.mpr ⟨allowed state event List.mem_cons_self, ?_⟩
    grind

/-! ## Machines that can get stuck -/

section Partial

variable {State Event : Type}

/-- A run from one state to another, in which every event meets the guard. -/
inductive Path (step : State → Event → Option State) (Guard : State → Event → Prop) :
    State → List Event → State → Prop
  | done (state : State) : Path step Guard state [] state
  | step {state next final : State} {event : Event} {events : List Event}
      (guard : Guard state event) (taken : step state event = some next)
      (rest : Path step Guard next events final) : Path step Guard state (event :: events) final

variable {step : State → Event → Option State} {Guard : State → Event → Prop}

theorem Path.invariant {Invariant : State → Prop}
    (preserved : ∀ {state event next}, Invariant state → Guard state event →
      step state event = some next → Invariant next)
    {start final : State} {events : List Event} (path : Path step Guard start events final)
    (initial : Invariant start) : Invariant final := by
  induction path with
  | done => exact initial
  | step guard taken _ ih => exact ih (preserved initial guard taken)

/-- Take the events one by one as long as they meet the guard. -/
def guardedRun (step : State → Event → Option State) (Guard : State → Event → Prop)
    [∀ state event, Decidable (Guard state event)] (state : State) : List Event → Option State
  | [] => some state
  | event :: events =>
    if Guard state event then (step state event).bind (guardedRun step Guard · events) else none

theorem Path.of_guardedRun [∀ state event, Decidable (Guard state event)] {start final : State}
    {events : List Event} (ran : guardedRun step Guard start events = some final) :
    Path step Guard start events final := by
  induction events generalizing start with
  | nil =>
    cases ran
    exact .done _
  | cons event events ih =>
    rw [guardedRun] at ran
    split at ran
    next guard =>
      obtain ⟨next, taken, rest⟩ := Option.bind_eq_some_iff.mp ran
      exact .step guard taken (ih rest)
    next => cases ran

/-- A run that was evaluated, together with what is seen of its last state. -/
theorem exists_path [∀ state event, Decidable (Guard state event)] {Value : Type}
    {initial : Option State} {events : List Event} (seen : State → Value) {value : Value}
    (evaluated : (initial.bind fun start => (guardedRun step Guard start events).map seen) =
      some value) :
    ∃ start final, initial = some start ∧ Path step Guard start events final ∧
      seen final = value := by
  obtain ⟨start, started, ran⟩ := Option.bind_eq_some_iff.mp evaluated
  obtain ⟨final, ran, same⟩ := Option.map_eq_some_iff.mp ran
  exact ⟨start, final, started, .of_guardedRun ran, same⟩

end Partial

/-- What returns has come through its first step. -/
theorem exists_of_bind_eq_ok {Error First Result : Type} {first : Except Error First}
    {next : First → Except Error Result} {result : Result} (bound : (first >>= next) = .ok result) :
    ∃ value, first = .ok value ∧ next value = .ok result := by
  cases first with
  | error error => cases bound
  | ok value => exact ⟨value, rfl, bound⟩

end PcapdroidFormal.Foundation
