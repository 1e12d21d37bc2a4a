import Mathlib.Data.List.Induction
import Mathlib.Data.List.Infix

/-!
# Runs and what holds along them

A run folds a step function over a list of actions. A property of states can
fail along a run only at a step that breaks it, so the property holds in every
state of a run exactly when every step meets the condition under which one step
keeps it. The condition may look at the state the step starts from and at the
action; that is what makes it a condition and not the property over again.
-/

universe u v

namespace Runs

variable {State : Type u} {Action : Type v} (step : State → Action → State) (start : State)

/-- An action of a run is taken at some point of it. -/
theorem mem_iff_taken {actions : List Action} {action : Action} :
    action ∈ actions ↔ ∃ before, before ++ [action] <+: actions := by
  constructor
  · intro member
    obtain ⟨before, after, rfl⟩ := List.append_of_mem member
    exact ⟨before, after, by simp⟩
  · rintro ⟨before, inside⟩
    exact inside.subset (by simp)

/-- A run in which every action was enabled when it was taken. -/
def Admissible (enabled : State → Action → Prop) (actions : List Action) : Prop :=
  ∀ before action, before ++ [action] <+: actions → enabled (before.foldl step start) action

/-- The part of an admissible run up to any point is admissible. -/
theorem Admissible.take {enabled : State → Action → Prop} {actions before : List Action}
    (admissible : Admissible step start enabled actions) (earlier : before <+: actions) :
    Admissible step start enabled before :=
  fun first action inside => admissible first action (inside.trans earlier)

@[simp] theorem admissible_nil (enabled : State → Action → Prop) :
    Admissible step start enabled [] := by
  intro before action inside
  exact absurd (List.prefix_nil.mp inside) (by simp)

/-- An admissible run can be read from its first action on. -/
@[simp] theorem admissible_cons (enabled : State → Action → Prop) (first : Action)
    (rest : List Action) :
    Admissible step start enabled (first :: rest) ↔
      enabled start first ∧ Admissible step (step start first) enabled rest := by
  constructor
  · intro admissible
    refine ⟨admissible [] first (by simp), fun before action inside => ?_⟩
    exact admissible (first :: before) action (by simpa using inside)
  · rintro ⟨isEnabled, admissible⟩ before action inside
    cases before with
    | nil =>
      obtain rfl : action = first := by simpa using inside
      exact isEnabled
    | cons other before =>
      obtain ⟨rfl, later⟩ : other = first ∧ before ++ [action] <+: rest := by simpa using inside
      exact admissible before action later

/-- A run in two parts. -/
theorem admissible_append (enabled : State → Action → Prop) (first rest : List Action) :
    Admissible step start enabled (first ++ rest) ↔
      Admissible step start enabled first ∧
        Admissible step (first.foldl step start) enabled rest := by
  induction first generalizing start with
  | nil => simp
  | cons action first inductionHypothesis =>
    rw [List.cons_append, admissible_cons, admissible_cons, inductionHypothesis, List.foldl_cons,
      and_assoc]

/-- What holds at the start and is kept by every enabled action holds at the end
of every admissible run. -/
theorem invariant {enabled : State → Action → Prop} {Holds : State → Prop} {actions : List Action}
    (initially : Holds start)
    (kept : ∀ state action, Holds state → enabled state action → Holds (step state action))
    (admissible : Admissible step start enabled actions) : Holds (actions.foldl step start) := by
  induction actions using List.reverseRecOn with
  | nil => exact initially
  | append_singleton actions action inductionHypothesis =>
    rw [List.foldl_append]
    have earlier := inductionHypothesis
      (admissible.take step start (List.prefix_append actions [action]))
    exact kept _ action earlier (admissible actions action (List.prefix_refl _))

/-- What no action changes is the same after every run. -/
theorem unchanged {View : Type*} (view : State → View)
    (each : ∀ state action, view (step state action) = view state) (actions : List Action) :
    view (actions.foldl step start) = view start := by
  induction actions generalizing start with
  | nil => rfl
  | cons action rest inductionHypothesis =>
    exact (inductionHypothesis (step start action)).trans (each start action)

/-- What is observed along a run, step by step. -/
def trace {Observation : Type*} (observe : State → Action → List Observation) :
    State → List Action → List Observation
  | _, [] => []
  | state, action :: rest => observe state action ++ trace observe (step state action) rest

theorem trace_append_singleton {Observation : Type*} (observe : State → Action → List Observation)
    (actions : List Action) (action : Action) :
    trace step observe start (actions ++ [action]) =
      trace step observe start actions ++ observe (actions.foldl step start) action := by
  induction actions generalizing start with
  | nil => simp [trace]
  | cons first rest inductionHypothesis =>
    rw [List.cons_append, trace, trace, inductionHypothesis, List.append_assoc, List.foldl_cons]

/-- Every state of the run satisfies `Holds` exactly when every step of the run
satisfies `Keeps`, provided that `Keeps` is exactly what one step of the run
needs to preserve `Holds`. -/
theorem all_states_iff_all_steps {Holds : State → Prop} {Keeps : State → Action → Prop}
    {actions : List Action} (initially : Holds start)
    (exactly : ∀ before action, before ++ [action] <+: actions → Holds (before.foldl step start) →
      (Holds ((before ++ [action]).foldl step start) ↔ Keeps (before.foldl step start) action)) :
    (∀ before, before <+: actions → Holds (before.foldl step start)) ↔
      ∀ before action, before ++ [action] <+: actions → Keeps (before.foldl step start) action := by
  constructor
  · intro always before action inside
    have earlier : before <+: actions := (List.prefix_append before [action]).trans inside
    exact (exactly before action inside (always before earlier)).mp (always _ inside)
  · intro keeps before
    induction before using List.reverseRecOn with
    | nil => exact fun _ => initially
    | append_singleton before action inductionHypothesis =>
      intro inside
      have earlier : before <+: actions := (List.prefix_append before [action]).trans inside
      exact (exactly before action inside (inductionHypothesis earlier)).mpr
        (keeps before action inside)

end Runs
