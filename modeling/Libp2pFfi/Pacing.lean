import Libp2pFfi.Runs
import Mathlib.Order.Basic

/-!
# What is remembered of what was done

Along a run something is done now and then. The state remembers when that was last,
until an action makes it forget. What is remembered was done and not forgotten since;
and where times do not go back, whatever holds of the time that is remembered, and of
every earlier one, holds of all the times at which it was done since it was forgotten.
-/

universe u v w

namespace Runs

variable {State : Type u} {Action : Type v} {Time : Type w} {step : State → Action → State}
  {start : State}

/-- The state remembers the last time at which something was done. -/
structure Remembers (step : State → Action → State) (last : State → Option Time)
    (done : State → Action → Option Time) (forgets : State → Action → Prop) : Prop where
  does : ∀ state action time, done state action = some time →
    last (step state action) = some time
  keeps : ∀ state action, done state action = none → ¬ forgets state action →
    last (step state action) = last state
  forgets : ∀ state action, forgets state action → last (step state action) = none

/-- What is done later is done at a later time. -/
def InOrder [LE Time] (step : State → Action → State) (start : State)
    (done : State → Action → Option Time) (actions : List Action) : Prop :=
  ∀ before made between next first second, before ++ made :: (between ++ [next]) <+: actions →
    done (before.foldl step start) made = some first →
    done ((before ++ made :: between).foldl step start) next = some second → first ≤ second

/-- The last action of a run that was enabled before. -/
theorem admissible_concat {enabled : State → Action → Prop} {actions : List Action}
    {action : Action} :
    Admissible step start enabled (actions ++ [action]) ↔
      Admissible step start enabled actions ∧ enabled (actions.foldl step start) action := by
  rw [admissible_append, admissible_cons]
  exact and_congr_right fun _ => and_iff_left (admissible_nil _ _ _)

section

variable {last : State → Option Time} {done : State → Action → Option Time}
  {forgets : State → Action → Prop} {actions : List Action} {time : Time}

/-- What is remembered was done, and has not been forgotten since. -/
theorem Remembers.was_done (remembers : Remembers step last done forgets)
    (initially : last start = none) (known : last (actions.foldl step start) = some time) :
    ∃ earlier made later, actions = earlier ++ made :: later ∧
      done (earlier.foldl step start) made = some time ∧
      Admissible step (step (earlier.foldl step start) made)
        (fun state action => ¬ forgets state action) later := by
  induction actions using List.reverseRecOn with
  | nil => cases initially.symm.trans known
  | append_singleton actions action inductionHypothesis =>
    rw [List.foldl_append] at known
    change last (step (actions.foldl step start) action) = some time at known
    by_cases forgotten : forgets (actions.foldl step start) action
    · cases (remembers.forgets _ _ forgotten).symm.trans known
    · cases now : done (actions.foldl step start) action with
      | some moment =>
        cases (remembers.does _ _ _ now).symm.trans known
        exact ⟨actions, action, [], rfl, now, admissible_nil _ _ _⟩
      | none =>
        rw [remembers.keeps _ _ now forgotten] at known
        obtain ⟨earlier, made, later, rfl, isDone, kept⟩ := inductionHypothesis known
        refine ⟨earlier, made, later ++ [action], by simp, isDone, admissible_concat.mpr ⟨kept, ?_⟩⟩
        rwa [List.foldl_append] at forgotten

/-- What is remembered stays, as long as it is neither done again nor forgotten. -/
theorem Remembers.kept (remembers : Remembers step last done forgets)
    (quiet : Admissible step start
      (fun state action => done state action = none ∧ ¬ forgets state action) actions) :
    last (actions.foldl step start) = last start := by
  have each (state : State) (action : Action) (same : last state = last start)
      (idle : done state action = none ∧ ¬ forgets state action) :
      last (step state action) = last start :=
    (remembers.keeps state action idle.1 idle.2).trans same
  refine invariant step start ?_ each quiet
  rfl

/-- What was done and not forgotten since is remembered, or something later is. -/
theorem Remembers.not_before [Preorder Time] (remembers : Remembers step last done forgets)
    {earlier later : List Action} {made : Action}
    (ordered : InOrder step start done (earlier ++ made :: later))
    (isDone : done (earlier.foldl step start) made = some time)
    (kept : Admissible step (step (earlier.foldl step start) made)
      (fun state action => ¬ forgets state action) later) :
    ∃ latest, last ((earlier ++ made :: later).foldl step start) = some latest ∧ time ≤ latest := by
  induction later using List.reverseRecOn with
  | nil =>
    rw [List.foldl_append]
    exact ⟨time, remembers.does _ _ _ isDone, le_refl time⟩
  | append_singleton later action inductionHypothesis =>
    obtain ⟨keptBefore, notForgotten⟩ := admissible_concat.mp kept
    have inside : earlier ++ made :: later <+: earlier ++ made :: (later ++ [action]) := by
      refine (List.prefix_append_right_inj earlier).mpr ?_
      exact List.prefix_append (made :: later) [action]
    obtain ⟨latest, known, notBefore⟩ := inductionHypothesis
      (fun before first between next one other within =>
        ordered before first between next one other (within.trans inside)) keptBefore
    have state : step ((earlier ++ made :: later).foldl step start) action =
        (earlier ++ made :: (later ++ [action])).foldl step start := by
      simp [List.foldl_append]
    have here : (earlier ++ made :: later).foldl step start =
        later.foldl step (step (earlier.foldl step start) made) := by
      rw [List.foldl_append]
      rfl
    rw [← state]
    cases now : done ((earlier ++ made :: later).foldl step start) action with
    | some moment =>
      exact ⟨moment, remembers.does _ _ _ now,
        ordered earlier made later action time moment (List.prefix_refl _) isDone now⟩
    | none =>
      rw [remembers.keeps _ _ now (here ▸ notForgotten)]
      exact ⟨latest, known, notBefore⟩

/-- What holds of earlier times with later ones holds of the time that is remembered
exactly if it holds of every time at which it was done since it was forgotten. -/
theorem Remembers.all_iff [Preorder Time] (remembers : Remembers step last done forgets)
    (initially : last start = none) (ordered : InOrder step start done actions)
    {Old : Time → Prop} (closed : ∀ first second, first ≤ second → Old second → Old first) :
    (∀ time, last (actions.foldl step start) = some time → Old time) ↔
      ∀ earlier made later time, actions = earlier ++ made :: later →
        done (earlier.foldl step start) made = some time →
        Admissible step (step (earlier.foldl step start) made)
          (fun state action => ¬ forgets state action) later → Old time := by
  constructor
  · rintro old earlier made later time rfl isDone kept
    obtain ⟨latest, known, notBefore⟩ := remembers.not_before ordered isDone kept
    exact closed time latest notBefore (old latest known)
  · intro old time known
    obtain ⟨earlier, made, later, split, isDone, kept⟩ := remembers.was_done initially known
    exact old earlier made later time split isDone kept

end

end Runs
