import Libp2pFfi.Runs

/-!
# Many parties and the part each has in a run

A run of many parties is a sequence of moves, each of which is an action of one
party. What a party does in it is its own run: the state it ends in is that of
its own actions in their order, and where every move lets its action happen, its
own run is admissible. Whatever holds after every run of one party then holds of
each, however the moves are interleaved.
-/

universe u v w x y

namespace Interleavings

variable {Party : Type u} [DecidableEq Party] {Whole : Type v} {Move : Type w} {State : Type x}
  {Action : Type y} {step : Whole → Move → Whole} {act : State → Action → State}
  {view : Party → Whole → State} {party : Move → Party} {action : Move → Action}

/-- What one party does in a run. -/
def own (party : Move → Party) (action : Move → Action) (self : Party) (moves : List Move) :
    List Action :=
  (moves.filter fun move => party move = self).map action

/-- A move changes one party, by its action. -/
def Local (step : Whole → Move → Whole) (act : State → Action → State)
    (view : Party → Whole → State) (party : Move → Party) (action : Move → Action) : Prop :=
  ∀ whole move self, view self (step whole move) =
    if party move = self then act (view self whole) (action move) else view self whole

theorem own_append (self : Party) (first second : List Move) :
    own party action self (first ++ second) =
      own party action self first ++ own party action self second := by
  rw [own, List.filter_append, List.map_append]
  rfl

/-- A party ends where its own actions lead. -/
theorem view_run (isLocal : Local step act view party action) (start : Whole) (moves : List Move)
    (self : Party) :
    view self (moves.foldl step start) =
      (own party action self moves).foldl act (view self start) := by
  induction moves generalizing start with
  | nil => rfl
  | cons move rest inductionHypothesis =>
    rw [List.foldl_cons, inductionHypothesis, isLocal]
    by_cases mine : party move = self
    · simp [own, mine]
    · simp [own, mine]

/-- A party's own run is admissible where every move lets its action happen. -/
theorem admissible_own (isLocal : Local step act view party action) {start : Whole}
    {enabled : Whole → Move → Prop} (possible : Party → State → Action → Prop)
    (lets : ∀ whole move, enabled whole move →
      possible (party move) (view (party move) whole) (action move))
    {moves : List Move} (admissible : Runs.Admissible step start enabled moves) (self : Party) :
    Runs.Admissible act (view self start) (possible self) (own party action self moves) := by
  induction moves using List.reverseRecOn with
  | nil => exact Runs.admissible_nil act (view self start) (possible self)
  | append_singleton moves move inductionHypothesis =>
    have earlier := inductionHypothesis
      (admissible.take step start (List.prefix_append moves [move]))
    rw [own_append, Runs.admissible_append]
    refine ⟨earlier, ?_⟩
    rw [← view_run isLocal]
    by_cases mine : party move = self
    · have isOwn : own party action self [move] = [action move] := by simp [own, mine]
      rw [isOwn, Runs.admissible_cons]
      refine ⟨?_, Runs.admissible_nil _ _ _⟩
      have happens := lets _ move (admissible moves move (List.prefix_refl _))
      rw [mine] at happens
      exact happens
    · have isOther : own party action self [move] = [] := by simp [own, mine]
      rw [isOther]
      exact Runs.admissible_nil _ _ _

end Interleavings
