import Mathlib.Algebra.Order.Ring.Nat
import Mathlib.Logic.Function.Basic

/-!
# Limiters with a bucket for every id

A limiter holds up to `limit` tokens for every id and adds one every `interval`. What
a bucket holds is counted here in the time that has paid for it: a token is worth one
`interval`, and a bucket that is not full gains as much as passes. Being admitted costs
a token. A limiter may drop a part of a token whenever it is asked, so it may lose time
but never gain any.

In any span of time an id is admitted at most `limit` times and once more for every
`interval` in it. An id that asks for all its tokens at once and again one `interval`
later is admitted each time, so no smaller bound holds.
-/

namespace RateLimiter

/-- A limiter, with what can be said of its buckets. -/
structure Limiter (Id : Type) where
  State : Type
  new : State
  /-- Whether an id is admitted at an instant. -/
  tryNext : State → Id → Nat → State × Bool
  /-- The instant of the last call. -/
  seen : State → Nat
  /-- What the bucket of an id holds at an instant. -/
  held : State → Id → Nat → Nat

variable {Id : Type} {limiter : Limiter Id} {limit interval : Nat}

/-- The limiter holds up to `limit` tokens for every id and adds one every `interval`,
as long as the instants it is called at do not go back. -/
structure Limiter.Holds (limiter : Limiter Id) (limit interval : Nat) : Prop where
  unseen : limiter.seen limiter.new = 0
  full : ∀ id now, limiter.held limiter.new id now = limit * interval
  gains : ∀ state id now elapsed, limiter.seen state ≤ now →
    limiter.held state id (now + elapsed) =
      min (limiter.held state id now + elapsed) (limit * interval)
  sees : ∀ state id now, limiter.seen state ≤ now →
    limiter.seen (limiter.tryNext state id now).1 = now
  admits : ∀ state id now, limiter.seen state ≤ now →
    ((limiter.tryNext state id now).2 = true ↔ interval ≤ limiter.held state id now)
  takes : ∀ state id now, limiter.seen state ≤ now → (limiter.tryNext state id now).2 = true →
    limiter.held (limiter.tryNext state id now).1 id now + interval ≤ limiter.held state id now
  /-- Whole tokens are not lost. -/
  exact : ∀ state id now, limiter.seen state ≤ now → (limiter.tryNext state id now).2 = true →
    interval ∣ limiter.held state id now →
      limiter.held (limiter.tryNext state id now).1 id now + interval = limiter.held state id now
  keeps : ∀ state id now, limiter.seen state ≤ now → ∀ other,
    limiter.held (limiter.tryNext state id now).1 other now ≤ limiter.held state other now

/-- Calls in the order of their instants, none before `now`. -/
def InOrder : Nat → List (Id × Nat) → Prop
  | _, [] => True
  | now, (_, time) :: rest => now ≤ time ∧ InOrder time rest

/-- How many of these instants are in the span that starts at `start`. -/
def within (start span : Nat) (times : List Nat) : Nat :=
  times.countP fun time => start ≤ time ∧ time ≤ start + span

/-- A bucket gains no more than the time that passes. -/
theorem Limiter.Holds.held_le {limiter : Limiter Id} (holds : limiter.Holds limit interval)
    {state : limiter.State} (id : Id) {now later : Nat} (seen : limiter.seen state ≤ now)
    (forward : now ≤ later) :
    limiter.held state id later + now ≤ limiter.held state id now + later := by
  obtain ⟨elapsed, rfl⟩ := Nat.exists_eq_add_of_le forward
  have gained := holds.gains state id now elapsed seen
  omega

/-- A call leaves no bucket with more, then and later. -/
theorem Limiter.Holds.held_tryNext_le {limiter : Limiter Id}
    (holds : limiter.Holds limit interval) {state : limiter.State} (asker id : Id)
    {now later : Nat} (seen : limiter.seen state ≤ now) (forward : now ≤ later) :
    limiter.held (limiter.tryNext state asker now).1 id later ≤ limiter.held state id later := by
  obtain ⟨elapsed, rfl⟩ := Nat.exists_eq_add_of_le forward
  have kept := holds.keeps state asker now seen id
  have seenAfter := (holds.sees state asker now seen).le
  rw [holds.gains _ id now elapsed seenAfter, holds.gains _ id now elapsed seen]
  omega

theorem inOrder_saturating (id : Id) (limit interval : Nat) :
    InOrder 0 (List.replicate limit (id, 0) ++ [(id, interval)]) := by
  induction limit with
  | zero => exact ⟨Nat.zero_le interval, trivial⟩
  | succ limit inductionHypothesis => exact ⟨le_refl 0, inductionHypothesis⟩

variable [DecidableEq Id]

/-- The instants at which an id is admitted. -/
def Limiter.admitted (limiter : Limiter Id) (id : Id) :
    limiter.State → List (Id × Nat) → List Nat
  | _, [] => []
  | state, (asker, now) :: rest =>
    (if asker = id ∧ (limiter.tryNext state asker now).2 = true then [now] else []) ++
      limiter.admitted id (limiter.tryNext state asker now).1 rest

variable {state : limiter.State} {id : Id} {calls : List (Id × Nat)}

theorem Limiter.admitted_ge {now : Nat} (ordered : InOrder now calls) :
    ∀ time ∈ limiter.admitted id state calls, now ≤ time := by
  induction calls generalizing state now with
  | nil => simp [admitted]
  | cons call rest inductionHypothesis =>
    obtain ⟨asker, time⟩ := call
    obtain ⟨later, orderedRest⟩ := ordered
    intro instant member
    rw [admitted, List.mem_append] at member
    rcases member with first | behind
    · split at first
      · exact List.mem_singleton.mp first ▸ later
      · cases first
    · exact later.trans (inductionHypothesis orderedRest instant behind)

/-- A span that is over has nothing admitted in it. -/
theorem Limiter.within_ended {now start span : Nat} (ordered : InOrder now calls)
    (ended : start + span < now) : within start span (limiter.admitted id state calls) = 0 := by
  apply List.countP_eq_zero.mpr
  intro time member inside
  have notBefore := admitted_ge ordered time member
  simp only [decide_eq_true_eq] at inside
  omega

theorem Limiter.within_admitted_cons (asker : Id) (time start span : Nat) :
    within start span (limiter.admitted id state ((asker, time) :: calls)) =
      (if (asker = id ∧ (limiter.tryNext state asker time).2 = true) ∧
          start ≤ time ∧ time ≤ start + span then 1 else 0) +
        within start span (limiter.admitted id (limiter.tryNext state asker time).1 calls) := by
  rw [admitted, within, List.countP_append]
  congr 1
  by_cases granted : asker = id ∧ (limiter.tryNext state asker time).2 = true
  · rw [if_pos granted, List.countP_singleton]
    simp only [decide_eq_true_eq, and_iff_right granted]
  · rw [if_neg granted, if_neg (fun counted => granted counted.1), List.countP_nil]

/-- One call moves a token from what the bucket holds to what is admitted, and creates
none. -/
theorem Limiter.Holds.pays (holds : limiter.Holds limit interval) {now : Nat}
    (seen : limiter.seen state ≤ now) (asker id : Id) :
    (if asker = id ∧ (limiter.tryNext state asker now).2 = true then 1 else 0) * interval +
        limiter.held (limiter.tryNext state asker now).1 id now ≤
      limiter.held state id now := by
  split
  · rename_i own
    obtain ⟨rfl, granted⟩ := own
    have taken := holds.takes state asker now seen granted
    omega
  · rw [zero_mul, zero_add]
    exact holds.keeps state asker now seen id

/-- What is admitted in a span is paid with what the bucket holds when the span begins
and with the time until its end. -/
theorem Limiter.Holds.within_paid (holds : limiter.Holds limit interval) (id : Id)
    {now start span : Nat} (seen : limiter.seen state ≤ now) (ordered : InOrder now calls)
    (running : now ≤ start + span) :
    within start span (limiter.admitted id state calls) * interval + max now start ≤
      limiter.held state id (max now start) + (start + span) := by
  induction calls generalizing state now with
  | nil =>
    simp only [admitted, within, List.countP_nil, zero_mul]
    omega
  | cons call rest inductionHypothesis =>
    obtain ⟨asker, time⟩ := call
    obtain ⟨later, orderedRest⟩ := ordered
    have seenThen : limiter.seen state ≤ time := seen.trans later
    have seenAfter := (holds.sees state asker time seenThen).le
    rw [within_admitted_cons]
    rcases Nat.lt_or_ge (start + span) time with ended | inTime
    · -- The call comes after the span, and so do all that follow.
      have outside : ¬ (start ≤ time ∧ time ≤ start + span) := by omega
      rw [within_ended orderedRest ended, if_neg (fun counted => outside counted.2), add_zero,
        zero_mul]
      omega
    · have behind := inductionHypothesis seenAfter orderedRest inTime
      rcases Nat.lt_or_ge time start with early | begun
      · -- The span has not begun: the call does not count, and leaves no more for the span.
        have left := holds.held_tryNext_le asker id seenThen early.le
        rw [Nat.max_eq_right early.le] at behind
        rw [if_neg (fun counted => absurd counted.2.1 (by omega)), zero_add,
          Nat.max_eq_right (by omega)]
        omega
      · have paid := holds.pays seenThen asker id
        have gained := holds.held_le id (seen.trans (Nat.le_max_left now start))
          (Nat.max_le.mpr ⟨later, begun⟩)
        rw [Nat.max_eq_left begun] at behind
        simp only [begun, inTime, and_self, and_true, add_mul] at paid ⊢
        omega

/-- In any span of time an id is admitted at most as often as `limit` says, and once
more for every `interval`. -/
theorem Limiter.Holds.within_le (holds : limiter.Holds limit interval) (id : Id)
    (ordered : InOrder 0 calls) (start span : Nat) :
    within start span (limiter.admitted id limiter.new calls) * interval ≤
      limit * interval + span := by
  have paid := holds.within_paid id holds.unseen.le ordered (Nat.zero_le (start + span))
  rw [holds.full, Nat.zero_max] at paid
  omega

/-- An id that has only whole tokens left can spend them all at once. -/
theorem Limiter.Holds.spends (holds : limiter.Holds limit interval) {now count : Nat}
    (seen : limiter.seen state ≤ now) (whole : limiter.held state id now = count * interval) :
    ∃ after, limiter.seen after ≤ now ∧ limiter.held after id now = 0 ∧
      ∀ rest, limiter.admitted id state (List.replicate count (id, now) ++ rest) =
        List.replicate count now ++ limiter.admitted id after rest := by
  induction count generalizing state with
  | zero => exact ⟨state, seen, by rw [whole, zero_mul], fun rest => rfl⟩
  | succ count inductionHypothesis =>
    have granted : (limiter.tryNext state id now).2 = true := by
      apply (holds.admits state id now seen).mpr
      rw [whole, Nat.succ_mul]
      exact Nat.le_add_left _ _
    have taken := holds.exact state id now seen granted (whole ▸ Nat.dvd_mul_left _ _)
    rw [whole, Nat.succ_mul, Nat.add_right_cancel_iff] at taken
    obtain ⟨after, seenAfter, empty, spent⟩ :=
      inductionHypothesis (holds.sees state id now seen).le taken
    refine ⟨after, seenAfter, empty, fun rest => ?_⟩
    rw [List.replicate_succ, List.cons_append, admitted, spent, if_pos ⟨rfl, granted⟩]
    rfl

/-- An id that asks for all its tokens at once and again an `interval` later is admitted
each time. -/
theorem Limiter.Holds.saturated (holds : limiter.Holds limit interval) (id : Id)
    (positive : 0 < limit) :
    limiter.admitted id limiter.new (List.replicate limit (id, 0) ++ [(id, interval)]) =
      List.replicate limit 0 ++ [interval] := by
  obtain ⟨after, seen, empty, spent⟩ := holds.spends holds.unseen.le (holds.full id 0)
  have gained := holds.gains after id 0 interval seen
  have room : interval ≤ limit * interval := Nat.le_mul_of_pos_left interval positive
  rw [empty, Nat.zero_add, Nat.min_eq_left room] at gained
  have granted : (limiter.tryNext after id interval).2 = true :=
    (holds.admits after id interval (seen.trans (Nat.zero_le _))).mpr gained.ge
  rw [spent, admitted, admitted, if_pos ⟨rfl, granted⟩, List.append_nil]

/-- A bound on what is admitted in every span of length `interval` is at least one above
`limit`. -/
theorem Limiter.Holds.within_saturated (holds : limiter.Holds limit interval) (id : Id)
    (positive : 0 < limit) :
    within 0 interval (limiter.admitted id limiter.new
      (List.replicate limit (id, 0) ++ [(id, interval)])) = limit + 1 := by
  rw [holds.saturated id positive, within, List.countP_append, List.countP_replicate]
  simp

/-- A limiter that loses nothing: it brings every bucket up to date at every call. -/
def lossless (Id : Type) [DecidableEq Id] (limit interval : Nat) : Limiter Id where
  State := Nat × (Id → Nat)
  new := (0, fun _ => limit * interval)
  tryNext state id now :=
    let held other := min (state.2 other + (now - state.1)) (limit * interval)
    if interval ≤ held id then ((now, Function.update held id (held id - interval)), true)
    else ((now, held), false)
  seen := Prod.fst
  held state id now := min (state.2 id + (now - state.1)) (limit * interval)

theorem lossless_admits (state : (lossless Id limit interval).State) (id : Id) (now : Nat) :
    ((lossless Id limit interval).tryNext state id now).2 = true ↔
      interval ≤ (lossless Id limit interval).held state id now := by
  simp only [lossless]
  split <;> simp_all

/-- Only an id that is admitted pays, and it pays a token. -/
theorem lossless_held (state : (lossless Id limit interval).State) (id other : Id) (now : Nat) :
    (lossless Id limit interval).held ((lossless Id limit interval).tryNext state id now).1 other
        now =
      (lossless Id limit interval).held state other now -
        if other = id ∧ interval ≤ (lossless Id limit interval).held state id now then interval
        else 0 := by
  simp only [lossless]
  split
  · rename_i granted
    by_cases own : other = id
    · subst own
      simp only [granted, Function.update_self, and_self, if_true]
      omega
    · simp [own]
  · rename_i refused
    simp [refused]

theorem lossless_holds (limit interval : Nat) :
    (lossless Id limit interval).Holds limit interval := by
  constructor
  · rfl
  · intro id now
    simp [lossless]
  · intro state id now elapsed seen
    simp only [lossless] at seen ⊢
    omega
  · intro state id now seen
    simp only [lossless]
    split <;> rfl
  · intro state id now seen
    exact lossless_admits state id now
  · intro state id now seen granted
    have room := (lossless_admits state id now).mp granted
    rw [lossless_held, if_pos ⟨rfl, room⟩, Nat.sub_add_cancel room]
  · intro state id now seen granted whole
    have room := (lossless_admits state id now).mp granted
    rw [lossless_held, if_pos ⟨rfl, room⟩, Nat.sub_add_cancel room]
  · intro state id now seen other
    rw [lossless_held]
    exact Nat.sub_le _ _

end RateLimiter
