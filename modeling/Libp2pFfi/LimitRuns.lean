import Libp2pFfi.Admission

/-!
# Runs of a limiter

A run is any sequence of the limiter's calls, starting from the empty limiter,
with times that never go back. Times belong to checks and sweeps; setting a
class or a limit takes effect between them. Every state a run reaches is sound,
and each call's effect on what is available is stated for the call itself, so
that arguments over whole runs are inductions over these lemmas.
-/

namespace Libp2pFfi.Limits

/-- Times do not go back, from `now` on. -/
def NonDecreasing : Instant → List LimitOp → Prop
  | _, [] => True
  | now, op :: rest => now ≤ op.time?.getD now ∧ NonDecreasing (op.time?.getD now) rest

/-- The time of the last call that looked at the clock. -/
def clock (now : Instant) (ops : List LimitOp) : Instant :=
  ops.foldl (fun time op => op.time?.getD time) now

/-- A run in two parts is one whose second part begins where the first ended. -/
theorem nonDecreasing_append {now : Instant} {first second : List LimitOp} :
    NonDecreasing now (first ++ second) ↔
      NonDecreasing now first ∧ NonDecreasing (clock now first) second := by
  induction first generalizing now with
  | nil => simp [NonDecreasing, clock]
  | cons op rest inductionHypothesis =>
    simp only [List.cons_append, NonDecreasing, inductionHypothesis, and_assoc]
    rfl

/-- A check that sweeps first or does not is sound, whatever it answers. -/
theorem sound_check {limits : Limits} {now : Instant} (sound : Sound limits now)
    (request : LimitRequest) (bytes : Nat) : Sound (limits.check request bytes now).1 now := by
  rcases (check_cases limits request bytes now).2 with same | same
  · rw [same]
    exact sound_checkUnswept sound request bytes
  · rw [same]
    exact sound_sweep (sound_checkUnswept sound request bytes)

/-- The sweep at the end of a check does not show in what is available. -/
theorem available_check {limits : Limits} {now time : Instant} (sound : Sound limits now)
    (request : LimitRequest) (bytes : Nat) {rule : Rule} (member : rule ∈ limits.rules)
    (key : BucketKey) (later : now ≤ time) :
    (limits.check request bytes now).1.available rule key time =
      (limits.checkUnswept request bytes now).1.available rule key time := by
  rcases (check_cases limits request bytes now).2 with same | same
  · rw [same]
  · rw [same]
    exact available_sweep (sound_checkUnswept sound request bytes) (by simpa using member) key later

/-- A changed rate keeps its buckets, and one that sets nothing forgets them. -/
theorem sound_setLimit {limits : Limits} {now : Instant} (sound : Sound limits now) (id : RuleId)
    (rate : Rate) : Sound (limits.setLimit id rate) now := by
  refine
    { toTidy := tidy_setLimit sound.toTidy id rate
      rated := fun rule member => ?_
      past := fun key bucket found => sound.past key bucket (setLimit_kept found).1
      solvent := fun key bucket found => sound.solvent key bucket (setLimit_kept found).1 }
  rcases mem_setLimit.mp member with ⟨kept, -⟩ | ⟨sets, rfl⟩
  · exact sound.rated rule kept
  · exact sets

/-- Every call keeps a sound state sound. -/
theorem sound_apply {limits : Limits} {now : Instant} (sound : Sound limits now) (op : LimitOp)
    (forward : now ≤ op.time?.getD now) : Sound (limits.apply op) (op.time?.getD now) := by
  cases op with
  | setClass group peerClass =>
    obtain ⟨rules, buckets⟩ := setClass_rules limits group peerClass
    exact
      { toTidy := tidy_apply sound.toTidy (.setClass group peerClass)
        rated := by simpa [apply, rules] using sound.rated
        past := by simpa [apply, buckets, LimitOp.time?] using sound.past
        solvent := by simpa [apply, buckets] using sound.solvent }
  | setLimit id rate => exact sound_setLimit sound id rate
  | check request bytes time => exact sound_check (sound.later forward) request bytes
  | sweep time => exact sound_sweep (sound.later forward)

/-- So every run keeps the limiter sound, up to the last time it looked. -/
theorem sound_foldl {limits : Limits} {now : Instant} (sound : Sound limits now)
    {ops : List LimitOp} (ordered : NonDecreasing now ops) :
    Sound (ops.foldl apply limits) (clock now ops) := by
  induction ops generalizing limits now with
  | nil => exact sound
  | cons op rest inductionHypothesis =>
    exact inductionHypothesis (sound_apply sound op ordered.1) ordered.2

/-- Every reachable state is sound. -/
theorem sound_run {ops : List LimitOp} (ordered : NonDecreasing 0 ops) :
    Sound (run ops) (clock 0 ops) :=
  sound_foldl sound_default ordered

end Libp2pFfi.Limits
