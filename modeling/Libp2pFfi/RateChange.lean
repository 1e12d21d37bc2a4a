import Libp2pFfi.Decision
import Libp2pFfi.Runs

/-!
# A changed rate

A bucket is brought up to date when it is next looked at, with the rate that is in
force then. Setting a limit again keeps its buckets, and does not look at them. So
the time that passed before the change, since a bucket was last looked at, is
credited at the new rate, as if it had been in force all along.

`earned` is what should be found: time before the change at the old rate and cut
at the old burst, time after it at the new one. What is found is exactly that if
both rates credit the time before the change alike, or if the bucket is full
either way.
-/

namespace Libp2pFfi.Limits

/-- What a rate credits for a stretch of time. -/
def credit (rate : Rate) (elapsed : Duration) : ℚ := rate.amount * asMillis elapsed / rate.intervalMs

/-- What a bucket should hold at a time, when its rate was changed before. -/
def earned (old new : Rate) (bucket : Bucket) (change next : Instant) : ℚ :=
  min (min (bucket.tokens + credit old (change - bucket.updated)) old.burst +
    credit new (next - change)) new.burst

/-- What a check finds in a bucket, after it has brought it up to date. -/
def found (limits : Limits) (rule : Rule) (key : BucketKey) (now : Instant) : ℚ :=
  (refreshed limits.buckets rule key now).tokens

/-- A call that does not count in a bucket of a limit and does not change the
limit. -/
def Misses (rule : Rule) (key : BucketKey) (limits : Limits) : LimitOp → Prop
  | .setLimit id _ => id ≠ rule.id
  | .check request _ _ => ¬ limits.Concerns request rule key
  | .setClass _ _ => True
  | .sweep _ => True

section

variable {limits : Limits} {now : Instant} {rule : Rule} {key : BucketKey}

theorem le_clock {ops : List LimitOp} (ordered : NonDecreasing now ops) : now ≤ clock now ops := by
  induction ops generalizing now with
  | nil => exact le_refl now
  | cons op rest inductionHypothesis => exact ordered.1.trans (inductionHypothesis ordered.2)

/-- A call that misses a bucket leaves the limit in force and its tokens alone. -/
theorem available_apply_misses (sound : Sound limits now) (inForce : rule ∈ limits.rules)
    {op : LimitOp} (misses : Misses rule key limits op) (forward : now ≤ op.time?.getD now)
    {time : Instant} (later : op.time?.getD now ≤ time) :
    rule ∈ (limits.apply op).rules ∧
      (limits.apply op).available rule key time = limits.available rule key time := by
  cases op with
  | setClass group peerClass =>
    obtain ⟨rules, buckets⟩ := setClass_rules limits group peerClass
    constructor
    · rwa [apply, rules]
    · rw [apply, available, buckets, available]
  | setLimit id rate =>
    refine ⟨mem_setLimit.mpr (.inl ⟨inForce, Ne.symm misses⟩), ?_⟩
    rw [apply, available, setLimit_lookup, if_neg fun removed => misses removed.2.symm, available]
  | check request bytes checked =>
    refine ⟨by rwa [apply, check_rules], ?_⟩
    exact available_check_aside (sound.later forward) inForce misses later
  | sweep swept => exact ⟨inForce, available_sweep (sound.later forward) inForce key later⟩

/-- So do any number of them. -/
theorem available_foldl_misses (sound : Sound limits now) (inForce : rule ∈ limits.rules)
    {ops : List LimitOp} (ordered : NonDecreasing now ops)
    (misses : Runs.Admissible apply limits (Misses rule key) ops) {time : Instant}
    (later : clock now ops ≤ time) :
    rule ∈ (ops.foldl apply limits).rules ∧
      (ops.foldl apply limits).available rule key time = limits.available rule key time := by
  induction ops generalizing limits now with
  | nil => exact ⟨inForce, rfl⟩
  | cons op rest inductionHypothesis =>
    obtain ⟨first, others⟩ := (Runs.admissible_cons _ _ _ _ _).mp misses
    have past : op.time?.getD now ≤ time := (le_clock ordered.2).trans later
    obtain ⟨stillInForce, same⟩ :=
      available_apply_misses sound inForce first ordered.1 past
    obtain ⟨inForceThen, sameThen⟩ :=
      inductionHypothesis (sound_apply sound op ordered.1) stillInForce ordered.2 others later
    exact ⟨inForceThen, sameThen.trans same⟩

end

/-- What is found in a bucket after its limit was set again. -/
theorem found_after_change {before between : List LimitOp} {id : RuleId} {new : Rate}
    {key : BucketKey} {bucket : Bucket} {change next : Instant} (ordered : NonDecreasing 0 before)
    (held : (run before).buckets.lookup (id, key) = some bucket) (sets : new.sets = true)
    (past : clock 0 before ≤ change) (orderedBetween : NonDecreasing change between)
    (misses : Runs.Admissible apply ((run before).setLimit id new) (Misses ⟨id, new⟩ key) between)
    (later : clock change between ≤ next) :
    found (between.foldl apply ((run before).setLimit id new)) ⟨id, new⟩ key next =
      TokenBucket.refill (new.burst : ℚ) new.perSecond bucket.tokens
        (asSecs (next - bucket.updated)) := by
  have sound := sound_setLimit ((sound_run ordered).later past) id new
  have inForce : ⟨id, new⟩ ∈ ((run before).setLimit id new).rules :=
    mem_setLimit.mpr (.inr ⟨sets, rfl⟩)
  have kept : ((run before).setLimit id new).buckets.lookup (id, key) = some bucket := by
    rw [setLimit_lookup, if_neg (by simp [sets]), held]
  have soundThen := (sound_foldl sound orderedBetween).later later
  calc found (between.foldl apply ((run before).setLimit id new)) ⟨id, new⟩ key next
      = available (between.foldl apply ((run before).setLimit id new)) ⟨id, new⟩ key next :=
        refreshed_tokens fun bucket foundThen => soundThen.past _ bucket foundThen
    _ = available ((run before).setLimit id new) ⟨id, new⟩ key next :=
        (available_foldl_misses sound inForce orderedBetween misses later).2
    _ = _ := by
        rw [available, kept]
        rfl

theorem credit_eq (rate : Rate) (elapsed : Duration) :
    credit rate elapsed = asSecs elapsed * rate.perSecond :=
  (asSecs_mul_perSecond elapsed rate).symm

/-- After a limit was set again, the next check that meets it finds what the old
rate earned before the change and the new one after it, exactly if the two rates
credit the time from the bucket's last look to the change alike, the old burst
taken into account, or if the bucket is full at that check either way. That holds
of the rate that was in force, and of any other in its place. -/
theorem found_eq_earned_iff {before between : List LimitOp} {id : RuleId} {old new : Rate}
    {key : BucketKey} {bucket : Bucket} {change next : Instant} (ordered : NonDecreasing 0 before)
    (held : (run before).buckets.lookup (id, key) = some bucket) (sets : new.sets = true)
    (past : clock 0 before ≤ change) (orderedBetween : NonDecreasing change between)
    (misses : Runs.Admissible apply ((run before).setLimit id new) (Misses ⟨id, new⟩ key) between)
    (later : clock change between ≤ next) :
    found (between.foldl apply ((run before).setLimit id new)) ⟨id, new⟩ key next =
        earned old new bucket change next ↔
      min (bucket.tokens + credit old (change - bucket.updated)) old.burst =
          bucket.tokens + credit new (change - bucket.updated) ∨
        (new.burst ≤ bucket.tokens + credit new (next - bucket.updated) ∧
          new.burst ≤ min (bucket.tokens + credit old (change - bucket.updated)) old.burst +
            credit new (next - change)) := by
  have looked : bucket.updated ≤ change :=
    ((sound_run ordered).past _ bucket held).trans past
  have split := asSecs_split looked ((le_clock orderedBetween).trans later)
  rw [found_after_change ordered held sets past orderedBetween misses later, earned, credit_eq,
    credit_eq, credit_eq, credit_eq, ← split]
  exact TokenBucket.refill_switch_iff

/-- The burst of two is used up at once. -/
def usedUp : List LimitOp :=
  [.setLimit perPeerRule.id perPeerRule.rate, .check (requestOf [1]) 1 0, .check (requestOf [1]) 1 0]

/-- A hundred messages a second, and as many at once. -/
def generous : Rate where
  amount := 100
  intervalMs := 1000
  burst := 100

theorem usedUp_ordered : NonDecreasing 0 usedUp := by
  simp [usedUp, NonDecreasing, LimitOp.time?]

theorem usedUp_held : (run usedUp).buckets.lookup (perPeerRule.id, .peer ⟨0, [1]⟩) =
    some { tokens := 0, updated := 0 } := by
  decide +kernel

/-- A change at the time of the last look loses nothing. -/
theorem found_eq_earned_iff_at_once :
    found ((run usedUp).setLimit perPeerRule.id generous) ⟨perPeerRule.id, generous⟩
        (.peer ⟨0, [1]⟩) 1000000000 =
      earned perPeerRule.rate generous { tokens := 0, updated := 0 } 0 1000000000 := by
  have misses : Runs.Admissible apply ((run usedUp).setLimit perPeerRule.id generous)
      (Misses ⟨perPeerRule.id, generous⟩ (.peer ⟨0, [1]⟩)) [] := Runs.admissible_nil _ _ _
  have ordered : NonDecreasing 0 [] := trivial
  have past : clock 0 usedUp ≤ 0 := by decide
  have later : clock 0 [] ≤ 1000000000 := by decide
  refine (found_eq_earned_iff usedUp_ordered usedUp_held rfl past ordered misses later).mpr (.inl ?_)
  decide +kernel

/-- One second after a burst is used up, at one message a second, the limit is set
to a hundred a second. A check at that moment finds a hundred tokens and not the
one that was earned. -/
theorem past_credited_at_new_rate :
    NonDecreasing 0 usedUp ∧ perPeerRule ∈ (run usedUp).rules ∧
      (run usedUp).buckets.lookup (perPeerRule.id, .peer ⟨0, [1]⟩) =
        some { tokens := 0, updated := 0 } ∧
      generous.sets = true ∧
      found ((run usedUp).setLimit perPeerRule.id generous) ⟨perPeerRule.id, generous⟩
        (.peer ⟨0, [1]⟩) 1000000000 = 100 ∧
      earned perPeerRule.rate generous { tokens := 0, updated := 0 } 1000000000 1000000000 = 1 := by
  refine ⟨usedUp_ordered, by decide +kernel, usedUp_held, rfl, ?_, ?_⟩
  · decide +kernel
  · decide +kernel

end Libp2pFfi.Limits
