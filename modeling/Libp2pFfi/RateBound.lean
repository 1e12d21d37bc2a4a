import Libp2pFfi.LimitRuns
import Mathlib.Tactic.NormNum

/-!
# No more than burst and rate allow

The cost of the requests a limit admits for one key, plus what it has left for
that key, never grows faster than the limit's rate. This is one equation for
each call, whatever the call does to the bucket: an admitted request moves its
cost from what is left to what is spent, and every other call moves nothing. A
window of any length then admits at most what was left at its start, which is
at most the burst, and what the rate adds until its end.
-/

namespace Libp2pFfi.Limits

/-- What one call spends of a rule's tokens for a key: the cost of a check that
is admitted and matches the rule with this key, and nothing otherwise. -/
def spent (rule : Rule) (key : BucketKey) (limits : Limits) : LimitOp → ℚ
  | .check request bytes now =>
    match (limits.check request bytes now).2 with
    | .ok () => if (rule, key) ∈ limits.matching request then rule.cost bytes else 0
    | .error _ => 0
  | _ => 0

/-- What a sequence of calls spends, each judged in the state it meets. -/
def totalSpent (rule : Rule) (key : BucketKey) : Limits → List LimitOp → ℚ
  | _, [] => 0
  | limits, op :: rest => spent rule key limits op + totalSpent rule key (limits.apply op) rest

/-- The call neither removes the rule nor changes its rate. -/
def Preserves (rule : Rule) (op : LimitOp) : Prop :=
  ∀ rate, op = .setLimit rule.id rate → rate = rule.rate

theorem member_apply {limits : Limits} {now : Instant} (sound : Sound limits now) {rule : Rule}
    (member : rule ∈ limits.rules) {op : LimitOp} (preserves : Preserves rule op) :
    rule ∈ (limits.apply op).rules := by
  cases op with
  | setClass group peerClass => simpa [apply, (setClass_rules limits group peerClass).1] using member
  | setLimit id rate =>
    apply mem_setLimit.mpr
    by_cases own : rule.id = id
    · subst own
      have same : rate = rule.rate := preserves rate rfl
      exact .inr ⟨same ▸ sound.rated rule member, by rw [same]⟩
    · exact .inl ⟨member, own⟩
  | check request bytes time => simpa [apply] using member
  | sweep time => exact member

/-- Waiting adds at most what the rate allows. -/
theorem available_le_add {limits : Limits} {now time : Instant} (sound : Sound limits now)
    (rule : Rule) (key : BucketKey) (later : now ≤ time) :
    limits.available rule key time ≤
      limits.available rule key now + asSecs (time - now) * rule.rate.perSecond := by
  have flows : 0 ≤ rule.rate.perSecond := rule.rate.perSecond_nonneg
  unfold available
  cases found : limits.buckets.lookup (rule.id, key) with
  | none => exact le_add_of_nonneg_right (mul_nonneg (asSecs_nonneg _) flows)
  | some bucket =>
    simp only [tokensAt]
    rw [← asSecs_split (sound.past _ bucket found) later,
      ← TokenBucket.refill_refill flows (asSecs_nonneg _)]
    exact TokenBucket.refill_le_add _ _ _ _

/-- One call moves tokens from what is available to what is spent, and creates
none: at the time of the call the two add up to what was available before. -/
theorem spent_add_available {limits : Limits} {now : Instant} (sound : Sound limits now)
    {rule : Rule} (member : rule ∈ limits.rules) (key : BucketKey) {op : LimitOp}
    (preserves : Preserves rule op) (forward : now ≤ op.time?.getD now) :
    spent rule key limits op + (limits.apply op).available rule key (op.time?.getD now) =
      limits.available rule key (op.time?.getD now) := by
  cases op with
  | setClass group peerClass =>
    simp only [spent, apply, available, (setClass_rules limits group peerClass).2, zero_add]
  | setLimit id rate =>
    have kept : ¬ (rate.sets = false ∧ rule.id = id) := by
      rintro ⟨unset, rfl⟩
      rw [preserves rate rfl, sound.rated rule member] at unset
      cases unset
    simp only [spent, apply, available, setLimit_lookup, kept, if_false, zero_add]
  | sweep time =>
    simp only [spent, apply, zero_add]
    exact available_sweep (sound.later forward) member key (le_refl time)
  | check request bytes time =>
    have soundThen : Sound limits time := sound.later forward
    have unswept := available_check soundThen request bytes member key (le_refl time)
    have answer := (check_cases limits request bytes time).1
    simp only [spent, apply, LimitOp.time?, Option.getD_some, unswept, answer]
    rcases outcome : limits.checkUnswept request bytes time with ⟨after, reason | ⟨⟩⟩
    · simp only [zero_add]
      exact available_refused soundThen outcome member key (le_refl time)
    · simp only [available_admitted soundThen outcome member key]
      split
      · rw [Nat.sub_self, asSecs_zero, TokenBucket.refill_zero]
        · exact add_sub_cancel _ _
        · have atMost : limits.available rule key time ≤ rule.rate.burst :=
            tokensAt_le_burst rule _ time
          linarith [rule.cost_nonneg bytes]
      · exact zero_add _

/-- From any sound state on, a rule admits for a key at most what it has left
now and what its rate adds until the last call. -/
theorem totalSpent_le {limits : Limits} {now stop : Instant} (sound : Sound limits now)
    {rule : Rule} (member : rule ∈ limits.rules) (key : BucketKey) {ops : List LimitOp}
    (preserves : ∀ op ∈ ops, Preserves rule op) (ordered : NonDecreasing now ops)
    (inside : ∀ op ∈ ops, ∀ time ∈ op.time?, time ≤ stop) :
    totalSpent rule key limits ops ≤
      limits.available rule key now + asSecs (stop - now) * rule.rate.perSecond := by
  have flows : 0 ≤ rule.rate.perSecond := rule.rate.perSecond_nonneg
  induction ops generalizing limits now with
  | nil =>
    exact add_nonneg (sound.available_nonneg rule key now) (mul_nonneg (asSecs_nonneg _) flows)
  | cons op rest inductionHypothesis =>
    obtain ⟨forward, orderedRest⟩ := ordered
    have preserved : Preserves rule op := preserves op List.mem_cons_self
    have later := inductionHypothesis (sound_apply sound op forward)
      (member_apply sound member preserved)
      (fun other inRest => preserves other (List.mem_cons_of_mem _ inRest)) orderedRest
      (fun other inRest => inside other (List.mem_cons_of_mem _ inRest))
    have split : asSecs (op.time?.getD now - now) + asSecs (stop - op.time?.getD now) =
        asSecs (stop - now) := by
      cases timed : op.time? with
      | none => simp
      | some time =>
        rw [timed] at forward
        exact asSecs_split forward (inside op List.mem_cons_self time timed)
    calc
      totalSpent rule key limits (op :: rest)
          = spent rule key limits op + totalSpent rule key (limits.apply op) rest := rfl
      _ ≤ spent rule key limits op + ((limits.apply op).available rule key (op.time?.getD now) +
            asSecs (stop - op.time?.getD now) * rule.rate.perSecond) := by gcongr
      _ = limits.available rule key (op.time?.getD now) +
            asSecs (stop - op.time?.getD now) * rule.rate.perSecond := by
          rw [← add_assoc, spent_add_available sound member key preserved forward]
      _ ≤ limits.available rule key now + asSecs (op.time?.getD now - now) * rule.rate.perSecond +
            asSecs (stop - op.time?.getD now) * rule.rate.perSecond := by
          gcongr
          exact available_le_add sound rule key forward
      _ = limits.available rule key now + asSecs (stop - now) * rule.rate.perSecond := by
          rw [add_assoc, ← add_mul, split]

/-- A run that stays in order from `now` on, and does not start before `start`,
is in order from the later of the two. -/
theorem NonDecreasing.later {now start : Instant} {ops : List LimitOp}
    (ordered : NonDecreasing now ops) (notBefore : ∀ op ∈ ops, ∀ time ∈ op.time?, start ≤ time) :
    NonDecreasing (max now start) ops := by
  induction ops generalizing now with
  | nil => trivial
  | cons op rest inductionHypothesis =>
    obtain ⟨forward, orderedRest⟩ := ordered
    have restNotBefore : ∀ other ∈ rest, ∀ time ∈ other.time?, start ≤ time :=
      fun other inRest => notBefore other (List.mem_cons_of_mem _ inRest)
    cases timed : op.time? with
    | none =>
      rw [timed] at orderedRest
      simp only [NonDecreasing, timed, Option.getD_none, le_refl, true_and]
      exact inductionHypothesis orderedRest restNotBefore
    | some time =>
      rw [timed] at forward orderedRest
      simp only [NonDecreasing, timed, Option.getD_some]
      exact ⟨max_le forward (notBefore op List.mem_cons_self time timed), orderedRest⟩

/-- Time in milliseconds. -/
def asMillis (elapsed : Duration) : ℚ := elapsed / 1000000

theorem asSecs_mul_perSecond (elapsed : Duration) (rate : Rate) :
    asSecs elapsed * rate.perSecond = rate.amount * asMillis elapsed / rate.intervalMs := by
  rw [asSecs_eq, asMillis, Rate.perSecond]
  ring

/-- From any sound state on, calls between `start` and `stop` spend at most the burst
and what the rate adds in that time. -/
theorem totalSpent_within {limits : Limits} {now start stop : Instant} (sound : Sound limits now)
    {rule : Rule} (inForce : rule ∈ limits.rules) (key : BucketKey) {window : List LimitOp}
    (unchanged : ∀ op ∈ window, Preserves rule op) (ordered : NonDecreasing now window)
    (inside : ∀ op ∈ window, ∀ time ∈ op.time?, start ≤ time ∧ time ≤ stop) :
    totalSpent rule key limits window ≤
      rule.rate.burst + rule.rate.amount * asMillis (stop - start) / rule.rate.intervalMs := by
  have flows : 0 ≤ rule.rate.perSecond := rule.rate.perSecond_nonneg
  have opening : now ≤ max now start := le_max_left _ _
  have bound := totalSpent_le (sound.later opening) inForce key unchanged
    (ordered.later fun op member time timed => (inside op member time timed).1)
    fun op member time timed => (inside op member time timed).2
  have full : limits.available rule key (max now start) ≤ rule.rate.burst :=
    tokensAt_le_burst rule _ _
  have shorter : asSecs (stop - max now start) ≤ asSecs (stop - start) := by
    rw [asSecs_eq, asSecs_eq]
    gcongr
    exact le_max_right _ _
  rw [← asSecs_mul_perSecond]
  calc
    totalSpent rule key limits window
        ≤ limits.available rule key (max now start) +
          asSecs (stop - max now start) * rule.rate.perSecond := bound
    _ ≤ rule.rate.burst + asSecs (stop - start) * rule.rate.perSecond := by gcongr

/-- The rate bound over any window of any run. Take a run whose times do not go
back, and a stretch of it that lies between `start` and `stop`. If the rule is
in force when the stretch begins and no call of the stretch removes it or gives
it another rate, then the checks of the stretch that were admitted and matched
the rule with `key` cost together at most the burst and what the rate adds from
`start` to `stop`. Sweeps, refused checks, classes and other rules may change
in between in any way. -/
theorem admitted_within_rate (before window : List LimitOp) (rule : Rule) (key : BucketKey)
    (start stop : Instant) (ordered : NonDecreasing 0 (before ++ window))
    (inForce : rule ∈ (run before).rules)
    (unchanged : ∀ op ∈ window, Preserves rule op)
    (inside : ∀ op ∈ window, ∀ time ∈ op.time?, start ≤ time ∧ time ≤ stop) :
    totalSpent rule key (run before) window ≤
      rule.rate.burst + rule.rate.amount * asMillis (stop - start) / rule.rate.intervalMs := by
  obtain ⟨orderedBefore, orderedWindow⟩ := nonDecreasing_append.mp ordered
  exact totalSpent_within (sound_run orderedBefore) inForce key unchanged orderedWindow inside

/-- One message a second and a burst of two, for each peer of a group nobody
classified. -/
def perPeerRule : Rule where
  id := { peerClass := classUnknown, scope := scopePeer, protocol := protocolAny, unit := .messages }
  rate := { amount := 1, intervalMs := 1000, burst := 2 }

/-- A request of the peer with this digest, by a group nobody classified. -/
def requestOf (digest : Bytes) : LimitRequest where
  group := Key.filled 1
  peer := ⟨0, digest⟩
  ip := none
  protocol := 0

/-- Three requests at once, a sweep, and one more request a second later. -/
def burstAndLater : List LimitOp :=
  [.check (requestOf [1]) 1 0, .check (requestOf [1]) 1 0, .check (requestOf [1]) 1 0,
    .sweep 500000000, .check (requestOf [1]) 1 1000000000]

/-- The bound is reached: the third request is refused, the last one is not. -/
theorem admitted_within_rate_burst_and_later :
    totalSpent perPeerRule (.peer ⟨0, [1]⟩) (run [.setLimit perPeerRule.id perPeerRule.rate])
        burstAndLater = 3 ∧
      totalSpent perPeerRule (.peer ⟨0, [1]⟩) (run [.setLimit perPeerRule.id perPeerRule.rate])
          burstAndLater ≤
        perPeerRule.rate.burst +
          perPeerRule.rate.amount * asMillis (1000000000 - 0) / perPeerRule.rate.intervalMs := by
  refine ⟨by decide +kernel, admitted_within_rate [.setLimit perPeerRule.id perPeerRule.rate]
    burstAndLater perPeerRule (.peer ⟨0, [1]⟩) 0 1000000000 ?_ ?_ ?_ ?_⟩
  · simp [NonDecreasing, burstAndLater, LimitOp.time?]
  · decide
  · simp [burstAndLater, Preserves]
  · simp [burstAndLater, LimitOp.time?]

end Libp2pFfi.Limits
