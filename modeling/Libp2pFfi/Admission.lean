import Libp2pFfi.BucketTables
import Mathlib.Algebra.Order.Ring.Cast
import Mathlib.Tactic.FieldSimp
import Mathlib.Tactic.Positivity
import Mathlib.Tactic.Ring

/-!
# What a limit has left

Buckets are created, refilled and forgotten on many paths, but all that a
request can observe of them is how many tokens a rule has left for a key at a
time from now on. `available` is that number. It does not depend on when the
bucket was last touched, nor on whether a full bucket is remembered at all.

One law per operation says what it does to these numbers: a refused check and a
sweep change none of them, an admitted check takes its cost from each matching
rule once and leaves every other pair alone. Later modules argue about
`available` only, never about the bucket table.
-/

namespace Libp2pFfi

namespace Rate

theorem perSecond_nonneg (rate : Rate) : 0 ≤ rate.perSecond := by
  unfold Rate.perSecond
  positivity

end Rate

/-- In exact arithmetic a duration is its nanoseconds as a rational. -/
theorem asSecs_eq (elapsed : Duration) : asSecs elapsed = (elapsed : ℚ) / 1000000000 := rfl

theorem asSecs_nonneg (elapsed : Duration) : 0 ≤ asSecs elapsed := by
  rw [asSecs_eq]
  positivity

@[simp] theorem asSecs_zero : asSecs 0 = 0 := by simp [asSecs_eq]

/-- The time between two instants can be counted through a third. -/
theorem asSecs_split {first second third : Nat} (early : first ≤ second) (late : second ≤ third) :
    asSecs (second - first) + asSecs (third - second) = asSecs (third - first) := by
  have split : third - first = (second - first) + (third - second) := by omega
  rw [split, asSecs_eq, asSecs_eq, asSecs_eq, Nat.cast_add, add_div]

/-- What a limit charges is a count. -/
theorem Rule.cost_nonneg (rule : Rule) (bytes : Nat) : 0 ≤ rule.cost bytes := by
  unfold Rule.cost
  split <;> positivity

namespace Limits

/-- The tokens a rule counts in a bucket at a time; a missing bucket is full. -/
def tokensAt (rule : Rule) (found : Option Bucket) (time : Instant) : ℚ :=
  match found with
  | none => rule.rate.burst
  | some bucket =>
    TokenBucket.refill rule.rate.burst rule.rate.perSecond bucket.tokens
      (asSecs (time - bucket.updated))

/-- What a rule has left for a key at a time. -/
def available (limits : Limits) (rule : Rule) (key : BucketKey) (time : Instant) : ℚ :=
  tokensAt rule (limits.buckets.lookup (rule.id, key)) time

/-- However long a bucket is left alone, it holds at most the burst. -/
theorem tokensAt_le_burst (rule : Rule) (found : Option Bucket) (time : Instant) :
    tokensAt rule found time ≤ rule.rate.burst := by
  cases found with
  | none => exact le_refl _
  | some bucket => exact TokenBucket.refill_le_burst _ _ _ _

/-- Bringing a bucket up to date, or creating it, does not show. -/
theorem tokensAt_refreshed {buckets : Buckets} {rule : Rule} {key : BucketKey} {now time : Instant}
    (past : ∀ bucket, buckets.lookup (rule.id, key) = some bucket → bucket.updated ≤ now)
    (later : now ≤ time) :
    tokensAt rule (some (refreshed buckets rule key now)) time =
      tokensAt rule (buckets.lookup (rule.id, key)) time := by
  have flows : 0 ≤ rule.rate.perSecond := rule.rate.perSecond_nonneg
  cases found : buckets.lookup (rule.id, key) with
  | none =>
    simp only [tokensAt, refreshed, bucketOr, found, Option.getD_none, Bucket.refill]
    rw [Nat.sub_self, asSecs_zero, TokenBucket.refill_full flows (le_refl 0),
      TokenBucket.refill_full flows (asSecs_nonneg _)]
  | some bucket =>
    simp only [tokensAt, refreshed, bucketOr, found, Option.getD_some, Bucket.refill]
    rw [TokenBucket.refill_refill flows (asSecs_nonneg _), asSecs_split (past bucket found) later]

/-- Right after it was brought up to date a bucket holds what is available. -/
theorem refreshed_tokens {buckets : Buckets} {rule : Rule} {key : BucketKey} {now : Instant}
    (past : ∀ bucket, buckets.lookup (rule.id, key) = some bucket → bucket.updated ≤ now) :
    (refreshed buckets rule key now).tokens = tokensAt rule (buckets.lookup (rule.id, key)) now := by
  rw [← tokensAt_refreshed past (le_refl now)]
  simp only [tokensAt, refreshed, Bucket.refill, Nat.sub_self, asSecs_zero]
  exact (TokenBucket.refill_zero (TokenBucket.refill_le_burst _ _ _ _)).symm

/-- What every reachable state keeps, with `now` the time of the last call:
rule ids are unique, every rule has a rate, every bucket belongs to a rule, was
touched no later than now, and is not in debt. -/
structure Sound (limits : Limits) (now : Instant) : Prop extends Tidy limits where
  rated : ∀ rule ∈ limits.rules, rule.rate.sets = true
  past : ∀ key bucket, limits.buckets.lookup key = some bucket → bucket.updated ≤ now
  solvent : ∀ key bucket, limits.buckets.lookup key = some bucket → 0 ≤ bucket.tokens

/-- The empty limiter is sound at the start. -/
theorem sound_default : Sound {} 0 where
  toTidy := tidy_default
  rated := by simp
  past := by simp
  solvent := by simp

/-- Soundness outlasts the clock: buckets only get older. -/
theorem Sound.later {limits : Limits} {now time : Instant} (sound : Sound limits now)
    (forward : now ≤ time) : Sound limits time :=
  { sound with past := fun key bucket found => (sound.past key bucket found).trans forward }

/-- No pair is in debt at any time. -/
theorem Sound.available_nonneg {limits : Limits} {now : Instant} (sound : Sound limits now)
    (rule : Rule) (key : BucketKey) (time : Instant) : 0 ≤ limits.available rule key time := by
  unfold available tokensAt
  split
  · positivity
  · rename_i bucket found
    exact TokenBucket.refill_nonneg (by positivity) rule.rate.perSecond_nonneg
      (sound.solvent _ bucket found) (asSecs_nonneg _)

/-! The two passes of a check. -/

/-- Whether a pair has fewer tokens left than the request costs. -/
def short (bytes : Nat) (now : Instant) (buckets : Buckets) (pair : Rule × BucketKey) : Bool :=
  tokensAt pair.1 (buckets.lookup (slot pair)) now < pair.1.cost bytes

/-- The buckets a check may see: none touched after `now`. -/
def Past (now : Instant) (buckets : Buckets) : Prop :=
  ∀ key bucket, buckets.lookup key = some bucket → bucket.updated ≤ now

/-- What a check looks at is what is available: when a bucket was last brought up
to date does not show. -/
theorem unpaid_eq_short (bytes : Nat) {now : Instant} {buckets : Buckets} (past : Past now buckets) :
    unpaid bytes now buckets = short bytes now buckets := by
  funext pair
  unfold unpaid short
  rw [refreshed_tokens fun bucket found => past _ bucket found]
  rfl

/-- The three ways a check can end, before any sweep: the group is blocked; some
matching rule is short, and the pairs up to it are brought up to date; or all of
them have the tokens, and all are charged. -/
theorem checkUnswept_cases {limits : Limits} {now : Instant} (sound : Sound limits now)
    (request : LimitRequest) (bytes : Nat) :
    (limits.classOf request.group = classBlocked ∧
        limits.checkUnswept request bytes now = (limits, .error limitedBlocked)) ∨
      (limits.classOf request.group ≠ classBlocked ∧
        ∃ pair, (limits.matching request).find? (short bytes now limits.buckets) = some pair ∧
          limits.checkUnswept request bytes now =
            ({ limits with
                buckets := touch now limits.buckets limits.buckets
                  (visited (short bytes now limits.buckets) (limits.matching request)) },
              .error pair.1.id.scope)) ∨
      (limits.classOf request.group ≠ classBlocked ∧
        (limits.matching request).find? (short bytes now limits.buckets) = none ∧
        limits.checkUnswept request bytes now =
          ({ limits with
              buckets := charge bytes
                (touch now limits.buckets limits.buckets (limits.matching request))
                (limits.matching request) },
            .ok ())) := by
  rw [← unpaid_eq_short bytes sound.past]
  exact checkUnswept_ends sound.unique request bytes now

/-- Touching pairs of the rules in force changes nothing that is available. -/
theorem available_touch {limits : Limits} {now time : Instant} (sound : Sound limits now)
    {pairs : List (Rule × BucketKey)} (inForce : ∀ pair ∈ pairs, pair.1 ∈ limits.rules)
    (distinct : (pairs.map slot).Nodup) {rule : Rule} (member : rule ∈ limits.rules)
    (key : BucketKey) (later : now ≤ time) :
    available { limits with buckets := touch now limits.buckets limits.buckets pairs } rule key time =
      limits.available rule key time := by
  unfold available
  by_cases touched : (rule.id, key) ∈ pairs.map slot
  · obtain ⟨⟨other, otherKey⟩, inPairs, same⟩ := List.mem_map.mp touched
    obtain ⟨sameId, rfl⟩ := Prod.mk.inj same
    obtain rfl : other = rule := sound.toTidy.same (inForce _ inPairs) member sameId
    dsimp only
    rw [← same, touch_member now limits.buckets limits.buckets pairs distinct _ inPairs]
    exact tokensAt_refreshed (fun bucket found => sound.past _ bucket found) later
  · dsimp only
    rw [touch_other now limits.buckets limits.buckets pairs _ touched]

/-- A refused check leaves what is available as it was. -/
theorem available_refused {limits : Limits} {now time : Instant} (sound : Sound limits now)
    {request : LimitRequest} {bytes reason : Nat} {after : Limits}
    (refused : limits.checkUnswept request bytes now = (after, .error reason))
    {rule : Rule} (member : rule ∈ limits.rules) (key : BucketKey) (later : now ≤ time) :
    after.available rule key time = limits.available rule key time := by
  rcases checkUnswept_cases sound request bytes with ⟨-, same⟩ | ⟨-, pair, -, same⟩ | ⟨-, -, same⟩
  · rw [same] at refused
    rw [(Prod.mk.inj refused).1]
  · rw [same] at refused
    rw [← (Prod.mk.inj refused).1]
    have sublist := visited_subset (short bytes now limits.buckets) (limits.matching request)
    exact available_touch sound
      (fun pair inPairs => (mem_matching.mp (sublist.subset inPairs)).1)
      ((sublist.map slot).nodup (matching_distinct sound.unique request)) member key later
  · rw [same] at refused
    cases (Prod.mk.inj refused).2

/-- An admitted check found the cost in every matching bucket, left each of them
charged once at the time of the check, and changed no other bucket. -/
theorem admitted_buckets {limits : Limits} {now : Instant} (sound : Sound limits now)
    {request : LimitRequest} {bytes : Nat} {after : Limits}
    (admitted : limits.checkUnswept request bytes now = (after, .ok ())) :
    (∀ rule key, (rule, key) ∈ limits.matching request →
        rule.cost bytes ≤ limits.available rule key now ∧
          after.buckets.lookup (rule.id, key) =
            some ⟨limits.available rule key now - rule.cost bytes, now⟩) ∧
      ∀ key, key ∉ (limits.matching request).map slot →
        after.buckets.lookup key = limits.buckets.lookup key := by
  obtain ⟨charged, others⟩ := admitted_charged sound.unique admitted
  refine ⟨fun rule key member => ?_, others⟩
  have tokens : (refreshed limits.buckets rule key now).tokens = limits.available rule key now :=
    refreshed_tokens fun bucket found => sound.past _ bucket found
  obtain ⟨paid, held⟩ := charged rule key member
  rw [tokens] at paid held
  exact ⟨not_lt.mp paid, held⟩

/-- After an admitted check, a matching pair goes on from what it had less the
cost, and every other pair goes on as before. -/
theorem available_admitted {limits : Limits} {now time : Instant} (sound : Sound limits now)
    {request : LimitRequest} {bytes : Nat} {after : Limits}
    (admitted : limits.checkUnswept request bytes now = (after, .ok ()))
    {rule : Rule} (member : rule ∈ limits.rules) (key : BucketKey) :
    after.available rule key time =
      if (rule, key) ∈ limits.matching request then
        TokenBucket.refill (rule.rate.burst : ℚ) rule.rate.perSecond
          (limits.available rule key now - rule.cost bytes) (asSecs (time - now))
      else limits.available rule key time := by
  obtain ⟨charged, others⟩ := admitted_buckets sound admitted
  by_cases matched : (rule, key) ∈ limits.matching request
  · rw [if_pos matched]
    unfold available
    rw [(charged rule key matched).2]
    rfl
  · rw [if_neg matched]
    unfold available
    rw [others]
    intro inSlots
    obtain ⟨⟨other, otherKey⟩, inMatching, same⟩ := List.mem_map.mp inSlots
    obtain ⟨sameId, rfl⟩ := Prod.mk.inj same
    obtain rfl : other = rule := sound.toTidy.same (mem_matching.mp inMatching).1 member sameId
    exact matched inMatching

/-- Forgetting the full buckets changes nothing that is available. -/
theorem available_sweep {limits : Limits} {now time : Instant} (sound : Sound limits now)
    {rule : Rule} (member : rule ∈ limits.rules) (key : BucketKey) (later : now ≤ time) :
    (limits.sweep now).available rule key time = limits.available rule key time := by
  have flows : 0 ≤ rule.rate.perSecond := rule.rate.perSecond_nonneg
  have owner := owner_found sound.toTidy member
  unfold available sweep
  rw [Table.lookup_filterMap]
  cases found : limits.buckets.lookup (rule.id, key) with
  | none => rfl
  | some bucket =>
    have step := asSecs_split (sound.past _ bucket found) later
    simp only [Option.bind_some, owner]
    split
    · simp only [tokensAt, Bucket.refill]
      rw [TokenBucket.refill_refill flows (asSecs_nonneg _), step]
    · rename_i notShort
      -- The bucket is dropped because it is full, and a full bucket stays full.
      have full : TokenBucket.refill (rule.rate.burst : ℚ) rule.rate.perSecond bucket.tokens
          (asSecs (now - bucket.updated)) = rule.rate.burst :=
        le_antisymm (TokenBucket.refill_le_burst _ _ _ _) (not_lt.mp notShort)
      simp only [tokensAt]
      rw [← step, ← TokenBucket.refill_refill flows (asSecs_nonneg _), full,
        TokenBucket.refill_full flows (asSecs_nonneg _)]

/-! The invariant holds along every call. -/

/-- A limiter with other buckets is sound once they are: rules and classes play no part.
-/
theorem sound_of_buckets {limits : Limits} {now : Instant} (sound : Sound limits now)
    {buckets : Buckets} (tidy : Tidy { limits with buckets })
    (good : ∀ key bucket, buckets.lookup key = some bucket →
      bucket.updated ≤ now ∧ 0 ≤ bucket.tokens) :
    Sound { limits with buckets } now :=
  { toTidy := tidy
    rated := sound.rated
    past := fun key bucket found => (good key bucket found).1
    solvent := fun key bucket found => (good key bucket found).2 }

/-- A sweep forgets buckets and alters none. -/
theorem sound_sweep {limits : Limits} {now : Instant} (sound : Sound limits now) :
    Sound (limits.sweep now) now := by
  apply sound_of_buckets sound (tidy_sweep sound.toTidy now)
  intro key bucket found
  rw [Table.lookup_filterMap] at found
  obtain ⟨old, held, kept⟩ := Option.bind_eq_some_iff.mp found
  split at kept
  · cases kept
  · dsimp only at kept
    split at kept
    · rename_i rule owner _
      obtain rfl := Option.some.inj kept
      refine ⟨le_refl now, ?_⟩
      exact TokenBucket.refill_nonneg (by positivity) rule.rate.perSecond_nonneg
        (sound.solvent key old held) (asSecs_nonneg _)
    · cases kept

/-- Bringing buckets up to date leaves them between nothing and the burst. -/
theorem sound_touch {limits : Limits} {now : Instant} (sound : Sound limits now)
    {pairs : List (Rule × BucketKey)} (inForce : ∀ pair ∈ pairs, pair.1 ∈ limits.rules)
    (distinct : (pairs.map slot).Nodup) :
    Sound { limits with buckets := touch now limits.buckets limits.buckets pairs } now := by
  apply sound_of_buckets sound (tidy_touch sound.toTidy now inForce)
  intro key bucket found
  by_cases touched : key ∈ pairs.map slot
  · obtain ⟨pair, inPairs, rfl⟩ := List.mem_map.mp touched
    rw [touch_member now limits.buckets limits.buckets pairs distinct _ inPairs] at found
    obtain rfl := Option.some.inj found
    refine ⟨le_refl now, ?_⟩
    rw [refreshed_tokens fun bucket found => sound.past _ bucket found]
    exact sound.available_nonneg pair.1 pair.2 now
  · rw [touch_other now limits.buckets limits.buckets pairs _ touched] at found
    exact ⟨sound.past key bucket found, sound.solvent key bucket found⟩

/-- Each way a check can end is one of the two passes, and both are sound. -/
theorem sound_checkUnswept {limits : Limits} {now : Instant} (sound : Sound limits now)
    (request : LimitRequest) (bytes : Nat) :
    Sound (limits.checkUnswept request bytes now).1 now := by
  have tidy := tidy_checkUnswept sound.toTidy request bytes now
  rcases checkUnswept_cases sound request bytes with ⟨-, same⟩ | ⟨-, pair, -, same⟩ | ⟨-, -, same⟩
  · rw [same]
    exact sound
  · rw [same]
    have sublist := visited_subset (short bytes now limits.buckets) (limits.matching request)
    exact sound_touch sound (fun pair inPairs => (mem_matching.mp (sublist.subset inPairs)).1)
      ((sublist.map slot).nodup (matching_distinct sound.unique request))
  · obtain ⟨charged, others⟩ := admitted_buckets sound same
    rw [same] at tidy ⊢
    apply sound_of_buckets sound tidy
    intro key bucket found
    by_cases matched : key ∈ (limits.matching request).map slot
    · obtain ⟨⟨rule, bucketKey⟩, member, rfl⟩ := List.mem_map.mp matched
      obtain ⟨enough, held⟩ := charged rule bucketKey member
      have same := Option.some.inj (held.symm.trans found)
      subst same
      exact ⟨le_refl now, sub_nonneg.mpr enough⟩
    · have old := (others key matched).symm.trans found
      exact ⟨sound.past key bucket old, sound.solvent key bucket old⟩

end Limits

end Libp2pFfi
