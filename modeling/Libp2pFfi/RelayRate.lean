import Libp2pFfi.Options
import Libp2pFfi.RateLimiters
import Mathlib.Algebra.Order.Field.Rat
import Mathlib.Tactic.Ring

/-!
# How fast a relay admits circuits

A rate of the relay's options is `amount` tokens every `interval_ms`. libp2p's limiter
adds one token at a time, so `token_bucket` divides, and it rounds the quotient down to
whole milliseconds, or up to one. Rounding down makes tokens come early: the limiter
admits more than the rate allows unless nothing is rounded off, or the quotient was
below one millisecond.
-/

namespace Libp2pFfi

open RateLimiter

variable {Id : Type} [DecidableEq Id]

/-- The limiter `relay_server_config` makes of a bucket, whether it counts by peer or by
address: the relay crate gets the burst and the interval as they are. -/
def RelayBucket.limiter (circuitSrc : Nat → Duration → Limiter Id) (bucket : RelayBucket) :
    Limiter Id :=
  circuitSrc bucket.burst bucket.interval

/-- In any span of time a limiter admits an id at most as often as the burst, and what the
rate adds in that time. -/
def Rate.Bounds (rate : Rate) (limiter : Limiter Id) : Prop :=
  ∀ id calls, InOrder 0 calls → ∀ start span,
    (within start span (limiter.admitted id limiter.new calls) : ℚ) ≤
      rate.burst + rate.amount * span / Duration.fromMillis rate.intervalMs

/-- A bucket is no looser than a rate. -/
structure RelayBucket.Keeps (circuitSrc : Nat → Duration → Limiter Id) (rate : Rate)
    (bucket : RelayBucket) : Prop where
  /-- `amount` tokens take at least `interval_ms`. -/
  slow : Duration.fromMillis rate.intervalMs ≤ bucket.interval * rate.amount
  bounded : rate.Bounds (bucket.limiter circuitSrc)
  /-- Where nothing is rounded, the bucket has the rate. -/
  exact : rate.amount ∣ rate.intervalMs →
    bucket.interval * rate.amount = Duration.fromMillis rate.intervalMs

/-- What `token_bucket` relies on: libp2p's limiter holds `limit` tokens and adds one every
`interval`, which is a number of whole milliseconds. -/
def Documented (circuitSrc : Nat → Duration → Limiter Id) : Prop :=
  ∀ limit milliseconds, 0 < limit → 0 < milliseconds →
    (circuitSrc limit (Duration.fromMillis milliseconds)).Holds limit
      (Duration.fromMillis milliseconds)

/-- What the interface hands libp2p for a limit of no zeros: the burst, and the interval
of one token in whole milliseconds. -/
theorem tokenBucket_eq {rate : Rate} (amount : rate.amount ≠ 0) (interval : rate.intervalMs ≠ 0)
    (burst : rate.burst ≠ 0) :
    tokenBucket rate =
      some ⟨rate.burst, Duration.fromMillis (max (rate.intervalMs / rate.amount) 1)⟩ := by
  rw [tokenBucket, if_neg (by simp [amount, interval, burst])]

/-- Rounding down is early unless there was nothing to round, and rounding up to one
millisecond is late. -/
theorem rounded_iff {amount interval : Nat} (positive : 0 < amount) :
    interval ≤ max (interval / amount) 1 * amount ↔ amount ∣ interval ∨ interval < amount := by
  rcases Nat.lt_or_ge interval amount with below | atLeast
  · rw [Nat.div_eq_of_lt below]
    simp [below, below.le]
  · have one : 1 ≤ interval / amount := (Nat.one_le_div_iff positive).mpr atLeast
    rw [Nat.max_eq_left one]
    constructor
    · intro late
      have even : interval / amount * amount = interval :=
        (Nat.div_mul_le_self interval amount).antisymm late
      exact .inl (Dvd.intro_left _ even)
    · rintro (even | below)
      · exact (Nat.div_mul_cancel even).ge
      · omega

/-- Nothing is rounded off if the amount divides the interval. -/
theorem rounded_exact {amount interval : Nat} (positive : 0 < interval) (even : amount ∣ interval) :
    max (interval / amount) 1 * amount = interval := by
  have one : 1 ≤ interval / amount :=
    Nat.div_pos (Nat.le_of_dvd positive even) (Nat.pos_of_dvd_of_pos even positive)
  rw [Nat.max_eq_left one, Nat.div_mul_cancel even]

theorem fromMillis_mul (milliseconds count : Nat) :
    Duration.fromMillis milliseconds * count = Duration.fromMillis (milliseconds * count) :=
  Nat.mul_right_comm _ _ _

theorem fromMillis_le_iff {first second : Nat} :
    Duration.fromMillis first ≤ Duration.fromMillis second ↔ first ≤ second :=
  Nat.mul_le_mul_right_iff (by decide)

/-- The milliseconds `token_bucket` leaves between two tokens are late exactly if nothing
was rounded down. -/
theorem Rate.slow_iff (rate : Rate) (amount : rate.amount ≠ 0) :
    Duration.fromMillis rate.intervalMs ≤
        Duration.fromMillis (max (rate.intervalMs / rate.amount) 1) * rate.amount ↔
      rate.amount ∣ rate.intervalMs ∨ rate.intervalMs < rate.amount := by
  rw [fromMillis_mul, fromMillis_le_iff, rounded_iff (Nat.pos_of_ne_zero amount)]

/-- The bound a rate states over a span, without its fraction. -/
theorem le_rate_iff {interval : Nat} (positive : 0 < interval) (count burst amount span : Nat) :
    (count : ℚ) ≤ burst + amount * span / interval ↔
      count * interval ≤ burst * interval + amount * span := by
  have nonzero : (0 : ℚ) < interval := by exact_mod_cast positive
  rw [← sub_le_iff_le_add', le_div_iff₀ nonzero, sub_mul, sub_le_iff_le_add']
  exact_mod_cast Iff.rfl

/-- A limiter keeps to a rate in every span exactly if it adds its tokens no faster. -/
theorem Rate.bounds_iff [Nonempty Id] {rate : Rate} {limiter : Limiter Id} {interval : Duration}
    (holds : limiter.Holds rate.burst interval) (burst : rate.burst ≠ 0)
    (positive : rate.intervalMs ≠ 0) :
    rate.Bounds limiter ↔ Duration.fromMillis rate.intervalMs ≤ interval * rate.amount := by
  have nonzero : 0 < Duration.fromMillis rate.intervalMs :=
    Nat.mul_pos (Nat.pos_of_ne_zero positive) (by decide)
  constructor
  · intro bounded
    obtain ⟨id⟩ := ‹Nonempty Id›
    have saturated := bounded id _ (inOrder_saturating id rate.burst interval) 0 interval
    rw [holds.within_saturated id (Nat.pos_of_ne_zero burst), le_rate_iff nonzero, add_mul,
      one_mul, Nat.add_le_add_iff_left, Nat.mul_comm] at saturated
    exact saturated
  · intro slow id calls ordered start span
    have admitted := holds.within_le id ordered start span
    rw [le_rate_iff nonzero]
    generalize within start span (limiter.admitted id limiter.new calls) = count at admitted ⊢
    rcases Nat.le_total count rate.burst with few | many
    · exact (Nat.mul_le_mul_right _ few).trans (Nat.le_add_right _ _)
    · -- Each circuit above the burst takes an interval of the span.
      obtain ⟨more, rfl⟩ := Nat.exists_eq_add_of_le many
      rw [add_mul, Nat.add_le_add_iff_left] at admitted ⊢
      calc more * Duration.fromMillis rate.intervalMs
        _ ≤ more * (interval * rate.amount) := Nat.mul_le_mul_left _ slow
        _ = rate.amount * (more * interval) := by ring
        _ ≤ rate.amount * span := Nat.mul_le_mul_left _ admitted

/-- The relay's limiter is no looser than its rate exactly if the milliseconds divide
evenly, or a token comes more often than every millisecond. So is what it admits. -/
theorem relay_never_looser_iff [Nonempty Id] {circuitSrc : Nat → Duration → Limiter Id}
    (documented : Documented circuitSrc) (rate : Rate) (amount : rate.amount ≠ 0)
    (interval : rate.intervalMs ≠ 0) (burst : rate.burst ≠ 0) :
    ∃ bucket, tokenBucket rate = some bucket ∧
      (bucket.Keeps circuitSrc rate ↔
        rate.amount ∣ rate.intervalMs ∨ rate.intervalMs < rate.amount) ∧
      (rate.Bounds (bucket.limiter circuitSrc) ↔
        rate.amount ∣ rate.intervalMs ∨ rate.intervalMs < rate.amount) := by
  have holds := documented rate.burst (max (rate.intervalMs / rate.amount) 1)
    (Nat.pos_of_ne_zero burst) (lt_max_of_lt_right Nat.one_pos)
  have bounds_iff := (Rate.bounds_iff holds burst interval).trans (rate.slow_iff amount)
  refine ⟨_, tokenBucket_eq amount interval burst, ?_, bounds_iff⟩
  constructor
  · intro keeps
    exact (rate.slow_iff amount).mp keeps.slow
  · intro late
    constructor
    · exact (rate.slow_iff amount).mpr late
    · exact bounds_iff.mpr late
    · intro even
      rw [fromMillis_mul, rounded_exact (Nat.pos_of_ne_zero interval) even]

/-- A bucket that loses nothing keeps to the documented rate. -/
theorem lossless_documented : Documented (lossless PeerId) :=
  fun limit milliseconds _ _ => lossless_holds limit (Duration.fromMillis milliseconds)

instance : Nonempty PeerId := ⟨⟨0, []⟩⟩

/-- Ten per second, five in reserve, is one every 100 ms. -/
theorem ten_per_second_kept :
    ∃ bucket, tokenBucket ⟨10, 1000, 5⟩ = some bucket ∧
      bucket.Keeps (lossless PeerId) ⟨10, 1000, 5⟩ := by
  obtain ⟨bucket, made, keeps, -⟩ :=
    relay_never_looser_iff lossless_documented ⟨10, 1000, 5⟩ (by decide) (by decide) (by decide)
  exact ⟨bucket, made, keeps.mpr (.inl (by decide))⟩

/-- Three per second, one in reserve. -/
def Sample.thirds : Rate := ⟨3, 1000, 1⟩

/-- One every 333 ms. -/
def Sample.thirdsBucket : RelayBucket := ⟨1, Duration.fromMillis 333⟩

/-- Three per second becomes one every 333 ms, so a peer gets its second circuit before
the third of a second is over. -/
theorem three_per_second_early :
    tokenBucket Sample.thirds = some Sample.thirdsBucket ∧
      ¬ Duration.fromMillis 1000 ≤ Sample.thirdsBucket.interval * 3 ∧
      within 0 (Duration.fromMillis 333)
        ((lossless PeerId 1 (Duration.fromMillis 333)).admitted ⟨0, []⟩ (lossless PeerId 1 _).new
          [(⟨0, []⟩, 0), (⟨0, []⟩, Duration.fromMillis 333)]) = 2 ∧
      ¬ Sample.thirds.Bounds (Sample.thirdsBucket.limiter (lossless PeerId)) ∧
      ¬ Sample.thirdsBucket.Keeps (lossless PeerId) Sample.thirds := by
  have early : ¬ Duration.fromMillis 1000 ≤ Sample.thirdsBucket.interval * 3 := by decide
  have holds : (Sample.thirdsBucket.limiter (lossless PeerId)).Holds Sample.thirds.burst
      Sample.thirdsBucket.interval := lossless_holds 1 _
  refine ⟨by decide +kernel, early, ?_, ?_, fun keeps => early keeps.slow⟩
  · exact (lossless_holds 1 _).within_saturated _ Nat.one_pos
  · intro bounded
    exact early ((Rate.bounds_iff holds (by decide) (by decide)).mp bounded)

end Libp2pFfi
