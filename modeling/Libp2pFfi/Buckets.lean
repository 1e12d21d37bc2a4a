import Mathlib.Algebra.Order.Field.Basic
import Mathlib.Tactic.Linarith

/-!
# Token buckets

A bucket gains `rate` tokens per unit of time and never holds more than
`burst`. Tokens are brought up to date lazily: a refill adds what the elapsed
time earned and cuts the result at the burst. Two facts carry every argument
about such buckets. Refilling twice is refilling once over the whole time, so
when a bucket was last looked at does not show; and a refill adds at most
`elapsed * rate`, so the tokens spent plus the tokens left grow no faster than
the rate.
-/

namespace TokenBucket

/-- The tokens after `elapsed` more time. -/
def refill {K : Type*} [Add K] [Mul K] [Min K] (burst rate tokens elapsed : K) : K :=
  min (tokens + elapsed * rate) burst

variable {K : Type*} [Field K] [LinearOrder K]

theorem refill_le_burst (burst rate tokens elapsed : K) :
    refill burst rate tokens elapsed ≤ burst :=
  min_le_right _ _

/-- A refill adds at most what the rate allows. -/
theorem refill_le_add (burst rate tokens elapsed : K) :
    refill burst rate tokens elapsed ≤ tokens + elapsed * rate :=
  min_le_left _ _

variable {burst rate tokens elapsed later : K}

/-- No time, no change, unless there was more than the burst. -/
theorem refill_zero (within : tokens ≤ burst) : refill burst rate tokens 0 = tokens := by
  rw [refill, zero_mul, add_zero, min_eq_left within]

variable [IsStrictOrderedRing K]

theorem refill_nonneg (nonneg : 0 ≤ burst) (flows : 0 ≤ rate) (held : 0 ≤ tokens)
    (forward : 0 ≤ elapsed) : 0 ≤ refill burst rate tokens elapsed :=
  le_min (add_nonneg held (mul_nonneg forward flows)) nonneg

/-- Looking at a bucket in between changes nothing: what the first refill cut
off, the second would have cut off too. -/
theorem refill_refill (flows : 0 ≤ rate) (forward : 0 ≤ later) :
    refill burst rate (refill burst rate tokens elapsed) later =
      refill burst rate tokens (elapsed + later) := by
  have earned : 0 ≤ later * rate := mul_nonneg forward flows
  unfold refill
  rw [min_add, add_mul, add_assoc, min_assoc, min_eq_right (a := burst + later * rate)]
  linarith

/-- A full bucket stays full. -/
theorem refill_full (flows : 0 ≤ rate) (forward : 0 ≤ elapsed) :
    refill burst rate burst elapsed = burst :=
  min_eq_right (le_add_of_nonneg_right (mul_nonneg forward flows))

/-- A bucket that earned at one rate and is then looked at with another. Refilling
it over the whole time at the new rate gives what the two rates earned one after
the other, exactly if both credit the first part alike, or if it is full either
way. -/
theorem refill_switch_iff {newBurst newRate early late : K} :
    refill newBurst newRate tokens (early + late) =
        refill newBurst newRate (refill burst rate tokens early) late ↔
      refill burst rate tokens early = tokens + early * newRate ∨
        (newBurst ≤ tokens + (early + late) * newRate ∧
          newBurst ≤ refill burst rate tokens early + late * newRate) := by
  generalize refill burst rate tokens early = held
  have exactly : held = tokens + early * newRate ↔
      tokens + (early + late) * newRate = held + late * newRate := by
    rw [add_mul, ← add_assoc, add_left_inj]
    exact eq_comm
  rw [exactly]
  unfold refill
  generalize tokens + (early + late) * newRate = first
  generalize held + late * newRate = second
  constructor
  · intro same
    rcases le_total newBurst first with full | short
    · rcases le_total newBurst second with fullToo | shortToo
      · exact .inr ⟨full, fullToo⟩
      · rw [min_eq_right full, min_eq_left shortToo] at same
        exact .inr ⟨full, same.le⟩
    · rw [min_eq_left short] at same
      rcases le_total newBurst second with fullToo | shortToo
      · rw [min_eq_right fullToo] at same
        exact .inr ⟨same.ge, fullToo⟩
      · rw [min_eq_left shortToo] at same
        exact .inl same
  · rintro (rfl | ⟨full, fullToo⟩)
    · rfl
    · rw [min_eq_right full, min_eq_right fullToo]

end TokenBucket
