import Libp2pFfi.Crates
import Mathlib.Algebra.Order.Field.Rat

/-!
# What tokens are counted in

The code counts tokens in doubles, whose operations round. Here the arithmetic is a
parameter: a limiter is defined over whatever numbers there are, and what does not
depend on rounding is proved for all of them. `Float` is the arithmetic of the code.
The rationals are the ideal in which nothing is rounded.
-/

namespace Libp2pFfi

/-- Numbers with what the token buckets do with them. -/
class Arithmetic (F : Type) extends NatCast F, Add F, Sub F, Mul F, Div F, Min F, LT F where
  ltDecidable : DecidableLT F
  /-- `Duration::as_secs_f64`. -/
  secs : Duration → F

attribute [reducible, instance] Arithmetic.ltDecidable

/-- Doubles, with whole seconds and nanoseconds turned into numbers apart. -/
instance instArithmeticFloat : Arithmetic Float where
  natCast := Float.ofNat
  ltDecidable := inferInstance
  secs elapsed :=
    Float.ofNat (elapsed / 1000000000) + Float.ofNat (elapsed % 1000000000) / Float.ofNat 1000000000

/-- Rationals, which are exact. -/
instance instArithmeticRat : Arithmetic ℚ where
  ltDecidable := inferInstance
  secs elapsed := elapsed / 1000000000

/-- Nanoseconds as seconds. -/
def asSecs (elapsed : Duration) (F : Type := ℚ) [Arithmetic F] : F := Arithmetic.secs elapsed

end Libp2pFfi
