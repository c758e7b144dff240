import Mathlib.Tactic.Ring
import Mathlib.Tactic.GCongr

/-!
# Ranks of nested loops

Three loops, each nested in the one before and each with a counter of the
iterations it has left.  The counters are the digits of a number in a common
base; the height orders the program points inside the innermost loop.
-/

namespace Foundation

/-- Three digits in base `base`, then a height below `width`. -/
def nestedRank (width base outer middle inner height : Nat) : Nat :=
  ((outer * base + middle) * base + inner) * width + height

private theorem shift_lt {base high high' low low' : Nat}
    (higher : high' < high) (bound : low' < base) :
    high' * base + low' < high * base + low := by
  have step : (high' + 1) * base ≤ high * base :=
    Nat.mul_le_mul_right base higher
  rw [Nat.succ_mul] at step
  omega

theorem nestedRank_mono {width base outer outer' middle middle' inner inner'
    height height' : Nat} (outerLe : outer' ≤ outer)
    (middleLe : middle' ≤ middle) (innerLe : inner' ≤ inner)
    (heightLe : height' ≤ height) :
    nestedRank width base outer' middle' inner' height' ≤
      nestedRank width base outer middle inner height := by
  unfold nestedRank
  gcongr

theorem nestedRank_lt_of_height {width base outer outer' middle middle' inner
    inner' height height' : Nat} (outerLe : outer' ≤ outer)
    (middleLe : middle' ≤ middle) (innerLe : inner' ≤ inner)
    (lower : height' < height) :
    nestedRank width base outer' middle' inner' height' <
      nestedRank width base outer middle inner height :=
  Nat.lt_of_lt_of_le
    (Nat.add_lt_add_left lower _)
    (nestedRank_mono outerLe middleLe innerLe (Nat.le_refl height))

theorem nestedRank_lt_of_inner {width base outer middle inner inner' height
    height' : Nat} (fewer : inner' < inner) (bound : height' < width) :
    nestedRank width base outer middle inner' height' <
      nestedRank width base outer middle inner height :=
  shift_lt (Nat.add_lt_add_left fewer _) bound

theorem nestedRank_lt_of_middle {width base outer middle middle' inner inner'
    height height' : Nat} (fewer : middle' < middle)
    (innerBound : inner' < base) (bound : height' < width) :
    nestedRank width base outer middle' inner' height' <
      nestedRank width base outer middle inner height :=
  shift_lt (shift_lt (Nat.add_lt_add_left fewer _) innerBound) bound

theorem nestedRank_lt_of_outer {width base outer outer' middle middle' inner
    inner' height height' : Nat} (fewer : outer' < outer)
    (middleBound : middle' < base) (innerBound : inner' < base)
    (bound : height' < width) :
    nestedRank width base outer' middle' inner' height' <
      nestedRank width base outer middle inner height :=
  shift_lt (shift_lt (shift_lt fewer middleBound) innerBound) bound

theorem nestedRank_lt_pow {width base outer middle inner height : Nat}
    (outerBound : outer < base) (middleBound : middle < base)
    (innerBound : inner < base) (bound : height < width) :
    nestedRank width base outer middle inner height < width * base ^ 3 := by
  have lower : nestedRank width base outer middle inner height <
      nestedRank width base base 0 0 0 :=
    nestedRank_lt_of_outer outerBound middleBound innerBound bound
  calc nestedRank width base outer middle inner height
      < nestedRank width base base 0 0 0 := lower
    _ = width * base ^ 3 := by
        unfold nestedRank
        ring

end Foundation
