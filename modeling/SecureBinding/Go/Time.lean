import Mathlib.Algebra.Order.Ring.Int
import Mathlib.Data.Int.Basic

/-!
# Go.Time

`time.Time` and `time.Duration`. A `Time` is the number of nanoseconds since Go's
zero `Time` (January 1, year 1), so `0` is the value `IsZero` recognises and
instants before it are negative. Monotonic readings and locations play no part in
the comparisons the program makes.
-/

namespace SecureBinding.Go

/-- A `time.Time`. -/
abbrev Time := Int

/-- A `time.Duration`, in nanoseconds. -/
abbrev Duration := Int

namespace Time

/-- `t.IsZero()`: the `Time` nobody has set. -/
def isZero (t : Time) : Bool := t == 0

/-- `t.After(u)`. -/
def after (t u : Time) : Bool := u < t

@[simp] theorem isZero_iff {t : Time} : t.isZero = true ↔ t = 0 := by simp [isZero]

@[simp] theorem isZero_eq_false_iff {t : Time} : t.isZero = false ↔ t ≠ 0 := by simp [isZero]

@[simp] theorem after_iff {t u : Time} : t.after u = true ↔ u < t := by simp [after]

@[simp] theorem after_eq_false_iff {t u : Time} : t.after u = false ↔ t ≤ u := by simp [after]

end Time

/-- The largest `time.Duration`, about 292 years. -/
def maxDuration : Duration := 2 ^ 63 - 1

/-- The smallest `time.Duration`. -/
def minDuration : Duration := -2 ^ 63

/-- `t.Sub(u)`, which saturates at the ends of the `Duration` range. -/
def Time.sub (t u : Time) : Duration := max minDuration (min maxDuration (t - u))

/-- The seconds from Go's zero `Time` to the Unix epoch. -/
def unixToInternal : Int := 62135596800

/-- `time.Unix(sec, 0)`. The addition is one of `int64` and wraps around. -/
def Time.unix (sec : Int) : Time := Int.bmod (sec + unixToInternal) (2 ^ 64) * 1000000000

/-- A reading of the system clock. `time.Now` never yields the zero `Time`. -/
structure SysTime where
  val : Time
  ne_zero : val ≠ 0

end SecureBinding.Go
