import Mathlib.Algebra.Order.Ring.Int

/-!
# Instants and durations

A `time.Duration` is a signed 64-bit count of nanoseconds: adding two of them wraps, and the
difference of two instants is clamped to the range instead. An instant is not a machine integer; it
is an `Int`, the nanoseconds since the Unix epoch.
-/

namespace GoTime

abbrev Duration := Int64

def second : Duration := 1000000000

def add (t : Int) (d : Duration) : Int := t + d.toInt

/-- `t.Sub(u)`: clamped to the least and greatest duration. -/
def sub (t u : Int) : Duration := Int64.ofIntClamp (t - u)

def unix (seconds : Int) : Int := seconds * second.toInt

/-- The whole seconds of an instant, as an interface that reports seconds truncates it. -/
def unixSeconds (t : Int) : Int := t / second.toInt

@[simp]
theorem second_toInt : second.toInt = 1000000000 := by decide

theorem toInt_sub (t u : Int) :
    (sub t u).toInt = max (-2 ^ 63) (min (2 ^ 63 - 1) (t - u)) := by
  have hmin : Int64.minValue.toInt = -2 ^ 63 := by decide
  have hmax : Int64.maxValue.toInt = 2 ^ 63 - 1 := by decide
  unfold sub Int64.ofIntClamp
  split
  · split
    · rw [Int64.toInt_ofIntLE]
      omega
    · omega
  · omega

@[simp]
theorem sub_self (t : Int) : sub t t = 0 := by
  unfold sub
  rw [Int.sub_self]
  rfl

/-- Clamping does not lose a difference that is below a duration. -/
theorem sub_lt_of_lt {t u : Int} {d : Duration} (hlow : -2 ^ 63 < d.toInt)
    (h : t - u < d.toInt) : sub t u < d := by
  rw [Int64.lt_iff_toInt_lt, toInt_sub]
  omega

/-- A truncated instant lies less than a second before the instant. -/
theorem lt_unix_unixSeconds (t : Int) : t - second.toInt < unix (unixSeconds t) := by
  unfold unix unixSeconds
  rw [second_toInt]
  omega

theorem toInt_add_of_lt {d e : Duration} (hlow : -2 ^ 63 ≤ d.toInt + e.toInt)
    (hhigh : d.toInt + e.toInt < 2 ^ 63) : (d + e).toInt = d.toInt + e.toInt := by
  rw [Int64.toInt_add]
  exact Int.bmod_eq_of_le (by omega) (by omega)

end GoTime
