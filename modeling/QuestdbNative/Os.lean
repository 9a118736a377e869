import QuestdbNative.CTypes

/-! # Clock readings of the shared library

`Os_currentTimeMicros` and `Os_currentTimeNanos` read the real-time clock with
`gettimeofday` and `clock_gettime(CLOCK_REALTIME)` and fold the reading into one `jlong`:
the seconds times `10^6` or `10^9`, plus the fraction, each operation in the 64-bit `long`
of the LP64 targets. A reading is normalised when its fraction is less than a second. While
the count fits in 64 bits the folded value is the exact count of microseconds or
nanoseconds, so it grows with the reading, splits back into it, and the two accessors
agree on an instant. For nanoseconds that range ends at 2262-04-11T23:47:16.854775807Z,
after which the sum wraps to negative values.
-/

namespace QuestdbNative.Os

/-- `Java_io_questdb_client_std_Os_currentTimeMicros`: `tv.tv_sec * 1000000 + tv.tv_usec` in
    `long`, for the reading `gettimeofday` stored in `tv`. -/
def currentTimeMicros (tv : Timeval) : Int := asLong (asLong (tv.tvSec * 1000000) + tv.tvUsec)

/-- `Java_io_questdb_client_std_Os_currentTimeNanos`:
    `timespec.tv_sec * 1000000000LL + timespec.tv_nsec` in `long long`, for the reading
    `clock_gettime(CLOCK_REALTIME)` stored. -/
def currentTimeNanos (ts : Timespec) : Int :=
  asLong (asLong (ts.tvSec * 1000000000) + ts.tvNsec)

/-- A reading in nanoseconds: normalised, and its count of nanoseconds a `long long`. -/
structure NanosFit (ts : Timespec) : Prop where
  nsec_nonneg : 0 ≤ ts.tvNsec
  nsec_lt : ts.tvNsec < 1000000000
  lower : -2 ^ 63 ≤ ts.tvSec * 1000000000 + ts.tvNsec
  upper : ts.tvSec * 1000000000 + ts.tvNsec < 2 ^ 63

theorem asLong_asLong_add (x y : Int) : asLong (asLong x + y) = asLong (x + y) := by
  unfold asLong; omega

theorem currentTimeNanos_eq {ts : Timespec} (h : NanosFit ts) :
    currentTimeNanos ts = ts.tvSec * 1000000000 + ts.tvNsec := by
  rw [currentTimeNanos, asLong_asLong_add, asLong_of_fits h.lower h.upper]

theorem currentTimeMicros_eq {tv : Timeval} (lower : -2 ^ 63 ≤ tv.tvSec * 1000000 + tv.tvUsec)
    (upper : tv.tvSec * 1000000 + tv.tvUsec < 2 ^ 63) :
    currentTimeMicros tv = tv.tvSec * 1000000 + tv.tvUsec := by
  rw [currentTimeMicros, asLong_asLong_add, asLong_of_fits lower upper]

/-- On readings whose count of nanoseconds fits in 64 bits, `Os_currentTimeNanos` is the
    exact count: a later reading gives a larger value, the value splits back into
    `tv_sec` and `tv_nsec`, and `Os_currentTimeMicros` of the same instant is the value
    divided by 1000. -/
theorem currentTimeNanos_exact (ts ts' : Timespec) (h : NanosFit ts) (h' : NanosFit ts')
    (later : ts.tvSec < ts'.tvSec ∨ ts.tvSec = ts'.tvSec ∧ ts.tvNsec < ts'.tvNsec) :
    currentTimeNanos ts < currentTimeNanos ts' ∧
      currentTimeNanos ts / 1000000000 = ts.tvSec ∧ currentTimeNanos ts % 1000000000 = ts.tvNsec ∧
      currentTimeMicros ⟨ts.tvSec, ts.tvNsec / 1000⟩ = currentTimeNanos ts / 1000 := by
  have ⟨_, _, _, _⟩ := h
  have ⟨_, _, _, _⟩ := h'
  rw [currentTimeNanos_eq h, currentTimeNanos_eq h',
    currentTimeMicros_eq (by dsimp only; omega) (by dsimp only; omega)]
  dsimp only
  omega

theorem currentTimeNanos_exact_reading :
    NanosFit ⟨1731150000, 123456789⟩ ∧ NanosFit ⟨1731150001, 0⟩ ∧
      (currentTimeNanos ⟨1731150000, 123456789⟩ < currentTimeNanos ⟨1731150001, 0⟩ ∧
        currentTimeNanos ⟨1731150000, 123456789⟩ / 1000000000 = 1731150000 ∧
        currentTimeNanos ⟨1731150000, 123456789⟩ % 1000000000 = 123456789 ∧
        currentTimeMicros ⟨1731150000, 123456789 / 1000⟩ =
          currentTimeNanos ⟨1731150000, 123456789⟩ / 1000) :=
  have h : NanosFit ⟨1731150000, 123456789⟩ := ⟨by decide, by decide, by decide, by decide⟩
  have h' : NanosFit ⟨1731150001, 0⟩ := ⟨by decide, by decide, by decide, by decide⟩
  ⟨h, h', currentTimeNanos_exact _ _ h h' (.inl (by decide))⟩

/-- One nanosecond past 2262-04-11T23:47:16.854775807Z the count wraps to `-2^63`. -/
example : currentTimeNanos ⟨9223372036, 854775808⟩ = -2 ^ 63 := by decide

end QuestdbNative.Os
