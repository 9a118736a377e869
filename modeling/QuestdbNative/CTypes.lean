import Mathlib.Algebra.Group.Int
import Mathlib.Algebra.Group.Nat.Basic

/-! # C types of the native layer

The JNI entry points receive Java `int`s and compute in C `long` (64 bits on the LP64
targets the kqueue backend is built for) and `int` (32 bits). A signed result that does
not fit is stored modulo the width, as the hardware does; later modules show where the
conversion is the identity, which is what "does not overflow" means for this code. The
time structs are shared by the kqueue wrapper and the clock readings of `os.c`.
-/

namespace QuestdbNative

/-- A Java `int` (`jint`): a 32-bit two's-complement value. -/
structure JInt where
  val : Int
  lower : -2 ^ 31 ≤ val
  upper : val < 2 ^ 31
  deriving DecidableEq, Repr

/-- Conversion of an integer to C `long`: the value modulo `2 ^ 64`, read back in
    two's complement. -/
def asLong (x : Int) : Int := (x + 2 ^ 63) % 2 ^ 64 - 2 ^ 63

/-- Conversion of an integer to C `int`: the value modulo `2 ^ 32`, read back in
    two's complement. -/
def asInt (x : Int) : Int := (x + 2 ^ 31) % 2 ^ 32 - 2 ^ 31

/-- Conversion of an integer to C `short` (a `jshort`): the value modulo `2 ^ 16`, read
    back in two's complement. -/
def asShort (x : Int) : Int := (x + 2 ^ 15) % 2 ^ 16 - 2 ^ 15

/-- A `struct timespec`: `tv_sec` (a `time_t`) and `tv_nsec` (a `long`). -/
structure Timespec where
  tvSec : Int
  tvNsec : Int
  deriving DecidableEq, Repr

/-- A `struct timeval`: `tv_sec` (a `time_t`) and `tv_usec` (a `suseconds_t`). -/
structure Timeval where
  tvSec : Int
  tvUsec : Int
  deriving DecidableEq, Repr

theorem asLong_of_fits {x : Int} (lower : -2 ^ 63 ≤ x) (upper : x < 2 ^ 63) :
    asLong x = x := by
  unfold asLong; omega

theorem asInt_of_fits {x : Int} (lower : -2 ^ 31 ≤ x) (upper : x < 2 ^ 31) :
    asInt x = x := by
  unfold asInt; omega

end QuestdbNative
