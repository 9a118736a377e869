import QuestdbNative.CTypes

/-! # The interrupt-retrying kevent wrapper

`Java_io_questdb_client_KqueueAccessor_kevent` submits a change list and waits for events,
and calls `kevent(2)` again while the call fails with `EINTR` and budget remains. The loop is
a state machine: `Wait.waiting` holds `remaining_timeout_nsec` at the head of an iteration,
and each pass consumes one `Round`, the platform's side of it: the two `clock()` readings
around the call and what `kevent(2)` returned. Every run of the loop is a list of rounds.
-/

namespace QuestdbNative.Kqueue

/-- `long MILLION = 1000 * 1000;` -/
def MILLION : Int := 1000 * 1000

/-- `long BILLION = 1000 * MILLION;` -/
def BILLION : Int := 1000 * MILLION

/-- `CLOCKS_PER_SEC` of the macOS `<time.h>`, where `clock_t` is `unsigned long`. -/
def CLOCKS_PER_SEC : UInt64 := 1000000

/-- `EINTR` of `<sys/errno.h>`. -/
def EINTR : Nat := 4

/-- The arguments of one `kevent(2)` call. `timeout` is `none` for a NULL pointer. -/
structure KeventCall where
  kq : JInt
  changelist : Int
  nChanges : JInt
  eventlist : Int
  nEvents : JInt
  timeout : Option Timespec
  deriving DecidableEq, Repr

/-- What one `kevent(2)` call returns: the number of records it wrote to the event list,
    or `-1` with `errno` set. -/
inductive Reply where
  | events (n : Nat)
  | failure (errno : Nat)
  deriving DecidableEq, Repr

/-- The platform's side of one pass through the loop: `clock()` before the call, the
    call's reply, and `clock()` after it (read only for a nonzero timeout). `clock()`
    leaves `errno` alone. -/
structure Round where
  start : UInt64
  reply : Reply
  stop : UInt64
  deriving DecidableEq, Repr

/-- The arguments of `Java_io_questdb_client_KqueueAccessor_kevent`. -/
structure Args where
  kq : JInt
  changelist : Int
  nChanges : JInt
  eventlist : Int
  nEvents : JInt
  timeoutMsec : JInt
  deriving DecidableEq, Repr

/-- `int tv_sec = remaining_timeout_nsec / BILLION;` and
    `struct timespec _timeout = { tv_sec, remaining_timeout_nsec - tv_sec * BILLION };`
    with C's truncating division. -/
def timeoutOf (remaining : Int) : Timespec :=
  let tvSec := asInt (remaining.tdiv BILLION)
  ⟨tvSec, asLong (remaining - asLong (tvSec * BILLION))⟩

/-- `long elapsed_nsec = (end - start) * BILLION / CLOCKS_PER_SEC;`, computed in
    `clock_t` and stored in a `long`. -/
def elapsedNsec (start stop : UInt64) : Int :=
  asLong ((stop - start) * BILLION.toNat.toUInt64 / CLOCKS_PER_SEC).toNat

/-- The wrapper between two `kevent(2)` calls: in the loop with `remaining_timeout_nsec`
    at the head of the next iteration, or returned with the last reply and budget. -/
inductive Wait where
  | waiting (remaining : Int)
  | returned (reply : Reply) (remaining : Int)
  deriving DecidableEq, Repr

/-- `long remaining_timeout_nsec = timeout_msec * MILLION;` -/
def start (a : Args) : Wait := .waiting (asLong (a.timeoutMsec.val * MILLION))

/-- The `kevent(2)` call made at the head of an iteration. -/
def call (a : Args) (remaining : Int) : KeventCall :=
  ⟨a.kq, a.changelist, a.nChanges, a.eventlist, a.nEvents, some (timeoutOf remaining)⟩

/-- The budget after a pass: for a nonzero timeout, less the elapsed time measured by
    the two `clock()` readings. -/
def charge (a : Args) (remaining : Int) (r : Round) : Int :=
  if a.timeoutMsec.val ≠ 0 then asLong (remaining - elapsedNsec r.start r.stop)
  else remaining

/-- `res == -1 && errno == EINTR && remaining_timeout_nsec >= 0`: `res == -1` holds
    exactly for a failure, whose `errno` the second test reads. -/
def retries : Reply → Int → Bool
  | .failure errno, remaining => errno == EINTR && 0 ≤ remaining
  | .events _, _ => false

/-- One pass through the body of the `do ... while`. -/
def step (a : Args) : Wait → Round → Wait
  | .waiting remaining, r =>
    if retries r.reply (charge a remaining r) then .waiting (charge a remaining r)
    else .returned r.reply (charge a remaining r)
  | .returned reply remaining, _ => .returned reply remaining

/-- `Java_io_questdb_client_KqueueAccessor_kevent`, once the platform has answered `rounds`:
    the state after one `step` a round from `start a`; once returned, it returns `reply.res`. -/
def kevent (a : Args) (rounds : List Round) : Wait := rounds.foldl (step a) (start a)

/-- A one-second wait on queue 3 with one change and room for one event. -/
def oneSecond : Args :=
  ⟨⟨3, by decide, by decide⟩, 4096, ⟨1, by decide, by decide⟩, 8192, ⟨1, by decide, by decide⟩,
    ⟨1000, by decide, by decide⟩⟩

@[simp] theorem kevent_nil (a : Args) : kevent a [] = start a := rfl

theorem kevent_append_single (a : Args) (rounds : List Round) (r : Round) :
    kevent a (rounds ++ [r]) = step a (kevent a rounds) r := by
  simp [kevent, List.foldl_append]

@[simp] theorem step_returned (a : Args) (reply : Reply) (remaining : Int) (r : Round) :
    step a (.returned reply remaining) r = .returned reply remaining := rfl

theorem step_waiting (a : Args) (remaining : Int) (r : Round) :
    step a (.waiting remaining) r =
      if retries r.reply (charge a remaining r) then .waiting (charge a remaining r)
      else .returned r.reply (charge a remaining r) := rfl

/-- What one pass can do: go round again after an interrupted call with budget left, or
    return the call's reply. -/
theorem step_waiting_cases (a : Args) (remaining : Int) (r : Round) :
    (r.reply = .failure EINTR ∧ 0 ≤ charge a remaining r ∧
        step a (.waiting remaining) r = .waiting (charge a remaining r)) ∨
      (¬ (r.reply = .failure EINTR ∧ 0 ≤ charge a remaining r) ∧
        step a (.waiting remaining) r = .returned r.reply (charge a remaining r)) := by
  rw [step_waiting]
  cases r.reply with
  | events n => simp [retries]
  | failure errno =>
      by_cases he : errno = EINTR <;> by_cases hc : 0 ≤ charge a remaining r <;>
        simp [retries, he, hc]

theorem foldl_returned (a : Args) (reply : Reply) (remaining : Int) (more : List Round) :
    more.foldl (step a) (.returned reply remaining) = .returned reply remaining := by
  induction more with
  | nil => rfl
  | cons r more ih => exact ih

end QuestdbNative.Kqueue
