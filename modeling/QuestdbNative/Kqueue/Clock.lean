import Mathlib.Data.String.Basic
import QuestdbNative.Kqueue.Budget

/-! # What the measured budget says about wall time

The wrapper charges an interrupted call the time `clock()` measured across it, and
`clock()` is the process's CPU time, not a wall clock: a thread blocked in `kevent` uses
none, and other threads can make it run ahead. Pairing each round with the wall time the
call spent blocked, the budget bounds the total wall time exactly when the measurement
covers the wall time of the interrupted calls. A clock that charges each pass some `δ`
bounds the number of calls by the budget over `δ`; one that stands still re-arms the full
timeout after every interrupt. The measurement itself is exact only below about 5.1 hours of
`clock()` ticks, past which the unsigned product wraps.
-/

namespace QuestdbNative.Kqueue

/-- The wall time a sequence of calls spent blocked, each paired with its round. -/
def blockedAll (calls : List (Round × Int)) : Int :=
  calls.foldl (fun total c => total + c.2) 0

@[simp] theorem blockedAll_append_single (calls : List (Round × Int)) (c : Round × Int) :
    blockedAll (calls ++ [c]) = blockedAll calls + c.2 := by
  simp [blockedAll, List.foldl_append]

theorem blockedAll_le_spentAll (a : Args) {calls : List (Round × Int)}
    (measured : ∀ c ∈ calls, c.2 ≤ spent a c.1) :
    blockedAll calls ≤ spentAll a (calls.map Prod.fst) := by
  induction calls using List.reverseRecOn with
  | nil => simp [blockedAll]
  | append_singleton calls c ih =>
      have hc := measured c (List.mem_append_right _ (List.mem_singleton_self c))
      have hs := ih fun d hd => measured d (List.mem_append_left _ hd)
      rw [blockedAll_append_single, List.map_append, List.map_singleton, spentAll_append_single]
      omega

/-- With a clock that measures at least the wall time of each interrupted call, and a
    last call that blocks no longer than the timeout it is given, the calls of one
    invocation block for at most `timeout_msec` in total, however many interrupts. -/
theorem kevent_wall_time_bounded (a : Args) (calls : List (Round × Int)) (last : Round × Int)
    (remaining : Int) (made : kevent a (calls.map Prod.fst) = .waiting remaining)
    (measured : ∀ c ∈ calls, c.2 ≤ spent a c.1) (blocked : last.2 ≤ remaining) :
    blockedAll (calls ++ [last]) ≤ a.timeoutMsec.val * 1000000 := by
  have hrem := ((kevent_waiting_iff a _ remaining).mp made).2
  have hle := blockedAll_le_spentAll a measured
  simp only [MILLION] at hrem
  rw [blockedAll_append_single]
  omega

theorem kevent_wall_time_bounded_one_second :
    kevent oneSecond [⟨0, .failure EINTR, 250000⟩] = .waiting 750000000 ∧
      blockedAll [(⟨0, .failure EINTR, 250000⟩, 250000000),
        (⟨250000, .events 0, 300000⟩, 750000000)] ≤ 1000000000 :=
  have h : kevent oneSecond [⟨0, .failure EINTR, 250000⟩] = .waiting 750000000 := by decide
  ⟨h, kevent_wall_time_bounded oneSecond [(⟨0, .failure EINTR, 250000⟩, 250000000)]
    (⟨250000, .events 0, 300000⟩, 750000000) 750000000 h (by decide) (by decide)⟩

theorem spentAll_ge (a : Args) {δ : Int} {rounds : List Round}
    (charged : ∀ r ∈ rounds, δ ≤ spent a r) : δ * rounds.length ≤ spentAll a rounds := by
  induction rounds using List.reverseRecOn with
  | nil => simp
  | append_singleton rounds r ih =>
      have hr := charged r (List.mem_append_right _ (List.mem_singleton_self r))
      have hs := ih fun d hd => charged d (List.mem_append_left _ hd)
      rw [spentAll_append_single, List.length_append, List.length_singleton]
      push_cast
      rw [Int.mul_add, Int.mul_one]
      omega

/-- With a clock that charges every pass at least `δ`, the wrapper gives up after at most
    `timeout_msec * 10^6 / δ + 1` calls, whatever the interrupts: once the calls could
    have used more than the budget, it has returned. -/
theorem kevent_retries_bounded (a : Args) (nonneg : 0 ≤ a.timeoutMsec.val) {δ : Int}
    (rounds : List Round) (charged : ∀ r ∈ rounds, δ ≤ spent a r)
    (many : a.timeoutMsec.val * 1000000 < δ * rounds.length) :
    ∃ reply remaining, kevent a rounds = .returned reply remaining := by
  cases hw : kevent a rounds with
  | returned reply remaining => exact ⟨reply, remaining, rfl⟩
  | waiting remaining =>
      have hle := ((kevent_waiting_iff a rounds remaining).mp hw).1.spentAll_le
      have hge := spentAll_ge a charged
      simp only [MILLION] at hle
      omega

theorem kevent_retries_bounded_one_msec :
    0 ≤ (1 : Int) ∧
      (∀ r ∈ [(⟨0, .failure EINTR, 600⟩ : Round), ⟨600, .failure EINTR, 1200⟩],
        600000 ≤ spent { oneSecond with timeoutMsec := ⟨1, by decide, by decide⟩ } r) ∧
      ∃ reply remaining, kevent { oneSecond with timeoutMsec := ⟨1, by decide, by decide⟩ }
        [⟨0, .failure EINTR, 600⟩, ⟨600, .failure EINTR, 1200⟩] = .returned reply remaining :=
  have charged : ∀ r ∈ [(⟨0, .failure EINTR, 600⟩ : Round), ⟨600, .failure EINTR, 1200⟩],
      600000 ≤ spent { oneSecond with timeoutMsec := ⟨1, by decide, by decide⟩ } r := by decide
  ⟨by decide, charged, kevent_retries_bounded _ (by decide) _ charged (by decide)⟩

/-- The time charged for a pass never exceeds the `clock()` difference (1000 ns a tick),
    and is exactly it while the difference is below 18446744074 ticks, about 5.1 hours
    of CPU time; beyond that `(end - start) * BILLION` wraps in `clock_t`. -/
theorem elapsedNsec_exact (start stop : UInt64) :
    elapsedNsec start stop ≤ (stop - start).toNat * 1000 ∧
      (elapsedNsec start stop = (stop - start).toNat * 1000 ↔
        (stop - start).toNat < 18446744074) := by
  have hl := UInt64.toNat_lt_size (stop - start)
  have hd : ((stop - start) * BILLION.toNat.toUInt64 / CLOCKS_PER_SEC).toNat =
      (stop - start).toNat * 1000000000 % 2 ^ 64 / 1000000 := by
    rw [UInt64.toNat_div, UInt64.toNat_mul]; rfl
  simp only [UInt64.size] at hl
  rw [elapsedNsec, hd, asLong_of_fits] <;> omega

theorem elapsedNsec_self (c : UInt64) : elapsedNsec c c = 0 := by
  have h : c - c = 0 :=
    UInt64.toNat.inj (by rw [UInt64.toNat_sub_of_le c c (Nat.le_refl _), Nat.sub_self]; rfl)
  rw [elapsedNsec, h]
  decide

/-- With a clock that stands still while the thread is blocked, as `clock()` may, and reads
    anything between calls, every interrupted call is charged nothing and the next is armed
    with the whole timeout again: after any number of interrupts the budget is the initial
    one. -/
theorem kevent_frozen_clock_rearms (a : Args) (nonneg : 0 ≤ a.timeoutMsec.val)
    (rounds : List Round) (frozen : ∀ r ∈ rounds, r.reply = .failure EINTR ∧ r.stop = r.start) :
    kevent a rounds = .waiting (a.timeoutMsec.val * 1000000) := by
  have ht := timeoutMsec_bounds a
  induction rounds using List.reverseRecOn with
  | nil => exact start_eq a
  | append_singleton rounds r ih =>
      obtain ⟨eintr, still⟩ := frozen r (List.mem_append_right _ (List.mem_singleton_self r))
      have hc : charge a (a.timeoutMsec.val * 1000000) r = a.timeoutMsec.val * 1000000 := by
        rw [charge_eq _ _ (by omega) (by omega), spent, still, elapsedNsec_self, ite_self,
          Int.sub_zero]
      rw [kevent_append_single, ih fun r' hr => frozen r' (List.mem_append_left _ hr)]
      rcases step_waiting_cases a (a.timeoutMsec.val * 1000000) r with ⟨-, -, hstep⟩ | ⟨hno, -⟩
      · rw [hstep, hc]
      · exact absurd ⟨eintr, by rw [hc]; omega⟩ hno

theorem kevent_frozen_clock_rearms_one_second :
    0 ≤ oneSecond.timeoutMsec.val ∧
      (∀ r ∈ [(⟨7, .failure EINTR, 7⟩ : Round), ⟨9, .failure EINTR, 9⟩, ⟨40, .failure EINTR, 40⟩],
        r.reply = .failure EINTR ∧ r.stop = r.start) ∧
      kevent oneSecond [⟨7, .failure EINTR, 7⟩, ⟨9, .failure EINTR, 9⟩, ⟨40, .failure EINTR, 40⟩] =
        .waiting 1000000000 :=
  have frozen : ∀ r ∈ [(⟨7, .failure EINTR, 7⟩ : Round), ⟨9, .failure EINTR, 9⟩,
      ⟨40, .failure EINTR, 40⟩], r.reply = .failure EINTR ∧ r.stop = r.start := by decide
  ⟨by decide, frozen, kevent_frozen_clock_rearms oneSecond (by decide) _ frozen⟩

end QuestdbNative.Kqueue
