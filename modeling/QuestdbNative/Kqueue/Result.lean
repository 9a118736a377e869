import QuestdbNative.Kqueue.Budget

/-! # What the kevent wrapper returns

The wrapper returns the reply of its last `kevent(2)` call. An interrupt is retried only
while budget is left, so `-1` with `EINTR` reaches the caller exactly when the budget ran out
after an interrupted call, and at once for a negative timeout, which the code passes to
`kevent(2)` as a `timespec` with a negative field.
-/

namespace QuestdbNative.Kqueue

theorem kevent_negative_first (a : Args) (neg : a.timeoutMsec.val < 0) (r : Round)
    (rounds : List Round) :
    kevent a (r :: rounds) = .returned r.reply (a.timeoutMsec.val * 1000000 - spent a r) := by
  have ht := timeoutMsec_bounds a
  have hp := spent_bounds a r
  have hc : charge a (a.timeoutMsec.val * 1000000) r =
      a.timeoutMsec.val * 1000000 - spent a r := charge_eq a r (by omega) (by omega)
  have hn : retries r.reply (a.timeoutMsec.val * 1000000 - spent a r) = false := by
    cases r.reply <;> simp [retries]; omega
  rw [kevent, List.foldl_cons, start_eq, show MILLION = 1000000 from rfl, step_waiting, hc, hn]
  exact foldl_returned a _ _ rounds

/-- A negative timeout: the wrapper passes `kevent(2)` the `timespec` of C's truncated
    quotient and remainder by `10^9`, which has a negative field (never a NULL pointer), makes
    that one call whatever it returns, and returns its reply, `EINTR` included. -/
theorem kevent_negative_timeout (a : Args) (neg : a.timeoutMsec.val < 0) :
    start a = .waiting (a.timeoutMsec.val * 1000000) ∧
      (call a (a.timeoutMsec.val * 1000000)).timeout =
        some ⟨(a.timeoutMsec.val * 1000000).tdiv 1000000000,
          (a.timeoutMsec.val * 1000000).tmod 1000000000⟩ ∧
      ((a.timeoutMsec.val * 1000000).tdiv 1000000000 < 0 ∨
        (a.timeoutMsec.val * 1000000).tmod 1000000000 < 0) ∧
      ∀ r rounds, kevent a (r :: rounds) =
        .returned r.reply (a.timeoutMsec.val * 1000000 - spent a r) := by
  have ht := timeoutMsec_bounds a
  have hB : BILLION = 1000000000 := rfl
  have hq := tdiv_billion (a.timeoutMsec.val * 1000000)
  have hm := Int.tmod_def (a.timeoutMsec.val * 1000000) 1000000000
  rw [hB] at hq
  refine ⟨start_eq a, ?_, ?_, kevent_negative_first a neg⟩
  · rw [call, timeoutOf_eq (by omega) (by omega), hB]
    simp only [Option.some.injEq, Timespec.mk.injEq, true_and]
    omega
  · split at hq <;> omega

theorem kevent_negative_timeout_minus_one :
    (-1 : Int) < 0 ∧
      (call { oneSecond with timeoutMsec := ⟨-1, by decide, by decide⟩ } (-1000000)).timeout =
        some ⟨0, -1000000⟩ ∧
      kevent { oneSecond with timeoutMsec := ⟨-1, by decide, by decide⟩ } [⟨0, .failure EINTR, 0⟩] =
        .returned (.failure EINTR) (-1000000) :=
  have h := kevent_negative_timeout { oneSecond with timeoutMsec := ⟨-1, by decide, by decide⟩ }
    (by decide)
  ⟨by decide, h.2.1.trans (by decide), h.2.2.2 _ []⟩

theorem kevent_negative_timeout_not_null :
    ¬ ∀ (a : Args) (rounds : List Round) (remaining : Int), a.timeoutMsec.val < 0 →
      kevent a rounds = .waiting remaining → (call a remaining).timeout = none :=
  fun h => absurd (h { oneSecond with timeoutMsec := ⟨-1, by decide, by decide⟩ } [] (-1000000)
    (by decide) (by decide)) (by decide)

end QuestdbNative.Kqueue
