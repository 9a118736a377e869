import Mathlib.Data.List.Basic
import QuestdbNative.Kqueue.Wait

/-! # Timeout accounting of the kevent wrapper

The budget arithmetic never wraps: `timeout_msec * MILLION` fits in a `long`, the elapsed
time of a pass lies in `[0, 2^64 / CLOCKS_PER_SEC)` whatever `clock()` reads, and so the
budget at the head of every iteration is the initial budget less the time charged so far.
`kevent_waiting_iff` says which runs are still in the loop, and with what budget.
-/

namespace QuestdbNative.Kqueue

/-- The time the wrapper charges for one pass: the elapsed time measured by the two
    `clock()` readings for a nonzero timeout, nothing for a poll. -/
def spent (a : Args) (r : Round) : Int :=
  if a.timeoutMsec.val ≠ 0 then elapsedNsec r.start r.stop else 0

/-- The time charged over a run. -/
def spentAll (a : Args) (rounds : List Round) : Int :=
  rounds.foldl (fun total r => total + spent a r) 0

/-- Every call of `rounds` failed with `EINTR`, and the time charged up to and including
    it stayed within `budget`: the budget left after it was nonnegative. -/
def Interrupted (a : Args) (budget : Int) (rounds : List Round) : Prop :=
  ∀ pre r, pre ++ [r] <+: rounds →
    r.reply = .failure EINTR ∧ spentAll a (pre ++ [r]) ≤ budget

theorem timeoutMsec_bounds (a : Args) :
    -2147483648 ≤ a.timeoutMsec.val ∧ a.timeoutMsec.val < 2147483648 :=
  ⟨a.timeoutMsec.lower, a.timeoutMsec.upper⟩

theorem start_eq (a : Args) : start a = .waiting (a.timeoutMsec.val * MILLION) := by
  have := timeoutMsec_bounds a
  rw [start, asLong_of_fits] <;> simp only [MILLION] <;> omega

theorem elapsedNsec_bounds (start stop : UInt64) :
    0 ≤ elapsedNsec start stop ∧ elapsedNsec start stop ≤ 18446744073709 := by
  have hl := UInt64.toNat_lt_size ((stop - start) * BILLION.toNat.toUInt64)
  have hd : ((stop - start) * BILLION.toNat.toUInt64 / CLOCKS_PER_SEC).toNat =
      ((stop - start) * BILLION.toNat.toUInt64).toNat / 1000000 :=
    UInt64.toNat_div _ _
  simp only [UInt64.size] at hl
  rw [elapsedNsec, hd, asLong_of_fits] <;> omega

theorem spent_bounds (a : Args) (r : Round) : 0 ≤ spent a r ∧ spent a r ≤ 18446744073709 := by
  unfold spent
  split
  · exact elapsedNsec_bounds r.start r.stop
  · omega

theorem charge_eq (a : Args) (r : Round) {remaining : Int}
    (lower : -2 ^ 62 ≤ remaining) (upper : remaining ≤ 2 ^ 62) :
    charge a remaining r = remaining - spent a r := by
  have := elapsedNsec_bounds r.start r.stop
  unfold charge spent
  split
  · rw [asLong_of_fits] <;> omega
  · omega

@[simp] theorem spentAll_nil (a : Args) : spentAll a [] = 0 := rfl

@[simp] theorem spentAll_append_single (a : Args) (rounds : List Round) (r : Round) :
    spentAll a (rounds ++ [r]) = spentAll a rounds + spent a r := by
  simp [spentAll, List.foldl_append]

theorem spentAll_nonneg (a : Args) (rounds : List Round) : 0 ≤ spentAll a rounds := by
  induction rounds using List.reverseRecOn with
  | nil => simp
  | append_singleton rounds r ih =>
      have := spent_bounds a r
      rw [spentAll_append_single]; omega

theorem interrupted_nil (a : Args) (budget : Int) : Interrupted a budget [] := by
  intro pre r h
  simp at h

theorem interrupted_append_single {a : Args} {budget : Int} {rounds : List Round}
    {r : Round} :
    Interrupted a budget (rounds ++ [r]) ↔
      Interrupted a budget rounds ∧ r.reply = .failure EINTR ∧
        spentAll a (rounds ++ [r]) ≤ budget := by
  constructor
  · intro h
    refine ⟨fun pre r' hp => h pre r' (hp.trans (List.prefix_append _ _)),
      h rounds r (List.prefix_refl _)⟩
  · rintro ⟨h, hr, hs⟩ pre r' hp
    rcases List.prefix_concat_iff.mp hp with he | hp
    · obtain ⟨rfl, hr'⟩ := List.append_inj' he rfl
      cases hr'
      exact ⟨hr, hs⟩
    · exact h pre r' hp

theorem Interrupted.spentAll_le {a : Args} {budget : Int} {rounds : List Round}
    (h : Interrupted a budget rounds) : spentAll a rounds ≤ max 0 budget := by
  rcases rounds.eq_nil_or_concat' with rfl | ⟨init, last, rfl⟩
  · simp only [spentAll_nil]; omega
  · have := (h init last (List.prefix_refl _)).2
    omega

/-- The runs still in the loop are those whose every call was interrupted with budget
    left, and the budget at the head of the next iteration is the initial one less the
    time charged. -/
theorem kevent_waiting_iff (a : Args) (rounds : List Round) (remaining : Int) :
    kevent a rounds = .waiting remaining ↔
      Interrupted a (a.timeoutMsec.val * MILLION) rounds ∧
        remaining = a.timeoutMsec.val * MILLION - spentAll a rounds := by
  have ht := timeoutMsec_bounds a
  induction rounds using List.reverseRecOn generalizing remaining with
  | nil => simp [start_eq, interrupted_nil, eq_comm]
  | append_singleton rounds r ih =>
      rw [kevent_append_single, interrupted_append_single, spentAll_append_single]
      cases hw : kevent a rounds with
      | returned reply rem =>
          simp only [step_returned, reduceCtorEq, false_iff, not_and]
          exact fun hi => absurd ((ih _).mpr ⟨hi.1, rfl⟩) (by simp [hw])
      | waiting rem =>
          obtain ⟨hi, rfl⟩ := (ih rem).mp hw
          have hs := spentAll_nonneg a rounds
          have hle := hi.spentAll_le
          have hp := spent_bounds a r
          have hc : charge a (a.timeoutMsec.val * MILLION - spentAll a rounds) r =
              a.timeoutMsec.val * MILLION - spentAll a rounds - spent a r :=
            charge_eq a r (by simp only [MILLION] at hle ⊢; omega)
              (by simp only [MILLION] at hle ⊢; omega)
          rcases step_waiting_cases a (a.timeoutMsec.val * MILLION - spentAll a rounds) r with
            ⟨hr, hn, hstep⟩ | ⟨hr, hstep⟩
          · rw [hstep, hc, Wait.waiting.injEq]
            rw [hc] at hn
            constructor
            · rintro rfl; exact ⟨⟨hi, hr, by omega⟩, by omega⟩
            · rintro ⟨-, rfl⟩; omega
          · rw [hstep]
            rw [hc] at hr
            simp only [reduceCtorEq, false_iff, not_and]
            rintro ⟨-, he, hspent⟩ -
            exact hr ⟨he, by omega⟩

theorem tdiv_billion (x : Int) :
    x.tdiv BILLION = if 0 ≤ x then x / 1000000000 else -((-x) / 1000000000) := by
  split
  · exact Int.tdiv_eq_ediv ‹_› (by decide)
  · rw [← Int.tdiv_eq_ediv (by omega) (by decide), ← Int.neg_tdiv, Int.neg_neg]; rfl

theorem timeoutOf_eq {remaining : Int} (lower : -2147483648 * 1000000000 < remaining)
    (upper : remaining < 2147483648 * 1000000000) :
    timeoutOf remaining =
      ⟨remaining.tdiv BILLION, remaining - remaining.tdiv BILLION * BILLION⟩ := by
  have hB : BILLION = 1000000000 := rfl
  have hq : -2147483648 < remaining.tdiv 1000000000 ∧
      remaining.tdiv 1000000000 < 2147483648 ∧
      remaining - 999999999 ≤ remaining.tdiv 1000000000 * 1000000000 ∧
      remaining.tdiv 1000000000 * 1000000000 ≤ remaining + 999999999 := by
    have := tdiv_billion remaining
    rw [hB] at this
    split at this <;> omega
  have hm := asLong_of_fits
    (show -2 ^ 63 ≤ remaining.tdiv 1000000000 * 1000000000 by omega) (by omega)
  rw [timeoutOf, hB, asInt_of_fits (by omega) (by omega), hm,
    asLong_of_fits (by omega) (by omega)]

theorem timeoutOf_of_nonneg {remaining : Int} (lower : 0 ≤ remaining)
    (upper : remaining < 2147483648 * 1000000000) :
    timeoutOf remaining = ⟨remaining / 1000000000, remaining % 1000000000⟩ := by
  rw [timeoutOf_eq (by omega) upper, tdiv_billion, if_pos lower, Timespec.mk.injEq]
  exact ⟨rfl, by simp only [BILLION, MILLION]; omega⟩

theorem charge_le (a : Args) (r : Round) {remaining : Int}
    (lower : -2 ^ 62 ≤ remaining) (upper : remaining ≤ 2 ^ 62) :
    charge a remaining r ≤ remaining := by
  have := spent_bounds a r
  rw [charge_eq a r lower upper]; omega

theorem kevent_waiting_bounds {a : Args} {rounds : List Round} {remaining : Int}
    (h : kevent a rounds = .waiting remaining) :
    min 0 (a.timeoutMsec.val * MILLION) ≤ remaining ∧
      remaining ≤ a.timeoutMsec.val * MILLION := by
  obtain ⟨hi, rfl⟩ := (kevent_waiting_iff a rounds remaining).mp h
  have := spentAll_nonneg a rounds
  have := hi.spentAll_le
  omega

/-- Timeout arithmetic stays in range: for a nonnegative timeout, `timeout_msec * MILLION`
    is exact; at the head of every iteration of every run the budget lies in
    `[0, timeout_msec * 10^6]`; the call made there gets a normalized `timespec` whose
    `tv_sec` is the exact quotient (the conversion to `int` does not wrap) and which
    denotes the budget; and the elapsed-time term never makes the budget grow. -/
theorem kevent_timeout_in_range (a : Args) (nonneg : 0 ≤ a.timeoutMsec.val)
    (rounds : List Round) (remaining : Int) (h : kevent a rounds = .waiting remaining) :
    start a = .waiting (a.timeoutMsec.val * 1000000) ∧
      0 ≤ remaining ∧ remaining ≤ a.timeoutMsec.val * 1000000 ∧
      (∃ ts, (call a remaining).timeout = some ts ∧
        ts.tvSec = remaining / 1000000000 ∧ 0 ≤ ts.tvSec ∧ ts.tvSec < 2147483648 ∧
        0 ≤ ts.tvNsec ∧ ts.tvNsec < 1000000000 ∧
        ts.tvSec * 1000000000 + ts.tvNsec = remaining) ∧
      ∀ r, charge a remaining r ≤ remaining := by
  have ht := timeoutMsec_bounds a
  have hb := kevent_waiting_bounds h
  simp only [MILLION] at hb
  refine ⟨start_eq a, by omega, by omega, ⟨_, rfl, ?_⟩,
    fun r => charge_le a r (by omega) (by omega)⟩
  rw [timeoutOf_of_nonneg (by omega) (by omega)]
  dsimp only
  omega

theorem kevent_timeout_in_range_one_second :
    0 ≤ oneSecond.timeoutMsec.val ∧
      kevent oneSecond [⟨0, .failure EINTR, 250000⟩] = .waiting 750000000 ∧
      750000000 ≤ oneSecond.timeoutMsec.val * 1000000 :=
  have h : kevent oneSecond [⟨0, .failure EINTR, 250000⟩] = .waiting 750000000 := by decide
  ⟨by decide, h, (kevent_timeout_in_range oneSecond (by decide) _ _ h).2.2.1⟩

theorem spentAll_poll {a : Args} (poll : a.timeoutMsec.val = 0) (rounds : List Round) :
    spentAll a rounds = 0 := by
  induction rounds using List.reverseRecOn with
  | nil => rfl
  | append_singleton rounds r ih => simp [ih, spent, poll]

/-- Budget accounting of the retry loop, for a nonnegative timeout: after any calls the
    loop makes one more exactly when each of them failed with `EINTR` and the budget left
    after it, the initial budget less the elapsed time measured so far, was nonnegative
    (zero included); that call is given exactly the budget left. A poll is charged
    nothing, so an interrupted poll is polled again. -/
theorem kevent_budget_accounting (a : Args) (nonneg : 0 ≤ a.timeoutMsec.val)
    (rounds : List Round) (remaining : Int) :
    (kevent a rounds = .waiting remaining ↔
      Interrupted a (a.timeoutMsec.val * 1000000) rounds ∧
        remaining = a.timeoutMsec.val * 1000000 - spentAll a rounds) ∧
    (kevent a rounds = .waiting remaining →
      (call a remaining).timeout = some ⟨remaining / 1000000000, remaining % 1000000000⟩) ∧
    (a.timeoutMsec.val = 0 → spentAll a rounds = 0) := by
  have ht := timeoutMsec_bounds a
  refine ⟨kevent_waiting_iff a rounds remaining, fun h => ?_, fun h => spentAll_poll h rounds⟩
  have hb := kevent_waiting_bounds h
  simp only [MILLION] at hb
  rw [call, timeoutOf_of_nonneg (by omega) (by omega)]

theorem kevent_budget_accounting_one_second :
    0 ≤ oneSecond.timeoutMsec.val ∧
      (call oneSecond 600000000).timeout = some ⟨0, 600000000⟩ :=
  ⟨by decide, (kevent_budget_accounting oneSecond (by decide)
    [⟨0, .failure EINTR, 100000⟩, ⟨500, .failure EINTR, 300500⟩] 600000000).2.1 (by decide)⟩

theorem kevent_retries_on_zero_budget :
    ¬ ∀ (a : Args) (rounds : List Round) (remaining : Int), 0 ≤ a.timeoutMsec.val →
      rounds ≠ [] → kevent a rounds = .waiting remaining → 0 < remaining := fun h =>
  absurd (h ⟨⟨3, by decide, by decide⟩, 0, ⟨1, by decide, by decide⟩, 0,
    ⟨1, by decide, by decide⟩, ⟨0, by decide, by decide⟩⟩ [⟨0, .failure EINTR, 0⟩] 0
    (by decide) (by simp) (by decide)) (by decide)

end QuestdbNative.Kqueue
