import QuestdbNative.Kqueue.Budget
import QuestdbNative.Kqueue.Kernel

/-! # Submit-and-wait as the spec describes it

The spec's submit-and-wait applies the change list once and then waits; a retry after an
interrupt passes an empty change list. The wrapper passes the change list again on every
retry instead. The two agree whenever the change list only adds registrations: applying
such a list is idempotent, so a queue it was applied to stays as it is when the kernel
applies it again. A list that deletes a registration makes them differ: the delete the
interrupted call applied fails on the retry, which reports it as an error.
-/

namespace QuestdbNative.Kqueue

/-- A change that only adds or replaces a registration: `EV_ADD` without `EV_DELETE`. -/
def Kevent.Adds (c : Kevent) : Prop := c.flags &&& EV_DELETE = 0 ∧ c.flags &&& EV_ADD ≠ 0

instance (c : Kevent) : Decidable c.Adds := inferInstanceAs (Decidable (_ ∧ _))

/-- Whether change `c` is filed under the pair of registration `k`. -/
def Kevent.files (c : Kevent) (k : Knote) : Bool := k.ident == c.ident && k.filter == c.filter

namespace Queue

theorem apply_of_adds {c : Kevent} (hc : c.Adds) (q : Queue) : q.apply c = .ok (q.add c) := by
  simp [apply, hc.1, hc.2]

theorem applyAll_of_adds {cs : List Kevent} (h : ∀ c ∈ cs, c.Adds) (q : Queue) (room : Nat) :
    q.applyAll cs room = (cs.foldl add q, [], none) := by
  induction cs generalizing q with
  | nil => rfl
  | cons c cs ih =>
      rw [applyAll, apply_of_adds (h c (List.mem_cons_self c cs))]
      exact ih (fun d hd => h d (List.mem_cons_of_mem c hd)) _

theorem foldl_add (cs : List Kevent) (q : Queue) :
    (cs.foldl add q).knotes =
      q.knotes.filter (fun k => !cs.any (·.files k)) ++ (cs.foldl add ⟨[]⟩).knotes := by
  induction cs generalizing q with
  | nil =>
      simp only [List.foldl_nil, List.any_nil, Bool.not_false, List.append_nil]
      exact (List.filter_eq_self.mpr fun _ _ => rfl).symm
  | cons c cs ih =>
      rw [List.foldl_cons, List.foldl_cons, ih, ih (Queue.add ⟨[]⟩ c)]
      simp [add, remove, Kevent.files, List.filter_filter, List.filter_append, Bool.and_comm]

theorem files_of_mem {cs : List Kevent} {k : Knote} (hk : k ∈ (cs.foldl add ⟨[]⟩).knotes) :
    cs.any (·.files k) = true := by
  induction cs with
  | nil => simp at hk
  | cons c cs ih =>
      rw [List.foldl_cons, foldl_add] at hk
      rcases List.mem_append.mp hk with hk | hk
      · have : k = c.knote := by simpa [add, remove] using (List.mem_filter.mp hk).1
        subst this
        simp [Kevent.files, Kevent.knote]
      · simp [ih hk]

theorem foldl_add_idem (cs : List Kevent) (q : Queue) :
    cs.foldl add (cs.foldl add q) = cs.foldl add q := by
  have hnil : (cs.foldl add ⟨[]⟩).knotes.filter (fun k => !cs.any (·.files k)) = [] :=
    List.filter_eq_nil_iff.mpr fun k hk => by simp [files_of_mem hk]
  ext1
  rw [foldl_add cs (cs.foldl add q), foldl_add cs q, List.filter_append, List.filter_filter, hnil,
    List.append_nil]
  simp

theorem kevent_of_settled {cs : List Kevent} (h : ∀ c ∈ cs, c.Adds) {q : Queue}
    (settled : cs.foldl add q = q) (room : Nat) (wake : Wake) :
    q.kevent cs room wake = q.kevent [] room wake := by
  unfold kevent
  rw [applyAll_of_adds h, settled]
  rfl

theorem kevent_interrupted {cs : List Kevent} (h : ∀ c ∈ cs, c.Adds) (q : Queue) (room : Nat)
    (wake : Wake) (eintr : (q.kevent cs room wake).2.2 = .failure EINTR) :
    (q.kevent cs room wake).1 = cs.foldl add q := by
  unfold kevent at eintr ⊢
  rw [applyAll_of_adds h] at eintr ⊢
  cases wake <;> simp_all

theorem watches_remove (q : Queue) (ident : Nat) (filter : Int) :
    (q.remove ident filter).watches ident filter = false := by
  simp only [watches, remove, List.any_filter, Bool.not_and, List.any_eq_false]
  intro x _
  cases x.ident == ident <;> cases x.filter == filter <;> decide

theorem kevent_delete_interrupted {d : Kevent} (delete : d.flags &&& EV_DELETE ≠ 0) {q : Queue}
    (watched : q.watches d.ident d.filter) (room : Nat) :
    q.kevent [d] room .interrupted = (q.remove d.ident d.filter, [], .failure EINTR) := by
  simp [kevent, applyAll, apply, delete, watched]

theorem kevent_delete_unwatched {d : Kevent} (delete : d.flags &&& EV_DELETE ≠ 0) {q : Queue}
    (unwatched : q.watches d.ident d.filter = false) {room : Nat} (hroom : 0 < room)
    (wake : Wake) :
    q.kevent [d] room wake = (q, [{ d with flags := EV_ERROR, data := ENOENT }], .events 1) := by
  simp [kevent, applyAll, apply, delete, unwatched, Nat.pos_iff_ne_zero.mp hroom]

theorem kevent_nil_no_error (q : Queue) (room : Nat) (wake : Wake) :
    ∀ k ∈ (q.kevent [] room wake).2.1, k.flags ≠ EV_ERROR := by
  intro k hk
  cases wake with
  | ready fired =>
      simp only [kevent, applyAll, ne_eq, not_true_eq_false, if_false] at hk
      obtain ⟨x, -, rfl⟩ := List.mem_map.mp hk
      exact (by decide : (0 : Nat) ≠ EV_ERROR)
  | expired | interrupted => simp [kevent, applyAll] at hk

end Queue

namespace System

/-- `submit-and-wait` as the spec describes it: `step`, except that only the first call
    passes the change list and a retry after an interrupt passes an empty one. -/
def stepOnce (a : Args) (changes : List Kevent) (s : System) (m : Moment) : System :=
  match s.wait with
  | .waiting remaining =>
    let c := call a remaining
    let read := if s.rounds = [] then changes.take c.nChanges.val.toNat else []
    let (q', recs, reply) := s.queue.kevent read c.nEvents.val.toNat m.wake
    ⟨Kqueue.step a s.wait ⟨m.start, reply, m.stop⟩, q', recs, s.submitted ++ [read],
      s.rounds ++ [⟨m.start, reply, m.stop⟩]⟩
  | .returned _ _ => s

/-- The spec's submit-and-wait on queue `q`, once the environment has answered `moments`. -/
def runOnce (a : Args) (changes : List Kevent) (q : Queue) (moments : List Moment) : System :=
  moments.foldl (stepOnce a changes) ⟨start a, q, [], [], []⟩

/-- The wrapper and the spec's submit-and-wait in step: the same wrapper state,
    registrations, records and rounds; and while the wrapper waits after a call, its
    registrations are ones the change list leaves as they are. -/
structure Agree (a : Args) (changes : List Kevent) (s t : System) : Prop where
  wait : s.wait = t.wait
  queue : s.queue = t.queue
  written : s.written = t.written
  rounds : s.rounds = t.rounds
  settled : s.rounds ≠ [] → ∀ rem, s.wait = .waiting rem →
    (changes.take a.nChanges.val.toNat).foldl Queue.add s.queue = s.queue

theorem Agree.step {a : Args} {changes : List Kevent}
    (adds : ∀ c ∈ changes.take a.nChanges.val.toNat, c.Adds) {s t : System}
    (h : Agree a changes s t) (m : Moment) :
    Agree a changes (s.step a changes m) (t.stepOnce a changes m) := by
  unfold System.step System.stepOnce
  rw [← h.wait]
  cases hw : s.wait with
  | returned reply rem => exact h
  | waiting rem =>
      have same : t.queue.kevent (if t.rounds = [] then changes.take a.nChanges.val.toNat else [])
          a.nEvents.val.toNat m.wake =
          s.queue.kevent (changes.take a.nChanges.val.toNat) a.nEvents.val.toNat m.wake := by
        rw [← h.queue, ← h.rounds]
        split
        · rfl
        · exact (Queue.kevent_of_settled adds (h.settled ‹_› rem hw) _ _).symm
      dsimp only [call]
      rw [same]
      generalize hk : s.queue.kevent (changes.take a.nChanges.val.toNat) a.nEvents.val.toNat
        m.wake = out
      obtain ⟨q', recs, reply⟩ := out
      refine ⟨rfl, rfl, rfl, by rw [h.rounds], fun _ rem' hw' => ?_⟩
      rcases step_waiting_cases a rem ⟨m.start, reply, m.stop⟩ with ⟨eintr, -, -⟩ | ⟨-, hs⟩
      · have hq := Queue.kevent_interrupted adds s.queue _ m.wake (by rw [hk]; exact eintr)
        rw [hk] at hq
        dsimp only at hq ⊢
        rw [hq, Queue.foldl_add_idem]
      · simp [hs] at hw'

theorem agree_run {a : Args} {changes : List Kevent}
    (adds : ∀ c ∈ changes.take a.nChanges.val.toNat, c.Adds) (q : Queue) (moments : List Moment) :
    Agree a changes (run a changes q moments) (runOnce a changes q moments) := by
  suffices ∀ s t, Agree a changes s t →
      Agree a changes (moments.foldl (step a changes) s) (moments.foldl (stepOnce a changes) t)
    from this _ _ ⟨rfl, rfl, rfl, rfl, fun h => absurd rfl h⟩
  induction moments with
  | nil => exact fun s t h => h
  | cons m moments ih => exact fun s t h => ih _ _ (h.step adds m)

/-- For change lists that only add registrations the resubmission is harmless: on every
    run the wrapper ends in the same state, with the same registrations, event-list
    records and replies, as the spec's submit-and-wait, which applies the list once. -/
theorem kevent_resubmit_harmless_for_adds (a : Args) (changes : List Kevent) (q : Queue)
    (moments : List Moment) (adds : ∀ c ∈ changes.take a.nChanges.val.toNat, c.Adds) :
    (run a changes q moments).wait = (runOnce a changes q moments).wait ∧
      (run a changes q moments).queue = (runOnce a changes q moments).queue ∧
      (run a changes q moments).written = (runOnce a changes q moments).written ∧
      (run a changes q moments).rounds = (runOnce a changes q moments).rounds :=
  have h := agree_run adds q moments
  ⟨h.wait, h.queue, h.written, h.rounds⟩

theorem kevent_resubmit_harmless_oneshot :
    (∀ c ∈ [(⟨5, EVFILT_READ, 17, 0, 42⟩ : Kevent)].take oneSecond.nChanges.val.toNat,
      c.Adds) ∧
    (run oneSecond [⟨5, EVFILT_READ, 17, 0, 42⟩] ⟨[]⟩
        [⟨0, .interrupted, 1000⟩, ⟨1000, .ready [(5, EVFILT_READ)], 2000⟩]).written =
      (runOnce oneSecond [⟨5, EVFILT_READ, 17, 0, 42⟩] ⟨[]⟩
        [⟨0, .interrupted, 1000⟩, ⟨1000, .ready [(5, EVFILT_READ)], 2000⟩]).written :=
  have adds : ∀ c ∈ [(⟨5, EVFILT_READ, 17, 0, 42⟩ : Kevent)].take oneSecond.nChanges.val.toNat,
      c.Adds := by decide
  ⟨adds, (kevent_resubmit_harmless_for_adds oneSecond _ ⟨[]⟩
    [⟨0, .interrupted, 1000⟩, ⟨1000, .ready [(5, EVFILT_READ)], 2000⟩] adds).2.2.1⟩

/-- An interrupted delete comes back as an error: on every queue that watches the pair a
    one-change delete list names, a first call interrupted with budget left makes the wrapper
    pass the delete again, which fails with `ENOENT`; whatever the retry's wait would see, the
    wrapper returns 1 with an `EV_ERROR` record for a change that was applied. The spec's
    submit-and-wait passes no changes on the retry and writes no `EV_ERROR` record. -/
theorem kevent_resubmitted_delete_fails (a : Args) (changes : List Kevent) (d : Kevent)
    (q : Queue) (one : changes.take a.nChanges.val.toNat = [d])
    (delete : d.flags &&& EV_DELETE ≠ 0) (watched : q.watches d.ident d.filter)
    (room : 0 < a.nEvents.val.toNat) (m₁ m₂ : Moment) (interrupted : m₁.wake = .interrupted)
    (left : spent a ⟨m₁.start, .failure EINTR, m₁.stop⟩ ≤ a.timeoutMsec.val * 1000000) :
    (∃ rem, (run a changes q [m₁, m₂]).wait = .returned (.events 1) rem) ∧
      (run a changes q [m₁, m₂]).written = [{ d with flags := EV_ERROR, data := ENOENT }] ∧
      (run a changes q [m₁, m₂]).queue = q.remove d.ident d.filter ∧
      ∀ k ∈ (runOnce a changes q [m₁, m₂]).written, k.flags ≠ EV_ERROR := by
  have ht := timeoutMsec_bounds a
  have hc : charge a (a.timeoutMsec.val * MILLION) ⟨m₁.start, .failure EINTR, m₁.stop⟩ =
      a.timeoutMsec.val * MILLION - spent a ⟨m₁.start, .failure EINTR, m₁.stop⟩ :=
    charge_eq a _ (by simp only [MILLION]; omega) (by simp only [MILLION]; omega)
  have retry : Kqueue.step a (.waiting (a.timeoutMsec.val * MILLION))
      ⟨m₁.start, .failure EINTR, m₁.stop⟩ =
      .waiting (charge a (a.timeoutMsec.val * MILLION) ⟨m₁.start, .failure EINTR, m₁.stop⟩) := by
    rcases step_waiting_cases a (a.timeoutMsec.val * MILLION) ⟨m₁.start, .failure EINTR, m₁.stop⟩
      with ⟨-, -, hs⟩ | ⟨hno, -⟩
    · exact hs
    · exact absurd ⟨rfl, by simp only [MILLION] at hc ⊢; omega⟩ hno
  simp only [run, runOnce, List.foldl, System.step, stepOnce, start_eq, call, one, interrupted,
    ↓reduceIte, List.nil_append, List.cons_ne_nil, Queue.kevent_delete_interrupted delete watched,
    retry, Queue.kevent_delete_unwatched delete (Queue.watches_remove q d.ident d.filter) room,
    step_waiting, retries, Bool.false_eq_true, Wait.returned.injEq, true_and, exists_eq']
  exact Queue.kevent_nil_no_error _ _ _

theorem kevent_resubmitted_delete_fails_ready :
    [(⟨5, EVFILT_READ, EV_DELETE, 0, 0⟩ : Kevent)].take oneSecond.nChanges.val.toNat =
        [⟨5, EVFILT_READ, EV_DELETE, 0, 0⟩] ∧
      EV_DELETE &&& EV_DELETE ≠ 0 ∧ Queue.watches ⟨[⟨5, EVFILT_READ, false, 0⟩]⟩ 5 EVFILT_READ ∧
      0 < oneSecond.nEvents.val.toNat ∧
      spent oneSecond ⟨0, .failure EINTR, 1000⟩ ≤ oneSecond.timeoutMsec.val * 1000000 ∧
      (run oneSecond [⟨5, EVFILT_READ, EV_DELETE, 0, 0⟩] ⟨[⟨5, EVFILT_READ, false, 0⟩]⟩
          [⟨0, .interrupted, 1000⟩, ⟨1000, .ready [(5, EVFILT_READ)], 2000⟩]).written =
        [⟨5, EVFILT_READ, EV_ERROR, ENOENT, 0⟩] :=
  have left : spent oneSecond ⟨0, .failure EINTR, 1000⟩ ≤ oneSecond.timeoutMsec.val * 1000000 := by
    decide
  ⟨rfl, by decide, by decide, by decide, left,
    (kevent_resubmitted_delete_fails oneSecond [⟨5, EVFILT_READ, EV_DELETE, 0, 0⟩]
      ⟨5, EVFILT_READ, EV_DELETE, 0, 0⟩ ⟨[⟨5, EVFILT_READ, false, 0⟩]⟩ rfl (by decide) (by decide)
      (by decide) ⟨0, .interrupted, 1000⟩ ⟨1000, .ready [(5, EVFILT_READ)], 2000⟩ rfl left).2.1⟩

end System

end QuestdbNative.Kqueue
