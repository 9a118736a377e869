import QuestdbNative.Kqueue.Arrays

/-! # The wrapper over the caller's memory

`System` runs the wrapper against the kernel on lists of changes and records. Here the
same run acts on the caller's memory: every call the wrapper makes has the kernel read the
`nChanges` records of the change array at `changelist` and write its records over the event
array at `eventlist`. The memory-level run refines `System` on the change list the array
holds. Since an interrupted call writes nothing, the event array after a whole call of the
wrapper is the caller's array with the last call's records written over its first slots,
as many as the count the wrapper returns and never more than `nEvents`: the caller reads
them back at the getters' offsets, and finds every slot past them as it left it.
-/

namespace QuestdbNative.Kqueue

/-- Registrations whose events fit the fields of `struct kevent`. -/
def Queue.Fits (q : Queue) : Prop := ∀ k ∈ q.knotes, k.event.Fits

instance (q : Queue) : Decidable q.Fits := inferInstanceAs (Decidable (∀ k ∈ q.knotes, _))

theorem Kevent.Fits.knote {c : Kevent} (hc : c.Fits) : c.knote.event.Fits :=
  ⟨hc.ident, hc.filter_lower, hc.filter_upper, (by decide : 0 < 2 ^ 16),
    (by decide : -2 ^ 63 ≤ (0 : Int)), (by decide : (0 : Int) < 2 ^ 63), hc.udata_lower,
    hc.udata_upper⟩

namespace Queue

theorem Fits.remove {q : Queue} (h : q.Fits) (ident : Nat) (filter : Int) :
    (q.remove ident filter).Fits :=
  fun k hk => h k (List.mem_filter.mp hk).1

theorem Fits.apply {q q' : Queue} (h : q.Fits) {c : Kevent} (hc : c.Fits)
    (ha : q.apply c = .ok q') : q'.Fits := by
  unfold Queue.apply at ha
  split_ifs at ha <;> cases ha
  · exact h.remove _ _
  · intro k hk
    rcases List.mem_append.mp hk with hk | hk
    · exact h.remove _ _ k hk
    · exact (List.mem_singleton.mp hk) ▸ hc.knote
  · exact h

theorem Fits.applyAll {q : Queue} (h : q.Fits) {cs : List Kevent} (hc : ∀ c ∈ cs, c.Fits)
    (room : Nat) : (q.applyAll cs room).1.Fits ∧ ∀ k ∈ (q.applyAll cs room).2.1, k.Fits := by
  induction cs generalizing q room with
  | nil => exact ⟨h, fun _ hk => nomatch hk⟩
  | cons c cs ih =>
      have hcs : ∀ d ∈ cs, d.Fits := fun d hd => hc d (List.mem_cons_of_mem c hd)
      have hc₀ := hc c (List.mem_cons_self c cs)
      unfold Queue.applyAll
      split
      · next q' ha => exact ih (h.apply hc₀ ha) hcs room
      · next e he =>
          split_ifs
          · exact ⟨h, fun _ hk => nomatch hk⟩
          · have ⟨hq, hr⟩ := ih h hcs (room - 1)
            refine ⟨hq, fun k hk => ?_⟩
            rcases List.mem_cons.mp hk with rfl | hk
            · rw [apply_error he]
              exact ⟨hc₀.ident, hc₀.filter_lower, hc₀.filter_upper, (by decide : EV_ERROR < 2 ^ 16),
                (by decide : -2 ^ 63 ≤ (ENOENT : Int)), (by decide : (ENOENT : Int) < 2 ^ 63),
                hc₀.udata_lower, hc₀.udata_upper⟩
            · exact hr k hk

theorem Fits.kevent {q : Queue} (h : q.Fits) {cs : List Kevent} (hc : ∀ c ∈ cs, c.Fits)
    (nevents : Nat) (wake : Wake) :
    (q.kevent cs nevents wake).1.Fits ∧ ∀ k ∈ (q.kevent cs nevents wake).2.1, k.Fits := by
  have ⟨hq, hr⟩ := h.applyAll hc nevents
  unfold Queue.kevent
  split
  · next h' => rw [h'] at hq hr; exact ⟨hq, hr⟩
  · next q' errs h' =>
      rw [h'] at hq hr
      split_ifs
      · exact ⟨hq, hr⟩
      · cases wake with
        | interrupted => exact ⟨hq, fun _ hk => nomatch hk⟩
        | expired => exact ⟨hq, fun _ hk => nomatch hk⟩
        | ready fired =>
            refine ⟨fun k hk => hq k (List.mem_filter.mp hk).1, fun k hk => ?_⟩
            obtain ⟨k', hk', rfl⟩ := List.mem_map.mp hk
            exact hq k' (List.mem_filter.mp (List.mem_of_mem_take hk')).1

end Queue

namespace System

/-- What the records a run leaves in the event list satisfy: no more than `nEvents`, as
    many as a count the wrapper returned, none while it still waits, and all of them, like
    the registrations, fitting the fields of `struct kevent`. -/
structure Delivered (a : Args) (s : System) : Prop where
  room : s.written.length ≤ a.nEvents.val.toNat
  count : ∀ n rem, s.wait = .returned (.events n) rem → n = s.written.length
  quiet : ∀ rem, s.wait = .waiting rem → s.written = []
  queue : s.queue.Fits
  fits : ∀ k ∈ s.written, k.Fits

theorem Delivered.step {a : Args} {changes : List Kevent} (hc : ∀ c ∈ changes, c.Fits)
    {s : System} (h : Delivered a s) (m : Moment) : Delivered a (s.step a changes m) := by
  unfold System.step
  split
  · next rem hw =>
      dsimp only [call]
      have hread : ∀ c ∈ changes.take a.nChanges.val.toNat, c.Fits :=
        fun c hc' => hc c (List.mem_of_mem_take hc')
      have ⟨hroom, hcount, hquiet⟩ := Queue.kevent_written s.queue
        (changes.take a.nChanges.val.toNat) a.nEvents.val.toNat m.wake
      have ⟨hq, hf⟩ := h.queue.kevent hread a.nEvents.val.toNat m.wake
      generalize s.queue.kevent (changes.take a.nChanges.val.toNat) a.nEvents.val.toNat m.wake
        = out at hroom hcount hquiet hq hf
      obtain ⟨q', recs, reply⟩ := out
      rw [hw]
      rcases step_waiting_cases a rem ⟨m.start, reply, m.stop⟩ with ⟨eintr, -, hs⟩ | ⟨-, hs⟩
      · rw [hs]
        exact ⟨hroom, fun _ _ h' => (nomatch h'), fun _ _ => hquiet eintr, hq, hf⟩
      · rw [hs]
        exact ⟨hroom, fun n _ h' => hcount n (Wait.returned.inj h').1, fun _ h' => (nomatch h'),
          hq, hf⟩
  · exact h

end System

/-- The wrapper and the kernel on the caller's memory: the wrapper's state, the queue, and
    the event array at `eventlist`, `nEvents` records long. -/
structure Machine (a : Args) where
  wait : Wait
  queue : Queue
  events : Record (a.nEvents.val.toNat * sizeofKevent)

namespace Machine

/-- One pass over the caller's memory: the kernel reads the `nChanges` records of the change
    array at `changelist` and writes its records over the event array from its first record
    on. -/
def step (a : Args) (changes : Record (a.nChanges.val.toNat * sizeofKevent)) (s : Machine a)
    (m : Moment) : Machine a :=
  match s.wait with
  | .waiting remaining =>
    let c := call a remaining
    let (q', recs, reply) := s.queue.kevent (readChanges changes) c.nEvents.val.toNat m.wake
    ⟨Kqueue.step a s.wait ⟨m.start, reply, m.stop⟩, q', writeEvents s.events recs⟩
  | .returned _ _ => s

/-- A call of the wrapper on queue `q` over the caller's change and event arrays, once the
    environment has answered `moments`. -/
def run (a : Args) (changes : Record (a.nChanges.val.toNat * sizeofKevent)) (q : Queue)
    (events : Record (a.nEvents.val.toNat * sizeofKevent)) (moments : List Moment) : Machine a :=
  moments.foldl (step a changes) ⟨start a, q, events⟩

/-- The machine and the system on the change list the array holds in step: the same
    wrapper state and registrations, and the event array the caller's, with the last
    call's records written over it. -/
structure Refines (a : Args) (events : Record (a.nEvents.val.toNat * sizeofKevent))
    (s : Machine a) (t : System) : Prop where
  wait : s.wait = t.wait
  queue : s.queue = t.queue
  written : s.events = writeEvents events t.written

theorem Refines.step {a : Args} {changes : Record (a.nChanges.val.toNat * sizeofKevent)}
    {events : Record (a.nEvents.val.toNat * sizeofKevent)} {s : Machine a} {t : System}
    (h : Refines a events s t) (hd : System.Delivered a t) (m : Moment) :
    Refines a events (s.step a changes m) (t.step a (readChanges changes) m) := by
  have hlen : (readChanges changes).take a.nChanges.val.toNat = readChanges changes :=
    List.take_of_length_le (by simp [readChanges])
  unfold Machine.step System.step
  rw [h.wait]
  cases hw : t.wait with
  | returned reply rem => exact h
  | waiting rem =>
      dsimp only [call]
      rw [hlen, h.queue, h.written, hd.quiet rem hw]
      exact ⟨rfl, rfl, rfl⟩

theorem refines_run (a : Args) (changes : Record (a.nChanges.val.toNat * sizeofKevent))
    (q : Queue) (events : Record (a.nEvents.val.toNat * sizeofKevent)) (moments : List Moment)
    (hc : ∀ c ∈ readChanges changes, c.Fits) (hq : q.Fits) :
    Refines a events (run a changes q events moments)
        (System.run a (readChanges changes) q moments) ∧
      System.Delivered a (System.run a (readChanges changes) q moments) := by
  suffices ∀ s t, Refines a events s t → System.Delivered a t →
      Refines a events (moments.foldl (step a changes) s)
          (moments.foldl (System.step a (readChanges changes)) t) ∧
        System.Delivered a (moments.foldl (System.step a (readChanges changes)) t) from
    this _ _ ⟨rfl, rfl, rfl⟩
      ⟨Nat.zero_le _, fun _ _ h => (by cases h), fun _ _ => rfl, hq, fun _ h => (nomatch h)⟩
  induction moments with
  | nil => exact fun s t h hd => ⟨h, hd⟩
  | cons m moments ih => exact fun s t h hd => ih _ _ (h.step hd m) (hd.step hc m)

/-- A whole call of the wrapper over the caller's memory, for every change array of bytes and
    every answer of the environment: the wrapper and the queue go as the system on the
    change list the change array holds;
    and when the wrapper returns a count `n`, it is at most `nEvents`, the caller reads the
    first `n` records of the event array at the getters' offsets as the records the last
    call wrote, and every record past them is as the caller left it. -/
theorem kevent_caller_arrays (a : Args) (changes : Record (a.nChanges.val.toNat * sizeofKevent))
    (q : Queue) (events : Record (a.nEvents.val.toNat * sizeofKevent)) (moments : List Moment)
    (bytes : ∀ b ∈ changes.bytes, b < 256) (hq : q.Fits) :
    (run a changes q events moments).wait = (System.run a (readChanges changes) q moments).wait ∧
      (run a changes q events moments).queue =
        (System.run a (readChanges changes) q moments).queue ∧
      ∀ n rem, (run a changes q events moments).wait = .returned (.events n) rem →
        n ≤ a.nEvents.val.toNat ∧
          readEvents (run a changes q events moments).events n =
            (System.run a (readChanges changes) q moments).written.map
              (fun k => (k.ident, k.filter, k.flags, k.udata)) ∧
          ∀ j : Fin a.nEvents.val.toNat, n ≤ j →
            (run a changes q events moments).events.slot j = events.slot j := by
  obtain ⟨hr, hd⟩ := refines_run a changes q events moments (readChanges_fits changes bytes) hq
  refine ⟨hr.wait, hr.queue, fun n rem hw => ?_⟩
  have hn := hd.count n rem (hr.wait ▸ hw)
  have ⟨hread, hframe⟩ := writeEvents_spec events _ hd.room hd.fits
  rw [hr.written, hn]
  exact ⟨hd.room, hread, hframe⟩

/-- A change array of one record holding a one-shot read registration of descriptor 5 with
    user data 42, least significant byte first: `ident` 5, `filter` `EVFILT_READ`, `flags`
    `EV_ADD | EV_ONESHOT`, `fflags` and `data` zero, `udata` 42. -/
def oneShotRead : Record (oneSecond.nChanges.val.toNat * sizeofKevent) :=
  ⟨[5, 0, 0, 0, 0, 0, 0, 0, 255, 255, 17, 0, 0, 0, 0, 0,
    0, 0, 0, 0, 0, 0, 0, 0, 42, 0, 0, 0, 0, 0, 0, 0], rfl⟩

/-- An event array of one record, every byte of it one bits. -/
def onesEvents : Record (oneSecond.nEvents.val.toNat * sizeofKevent) :=
  ⟨List.replicate 32 255, rfl⟩

theorem kevent_caller_arrays_ready :
    (∀ b ∈ oneShotRead.bytes, b < 256) ∧ Queue.Fits ⟨[]⟩ ∧
      ((run oneSecond oneShotRead ⟨[]⟩ onesEvents
          [⟨0, .interrupted, 1000⟩, ⟨1000, .ready [(5, EVFILT_READ)], 2000⟩]).wait =
        (System.run oneSecond (readChanges oneShotRead) ⟨[]⟩
          [⟨0, .interrupted, 1000⟩, ⟨1000, .ready [(5, EVFILT_READ)], 2000⟩]).wait ∧
      (run oneSecond oneShotRead ⟨[]⟩ onesEvents
          [⟨0, .interrupted, 1000⟩, ⟨1000, .ready [(5, EVFILT_READ)], 2000⟩]).queue =
        (System.run oneSecond (readChanges oneShotRead) ⟨[]⟩
          [⟨0, .interrupted, 1000⟩, ⟨1000, .ready [(5, EVFILT_READ)], 2000⟩]).queue ∧
      ∀ n rem, (run oneSecond oneShotRead ⟨[]⟩ onesEvents
          [⟨0, .interrupted, 1000⟩, ⟨1000, .ready [(5, EVFILT_READ)], 2000⟩]).wait =
            .returned (.events n) rem →
        n ≤ oneSecond.nEvents.val.toNat ∧
          readEvents (run oneSecond oneShotRead ⟨[]⟩ onesEvents
            [⟨0, .interrupted, 1000⟩, ⟨1000, .ready [(5, EVFILT_READ)], 2000⟩]).events n =
            (System.run oneSecond (readChanges oneShotRead) ⟨[]⟩
              [⟨0, .interrupted, 1000⟩, ⟨1000, .ready [(5, EVFILT_READ)], 2000⟩]).written.map
              (fun k => (k.ident, k.filter, k.flags, k.udata)) ∧
          ∀ j : Fin oneSecond.nEvents.val.toNat, n ≤ j →
            (run oneSecond oneShotRead ⟨[]⟩ onesEvents
              [⟨0, .interrupted, 1000⟩, ⟨1000, .ready [(5, EVFILT_READ)], 2000⟩]).events.slot j =
              onesEvents.slot j) :=
  have bytes : ∀ b ∈ oneShotRead.bytes, b < 256 := by decide
  have hq : Queue.Fits ⟨[]⟩ := by decide
  ⟨bytes, hq, kevent_caller_arrays oneSecond oneShotRead ⟨[]⟩ onesEvents
    [⟨0, .interrupted, 1000⟩, ⟨1000, .ready [(5, EVFILT_READ)], 2000⟩] bytes hq⟩

end Machine

end QuestdbNative.Kqueue
