import QuestdbNative.Kqueue.Wait

/-! # The kernel side of kevent(2)

The kqueue facility the wrapper drives, as `kevent(2)` describes it: a call first applies
its change list to the queue's registrations, reporting a change that fails as an
`EV_ERROR` record while the event list has room (the call fails with the error once it has
none), returns at once if it reported any, and only then waits. What the wait sees (events
becoming ready, the timeout expiring, a signal) is the environment's choice. `System` runs
the wrapper against this kernel; every call the wrapper makes submits the change list.
-/

namespace QuestdbNative.Kqueue

/-- `EVFILT_READ` of `<sys/event.h>`. -/
def EVFILT_READ : Int := -1

/-- `EV_ADD` of `<sys/event.h>`. -/
def EV_ADD : Nat := 0x0001

/-- `EV_DELETE` of `<sys/event.h>`. -/
def EV_DELETE : Nat := 0x0002

/-- `EV_ONESHOT` of `<sys/event.h>`. -/
def EV_ONESHOT : Nat := 0x0010

/-- `EV_ERROR` of `<sys/event.h>`. -/
def EV_ERROR : Nat := 0x4000

/-- `ENOENT` of `<sys/errno.h>`. -/
def ENOENT : Nat := 2

/-- A `struct kevent` as the wrapper's caller lays it out: `ident`, `filter`, `flags`,
    `data` and `udata` (`fflags` is not used here). -/
structure Kevent where
  ident : Nat
  filter : Int
  flags : Nat
  data : Int
  udata : Int
  deriving DecidableEq, Repr

/-- A registration of a queue: the `(ident, filter)` pair it watches, whether it is
    one-shot, and the user data its events carry. -/
structure Knote where
  ident : Nat
  filter : Int
  oneshot : Bool
  udata : Int
  deriving DecidableEq, Repr

/-- The registration an `EV_ADD` change installs. -/
def Kevent.knote (c : Kevent) : Knote := ⟨c.ident, c.filter, c.flags &&& EV_ONESHOT ≠ 0, c.udata⟩

/-- A kernel event queue: its registrations. -/
@[ext] structure Queue where
  knotes : List Knote
  deriving DecidableEq, Repr

namespace Queue

/-- Whether the queue has a registration for `(ident, filter)`. -/
def watches (q : Queue) (ident : Nat) (filter : Int) : Bool :=
  q.knotes.any fun k => k.ident == ident && k.filter == filter

/-- The queue without the registration for `(ident, filter)`. -/
def remove (q : Queue) (ident : Nat) (filter : Int) : Queue :=
  ⟨q.knotes.filter fun k => !(k.ident == ident && k.filter == filter)⟩

/-- The queue with the registration `c` installs, replacing the one of its pair. -/
def add (q : Queue) (c : Kevent) : Queue := ⟨(q.remove c.ident c.filter).knotes ++ [c.knote]⟩

/-- One change record applied: `EV_DELETE` removes the registration of its
    `(ident, filter)`, which must exist; `EV_ADD` adds it or replaces the existing one;
    any other change needs an existing registration. A failed change gives its errno. -/
def apply (q : Queue) (c : Kevent) : Except Nat Queue :=
  if c.flags &&& EV_DELETE ≠ 0 then
    if q.watches c.ident c.filter then .ok (q.remove c.ident c.filter) else .error ENOENT
  else if c.flags &&& EV_ADD ≠ 0 then .ok (q.add c)
  else if q.watches c.ident c.filter then .ok q else .error ENOENT

/-- The change list applied in order, with `room` records of event list left: a failed
    change is written back as an `EV_ERROR` record carrying its errno while there is room;
    with none the call fails with that errno and the rest of the list is not applied.
    Gives the registrations, the error records, and the failure if there was one. -/
def applyAll (q : Queue) : List Kevent → Nat → Queue × List Kevent × Option Nat
  | [], _ => (q, [], none)
  | c :: cs, room =>
    match q.apply c with
    | .ok q' => q'.applyAll cs room
    | .error e =>
      if room = 0 then (q, [], some e)
      else
        let rest := q.applyAll cs (room - 1)
        (rest.1, { c with flags := EV_ERROR, data := e } :: rest.2.1, rest.2.2)

end Queue

/-- What a `kevent(2)` call sees once its changes are applied: some watched pairs become
    ready, the timeout expires, or a signal interrupts the wait. -/
inductive Wake where
  | ready (fired : List (Nat × Int))
  | expired
  | interrupted
  deriving DecidableEq, Repr

/-- The record a ready registration is reported as. -/
def Knote.event (k : Knote) : Kevent := ⟨k.ident, k.filter, 0, 0, k.udata⟩

namespace Queue

/-- `kevent(kq, changelist, nchanges, eventlist, nevents, timeout)`: the queue after it,
    the records it wrote to the event list, and its reply. Ready one-shot registrations
    are removed once reported. -/
def kevent (q : Queue) (changes : List Kevent) (nevents : Nat) (wake : Wake) :
    Queue × List Kevent × Reply :=
  match q.applyAll changes nevents with
  | (q', errs, some e) => (q', errs, .failure e)
  | (q', errs, none) =>
    if errs ≠ [] then (q', errs, .events errs.length) else
    match wake with
    | .interrupted => (q', [], .failure EINTR)
    | .expired => (q', [], .events 0)
    | .ready fired =>
      let out := (q'.knotes.filter fun k => (k.ident, k.filter) ∈ fired).take nevents
      (⟨q'.knotes.filter fun k => !(k.oneshot && out.contains k)⟩, out.map Knote.event,
        .events out.length)

theorem apply_error {q : Queue} {c : Kevent} {e : Nat} (h : q.apply c = .error e) : e = ENOENT := by
  unfold apply at h
  split_ifs at h <;> cases h <;> rfl

theorem applyAll_spec (q : Queue) (cs : List Kevent) (room : Nat) :
    (q.applyAll cs room).2.1.length ≤ room ∧ ∀ e, (q.applyAll cs room).2.2 = some e → e = ENOENT := by
  induction cs generalizing q room with
  | nil => exact ⟨Nat.zero_le _, fun _ h => nomatch h⟩
  | cons c cs ih =>
      unfold applyAll
      split
      · exact ih _ room
      · next e he =>
          split_ifs with h0
          · exact ⟨Nat.zero_le _, fun _ h => (Option.some.inj h) ▸ apply_error he⟩
          · have := ih q (room - 1)
            exact ⟨by simp only [List.length_cons]; omega, this.2⟩

theorem kevent_written (q : Queue) (cs : List Kevent) (nevents : Nat) (wake : Wake) :
    (q.kevent cs nevents wake).2.1.length ≤ nevents ∧
      (∀ n, (q.kevent cs nevents wake).2.2 = .events n →
        n = (q.kevent cs nevents wake).2.1.length) ∧
      ((q.kevent cs nevents wake).2.2 = .failure EINTR → (q.kevent cs nevents wake).2.1 = []) := by
  have ⟨hroom, herr⟩ := applyAll_spec q cs nevents
  unfold kevent
  split
  · next q' errs e h =>
      rw [h] at hroom herr
      refine ⟨hroom, fun _ h => (nomatch h), fun h => ?_⟩
      cases h
      exact absurd (herr EINTR rfl) (by decide)
  · next q' errs h =>
      rw [h] at hroom
      split_ifs
      · exact ⟨hroom, fun _ h => (Reply.events.inj h).symm, fun h => (nomatch h)⟩
      · cases wake with
        | interrupted => exact ⟨Nat.zero_le _, fun _ h => (nomatch h), fun _ => rfl⟩
        | expired => exact ⟨Nat.zero_le _, fun _ h => (Reply.events.inj h).symm, fun h => (nomatch h)⟩
        | ready fired =>
            refine ⟨?_, fun _ h => ?_, fun h => (nomatch h)⟩
            · simp only [List.length_map, List.length_take]
              omega
            · simp only [List.length_map]
              exact (Reply.events.inj h).symm

end Queue

/-- The environment's side of one pass when the wrapper drives the kernel: `clock()`
    before the call, what the wait sees, and `clock()` after it. -/
structure Moment where
  start : UInt64
  wake : Wake
  stop : UInt64
  deriving DecidableEq, Repr

/-- The wrapper and the kernel together: the wrapper's state, the queue's registrations,
    the records the last call wrote to the event list, and for each call so far the change
    list the kernel read and the round the wrapper saw. -/
structure System where
  wait : Wait
  queue : Queue
  written : List Kevent
  submitted : List (List Kevent)
  rounds : List Round
  deriving DecidableEq, Repr

namespace System

/-- One pass, with `changes` stored at `changelist`: the call the wrapper makes reaches
    the kernel, which reads `nChanges` records of the change list and answers. -/
def step (a : Args) (changes : List Kevent) (s : System) (m : Moment) : System :=
  match s.wait with
  | .waiting remaining =>
    let c := call a remaining
    let read := changes.take c.nChanges.val.toNat
    let (q', recs, reply) := s.queue.kevent read c.nEvents.val.toNat m.wake
    ⟨Kqueue.step a s.wait ⟨m.start, reply, m.stop⟩, q', recs, s.submitted ++ [read],
      s.rounds ++ [⟨m.start, reply, m.stop⟩]⟩
  | .returned _ _ => s

/-- A call of the wrapper on queue `q`, once the environment has answered `moments`. -/
def run (a : Args) (changes : List Kevent) (q : Queue) (moments : List Moment) : System :=
  moments.foldl (step a changes) ⟨start a, q, [], [], []⟩

/-- Deleting the read filter of descriptor 5 with one record of event list. Interrupted
    once, the wrapper calls `kevent(2)` again with the same change list: the registration
    is already gone, the delete fails with `ENOENT` and comes back as an `EV_ERROR`
    record, so the call returns 1. Without the interrupt the wait times out and returns 0
    with nothing written. -/
theorem kevent_resubmits_changes :
    run oneSecond [⟨5, EVFILT_READ, EV_DELETE, 0, 0⟩] ⟨[⟨5, EVFILT_READ, false, 0⟩]⟩
        [⟨0, .interrupted, 1000⟩, ⟨1000, .expired, 2000⟩] =
      ⟨.returned (.events 1) 998000000, ⟨[]⟩, [⟨5, EVFILT_READ, EV_ERROR, ENOENT, 0⟩],
        [[⟨5, EVFILT_READ, EV_DELETE, 0, 0⟩], [⟨5, EVFILT_READ, EV_DELETE, 0, 0⟩]],
        [⟨0, .failure EINTR, 1000⟩, ⟨1000, .events 1, 2000⟩]⟩ ∧
    run oneSecond [⟨5, EVFILT_READ, EV_DELETE, 0, 0⟩] ⟨[⟨5, EVFILT_READ, false, 0⟩]⟩
        [⟨0, .expired, 1000⟩] =
      ⟨.returned (.events 0) 999000000, ⟨[]⟩, [], [[⟨5, EVFILT_READ, EV_DELETE, 0, 0⟩]],
        [⟨0, .events 0, 1000⟩]⟩ := by
  decide

end System

end QuestdbNative.Kqueue
