import QuestdbNative.ByteOrder

/-! # Address records and their release

`Net_sockaddr0` and `Net_getAddrInfo0` hand the Java side a pointer to a record they
allocated (a `calloc`ed `sockaddr_in`, or the `addrinfo` chain `getaddrinfo` built), or
`-1` when resolution failed. `Net_freeSockAddr0` and `Net_freeAddrInfo0` release one with
`free` or `freeaddrinfo`, and do nothing for `0`. The C heap is modelled by the records it
holds live; releasing anything else is undefined behaviour, the error result `none`.
A session tracks, beside the heap, the values the Java side was handed and still holds.
-/

namespace QuestdbNative.Net

/-- The two kinds of address record, by the function that allocates them. -/
inductive Kind where
  | sockAddr
  | addrInfo
  deriving DecidableEq, Repr

/-- The address records the C heap holds live, by kind and address. -/
structure Heap where
  live : List (Kind × Int)
  deriving DecidableEq, Repr

/-- What an allocator may hand out: a nonnull block that is not live. -/
def Heap.Fresh (h : Heap) (p : Int) : Prop := 0 < p ∧ ∀ k, (k, p) ∉ h.live

/-- `free` (for a `sockaddr_in`) or `freeaddrinfo` (for an `addrinfo` chain) of `p`:
    defined only on a live record of the matching kind. -/
def Heap.free (h : Heap) (k : Kind) (p : Int) : Option Heap :=
  if (k, p) ∈ h.live then some ⟨h.live.erase (k, p)⟩ else none

/-- `AF_INET` of `<winsock2.h>`. -/
def AF_INET : Nat := 2

/-- `SOCK_STREAM` of `<winsock2.h>`. -/
def SOCK_STREAM : Nat := 1

/-- A `struct sockaddr_in`: family, port and address, the last two in network order. -/
structure SockaddrIn where
  sinFamily : Nat
  sinPort : Nat
  sinAddr : Nat
  deriving DecidableEq, Repr

/-- `Java_io_questdb_network_Net_sockaddr0`: `calloc` returns the block `p`, which is
    filled and returned. -/
def sockaddr0 (address port : JInt) (p : Int) (h : Heap) : Int × Heap × SockaddrIn :=
  (p, ⟨(.sockAddr, p) :: h.live⟩,
    ⟨AF_INET, htons (toUShort port.val), htonl (toULong address.val)⟩)

/-- What `getaddrinfo` is asked: the host string at `host`, the port as `itoa` prints it,
    and the hints `AF_INET` and `SOCK_STREAM`. -/
structure GaiRequest where
  host : Int
  service : String
  family : Nat
  socktype : Nat
  deriving DecidableEq, Repr

/-- What `getaddrinfo` answers: the chain it allocated, or its error code together with
    `WSAGetLastError()`. -/
inductive GaiReply where
  | ok (p : Int)
  | error (code : Nat) (lastError : Nat)
  deriving DecidableEq, Repr

/-- `Java_io_questdb_network_Net_getAddrInfo0`: the chain on success; `-1` after
    `SaveLastError()` on failure. Gives the result, the heap and the saved error. -/
def getAddrInfo0 (host : Int) (port : JInt) (getaddrinfo : GaiRequest → GaiReply) (h : Heap)
    (saved : Nat) : Int × Heap × Nat :=
  match getaddrinfo ⟨host, toString port.val, AF_INET, SOCK_STREAM⟩ with
  | .ok p => (p, ⟨(.addrInfo, p) :: h.live⟩, saved)
  | .error _ lastError => (-1, h, lastError)

/-- The release functions: nothing for `0`, else `free`/`freeaddrinfo` of `address`. -/
def release (k : Kind) (address : Int) (h : Heap) : Option Heap :=
  if address ≠ 0 then h.free k address else some h

/-- `Java_io_questdb_network_Net_freeSockAddr0`. -/
def freeSockAddr0 : Int → Heap → Option Heap := release .sockAddr

/-- `Java_io_questdb_network_Net_freeAddrInfo0`. -/
def freeAddrInfo0 : Int → Heap → Option Heap := release .addrInfo

/-- A Java-side session: the C heap, and the values the constructors returned that the
    session still holds, each with the kind of its constructor. -/
structure Session where
  heap : Heap
  held : List (Kind × Int)
  deriving DecidableEq, Repr

/-- The sessions reachable by any sequence of calls: a constructor's value is held until
    it is passed, once, to the free function of its kind, and that call is defined. The
    allocator hands out fresh blocks; `getaddrinfo` may fail. -/
inductive Reachable : Session → Prop where
  | start : Reachable ⟨⟨[]⟩, []⟩
  | sockaddr0 {s : Session} {address port : JInt} {p : Int} :
      Reachable s → s.heap.Fresh p →
      Reachable ⟨(sockaddr0 address port p s.heap).2.1, (.sockAddr, p) :: s.held⟩
  | getAddrInfo0 {s : Session} {host : Int} {port : JInt} {reply : GaiReply} {saved : Nat} :
      Reachable s → (∀ p, reply = .ok p → s.heap.Fresh p) →
      Reachable ⟨(getAddrInfo0 host port (fun _ => reply) s.heap saved).2.1,
        (.addrInfo, (getAddrInfo0 host port (fun _ => reply) s.heap saved).1) :: s.held⟩
  | release {s : Session} {x : Kind × Int} {h : Heap} :
      Reachable s → x ∈ s.held → release x.1 x.2 s.heap = some h →
      Reachable ⟨h, s.held.erase x⟩

/-- What every reachable session keeps: each value held is a block or the failure value
    `-1`, and each block value is held exactly as often as its record is live. -/
structure Tracked (s : Session) : Prop where
  values : ∀ x ∈ s.held, x.2 = -1 ∨ 0 < x.2
  counted : ∀ x : Kind × Int, x.2 ≠ -1 → s.held.count x = s.heap.live.count x

theorem release_eq {k : Kind} {address : Int} {h h' : Heap} (nonzero : address ≠ 0)
    (hr : release k address h = some h') :
    (k, address) ∈ h.live ∧ h' = ⟨h.live.erase (k, address)⟩ := by
  simp only [release, Heap.free, nonzero, ne_eq, not_false_eq_true, if_true] at hr
  split at hr
  · exact ⟨‹_›, (Option.some.inj hr).symm⟩
  · cases hr

namespace Tracked

theorem start : Tracked ⟨⟨[]⟩, []⟩ := ⟨by simp, by simp⟩

theorem alloc {s : Session} (hs : Tracked s) {k : Kind} {p : Int} (pos : 0 < p) :
    Tracked ⟨⟨(k, p) :: s.heap.live⟩, (k, p) :: s.held⟩ := by
  refine ⟨fun x hx => ?_, fun x hx => ?_⟩
  · rcases List.mem_cons.mp hx with rfl | hx
    exacts [.inr pos, hs.values x hx]
  · simp only [List.count_cons, hs.counted x hx]

theorem failed {s : Session} (hs : Tracked s) :
    Tracked ⟨s.heap, (.addrInfo, -1) :: s.held⟩ := by
  refine ⟨fun x hx => ?_, fun x hx => ?_⟩
  · rcases List.mem_cons.mp hx with rfl | hx
    exacts [.inl rfl, hs.values x hx]
  · have hne : ((Kind.addrInfo, (-1 : Int)) == x) = false := by
      simp only [beq_eq_false_iff_ne]; rintro rfl; exact hx rfl
    simp only [List.count_cons, hne, hs.counted x hx]; rfl

theorem release {s : Session} (hs : Tracked s) {x : Kind × Int} {h : Heap} (hx : x ∈ s.held)
    (hr : Net.release x.1 x.2 s.heap = some h) : Tracked ⟨h, s.held.erase x⟩ := by
  have nonzero : x.2 ≠ 0 := by rcases hs.values x hx with h | h <;> omega
  obtain ⟨-, rfl⟩ := release_eq nonzero hr
  refine ⟨fun y hy => hs.values y (List.mem_of_mem_erase hy), fun y hy => ?_⟩
  by_cases hxy : y = x
  · subst hxy
    simp only [List.count_erase_self, hs.counted y hy]
  · simp only [List.count_erase_of_ne hxy, hs.counted y hy]

end Tracked

theorem Reachable.tracked {s : Session} (h : Reachable s) : Tracked s := by
  induction h with
  | start => exact Tracked.start
  | sockaddr0 _ fresh ih => exact ih.alloc fresh.1
  | @getAddrInfo0 _ _ _ reply _ _ fresh ih =>
      cases reply with
      | ok p => exact ih.alloc (fresh p rfl).1
      | error => exact ih.failed
  | release _ hx hr ih => exact ih.release hx hr

/-- A held value other than the failure value names a live record of its kind. -/
theorem Reachable.live_of_held {s : Session} (hs : Reachable s) {x : Kind × Int}
    (hx : x ∈ s.held) (hne : x.2 ≠ -1) : x ∈ s.heap.live := by
  rw [← List.count_pos_iff, ← hs.tracked.counted x hne, List.count_pos_iff]
  exact hx

/-- Address-record lifecycle: in every session reached by any sequence of constructor
    and release calls, with any outcome of `getaddrinfo`, passing a held value other than
    the failure value `-1` to the release of its kind finds a live record of that kind
    and releases exactly it; and each release function is a no-op exactly on `0`. -/
theorem address_release_safe :
    (∀ s, Reachable s → ∀ x ∈ s.held, x.2 ≠ -1 →
      x ∈ s.heap.live ∧ release x.1 x.2 s.heap = some ⟨s.heap.live.erase x⟩) ∧
    ∀ k address h, release k address h = some h ↔ address = 0 := by
  refine ⟨fun s hs x hx hne => ?_, fun k address h => ⟨fun hr => ?_, fun h0 => h0 ▸ rfl⟩⟩
  · have hlive := hs.live_of_held hx hne
    have nonzero : x.2 ≠ 0 := by rcases hs.tracked.values x hx with h | h <;> omega
    refine ⟨hlive, ?_⟩
    simp only [release, Heap.free, nonzero, ne_eq, not_false_eq_true, if_true, hlive]
  · by_contra nonzero
    obtain ⟨hmem, he⟩ := release_eq nonzero hr
    have := congrArg (fun h : Heap => h.live.length) he
    simp only [List.length_erase_of_mem hmem] at this
    have := List.length_pos_of_mem hmem
    omega

theorem freeAddrInfo0_of_failure_value :
    ¬ ∀ s, Reachable s → ∀ x ∈ s.held, release x.1 x.2 s.heap ≠ none := fun h =>
  h _ (@Reachable.getAddrInfo0 _ 0 ⟨80, by decide, by decide⟩ (.error 11001 11001) 0 .start
    (fun _ h => by cases h)) (.addrInfo, -1) (by simp [getAddrInfo0]) (by decide)

end QuestdbNative.Net
