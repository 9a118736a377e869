import QuestdbNative.CTypes

/-! # The Winsock socket driver

`Net_socketTcp`, `Net_recv`, `Net_peek` and `Net_send` of the Windows backend. Each call
into Winsock is the environment's: the driver sees its return value and what
`WSAGetLastError()` reports after it. `SaveLastError()` copies that code into the slot the
Java side reads back (`Os.errno`), which is the only error channel besides the result.
The result codes `ERETRY` and `EOTHERDISCONNECT` come from the header `net.h`, which is not
part of the sources, so they are parameters.
-/

namespace QuestdbNative.Net

/-- `WSAEWOULDBLOCK` of `<winsock2.h>`. -/
def WSAEWOULDBLOCK : Nat := 10035

/-- `WSAEMFILE` of `<winsock2.h>`: no more socket descriptors. -/
def WSAEMFILE : Nat := 10024

/-- `WSAENOTSOCK` of `<winsock2.h>`: the handle is not a socket. -/
def WSAENOTSOCK : Nat := 10038

/-- `WSAECONNRESET` of `<winsock2.h>`. -/
def WSAECONNRESET : Nat := 10054

/-- `MSG_PEEK` of `<winsock2.h>`. -/
def MSG_PEEK : Nat := 2

/-- `INVALID_SOCKET`, `(SOCKET)(~0)` with the 64-bit `SOCKET` of Win64. -/
def INVALID_SOCKET : UInt64 := 0xFFFFFFFFFFFFFFFF

/-- The result codes of `net.h` the driver returns. -/
structure NetH where
  ERETRY : Int
  EOTHERDISCONNECT : Int

/-- What a Winsock call gave back: its return value and `WSAGetLastError()` after it. -/
structure Reply where
  n : Int
  lastError : Nat
  deriving DecidableEq, Repr

/-- A `recv` or `send` call as the driver makes it. -/
structure Transfer where
  fd : JInt
  addr : Int
  len : JInt
  flags : Nat
  deriving DecidableEq, Repr

/-- The result `Net_recv` and `Net_peek` make of `recv`'s reply, and the saved error after
    it: `SaveLastError()` runs only on the last branch. -/
def received (k : NetH) (o : Reply) (saved : Nat) : Int × Nat :=
  if o.n > 0 then (o.n, saved)
  else if o.n = 0 then (k.EOTHERDISCONNECT, saved)
  else if o.lastError = WSAEWOULDBLOCK then (k.ERETRY, saved)
  else (k.EOTHERDISCONNECT, o.lastError)

/-- A receive with the given `recv` flags; `winsock` answers the call it is given. -/
def receive (flags : Nat) (k : NetH) (fd : JInt) (addr : Int) (len : JInt)
    (winsock : Transfer → Reply) (saved : Nat) : Int × Nat :=
  received k (winsock ⟨fd, addr, len, flags⟩) saved

/-- `Java_io_questdb_network_Net_recv`: `recv((SOCKET) fd, (char *) addr, len, 0)`. -/
def recv : NetH → JInt → Int → JInt → (Transfer → Reply) → Nat → Int × Nat := receive 0

/-- `Java_io_questdb_network_Net_peek`: `recv((SOCKET) fd, (char *) addr, len, MSG_PEEK)`. -/
def peek : NetH → JInt → Int → JInt → (Transfer → Reply) → Nat → Int × Nat :=
  receive MSG_PEEK

/-- `Java_io_questdb_network_Net_send`: `send((SOCKET) fd, (const char *) addr, len, 0)`.
    Unlike the receives it tests `n > -1` and has no branch for zero. -/
def send (k : NetH) (fd : JInt) (addr : Int) (len : JInt) (winsock : Transfer → Reply)
    (saved : Nat) : Int × Nat :=
  let o := winsock ⟨fd, addr, len, 0⟩
  if o.n > -1 then (o.n, saved)
  else if o.lastError = WSAEWOULDBLOCK then (k.ERETRY, saved)
  else (k.EOTHERDISCONNECT, o.lastError)

/-- The sockets of the process as far as `Net_socketTcp` goes: the handles open, those in
    non-blocking mode, and the error code `SaveLastError` saved last. -/
structure Host where
  sockets : List UInt64
  nonBlocking : List UInt64
  saved : Nat
  deriving DecidableEq, Repr

/-- `Java_io_questdb_network_Net_socketTcp`. `socket(AF_INET, SOCK_STREAM, IPPROTO_TCP)`
    answers `s` (a handle it opened, or `INVALID_SOCKET`) and `ioctlsocket(s, FIONBIO, &1)`
    answers `ioctl`; the test is `if (s && !blocking)`, and the result `(jint) s`. -/
def socketTcp (blocking : Bool) (s : UInt64) (socketError : Nat) (ioctl : Reply)
    (h : Host) : Int × Host :=
  let h := if s ≠ INVALID_SOCKET then { h with sockets := s :: h.sockets } else h
  if s ≠ 0 ∧ blocking = false then
    if ioctl.n ≠ 0 then (-1, { h with saved := ioctl.lastError, sockets := h.sockets.erase s })
    else (asInt s.toNat, { h with nonBlocking := s :: h.nonBlocking })
  else (asInt s.toNat, { h with saved := socketError })

theorem receive_same (f g : Nat) (k : NetH) (fd : JInt) (addr : Int) (len : JInt) (o : Reply)
    (saved : Nat) :
    receive f k fd addr len (fun _ => o) saved = receive g k fd addr len (fun _ => o) saved :=
  rfl

/-- Result codes of the socket driver, for every reply of Winsock: `Net_recv` and
    `Net_peek` classify alike; a positive count is returned as it is and would-block as
    `ERETRY`; a clean close and every other failure both give `EOTHERDISCONNECT`, told
    apart only by the saved error, which only the failure replaces. `Net_send` returns
    every count `n ≥ 0`, zero included. -/
theorem net_result_codes (k : NetH) (fd : JInt) (addr : Int) (len : JInt) (o : Reply)
    (saved : Nat) :
    peek k fd addr len (fun _ => o) saved = recv k fd addr len (fun _ => o) saved ∧
    (0 < o.n → recv k fd addr len (fun _ => o) saved = (o.n, saved)) ∧
    (o.n < 0 → o.lastError = WSAEWOULDBLOCK →
      recv k fd addr len (fun _ => o) saved = (k.ERETRY, saved)) ∧
    (o.n = 0 → recv k fd addr len (fun _ => o) saved = (k.EOTHERDISCONNECT, saved)) ∧
    (o.n < 0 → o.lastError ≠ WSAEWOULDBLOCK →
      recv k fd addr len (fun _ => o) saved = (k.EOTHERDISCONNECT, o.lastError)) ∧
    (0 ≤ o.n → send k fd addr len (fun _ => o) saved = (o.n, saved)) ∧
    (o.n < 0 → o.lastError = WSAEWOULDBLOCK →
      send k fd addr len (fun _ => o) saved = (k.ERETRY, saved)) ∧
    (o.n < 0 → o.lastError ≠ WSAEWOULDBLOCK →
      send k fd addr len (fun _ => o) saved = (k.EOTHERDISCONNECT, o.lastError)) := by
  refine ⟨receive_same _ _ k fd addr len o saved, ?_, ?_, ?_, ?_, ?_, ?_, ?_⟩ <;>
    intros <;> simp only [recv, receive, received, send] <;> split_ifs <;> first | rfl | omega

theorem recv_failure_code_is_disconnect_code :
    ¬ ∃ k : NetH, ∀ (fd : JInt) (addr : Int) (len : JInt) (o o' : Reply) (saved : Nat),
      o.n = 0 → o'.n < 0 → o'.lastError ≠ WSAEWOULDBLOCK →
        (recv k fd addr len (fun _ => o') saved).1 ≠ (recv k fd addr len (fun _ => o) saved).1 := by
  rintro ⟨k, h⟩
  exact h ⟨0, by decide, by decide⟩ 0 ⟨0, by decide, by decide⟩ ⟨0, 0⟩ ⟨-1, WSAECONNRESET⟩ 0
    rfl (by decide) (by decide) (by simp [recv, receive, received, WSAECONNRESET, WSAEWOULDBLOCK])

/-- With `blocking = false` a failed `socket()` passes the test `if (s && !blocking)`,
    since `INVALID_SOCKET` is not zero: the driver calls `ioctlsocket` on it, saves that
    call's error `WSAENOTSOCK` in place of `socket()`'s `WSAEMFILE`, and closes it. -/
theorem socketTcp_invalid_socket :
    socketTcp false INVALID_SOCKET WSAEMFILE ⟨-1, WSAENOTSOCK⟩ ⟨[], [], 0⟩ =
      (-1, ⟨[], [], WSAENOTSOCK⟩) := by
  decide

end QuestdbNative.Net
