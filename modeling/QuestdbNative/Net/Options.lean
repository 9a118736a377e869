import QuestdbNative.Net.Address
import QuestdbNative.Net.Multicast

/-! # Socket options, connects and keep-alive

The rest of the Windows socket driver. Each entry point makes one Winsock call and reports
its failure through its result and the saved error: `get_int_sockopt` and `set_int_sockopt`
test for `SOCKET_ERROR`, the connects and `configureNonBlocking` for a negative result, and
`setKeepAlive0` answers `-1` or the descriptor. Under Winsock's convention that its calls
return `0` or `SOCKET_ERROR`, the tests agree and every entry point saves the error exactly
when its call failed.
-/

namespace QuestdbNative.Net

/-- `SOCKET_ERROR` of `<winsock2.h>`. -/
def SOCKET_ERROR : Int := -1

/-- `SOL_SOCKET` of `<winsock2.h>`. -/
def SOL_SOCKET : Nat := 0xffff

/-- `SO_SNDBUF` of `<winsock2.h>`. -/
def SO_SNDBUF : Nat := 0x1001

/-- `IPPROTO_TCP` of `<winsock2.h>`. -/
def IPPROTO_TCP : Nat := 6

/-- `TCP_NODELAY` of `<ws2def.h>`. -/
def TCP_NODELAY : Nat := 0x0001

/-- `FIONBIO` of `<winsock2.h>`, `_IOW('f', 126, u_long)`. -/
def FIONBIO : Nat := 0x8004667E

/-- `SIO_KEEPALIVE_VALS` of `<mstcpip.h>`, `_WSAIOW(IOC_VENDOR, 4)`. -/
def SIO_KEEPALIVE_VALS : Nat := 0x98000004

/-- A `getsockopt` call: socket, level and option, into an `int`. -/
structure GetsockoptCall where
  fd : JInt
  level : Nat
  optname : Nat
  deriving DecidableEq, Repr

/-- `get_int_sockopt`: `getsockopt` answers its reply and the `int` it stored. -/
def getIntSockopt (fd : JInt) (level opt : Nat) (getsockopt : GetsockoptCall → Reply × Int)
    (saved : Nat) : Int × Nat :=
  let (o, value) := getsockopt ⟨fd, level, opt⟩
  if o.n = SOCKET_ERROR then (o.n, o.lastError) else (value, saved)

/-- `set_int_sockopt`: the `DWORD` value is passed as its four bytes. -/
def setIntSockopt (fd : JInt) (level opt value : Nat) (setsockopt : SockoptCall → Reply)
    (saved : Nat) : Int × Nat :=
  let o := setsockopt ⟨fd, level, opt, storeLE 4 value⟩
  if o.n = SOCKET_ERROR then (o.n, o.lastError) else (o.n, saved)

/-- `Java_io_questdb_network_Net_setSndBuf`: `SO_SNDBUF` set to `(DWORD) size`. -/
def setSndBuf (fd size : JInt) : (SockoptCall → Reply) → Nat → Int × Nat :=
  setIntSockopt fd SOL_SOCKET SO_SNDBUF (toULong size.val)

/-- `Java_io_questdb_network_Net_getSndBuf`. -/
def getSndBuf (fd : JInt) : (GetsockoptCall → Reply × Int) → Nat → Int × Nat :=
  getIntSockopt fd SOL_SOCKET SO_SNDBUF

/-- `Java_io_questdb_network_Net_setTcpNoDelay`: the `jboolean` as `0` or `1`. -/
def setTcpNoDelay (fd : JInt) (noDelay : Bool) : (SockoptCall → Reply) → Nat → Int × Nat :=
  setIntSockopt fd IPPROTO_TCP TCP_NODELAY (if noDelay then 1 else 0)

/-- The result and saved error of an entry point that returns its one Winsock call's
    result and saves the error when it is negative. -/
def resultOf (o : Reply) (saved : Nat) : Int × Nat :=
  if o.n < 0 then (o.n, o.lastError) else (o.n, saved)

/-- A `connect` call: socket, address and its length. -/
structure ConnectCall where
  fd : JInt
  name : Int
  namelen : Nat
  deriving DecidableEq, Repr

/-- `Java_io_questdb_network_Net_connect`: the length is `sizeof(struct sockaddr)`. -/
def connect (fd : JInt) (sockAddr : Int) (winsock : ConnectCall → Reply) (saved : Nat) :
    Int × Nat :=
  resultOf (winsock ⟨fd, sockAddr, 16⟩) saved

/-- The fields of an `addrinfo` that `connectAddrInfo` reads. -/
structure AddrInfo where
  aiAddr : Int
  aiAddrlen : Nat
  deriving DecidableEq, Repr

/-- `Java_io_questdb_network_Net_connectAddrInfo`: it reads `ai_addr` and `ai_addrlen`
    of the record at `lpAddrInfo`, whose contents `chain` gives; reading a record that is
    not live is undefined, the result `none`. -/
def connectAddrInfo (fd : JInt) (lpAddrInfo : Int) (chain : Int → AddrInfo) (h : Heap)
    (winsock : ConnectCall → Reply) (saved : Nat) : Option (Int × Nat) :=
  if (.addrInfo, lpAddrInfo) ∈ h.live then
    let addr := chain lpAddrInfo
    some (resultOf (winsock ⟨fd, addr.aiAddr, addr.aiAddrlen⟩) saved)
  else none

/-- An `ioctlsocket` call: socket, command and the `u_long` argument. -/
structure IoctlCall where
  s : JInt
  cmd : Nat
  argp : Nat
  deriving DecidableEq, Repr

/-- `Java_io_questdb_network_Net_configureNonBlocking`: `FIONBIO` with mode `1`. -/
def configureNonBlocking (fd : JInt) (ioctlsocket : IoctlCall → Reply) (saved : Nat) :
    Int × Nat :=
  resultOf (ioctlsocket ⟨fd, FIONBIO, 1⟩) saved

/-- A `struct tcp_keepalive` of `<mstcpip.h>`: on or off, then the idle time and the
    probe interval in milliseconds, each a `ULONG`. -/
structure TcpKeepalive where
  onoff : Nat
  keepalivetime : Nat
  keepaliveinterval : Nat
  deriving DecidableEq, Repr

/-- A `WSAIoctl` call with a `tcp_keepalive` input buffer. -/
structure WsaIoctlCall where
  s : JInt
  code : Nat
  keepalive : TcpKeepalive
  deriving DecidableEq, Repr

/-- `keepaliveParams.keepaliveinterval = keepaliveParams.keepalivetime = idle_sec * 1000;`:
    an `int` product stored in a `ULONG`. -/
def keepaliveMs (idleSec : JInt) : Nat := toULong (asInt (idleSec.val * 1000))

/-- `Java_io_questdb_network_Net_setKeepAlive0`: keep-alive on, with both times
    `keepaliveMs idleSec`. -/
def setKeepAlive0 (fd idleSec : JInt) (wsaIoctl : WsaIoctlCall → Reply) (saved : Nat) :
    Int × Nat :=
  let o := wsaIoctl ⟨fd, SIO_KEEPALIVE_VALS, ⟨1, keepaliveMs idleSec, keepaliveMs idleSec⟩⟩
  if o.n < 0 then (-1, o.lastError) else (fd.val, saved)

/-- Winsock's convention for these calls: `0` on success, `SOCKET_ERROR` on failure. -/
def Reply.Conventional (o : Reply) : Prop := o.n = 0 ∨ o.n = SOCKET_ERROR

theorem setIntSockopt_eq_resultOf (fd : JInt) (level opt value : Nat)
    (setsockopt : SockoptCall → Reply) (saved : Nat)
    (h : (setsockopt ⟨fd, level, opt, storeLE 4 value⟩).Conventional) :
    setIntSockopt fd level opt value setsockopt saved =
      resultOf (setsockopt ⟨fd, level, opt, storeLE 4 value⟩) saved := by
  rcases h with h | h <;> simp [setIntSockopt, resultOf, SOCKET_ERROR, h]

/-- In every session of the address lifecycle, `connectAddrInfo` on a held `addrinfo`
    value other than the failure value reads a live record, so its dereference is
    defined, and it connects to the address the record holds. -/
theorem connectAddrInfo_defined (s : Session) (hs : Reachable s) (p : Int)
    (held : (.addrInfo, p) ∈ s.held) (ok : p ≠ -1) (fd : JInt) (chain : Int → AddrInfo)
    (winsock : ConnectCall → Reply) (saved : Nat) :
    connectAddrInfo fd p chain s.heap winsock saved =
      some (resultOf (winsock ⟨fd, (chain p).aiAddr, (chain p).aiAddrlen⟩) saved) := by
  rw [connectAddrInfo, if_pos (hs.live_of_held held ok)]

theorem connectAddrInfo_defined_resolved :
    Reachable ⟨⟨[(.addrInfo, 7)]⟩, [(.addrInfo, 7)]⟩ ∧
      connectAddrInfo ⟨3, by decide, by decide⟩ 7 (fun _ => ⟨4096, 16⟩) ⟨[(.addrInfo, 7)]⟩
        (fun _ => ⟨0, 0⟩) 0 = some (0, 0) :=
  have hs : Reachable ⟨⟨[(.addrInfo, 7)]⟩, [(.addrInfo, 7)]⟩ :=
    @Reachable.getAddrInfo0 _ 0 ⟨80, by decide, by decide⟩ (.ok 7) 0 .start
      (fun _ h => by cases h; exact ⟨by decide, by simp⟩)
  ⟨hs, connectAddrInfo_defined _ hs 7 (by simp) (by decide) ⟨3, by decide, by decide⟩
    (fun _ => ⟨4096, 16⟩) (fun _ => ⟨0, 0⟩) 0⟩

end QuestdbNative.Net
