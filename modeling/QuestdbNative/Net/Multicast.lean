import QuestdbNative.ByteOrder
import QuestdbNative.Net.Socket

/-! # The multicast membership request

`Net_join` fills a `struct ip_mreq_source` and passes it to
`setsockopt(IPPROTO_IP, IP_ADD_MEMBERSHIP)`. On Windows that option reads its buffer as a
`struct ip_mreq`, the group address and then the interface address, and in the Windows
layout of `ip_mreq_source` the second address is `imr_sourceaddr`, which the code sets to
zero: the request names the group but never `bindAddress`.
-/

namespace QuestdbNative.Net

/-- `IPPROTO_IP` of `<winsock2.h>`. -/
def IPPROTO_IP : Nat := 0

/-- `IP_ADD_MEMBERSHIP` of `<ws2ipdef.h>`. -/
def IP_ADD_MEMBERSHIP : Nat := 12

/-- A `setsockopt` call: the socket, the level, the option and the bytes of its buffer. -/
structure SockoptCall where
  fd : JInt
  level : Nat
  optname : Nat
  optval : List Nat
  deriving DecidableEq, Repr

/-- `struct ip_mreq_source imr` as `Net_join` fills it, in the Windows layout:
    `imr_multiaddr` at 0, `imr_sourceaddr` at 4 and `imr_interface` at 8, each the
    `s_addr` of an `in_addr`. -/
def ipMreqSource (bindAddress groupAddress : JInt) : List Nat :=
  storeLE 4 (htonl (toULong groupAddress.val)) ++ storeLE 4 0 ++
    storeLE 4 (htonl (toULong bindAddress.val))

/-- `Java_io_questdb_network_Net_join`: `TRUE` unless `setsockopt` fails, when it saves
    the error and returns `FALSE`. -/
def join (fd bindAddress groupAddress : JInt) (setsockopt : SockoptCall → Reply)
    (saved : Nat) : Bool × Nat :=
  let o := setsockopt ⟨fd, IPPROTO_IP, IP_ADD_MEMBERSHIP, ipMreqSource bindAddress groupAddress⟩
  if o.n < 0 then (false, o.lastError) else (true, saved)

/-- A `struct ip_mreq`: the group, then the local interface. -/
structure IpMreq where
  imrMultiaddr : Nat
  imrInterface : Nat
  deriving DecidableEq, Repr

/-- The `ip_mreq` that `IP_ADD_MEMBERSHIP` reads from the first eight bytes of its buffer. -/
def readIpMreq (optval : List Nat) : IpMreq :=
  ⟨loadLE (optval.take 4), loadLE ((optval.drop 4).take 4)⟩

theorem fields_of_append {a b : List Nat} (c : List Nat) (ha : a.length = 4)
    (hb : b.length = 4) : (a ++ b ++ c).take 4 = a ∧ ((a ++ b ++ c).drop 4).take 4 = b := by
  rw [List.append_assoc, List.take_left' ha, List.drop_left' ha, List.take_left' hb]
  exact ⟨rfl, rfl⟩

/-- What `IP_ADD_MEMBERSHIP` reads from `Net_join`'s buffer, for every pair of addresses:
    the group in network order, and the interface `0` (`INADDR_ANY`), the zeroed
    `imr_sourceaddr`, whatever `bindAddress` is. -/
theorem join_membership (bindAddress groupAddress : JInt) :
    readIpMreq (ipMreqSource bindAddress groupAddress) =
      ⟨htonl (toULong groupAddress.val), 0⟩ := by
  obtain ⟨h0, h4⟩ := fields_of_append (storeLE 4 (htonl (toULong bindAddress.val)))
    (length_storeLE 4 (htonl (toULong groupAddress.val))) (length_storeLE 4 0)
  simp only [readIpMreq, ipMreqSource, h0, h4, loadLE_storeLE, Nat.zero_mod, Nat.mod_eq_of_lt,
    htonl_lt]

/-- Joining 224.0.0.1 on the interface 10.0.0.1: the option reads the interface `0`, not
    `htonl(bindAddress)`. -/
theorem join_ignores_bind_address :
    readIpMreq (ipMreqSource ⟨167772161, by decide, by decide⟩ ⟨-536870911, by decide, by decide⟩) =
      ⟨htonl 3758096385, 0⟩ ∧
    htonl (toULong 167772161) = 16777226 := by
  decide

end QuestdbNative.Net
