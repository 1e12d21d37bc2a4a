import Mathlib.Algebra.Group.Nat.Defs
import Mathlib.Data.Vector.Defs
import Mathlib.Data.Int.Basic
import Mathlib.Tactic.Common

/-!
# The C interface's types and constants

Field for field what `abi.rs` declares and the rest of the module reads. Fixed
byte arrays are vectors, so a key of the wrong length cannot be written down.
Numeric fields are natural numbers; where the code narrows a length to a fixed
width, the narrowing is written out at that place.
-/

namespace Libp2pFfi

/-- What is on the wire, in a buffer, or in a queue. -/
abbrev Bytes := List UInt8

/-- `lp2p_key`: the 32 bytes of an ed25519 public key, a group, or a topic. -/
abbrev Key := List.Vector UInt8 32

/-- A key of which every byte is `byte`. -/
def Key.filled (byte : UInt8) : Key := ⟨List.replicate 32 byte, List.length_replicate⟩

/-- Nanoseconds on the monotonic clock. `saturating_duration_since` and the
saturating `duration_since` are both truncated subtraction. -/
abbrev Instant := Nat

/-- Nanoseconds. -/
abbrev Duration := Nat

/-- `Duration::from_secs`. -/
def Duration.fromSecs (seconds : Nat) : Duration := seconds * 1000000000

/-- `Duration::from_millis`. -/
def Duration.fromMillis (milliseconds : Nat) : Duration := milliseconds * 1000000

/-- `as i32`: the value modulo 2^32, read as two's complement. -/
def asI32 (value : Nat) : Int := (BitVec.ofNat 32 value).toInt

/-- Narrowing to `i32` is exact up to `i32::MAX`. -/
theorem asI32_of_le {value : Nat} (small : value ≤ 2147483647) : asI32 value = value := by
  have width : value % 2 ^ 32 = value := Nat.mod_eq_of_lt (by omega)
  rw [asI32, BitVec.toInt_eq_toNat_of_lt]
  · rw [BitVec.toNat_ofNat, width]
  · rw [BitVec.toNat_ofNat, width]
    omega

/-! Status codes. -/

/-- `LP2P_OK`. -/
def statusOk : Int := 0

/-- `LP2P_ERR_INVALID_ARGUMENT`: the call did nothing. -/
def errInvalidArgument : Int := -1

/-- `LP2P_ERR_BUFFER_TOO_SMALL`: the record stays queued. -/
def errBufferTooSmall : Int := -2

/-- `LP2P_ERR_LIMITED`: a bound of the options is reached. -/
def errLimited : Int := -5

/-- `LP2P_ERR_UNAVAILABLE`: the call is valid, and what it needs is switched off. -/
def errUnavailable : Int := -6

/-- `LP2P_ERR_SHUT_DOWN`: the node has stopped, or does not answer. -/
def errShutDown : Int := -7

/-- `LP2P_ERR_PANIC`: something has panicked inside the module. -/
def errPanic : Int := -99

/-- `LP2P_DELEGATION_BYTES`: node key (32), group key (32), expiry (8), signature (64). -/
def delegationBytes : Nat := 136

/-- `lp2p_rate`: `amount` tokens every `intervalMs`, at most `burst` of them kept. -/
structure Rate where
  amount : Nat
  intervalMs : Nat
  burst : Nat
deriving DecidableEq, Repr

/-! Events. -/

/-- `LP2P_EV_*`. -/
inductive EventKind where
  | listening
  | reachability
  | peerConnected
  | peerDisconnected
  | rpcRequest
  | rpcResponse
  | rpcFailed
  | announcement
  | peerDiscovered
  | dhtResult
  | limited
  | overflow
  | holePunch
  | topicMessage
deriving DecidableEq, Repr

/-- The number an event kind travels as. -/
def EventKind.code : EventKind → Nat
  | listening => 1
  | reachability => 2
  | peerConnected => 3
  | peerDisconnected => 4
  | rpcRequest => 5
  | rpcResponse => 6
  | rpcFailed => 7
  | announcement => 8
  | peerDiscovered => 9
  | dhtResult => 10
  | limited => 11
  | overflow => 12
  | holePunch => 13
  | topicMessage => 14

/-- `LP2P_EVF_LAST`. -/
def evfLast : Nat := 1

/-! `LP2P_REACH_*`. -/

/-- AutoNAT decides, if it is on. -/
def reachUnknown : Nat := 0

/-- Other nodes can dial this one. -/
def reachPublic : Nat := 1

/-- They can reach it through a relay only. -/
def reachPrivate : Nat := 2

/-! `LP2P_FAIL_*`. -/

/-- The call's time was over. -/
def failTimeout : Nat := 1

/-- No node of the group could be asked. -/
def failUnreachable : Nat := 2

/-- The last node that was asked refused, or its answer failed the check. -/
def failRefused : Nat := 3

/-- `lp2p_event`, the header every record starts with. -/
structure Event where
  kind : EventKind
  flags : Nat := 0
  size : Nat := 0
  id : Nat := 0
  group : Key := Key.filled 0
  node : Key := Key.filled 0
  protocol : Nat := 0
  reason : Nat := 0
  dataLen : Nat := 0
deriving DecidableEq

/-- `LP2P_EVENT_HEADER_BYTES`. -/
def eventHeaderBytes : Nat := 88

/-! Peer classes and limits. -/

/-- `LP2P_CLASS_UNKNOWN`: every group nobody classified. -/
def classUnknown : Nat := 0

/-- `LP2P_CLASS_BLOCKED`: nothing of the group passes. -/
def classBlocked : Nat := 255

/-- `LP2P_PROTOCOL_ANY`: a rule for every protocol. -/
def protocolAny : Nat := 0xffff

/-- `LP2P_PROTOCOL_TOPICS`: a rule for published messages, not for a protocol. -/
def protocolTopics : Nat := 0xfffe

/-- `LP2P_LIMITED_BLOCKED`: the reason reported for a blocked group. -/
def limitedBlocked : Nat := 255

/-- A bucket for each peer. -/
def scopePeer : Nat := 0

/-- A bucket for each IPv4 /24 or IPv6 /56, and none for a relayed connection. -/
def scopeIpPrefix : Nat := 1

/-- One bucket for all. -/
def scopeGlobal : Nat := 2

end Libp2pFfi
