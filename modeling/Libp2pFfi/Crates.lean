import Libp2pFfi.Abi

/-!
# What the module takes from other crates

Peer ids and multiaddresses are data and are written out as far as the module
looks inside them. Signatures, hashes, the protobuf encoding of public keys, the
text form of an address and the check of a protocol name are computed by code that
is not part of the repository; they are the fields of `Crates`, and every definition
that needs one takes it from there.
-/

namespace Libp2pFfi

/-- A fixed-length byte array. -/
abbrev ByteVec (length : Nat) := List.Vector UInt8 length

/-- An ed25519 signature. -/
abbrev Signature := ByteVec 64

/-- A peer id is a multihash: a code, and a digest under it. -/
structure PeerId where
  code : Nat
  digest : Bytes
deriving DecidableEq, Repr

/-- `std::net::IpAddr`. -/
inductive IpAddr where
  | v4 (octets : ByteVec 4)
  | v6 (octets : ByteVec 16)
deriving DecidableEq

/-- One component of a multiaddress. Those the module does not look at are
carried as text. -/
inductive Protocol where
  | ip4 (octets : ByteVec 4)
  | ip6 (octets : ByteVec 16)
  | p2p (peer : PeerId)
  | p2pCircuit
  | other (text : String)
deriving DecidableEq

abbrev Multiaddr := List Protocol

/-- The functions the module calls in other crates. -/
structure Crates where
  /-- `ed25519::PublicKey::try_from_bytes` answers Ok. -/
  isPublicKey : Key → Bool
  /-- `PublicKey::verify` of the key these bytes are. -/
  verify : Key → Bytes → Signature → Bool
  /-- The public key of the keypair a seed makes, when it makes one. -/
  publicFromSeed : Key → Option Key
  /-- The signature of the keypair a seed makes. -/
  sign : Key → Bytes → Signature
  /-- `PublicKey::try_decode_protobuf` and `try_into_ed25519`, both Ok. -/
  decodeEd25519 : Bytes → Option Key
  /-- `PublicKey::to_peer_id`. -/
  toPeerId : Key → PeerId
  /-- `Sha256::digest`. -/
  sha256 : Key → ByteVec 32
  /-- The UTF-8 bytes of a multiaddress's `to_string`. -/
  display : Multiaddr → Bytes
  /-- `str::parse::<Multiaddr>`. -/
  parse : String → Option Multiaddr
  /-- `StreamProtocol::try_from_owned`. -/
  streamProtocol : String → Option String

/-! Addresses, as `node.rs` reads them. -/

/-- Whether an address leads through a relay. -/
def isRelayed (address : Multiaddr) : Bool := address.any (· == .p2pCircuit)

/-- The address without its `/p2p/<peer>` parts, so one can be appended. -/
def withoutPeer (address : Multiaddr) : Multiaddr :=
  address.filter fun
    | .p2p _ => false
    | _ => true

/-- The first IP in an address. -/
def ipOf (address : Multiaddr) : Option IpAddr :=
  address.findSome? fun
    | .ip4 octets => some (.v4 octets)
    | .ip6 octets => some (.v6 octets)
    | _ => none

/-- Whether an address begins with a loopback IP: 127.0.0.0/8 or ::1. -/
def isLoopback (address : Multiaddr) : Bool :=
  match address.head? with
  | some (.ip4 octets) => octets.toList.head? == some 127
  | some (.ip6 octets) => octets.toList == List.replicate 15 0 ++ [1]
  | _ => false

/-- Whether an address begins with 0.0.0.0 or ::. -/
def isUnspecified (address : Multiaddr) : Bool :=
  match address.head? with
  | some (.ip4 octets) => octets.toList == List.replicate 4 0
  | some (.ip6 octets) => octets.toList == List.replicate 16 0
  | _ => false

/-! Keys, as `keys.rs` converts them. -/

/-- The peer id of a node key, or none for bytes that are no ed25519 key. -/
def peerId (crates : Crates) (key : Key) : Option PeerId :=
  if crates.isPublicKey key then some (crates.toPeerId key) else none

/-- The ed25519 key inside a peer id, or none for any other kind of peer. An
ed25519 peer id is the identity multihash of the encoded public key. -/
def keyOf (crates : Crates) (peer : PeerId) : Option Key :=
  if peer.code ≠ 0 then none else crates.decodeEd25519 peer.digest

end Libp2pFfi
