import Libp2pFfi.Crates
import Libp2pFfi.Events

/-!
# Delegations

"Node key X belongs to group Y until T", signed by the group key: 136 bytes of
node key, group key, expiry in big-endian milliseconds and signature. The
signed message starts with a context string, so that a delegation is never a
valid signature over anything else the group key signs.
-/

namespace Libp2pFfi

/-- The `width` bytes of a number, most significant first. -/
def beBytes (width value : Nat) : Bytes := (leBytes width value).reverse

/-- The number whose big-endian bytes these are. -/
def fromBeBytes (bytes : Bytes) : Nat := bytes.foldl (fun value byte => value * 256 + byte.toNat) 0

/-- "Node key X belongs to group Y until T", signed by the group key. -/
structure Delegation where
  node : Key
  group : Key
  expiresMs : UInt64
  signature : Signature
deriving DecidableEq

/-- Why a delegation is not accepted. -/
inductive Invalid where
  | length
  | groupKey
  | signature
  | expired
  | wrongNode
deriving DecidableEq, Repr

namespace Delegation

/-- `CONTEXT`, "libp2p-ffi delegation v1". -/
def context : Bytes :=
  [108, 105, 98, 112, 50, 112, 45, 102, 102, 105, 32, 100, 101, 108, 101, 103, 97, 116, 105, 111,
    110, 32, 118, 49]

example : context = "libp2p-ffi delegation v1".toUTF8.data.toList := by decide

/-- What the group key signs. -/
def message (node group : Key) (expiresMs : UInt64) : Bytes :=
  context ++ node.toList ++ group.toList ++ beBytes 8 expiresMs.toNat

/-- The 136 bytes in their order. Any other length is malformed. -/
def parse (bytes : Bytes) : Except Invalid Delegation :=
  if sized : bytes.length = delegationBytes then
    have total : bytes.length = 136 := sized
    .ok {
      node := ⟨bytes.take 32, by simp; omega⟩
      group := ⟨(bytes.drop 32).take 32, by simp; omega⟩
      expiresMs := UInt64.ofNat (fromBeBytes ((bytes.drop 64).take 8))
      signature := ⟨(bytes.drop 72).take 64, by simp; omega⟩ }
  else
    .error .length

/-- The bytes `parse` reads. -/
def toBytes (delegation : Delegation) : Bytes :=
  delegation.node.toList ++ delegation.group.toList ++ beBytes 8 delegation.expiresMs.toNat ++
    delegation.signature.toList

/-- A delegation fills the space the frames keep for it. -/
theorem toBytes_length (delegation : Delegation) : delegation.toBytes.length = 136 := by
  simp [toBytes, beBytes]

/-- None where the seed has no public key. -/
def sign (crates : Crates) (groupSeed node : Key) (expiresMs : UInt64) : Option Delegation :=
  (crates.publicFromSeed groupSeed).map fun group =>
    { node, group, expiresMs, signature := crates.sign groupSeed (message node group expiresMs) }

/-- Check the signature and the expiry against `nowMs`. -/
def verify (crates : Crates) (delegation : Delegation) (nowMs : UInt64) : Except Invalid Unit :=
  if !crates.isPublicKey delegation.group then .error .groupKey
  else if !crates.verify delegation.group
      (message delegation.node delegation.group delegation.expiresMs) delegation.signature then
    .error .signature
  else if delegation.expiresMs ≠ 0 ∧ delegation.expiresMs ≤ nowMs then .error .expired
  else .ok ()

/-- Check everything `verify` does, and that the delegation names `node`. -/
def verifyFor (crates : Crates) (delegation : Delegation) (node : Key) (nowMs : UInt64) :
    Except Invalid Unit :=
  match verify crates delegation nowMs with
  | .error invalid => .error invalid
  | .ok () => if delegation.node ≠ node then .error .wrongNode else .ok ()

/-- What an accepted delegation says of the node it was accepted for. -/
theorem verifyFor_ok {crates : Crates} {delegation : Delegation} {node : Key} {nowMs : UInt64}
    (accepted : verifyFor crates delegation node nowMs = .ok ()) :
    delegation.node = node ∧
      crates.verify delegation.group
        (message delegation.node delegation.group delegation.expiresMs) delegation.signature = true ∧
      (delegation.expiresMs = 0 ∨ nowMs < delegation.expiresMs) := by
  unfold verifyFor verify at accepted
  by_cases key : crates.isPublicKey delegation.group = true
  · by_cases signed : crates.verify delegation.group
        (message delegation.node delegation.group delegation.expiresMs) delegation.signature = true
    · by_cases old : delegation.expiresMs ≠ 0 ∧ delegation.expiresMs ≤ nowMs
      · simp [key, signed, old] at accepted
      · by_cases named : delegation.node = node
        · refine ⟨named, signed, ?_⟩
          by_cases eternal : delegation.expiresMs = 0
          · exact .inl eternal
          · exact .inr (UInt64.not_le.mp fun passed => old ⟨eternal, passed⟩)
        · simp [key, signed, old, named] at accepted
    · simp [key, signed] at accepted
  · simp [key] at accepted

end Delegation

end Libp2pFfi
