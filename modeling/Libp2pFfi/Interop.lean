import Libp2pFfi.Acceptance
import Libp2pFfi.Mirror

/-!
# Two implementations of one node

A js-libp2p node joins the network with `interop/js/lp2p.ts`, which signs, checks
and frames delegations a second time. It cuts the bytes with its own offsets,
counts in integers without a bound, and asks another library for signatures. As
far as the two libraries agree on ed25519, the two nodes believe each other: what
one signs and frames, the other takes for the same node, group and payload, until
the same millisecond.
-/

namespace Libp2pFfi

/-- A delegation is accepted when its signature holds and it has not expired. -/
theorem Delegation.verify_iff (crates : Crates) (delegation : Delegation) (nowMs : UInt64) :
    verify crates delegation nowMs = .ok () ↔
      (crates.isPublicKey delegation.group && crates.verify delegation.group
        (message delegation.node delegation.group delegation.expiresMs) delegation.signature) =
          true ∧
        ¬ (delegation.expiresMs.toNat ≠ 0 ∧ delegation.expiresMs.toNat ≤ nowMs.toNat) := by
  have eternal : delegation.expiresMs.toNat = 0 ↔ delegation.expiresMs = 0 :=
    ⟨fun zero => UInt64.toNat_inj.mp zero, fun zero => congrArg UInt64.toNat zero⟩
  rw [Ne, eternal, ← UInt64.le_iff_toNat_le, verify]
  cases crates.isPublicKey delegation.group with
  | false => simp
  | true =>
    cases crates.verify delegation.group
        (message delegation.node delegation.group delegation.expiresMs) delegation.signature with
    | false => simp
    | true =>
      by_cases expired : delegation.expiresMs ≠ 0 ∧ delegation.expiresMs ≤ nowMs <;> simp [expired]

namespace Mirror

/-- `DataView.setBigUint64`, most significant byte first. It keeps the low 64 bits
of an integer. -/
def setBigUint64 (value : Int) : Bytes := beBytes 8 (value % 2 ^ 64).toNat

/-- What the group key signs. -/
def signedPart (node group : Bytes) (expiresMs : Int) : Bytes :=
  Delegation.context ++ node ++ group ++ setBigUint64 expiresMs

/-- `Ed25519PrivateKey`, as far as it is used. -/
structure PrivateKey where
  publicRaw : Bytes
  sign : Bytes → Bytes

def signDelegation (groupKey : PrivateKey) (node : Bytes) (expiresMs : Int) : Bytes :=
  let group := groupKey.publicRaw
  node ++ group ++ setBigUint64 expiresMs ++ groupKey.sign (signedPart node group expiresMs)

/-- `Delegation` of the mirror. -/
structure Keys where
  node : Bytes
  group : Bytes
deriving DecidableEq

/-- `verify` is `publicKeyFromRaw(group).verify` of the library, and `nowMs` is
`Date.now()`. -/
def verifyDelegation (verify : Bytes → Bytes → Bytes → Bool) (bytes : Bytes) (nowMs : Nat) :
    Option Keys :=
  if bytes.length ≠ delegationBytes then none
  else
    let node := slice bytes 0 32
    let group := slice bytes 32 64
    let expiresMs := fromBeBytes (slice bytes 64 (64 + 8))
    let signature := slice bytes 72 136
    let valid := verify group (signedPart node group expiresMs) signature
    if !valid ∨ (expiresMs ≠ 0 ∧ expiresMs ≤ nowMs) then none
    else some { node, group }

/-- The libraries of both sides agree: on the key of a seed, on its signatures,
which ed25519 determines, and on which signatures are valid. -/
structure Agrees (crates : Crates) (verify : Bytes → Bytes → Bytes → Bool) (seed group : Key)
    (groupKey : PrivateKey) : Prop where
  ofSeed : crates.publicFromSeed seed = some group
  publicRaw : groupKey.publicRaw = group.toList
  sign : ∀ message, groupKey.sign message = (crates.sign seed message).toList
  verify : ∀ (key : Key) (message : Bytes) (signature : Signature),
    verify key.toList message signature.toList =
      (crates.isPublicKey key && crates.verify key message signature)

theorem setBigUint64_toNat (value : UInt64) : setBigUint64 value.toNat = beBytes 8 value.toNat := by
  have small : ((value.toNat : Int) % 2 ^ 64).toNat = value.toNat := by
    have bound := value.toNat_lt
    omega
  rw [setBigUint64, small]

theorem signedPart_message (node group : Key) (expiresMs : UInt64) :
    signedPart node.toList group.toList expiresMs.toNat =
      Delegation.message node group expiresMs := by
  rw [signedPart, setBigUint64_toNat]
  rfl

theorem requestFrame_eq (delegation : Bytes) (name : String) (payload : Bytes) :
    requestFrame delegation name payload = Wire.encodeRequest delegation name payload := by
  simp only [requestFrame, Wire.encodeRequest, Utf8.textEncode_eq, List.append_assoc,
    List.cons_append, List.nil_append]
  rfl

/-- The mirror reads a request of this node, unless its protocol starts with a byte
order mark. -/
theorem parseRequest_encodeRequest {delegation : Bytes} (delegated : delegation.length = 136)
    {name : String} (named : 1 ≤ (Wire.asBytes name).length)
    (short : (Wire.asBytes name).length ≤ 255)
    (unmarked : ¬ Utf8.byteOrderMarkBytes <+: Wire.asBytes name) (payload : Bytes) :
    parseRequest (Wire.encodeRequest delegation name payload) =
      some { delegation, protocol := name, payload } := by
  have parts : Parts (Wire.encodeRequest delegation name payload) delegation (Wire.asBytes name)
      payload := ⟨delegated, named, short, rfl⟩
  have read : Utf8.textDecode (Wire.asBytes name) = name :=
    (Utf8.textDecode_iff name).mpr unmarked
  rw [parseRequest_parts parts, read]

section

variable {crates : Crates} {verify : Bytes → Bytes → Bytes → Bool} {seed group : Key}
  {groupKey : PrivateKey}

/-- The mirror signs the bytes that `lp2p_delegation_sign` writes. -/
theorem signDelegation_eq (agrees : Agrees crates verify seed group groupKey) (node : Key)
    (expiresMs : UInt64) {delegation : Delegation}
    (signed : Delegation.sign crates seed node expiresMs = some delegation) :
    signDelegation groupKey node.toList expiresMs.toNat = delegation.toBytes := by
  rw [Delegation.sign, agrees.ofSeed] at signed
  obtain rfl := Option.some.inj signed
  rw [signDelegation, agrees.publicRaw, agrees.sign, signedPart_message, setBigUint64_toNat]
  rfl

/-- The mirror cuts a delegation into the parts that `parse` cuts it into. -/
theorem slices_of_parse {bytes : Bytes} {delegation : Delegation}
    (parsed : Delegation.parse bytes = .ok delegation) :
    bytes.length = delegationBytes ∧ slice bytes 0 32 = delegation.node.toList ∧
      slice bytes 32 64 = delegation.group.toList ∧
      fromBeBytes (slice bytes 64 (64 + 8)) = delegation.expiresMs.toNat ∧
      slice bytes 72 136 = delegation.signature.toList := by
  by_cases length : bytes.length = 136
  · obtain rfl := Except.ok.inj ((dif_pos length).symm.trans parsed)
    have field : ((bytes.drop 64).take 8).length = 8 := by
      rw [List.length_take, List.length_drop]
      omega
    have fits : fromBeBytes ((bytes.drop 64).take 8) < 2 ^ 64 :=
      (fromBeBytes_lt _).trans_eq (by rw [field]; rfl)
    exact ⟨length, rfl, rfl, (UInt64.toNat_ofNat_of_lt' fits).symm, rfl⟩
  · rw [Delegation.parse_of_length length] at parsed
    cases parsed

/-- The mirror accepts the bytes that `lp2p_delegation_verify` accepts, and reads the
same keys off them. -/
theorem verifyDelegation_eq (agrees : Agrees crates verify seed group groupKey) (bytes : Bytes)
    (nowMs : UInt64) :
    verifyDelegation verify bytes nowMs.toNat =
      match Delegation.parse bytes with
      | .error _ => none
      | .ok delegation =>
        if Delegation.verify crates delegation nowMs = .ok () then
          some ⟨delegation.node.toList, delegation.group.toList⟩
        else none := by
  cases parsed : Delegation.parse bytes with
  | error invalid =>
    refine if_pos fun length => ?_
    obtain ⟨delegation, read⟩ := Delegation.parse_of_sized length
    cases parsed.symm.trans read
  | ok delegation =>
    obtain ⟨length, node, group, expiry, signature⟩ := slices_of_parse parsed
    have accepted := Delegation.verify_iff crates delegation nowMs
    simp only [verifyDelegation, length, node, group, expiry, signature, signedPart_message,
      agrees.verify]
    rw [if_neg (by simp)]
    by_cases isAccepted : Delegation.verify crates delegation nowMs = .ok ()
    · obtain ⟨signed, current⟩ := accepted.mp isAccepted
      rw [if_pos isAccepted, if_neg (by simp [signed, current])]
    · rw [if_neg isAccepted, if_pos]
      by_contra refused
      obtain ⟨valid, current⟩ := not_or.mp refused
      exact isAccepted (accepted.mpr ⟨by simpa using valid, current⟩)

/-- A delegation that was signed with a seed is accepted for its node at the
beginning of time. -/
theorem accepted_signed (signs : crates.Signs) {node : Key} {expiresMs : UInt64}
    {delegation : Delegation}
    (signed : Delegation.sign crates seed node expiresMs = some delegation) :
    delegation.node = node ∧ delegation.expiresMs = expiresMs ∧
      crates.publicFromSeed seed = some delegation.group ∧
      Delegation.verifyFor crates delegation delegation.node 0 = .ok () := by
  obtain ⟨group, ofSeed, rfl⟩ := Option.map_eq_some_iff.mp signed
  refine ⟨rfl, rfl, ofSeed, ?_⟩
  refine (Delegation.verifyFor_iff _ (signs.isPublicKey seed group ofSeed)
    (signs.verify seed group ofSeed _) _ _).mpr ⟨rfl, ?_⟩
  by_cases never : expiresMs = 0
  · exact .inl never
  · exact .inr (UInt64.pos_iff_ne_zero.mpr never)

end

/-- The two implementations believe each other. What a js-libp2p node signs and
frames, this node takes for the same node, group and payload until the delegation
expires; and of whatever this node frames, the mirror reads the same payload, and
accepts the same delegations with the same keys. A name that begins with a byte order
mark is the exception: the mirror reads it without the mark. -/
theorem implementations_interoperate {crates : Crates} (signs : crates.Signs)
    {verify : Bytes → Bytes → Bytes → Bool} {seed group : Key} {groupKey : PrivateKey}
    (agrees : Agrees crates verify seed group groupKey) (node : Key) (expiresMs : UInt64) :
    (∀ peer, keyOf crates peer = some node → ∀ payload nowMs,
      (∀ name names, 1 ≤ (Wire.asBytes name).length → (Wire.asBytes name).length ≤ 255 →
        checkRequest crates nowMs names peer
            (requestFrame (signDelegation groupKey node.toList expiresMs.toNat) name payload) =
          if expiresMs = 0 ∨ nowMs < expiresMs then
            (names.findIdx? (· == name)).map fun index => (node, group, asU16 index, payload)
          else none) ∧
      ∀ asked, checkResponse crates nowMs asked peer
          (responseFrame (signDelegation groupKey node.toList expiresMs.toNat) payload) =
        if (expiresMs = 0 ∨ nowMs < expiresMs) ∧ group = asked then some (node, payload)
        else none) ∧
      ∀ (delegation : Delegation) (payload : Bytes) (nowMs : UInt64),
        (∀ name, 1 ≤ (Wire.asBytes name).length → (Wire.asBytes name).length ≤ 255 →
          ¬ Utf8.byteOrderMarkBytes <+: Wire.asBytes name →
          parseRequest (Wire.encodeRequest delegation.toBytes name payload) =
            some { delegation := delegation.toBytes, protocol := name, payload }) ∧
        parseResponse (Wire.encodeResponse delegation.toBytes payload) =
          some { delegation := delegation.toBytes, payload } ∧
        verifyDelegation verify delegation.toBytes nowMs.toNat =
          if Delegation.verify crates delegation nowMs = .ok () then
            some ⟨delegation.node.toList, delegation.group.toList⟩
          else none := by
  obtain ⟨delegation, signed⟩ : ∃ delegation,
      Delegation.sign crates seed node expiresMs = some delegation := ⟨_, congrArg _ agrees.ofSeed⟩
  have bytes := signDelegation_eq agrees node expiresMs signed
  obtain ⟨rfl, rfl, ofSeed, accepted⟩ := accepted_signed signs signed
  obtain rfl : group = delegation.group := Option.some.inj (agrees.ofSeed.symm.trans ofSeed)
  constructor
  · intro peer keyed payload nowMs
    rw [bytes]
    refine ⟨fun name names nonempty short => ?_, fun asked => ?_⟩
    · rw [requestFrame_eq]
      exact checkRequest_accepted keyed accepted nonempty short payload names
    · exact checkResponse_accepted keyed accepted payload asked
  · intro sent payload nowMs
    refine ⟨fun name named short unmarked =>
      parseRequest_encodeRequest sent.toBytes_length named short unmarked payload, ?_, ?_⟩
    · rw [parseResponse_eq]
      exact Wire.decodeResponse_parts sent.toBytes_length
    · rw [verifyDelegation_eq agrees, Delegation.parse_toBytes]

/-- The group's key in the mirror's library. -/
def groupKey : PrivateKey where
  publicRaw := Sample.group.toList
  sign message := (Sample.signing.sign (Key.filled 9) message).toList

/-- The mirror's library, which knows the signatures of that key. -/
def libraryVerify (key message signature : Bytes) : Bool :=
  key = Sample.group.toList ∧ signature = groupKey.sign message

theorem groupKey_agrees :
    Agrees Sample.signing libraryVerify (Key.filled 9) Sample.group groupKey := by
  refine ⟨rfl, rfl, fun _ => rfl, fun key message signature => ?_⟩
  have sameKey : key.toList = Sample.group.toList ↔ key = Sample.group :=
    ⟨fun same => Subtype.ext same, congrArg _⟩
  have sameSignature : signature.toList = groupKey.sign message ↔
      signature = Sample.crates.sign (Key.filled 9) message :=
    ⟨fun same => Subtype.ext same, congrArg _⟩
  rw [libraryVerify]
  simp only [sameKey, sameSignature, Sample.signing]
  by_cases isGroup : key = Sample.group
  · subst isGroup
    simp [Sample.crates]
  · simp [isGroup]

/-- A js-libp2p node asks under the remote node's key. -/
theorem implementations_interoperate_echo :
    checkRequest Sample.signing 1 ["/echo/1"] Sample.remotePeer
        (requestFrame (signDelegation groupKey Sample.remote.toList 0) "/echo/1" [5]) =
      some (Sample.remote, Sample.group, 0, [5]) := by
  have believed := ((implementations_interoperate Sample.signing_signs groupKey_agrees
    Sample.remote 0).1 Sample.remotePeer (by decide +kernel) [5] 1).1 "/echo/1" ["/echo/1"]
    (by decide +kernel) (by decide +kernel)
  exact believed.trans (by decide +kernel)

end Mirror

end Libp2pFfi
