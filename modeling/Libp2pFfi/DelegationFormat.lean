import Libp2pFfi.EventLoop
import Libp2pFfi.FrameFormat
import Libp2pFfi.Reader

/-!
# Delegations on their way

A delegation is signed by one program, carried in a frame, and checked by another. Its
136 bytes are an exact format: every word of that length is one delegation and no other
word is any. The message that is signed is another encoding, without the signature and
behind a context string; it too tells the three things apart that it says. So what the
receiver checks is what the signer said: the node it named, until the time it named.
-/

namespace Libp2pFfi

/-! Big-endian numbers. -/

theorem leBytes_leNat (bytes : Bytes) : leBytes bytes.length (leNat bytes) = bytes := by
  induction bytes with
  | nil => rfl
  | cons byte rest inductionHypothesis =>
    have small : byte.toNat < 256 := byte.toNat_lt
    have low : UInt8.ofNat (byte.toNat + 256 * leNat rest) = byte := by
      apply UInt8.toNat_inj.mp
      rw [UInt8.toNat_ofNat']
      omega
    have high : (byte.toNat + 256 * leNat rest) / 256 = leNat rest := by omega
    rw [List.length_cons, leNat, leBytes, low, high, inductionHypothesis]

theorem leNat_lt (bytes : Bytes) : leNat bytes < 256 ^ bytes.length := by
  induction bytes with
  | nil => decide
  | cons byte rest inductionHypothesis =>
    have small : byte.toNat < 256 := byte.toNat_lt
    rw [leNat, List.length_cons, Nat.pow_succ]
    omega

theorem fromBeBytes_eq (bytes : Bytes) : fromBeBytes bytes = leNat bytes.reverse := by
  induction bytes using List.reverseRecOn with
  | nil => rfl
  | append_singleton bytes byte inductionHypothesis =>
    rw [List.reverse_append, List.reverse_singleton, List.singleton_append, leNat,
      ← inductionHypothesis, fromBeBytes, List.foldl_append]
    exact (Nat.add_comm _ _).trans (congrArg _ (Nat.mul_comm _ _))

theorem beBytes_fromBeBytes (bytes : Bytes) :
    beBytes bytes.length (fromBeBytes bytes) = bytes := by
  have written := leBytes_leNat bytes.reverse
  rw [List.length_reverse] at written
  rw [fromBeBytes_eq, beBytes, written, List.reverse_reverse]

@[simp] theorem beBytes_length (width value : Nat) : (beBytes width value).length = width := by
  rw [beBytes, List.length_reverse, leBytes_length]

theorem fromBeBytes_lt (bytes : Bytes) : fromBeBytes bytes < 256 ^ bytes.length := by
  rw [fromBeBytes_eq, ← List.length_reverse]
  exact leNat_lt bytes.reverse

namespace Delegation

/-- The four fields, cut out of a word that is long enough. -/
theorem parts_append {bytes : Bytes} (length : bytes.length = 136) :
    bytes.take 32 ++ (bytes.drop 32).take 32 ++ (bytes.drop 64).take 8 ++ (bytes.drop 72).take 64 =
      bytes := by
  have signature : (bytes.drop 72).take 64 = bytes.drop 72 :=
    List.take_of_length_le (by rw [List.length_drop]; omega)
  have expiry : (bytes.drop 64).take 8 ++ bytes.drop 72 = bytes.drop 64 := by
    simpa only [List.drop_drop] using List.take_append_drop 8 (bytes.drop 64)
  have group : (bytes.drop 32).take 32 ++ bytes.drop 64 = bytes.drop 32 := by
    simpa only [List.drop_drop] using List.take_append_drop 32 (bytes.drop 32)
  rw [signature, List.append_assoc, List.append_assoc, expiry, group, List.take_append_drop]

theorem parse_of_sized {bytes : Bytes} (length : bytes.length = 136) :
    ∃ delegation, parse bytes = .ok delegation :=
  ⟨_, dif_pos length⟩

theorem parse_of_length {bytes : Bytes} (length : bytes.length ≠ 136) :
    parse bytes = .error .length :=
  dif_neg length

/-- What is read is written as it was. -/
theorem toBytes_of_parse {bytes : Bytes} {delegation : Delegation}
    (parsed : parse bytes = .ok delegation) : delegation.toBytes = bytes := by
  by_cases length : bytes.length = 136
  · obtain rfl := Except.ok.inj ((dif_pos length).symm.trans parsed)
    have field : ((bytes.drop 64).take 8).length = 8 := by
      rw [List.length_take, List.length_drop]
      omega
    have fits : fromBeBytes ((bytes.drop 64).take 8) < 2 ^ 64 :=
      lt_of_lt_of_eq (fromBeBytes_lt _) (by rw [field]; decide)
    have written := beBytes_fromBeBytes ((bytes.drop 64).take 8)
    rw [field] at written
    have expiry : beBytes 8 (UInt64.ofNat (fromBeBytes ((bytes.drop 64).take 8))).toNat =
        (bytes.drop 64).take 8 := by
      rw [UInt64.toNat_ofNat', Nat.mod_eq_of_lt fits, written]
    rw [toBytes, expiry]
    exact parts_append length
  · rw [parse_of_length length] at parsed
    cases parsed

/-- The bytes of two expiries are the same only if the expiries are. -/
theorem expiry_inj {left right : UInt64} (same : beBytes 8 left.toNat = beBytes 8 right.toNat) :
    left = right :=
  UInt64.toNat_inj.mp
    (leBytes_injective left.toNat_lt right.toNat_lt (List.reverse_injective same))

/-- The three fields that are signed can be told apart. -/
theorem signed_inj {node group otherNode otherGroup : Key} {expiresMs otherMs : UInt64}
    (same : node.toList ++ group.toList ++ beBytes 8 expiresMs.toNat =
      otherNode.toList ++ otherGroup.toList ++ beBytes 8 otherMs.toNat) :
    node = otherNode ∧ group = otherGroup ∧ expiresMs = otherMs := by
  obtain ⟨keys, expiry⟩ := List.append_inj' same (by rw [beBytes_length, beBytes_length])
  obtain ⟨nodes, groups⟩ :=
    List.append_inj keys (by rw [List.Vector.toList_length, List.Vector.toList_length])
  exact ⟨Subtype.ext nodes, Subtype.ext groups, expiry_inj expiry⟩

theorem toBytes_injective : Function.Injective toBytes := by
  rintro ⟨node, group, expiresMs, signature⟩ ⟨otherNode, otherGroup, otherMs, other⟩ same
  obtain ⟨signed, signatures⟩ := List.append_inj' same
    (by rw [List.Vector.toList_length, List.Vector.toList_length])
  obtain ⟨rfl, rfl, rfl⟩ := signed_inj signed
  obtain rfl : signature = other := Subtype.ext signatures
  rfl

/-- What is written is read as it was. -/
theorem parse_toBytes (delegation : Delegation) : parse delegation.toBytes = .ok delegation := by
  obtain ⟨read, parsed⟩ := parse_of_sized delegation.toBytes_length
  rw [parsed, toBytes_injective (toBytes_of_parse parsed)]

theorem message_inj {node group otherNode otherGroup : Key} {expiresMs otherMs : UInt64}
    (same : message node group expiresMs = message otherNode otherGroup otherMs) :
    node = otherNode ∧ group = otherGroup ∧ expiresMs = otherMs := by
  simp only [message, List.append_assoc] at same
  have signed := List.append_cancel_left same
  exact signed_inj (by rw [List.append_assoc, List.append_assoc]; exact signed)

/-- Whether an unaltered signature is accepted is decided by the node and the time. -/
theorem verifyFor_iff {crates : Crates} (delegation : Delegation)
    (isKey : crates.isPublicKey delegation.group = true)
    (signed : crates.verify delegation.group
      (message delegation.node delegation.group delegation.expiresMs) delegation.signature = true)
    (node : Key) (nowMs : UInt64) :
    verifyFor crates delegation node nowMs = .ok () ↔
      node = delegation.node ∧ (delegation.expiresMs = 0 ∨ nowMs < delegation.expiresMs) := by
  constructor
  · intro accepted
    obtain ⟨named, -, fresh⟩ := verifyFor_ok accepted
    exact ⟨named.symm, fresh⟩
  · rintro ⟨rfl, fresh⟩
    have current : ¬ (delegation.expiresMs ≠ 0 ∧ delegation.expiresMs ≤ nowMs) := by
      rintro ⟨expires, passed⟩
      rcases fresh with never | later
      · exact expires never
      · exact absurd passed (UInt64.not_le.mpr later)
    simp [verifyFor, verify, isKey, signed, current]

end Delegation

/-- What is relied on of ed25519: the public key of a seed is a key, and it verifies every
signature made with that seed. -/
structure Crates.Signs (crates : Crates) : Prop where
  isPublicKey : ∀ seed group, crates.publicFromSeed seed = some group →
    crates.isPublicKey group = true
  verify : ∀ seed group, crates.publicFromSeed seed = some group →
    ∀ message, crates.verify group message (crates.sign seed message) = true

/-- What a receiver that reads these bytes as a delegation makes of it for `node`. -/
def acceptsFor (crates : Crates) (bytes : Bytes) (node : Key) (nowMs : UInt64) : Prop :=
  ∃ delegation, Delegation.parse bytes = .ok delegation ∧
    Delegation.verifyFor crates delegation node nowMs = .ok ()

/-- A delegation arrives as it was signed, in a request or in a response, and is accepted
for the node it names until it expires. -/
structure Delegation.Arrives (crates : Crates) (delegation : Delegation) (node : Key)
    (expiresMs : UInt64) : Prop where
  request : ∀ (name : String) (payload : Bytes),
    1 ≤ (Wire.asBytes name).length → (Wire.asBytes name).length ≤ 255 →
      ∃ request, Wire.decodeRequest (Wire.encodeRequest delegation.toBytes name payload) =
          some request ∧
        ∀ claimed nowMs, acceptsFor crates request.delegation claimed nowMs ↔
          claimed = node ∧ (expiresMs = 0 ∨ nowMs < expiresMs)
  response : ∀ payload : Bytes,
    ∃ response, Wire.decodeResponse (Wire.encodeResponse delegation.toBytes payload) =
        some response ∧
      ∀ claimed nowMs, acceptsFor crates response.delegation claimed nowMs ↔
        claimed = node ∧ (expiresMs = 0 ∨ nowMs < expiresMs)

/-- The bytes of a signed delegation are accepted for its node until it expires. -/
theorem acceptsFor_signed {crates : Crates} (signs : crates.Signs) {seed node : Key}
    {expiresMs : UInt64} {delegation : Delegation}
    (signed : Delegation.sign crates seed node expiresMs = some delegation) (claimed : Key)
    (nowMs : UInt64) :
    acceptsFor crates delegation.toBytes claimed nowMs ↔
      claimed = node ∧ (expiresMs = 0 ∨ nowMs < expiresMs) := by
  obtain ⟨group, ofSeed, rfl⟩ := Option.map_eq_some_iff.mp signed
  have decided := Delegation.verifyFor_iff
    { node, group, expiresMs
      signature := crates.sign seed (Delegation.message node group expiresMs) }
    (signs.isPublicKey seed group ofSeed) (signs.verify seed group ofSeed _) claimed nowMs
  rw [← decided]
  constructor
  · rintro ⟨read, parsed, accepted⟩
    rw [Delegation.parse_toBytes] at parsed
    obtain rfl := Except.ok.inj parsed
    exact accepted
  · intro accepted
    exact ⟨_, Delegation.parse_toBytes _, accepted⟩

theorem arrives_signed {crates : Crates} (signs : crates.Signs) {seed node : Key}
    {expiresMs : UInt64} {delegation : Delegation}
    (signed : Delegation.sign crates seed node expiresMs = some delegation) :
    delegation.Arrives crates node expiresMs := by
  constructor
  · intro name payload named short
    exact ⟨_, Wire.decodeRequest_parts delegation.toBytes_length named short
      (Wire.fromUtf8_asBytes name), acceptsFor_signed signs signed⟩
  · intro payload
    exact ⟨_, Wire.decodeResponse_parts delegation.toBytes_length, acceptsFor_signed signs signed⟩

/-- Delegations round-trip and bind what they say. The words of 136 bytes are exactly the
delegations, the signed message determines what it says, and a delegation that was signed
and sent is accepted for the node it was signed for, up to its expiry, and for nobody else. -/
theorem delegation_binds {crates : Crates} (signs : crates.Signs) :
    (∀ bytes : Bytes, bytes.length = 136 →
        ∃ delegation, Delegation.parse bytes = .ok delegation ∧ delegation.toBytes = bytes) ∧
      (∀ bytes : Bytes, bytes.length ≠ 136 → Delegation.parse bytes = .error .length) ∧
      (∀ delegation, Delegation.parse delegation.toBytes = .ok delegation) ∧
      (∀ node group expiresMs otherNode otherGroup otherMs,
        Delegation.message node group expiresMs = Delegation.message otherNode otherGroup otherMs →
          node = otherNode ∧ group = otherGroup ∧ expiresMs = otherMs) ∧
      ∀ seed group, crates.publicFromSeed seed = some group → ∀ node expiresMs,
        ∃ delegation, Delegation.sign crates seed node expiresMs = some delegation ∧
          delegation.Arrives crates node expiresMs := by
  refine ⟨?_, fun _ => Delegation.parse_of_length, Delegation.parse_toBytes,
    fun _ _ _ _ _ _ => Delegation.message_inj, ?_⟩
  · intro bytes length
    obtain ⟨delegation, parsed⟩ := Delegation.parse_of_sized length
    exact ⟨delegation, parsed, Delegation.toBytes_of_parse parsed⟩
  · intro seed group ofSeed node expiresMs
    obtain ⟨delegation, signed⟩ : ∃ delegation,
        Delegation.sign crates seed node expiresMs = some delegation :=
      ⟨_, congrArg _ ofSeed⟩
    exact ⟨delegation, signed, arrives_signed signs signed⟩

/-- The signatures of the group's seed, and what verifies them. -/
def Sample.signing : Crates :=
  { Sample.crates with
    publicFromSeed := fun seed => if seed = Key.filled 9 then some Sample.group else none
    verify := fun key message signature =>
      key = Sample.group ∧ signature = Sample.crates.sign (Key.filled 9) message }

theorem Sample.signing_signs : Sample.signing.Signs := by
  constructor
  · intro seed group ofSeed
    simp only [Sample.signing] at ofSeed
    split at ofSeed
    · obtain rfl := Option.some.inj ofSeed
      decide +kernel
    · cases ofSeed
  · intro seed group ofSeed message
    simp only [Sample.signing] at ofSeed
    split at ofSeed
    · obtain rfl := Option.some.inj ofSeed
      simp [Sample.signing, Sample.crates]
    · cases ofSeed

/-- The group delegates to the remote node for ever. -/
theorem delegation_binds_remote :
    Sample.remoteDelegation.Arrives Sample.signing Sample.remote 0 := by
  have signed : Delegation.sign Sample.signing (Key.filled 9) Sample.remote 0 =
      some Sample.remoteDelegation := by
    decide +kernel
  obtain ⟨delegation, made, arrives⟩ := (delegation_binds Sample.signing_signs).2.2.2.2
    (Key.filled 9) Sample.group (by decide +kernel) Sample.remote 0
  obtain rfl := Option.some.inj (made.symm.trans signed)
  exact arrives

end Libp2pFfi
