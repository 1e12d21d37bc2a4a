import Libp2pFfi.Crates

/-!
# What travels on an RPC stream

A request is a version byte, the requester's delegation, a length byte, the
protocol name in UTF-8 and the payload; a response is a version byte, the
responder's delegation and the payload. An announcement has the shape of a
response. Decoding splits from the front and refuses at the first split that
does not fit.
-/

namespace Libp2pFfi.Wire

/-- The Kademlia key a node provides under: the sha2-256 multihash of the key. -/
def providerKey (crates : Crates) (key : Key) : Bytes := 0x12 :: 0x20 :: (crates.sha256 key).toList

/-- The first byte of every frame. -/
def version : UInt8 := 1

/-- `format!("{byte:02x}")`. -/
def hexByte (byte : UInt8) : List Char :=
  [Nat.digitChar (byte.toNat / 16), Nat.digitChar (byte.toNat % 16)]

/-- The gossipsub topic a key names. Topics are hashed by identity, so this
string is also the topic's hash. -/
def topicName (key : Key) : String :=
  "/lp2p/topic/1/" ++ String.ofList (key.toList.flatMap hexByte)

/-- The bytes of a string. -/
def asBytes (text : String) : Bytes := text.toUTF8.data.toList

/-- `std::str::from_utf8`. -/
def fromUtf8 (bytes : Bytes) : Option String := String.fromUTF8? ⟨bytes.toArray⟩

/-- The bytes of a text are read as that text. -/
theorem fromUtf8_asBytes (text : String) : fromUtf8 (asBytes text) = some text := by
  have same : (⟨(asBytes text).toArray⟩ : ByteArray) = text.toByteArray := rfl
  rw [fromUtf8, same, String.fromUTF8?, dif_pos text.isValidUTF8]
  rfl

/-- A decoded string has exactly the bytes it was decoded from. -/
theorem asBytes_of_fromUtf8 {bytes : Bytes} {text : String} (decoded : fromUtf8 bytes = some text) :
    asBytes text = bytes := by
  unfold fromUtf8 String.fromUTF8? at decoded
  split at decoded
  · obtain rfl := Option.some.inj decoded
    rfl
  · cases decoded

/-- A request frame, taken apart. -/
structure Request where
  delegation : Bytes
  protocol : String
  payload : Bytes

/-- A response frame or an announcement, taken apart. -/
structure Response where
  delegation : Bytes
  payload : Bytes

/-- Version, delegation, the name's length in one byte, the name, and the payload. A
name above 255 bytes would wrap. -/
def encodeRequest (delegation : Bytes) (protocol : String) (payload : Bytes) : Bytes :=
  version :: (delegation ++ UInt8.ofNat (asBytes protocol).length :: (asBytes protocol ++ payload))

/-- `decode_request`: none where the frame is short, of another version, or names no
UTF-8. -/
def decodeRequest : Bytes → Option Request
  | [] => none
  | first :: rest =>
    if first ≠ version ∨ rest.length < delegationBytes + 1 then none
    else
      match rest.drop delegationBytes with
      | [] => none
      | nameLen :: named =>
        if nameLen.toNat = 0 ∨ named.length < nameLen.toNat then none
        else
          (fromUtf8 (named.take nameLen.toNat)).map fun protocol =>
            { delegation := rest.take delegationBytes
              protocol
              payload := named.drop nameLen.toNat }

/-- Version, delegation, payload. -/
def encodeResponse (delegation payload : Bytes) : Bytes := version :: (delegation ++ payload)

/-- `decode_response`. -/
def decodeResponse : Bytes → Option Response
  | [] => none
  | first :: rest =>
    if first ≠ version ∨ rest.length < delegationBytes then none
    else some { delegation := rest.take delegationBytes, payload := rest.drop delegationBytes }

/-- An announcement has the format of a response. -/
def encodeAnnouncement (delegation payload : Bytes) : Bytes := encodeResponse delegation payload

/-- `decode_announcement`. -/
def decodeAnnouncement (frame : Bytes) : Option Response := decodeResponse frame

/-- An accepted request frame is the concatenation of its parts. -/
theorem decodeRequest_some {frame : Bytes} {request : Request}
    (decoded : decodeRequest frame = some request) :
    request.delegation.length = delegationBytes ∧ 1 ≤ (asBytes request.protocol).length ∧
      ∃ nameLen : UInt8, (asBytes request.protocol).length = nameLen.toNat ∧
        frame = version :: (request.delegation ++
          nameLen :: (asBytes request.protocol ++ request.payload)) := by
  cases frame with
  | nil => cases decoded
  | cons first rest =>
    simp only [decodeRequest] at decoded
    split at decoded
    · cases decoded
    · rename_i header
      split at decoded
      · cases decoded
      · rename_i nameLen named tail
        split at decoded
        · cases decoded
        · rename_i sized
          push Not at header sized
          obtain ⟨protocol, valid, rfl⟩ := Option.map_eq_some_iff.mp decoded
          have name : asBytes protocol = named.take nameLen.toNat := asBytes_of_fromUtf8 valid
          have nameLength : (asBytes protocol).length = nameLen.toNat := by
            rw [name, List.length_take]
            omega
          have isNamed : 1 ≤ (asBytes protocol).length := by omega
          refine ⟨List.length_take_of_le (by omega), isNamed, nameLen, nameLength, ?_⟩
          rw [name, List.take_append_drop, ← tail, List.take_append_drop, header.1]

/-- An accepted response frame is the concatenation of its parts. -/
theorem decodeResponse_some {frame : Bytes} {response : Response}
    (decoded : decodeResponse frame = some response) :
    response.delegation.length = delegationBytes ∧
      frame = version :: (response.delegation ++ response.payload) := by
  cases frame with
  | nil => cases decoded
  | cons first rest =>
    simp only [decodeResponse] at decoded
    split at decoded
    · cases decoded
    · rename_i header
      push Not at header
      obtain rfl := Option.some.inj decoded
      refine ⟨List.length_take_of_le header.2, ?_⟩
      rw [List.take_append_drop, header.1]

/-- The request-response codec: bytes in, bytes out, bounded. -/
structure RawCodec where
  maxRequest : Nat
  maxResponse : Nat

/-- Read a stream to its end, at most one byte past the limit; a frame over the
limit is an error. -/
def readBounded (stream : Bytes) (max : Nat) : Option Bytes :=
  let buf := stream.take (max + 1)
  if buf.length > max then none else some buf

/-- A request is read up to its limit. -/
def RawCodec.readRequest (codec : RawCodec) (stream : Bytes) : Option Bytes :=
  readBounded stream codec.maxRequest

/-- So is a response. -/
def RawCodec.readResponse (codec : RawCodec) (stream : Bytes) : Option Bytes :=
  readBounded stream codec.maxResponse

/-- A stream is let through whole exactly when it is within the limit. -/
theorem readBounded_eq_some {stream frame : Bytes} {max : Nat} :
    readBounded stream max = some frame ↔ frame = stream ∧ stream.length ≤ max := by
  simp only [readBounded, List.length_take]
  by_cases within : stream.length ≤ max
  · rw [if_neg (by omega), List.take_of_length_le (by omega)]
    simp only [Option.some.injEq, within, and_true]
    exact eq_comm
  · rw [if_pos (by omega)]
    simp [within]

end Libp2pFfi.Wire
