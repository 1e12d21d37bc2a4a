import Libp2pFfi.Formats
import Libp2pFfi.Wire

/-!
# The frames are exact formats

The grammars are those of the comment at the head of `wire.rs`, written down
without the decoder: a request frame is the version byte, a delegation, a length
byte, as many bytes of UTF-8 and a payload, and the other frames are the version
byte, a delegation and a payload. The decoders accept these words and no others,
and what they answer has the word it was read from as its encoding.
-/

namespace Libp2pFfi.Wire

/-- A request frame: `1 || 136 bytes || n || n bytes of UTF-8 || payload`. -/
def RequestGrammar (frame : Bytes) : Prop :=
  ∃ (delegation name payload : Bytes) (n : Nat),
    delegation.length = 136 ∧ 1 ≤ n ∧ n ≤ 255 ∧ name.length = n ∧
      ByteArray.IsValidUTF8 ⟨name.toArray⟩ ∧
      frame = 1 :: (delegation ++ UInt8.ofNat n :: (name ++ payload))

/-- A response frame: `1 || 136 bytes || payload`. -/
def ResponseGrammar (frame : Bytes) : Prop :=
  ∃ delegation payload : Bytes, delegation.length = 136 ∧ frame = 1 :: (delegation ++ payload)

/-- What may be written as a request. -/
structure Request.Valid (request : Request) : Prop where
  delegation : request.delegation.length = 136
  named : 1 ≤ (asBytes request.protocol).length
  short : (asBytes request.protocol).length ≤ 255

/-- What may be written as a response or an announcement. -/
def Response.Valid (response : Response) : Prop := response.delegation.length = 136

/-- The frame of a request. -/
def Request.frame (request : Request) : Bytes :=
  encodeRequest request.delegation request.protocol request.payload

/-- The frame of a response. -/
def Response.frame (response : Response) : Bytes :=
  encodeResponse response.delegation response.payload

/-- The same, as an announcement. -/
def Response.announcement (response : Response) : Bytes :=
  encodeAnnouncement response.delegation response.payload

/-- A length of one byte is written without loss. -/
theorem toNat_ofNat_length {name : Bytes} (short : name.length ≤ 255) :
    (UInt8.ofNat name.length).toNat = name.length := by
  rw [UInt8.toNat_ofNat']
  exact Nat.mod_eq_of_lt (by omega)

/-- The decoder goes through the parts one by one, each as long as it should be. -/
theorem decodeRequest_parts {delegation name payload : Bytes} {protocol : String}
    (delegated : delegation.length = 136) (named : 1 ≤ name.length) (short : name.length ≤ 255)
    (valid : fromUtf8 name = some protocol) :
    decodeRequest (1 :: (delegation ++ UInt8.ofNat name.length :: (name ++ payload))) =
      some { delegation, protocol, payload } := by
  have long : ¬ ((1 : UInt8) ≠ version ∨
      (delegation ++ UInt8.ofNat name.length :: (name ++ payload)).length < delegationBytes + 1) := by
    simp only [version, ne_eq, not_true_eq_false, false_or, List.length_append, List.length_cons,
      delegationBytes, delegated]
    omega
  have first : (delegation ++ UInt8.ofNat name.length :: (name ++ payload)).take delegationBytes =
      delegation := List.take_left' delegated
  have rest : (delegation ++ UInt8.ofNat name.length :: (name ++ payload)).drop delegationBytes =
      UInt8.ofNat name.length :: (name ++ payload) := List.drop_left' delegated
  have fits : ¬ ((UInt8.ofNat name.length).toNat = 0 ∨
      (name ++ payload).length < (UInt8.ofNat name.length).toNat) := by
    rw [toNat_ofNat_length short, List.length_append]
    omega
  simp only [decodeRequest]
  rw [if_neg long, first, rest]
  dsimp only
  rw [if_neg fits, toNat_ofNat_length short, List.take_left, List.drop_left, valid]
  rfl

/-- A frame with a delegation of the right length is read back. -/
theorem decodeResponse_parts {delegation payload : Bytes} (delegated : delegation.length = 136) :
    decodeResponse (1 :: (delegation ++ payload)) = some { delegation, payload } := by
  have long : ¬ ((1 : UInt8) ≠ version ∨ (delegation ++ payload).length < delegationBytes) := by
    simp [version, delegationBytes, delegated]
  have first : (delegation ++ payload).take delegationBytes = delegation :=
    List.take_left' delegated
  have rest : (delegation ++ payload).drop delegationBytes = payload := List.drop_left' delegated
  simp only [decodeResponse]
  rw [if_neg long, first, rest]

/-- Request frames are a format: each is read back, the frames that are accepted are
those of the grammar, and no other frame is read as the same request. -/
theorem request_format :
    IsFormat Request.Valid RequestGrammar Request.frame decodeRequest := by
  refine ⟨fun request valid => ?_, fun frame => ⟨?_, ?_⟩, fun frame request decoded => ?_⟩
  · exact decodeRequest_parts valid.delegation valid.named valid.short
      (fromUtf8_asBytes request.protocol)
  · rintro ⟨request, decoded⟩
    obtain ⟨delegated, named, nameLen, length, written⟩ := decodeRequest_some decoded
    have small : nameLen.toNat < 256 := nameLen.toNat_lt
    refine ⟨request.delegation, asBytes request.protocol, request.payload, nameLen.toNat, delegated,
      by omega, by omega, length, request.protocol.isValidUTF8, ?_⟩
    rw [written, UInt8.ofNat_toNat]
    rfl
  · rintro ⟨delegation, name, payload, n, delegated, named, short, rfl, valid, rfl⟩
    exact ⟨_, decodeRequest_parts delegated named short (dif_pos valid)⟩
  · obtain ⟨delegated, named, nameLen, length, written⟩ := decodeRequest_some decoded
    have small : nameLen.toNat < 256 := nameLen.toNat_lt
    refine ⟨⟨delegated, named, by omega⟩, ?_⟩
    rw [Request.frame, encodeRequest, length, UInt8.ofNat_toNat, written]

/-- So are response frames. -/
theorem response_format :
    IsFormat Response.Valid ResponseGrammar Response.frame decodeResponse := by
  refine ⟨fun response valid => decodeResponse_parts valid, fun frame => ⟨?_, ?_⟩,
    fun frame response decoded => ?_⟩
  · rintro ⟨response, decoded⟩
    obtain ⟨delegated, written⟩ := decodeResponse_some decoded
    exact ⟨response.delegation, response.payload, delegated, written⟩
  · rintro ⟨delegation, payload, delegated, rfl⟩
    exact ⟨_, decodeResponse_parts delegated⟩
  · obtain ⟨delegated, written⟩ := decodeResponse_some decoded
    exact ⟨delegated, written.symm⟩

/-- The frame formats are bijections. Decoding what was encoded gives it back,
exactly the words of the grammar are accepted, encoding what was decoded gives
the same bytes, and so no two requests and no two responses share a frame. -/
theorem frame_formats_bijective :
    IsFormat Request.Valid RequestGrammar Request.frame decodeRequest ∧
      IsFormat Response.Valid ResponseGrammar Response.frame decodeResponse ∧
      IsFormat Response.Valid ResponseGrammar Response.announcement decodeAnnouncement ∧
      Set.BijOn Request.frame {request | request.Valid} {frame | RequestGrammar frame} ∧
      Set.BijOn Response.frame {response | response.Valid} {frame | ResponseGrammar frame} :=
  ⟨request_format, response_format, response_format, request_format.bijOn, response_format.bijOn⟩

end Libp2pFfi.Wire
