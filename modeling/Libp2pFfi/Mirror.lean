import Libp2pFfi.FrameFormat
import Libp2pFfi.Utf8

/-!
# The frames of the js-libp2p mirror

`interop/js/lp2p.ts` writes and reads the same frames a second time and is meant
to stay byte for byte equal to `wire.rs`. It does as far as bytes go: the writers
agree, and so do the readers of responses. The reader of requests decodes the
protocol name with a decoder that never refuses and drops a byte order mark, so
it reads names `decode_request` refuses, and reads some as another name.
-/

namespace Libp2pFfi.Mirror

/-- `DELEGATION_BYTES`. -/
def delegationBytes : Nat := 136

/-- `VERSION`. -/
def version : UInt8 := 1

/-- `Uint8Array.prototype.slice`. -/
def slice (frame : Bytes) (start stop : Nat) : Bytes := (frame.drop start).take (stop - start)

def requestFrame (delegation : Bytes) (protocol : String) (payload : Bytes) : Bytes :=
  let name := Utf8.textEncode protocol
  [version] ++ delegation ++ [UInt8.ofNat name.length] ++ name ++ payload

def parseRequest (frame : Bytes) : Option Wire.Request :=
  if frame.length < 2 + delegationBytes ∨ frame.getD 0 0 ≠ version then none
  else
    let delegation := slice frame 1 (1 + delegationBytes)
    let nameLength := (frame.getD (1 + delegationBytes) 0).toNat
    let start := 2 + delegationBytes
    if nameLength = 0 ∨ frame.length < start + nameLength then none
    else some
      { delegation
        protocol := Utf8.textDecode (slice frame start (start + nameLength))
        payload := frame.drop (start + nameLength) }

/-- Responses and announcements share one shape. -/
def responseFrame (delegation payload : Bytes) : Bytes := [version] ++ delegation ++ payload

def parseResponse (frame : Bytes) : Option Wire.Response :=
  if frame.length < 1 + delegationBytes ∨ frame.getD 0 0 ≠ version then none
  else some
    { delegation := slice frame 1 (1 + delegationBytes)
      payload := frame.drop (1 + delegationBytes) }

/-- The parts of a frame that is a request as far as lengths go. -/
structure Parts (frame delegation name payload : Bytes) : Prop where
  delegated : delegation.length = 136
  named : 1 ≤ name.length
  short : name.length ≤ 255
  whole : frame = 1 :: (delegation ++ UInt8.ofNat name.length :: (name ++ payload))

/-- Whatever name stands in the frame is UTF-8, without a byte order mark. -/
def Legible (frame : Bytes) : Prop :=
  ∀ delegation name payload, Parts frame delegation name payload →
    ByteArray.IsValidUTF8 ⟨name.toArray⟩ ∧ ¬ Utf8.byteOrderMarkBytes <+: name

/-! The readers. -/

theorem parseRequest_parts {frame delegation name payload : Bytes}
    (parts : Parts frame delegation name payload) :
    parseRequest frame = some { delegation, protocol := Utf8.textDecode name, payload } := by
  obtain ⟨delegated, named, short, rfl⟩ := parts
  have length : (UInt8.ofNat name.length).toNat = name.length := Wire.toNat_ofNat_length short
  generalize UInt8.ofNat name.length = nameLength at length
  have size : (1 :: (delegation ++ nameLength :: (name ++ payload))).length =
      2 + delegationBytes + name.length + payload.length := by
    simp only [List.length_cons, List.length_append, delegated, delegationBytes]
    omega
  have mark : (1 :: (delegation ++ nameLength :: (name ++ payload))).getD (1 + delegationBytes) 0 =
      nameLength := by
    rw [Nat.add_comm, List.getD_cons_succ, delegationBytes, ← delegated,
      List.getD_eq_getElem?_getD, List.getElem?_append_right (le_refl _), Nat.sub_self]
    rfl
  have first : slice (1 :: (delegation ++ nameLength :: (name ++ payload))) 1
      (1 + delegationBytes) = delegation := by
    rw [slice, Nat.add_sub_cancel_left]
    exact List.take_left' delegated
  have behind : (1 :: (delegation ++ nameLength :: (name ++ payload))).drop (2 + delegationBytes) =
      name ++ payload := by
    rw [show 2 + delegationBytes = (delegation.length + 1) + 1 by rw [delegated]; rfl,
      List.drop_succ_cons, ← List.drop_drop, List.drop_left]
    rfl
  have text : slice (1 :: (delegation ++ nameLength :: (name ++ payload))) (2 + delegationBytes)
      (2 + delegationBytes + name.length) = name := by
    rw [slice, Nat.add_sub_cancel_left, behind, List.take_left]
  have rest : (1 :: (delegation ++ nameLength :: (name ++ payload))).drop
      (2 + delegationBytes + name.length) = payload := by
    rw [← List.drop_drop, behind, List.drop_left]
  rw [parseRequest, if_neg (by rw [size]; simp [version]; omega)]
  dsimp only
  rw [mark, length, if_neg (by rw [size]; omega), first, text, rest]

theorem parts_of_parseRequest {frame : Bytes} {request : Wire.Request}
    (parsed : parseRequest frame = some request) :
    ∃ delegation name payload, Parts frame delegation name payload := by
  cases frame with
  | nil => cases parsed
  | cons first rest =>
    rw [parseRequest] at parsed
    split at parsed
    · cases parsed
    · rename_i header
      dsimp only at parsed
      split at parsed
      · cases parsed
      · rename_i sized
        push Not at header sized
        rw [List.getD_cons_zero, List.length_cons] at header
        rw [Nat.add_comm 1, List.getD_cons_succ, List.length_cons] at sized
        obtain ⟨long, rfl⟩ := header
        obtain ⟨named, fits⟩ := sized
        simp only [delegationBytes] at long named fits
        have at136 : rest.drop 136 = rest.getD 136 0 :: rest.drop 137 := by
          have inside : 136 < rest.length := by omega
          rw [List.drop_eq_getElem_cons inside, List.getD_eq_getElem?_getD,
            List.getElem?_eq_getElem inside, Option.getD_some]
        generalize rest.getD 136 0 = nameLength at named fits at136
        have length : ((rest.drop 137).take nameLength.toNat).length = nameLength.toNat :=
          List.length_take_of_le (by rw [List.length_drop]; omega)
        have small : nameLength.toNat < 256 := nameLength.toNat_lt
        refine ⟨rest.take 136, (rest.drop 137).take nameLength.toNat,
          (rest.drop 137).drop nameLength.toNat, List.length_take_of_le (by omega),
          by omega, by omega, ?_⟩
        rw [length, UInt8.ofNat_toNat, List.take_append_drop, ← at136, List.take_append_drop]
        rfl

theorem parts_of_decodeRequest {frame : Bytes} {request : Wire.Request}
    (decoded : Wire.decodeRequest frame = some request) :
    Parts frame request.delegation (Wire.asBytes request.protocol) request.payload := by
  obtain ⟨valid, whole⟩ := Wire.request_format.encode_decode frame request decoded
  exact ⟨valid.delegation, valid.named, valid.short, whole.symm⟩

/-- A frame has its parts in one way. -/
theorem parts_unique {frame delegation name payload other otherName otherPayload : Bytes}
    (parts : Parts frame delegation name payload)
    (others : Parts frame other otherName otherPayload) : name = otherName := by
  obtain ⟨-, same⟩ := List.cons.inj (parts.whole.symm.trans others.whole)
  obtain ⟨-, behind⟩ := List.append_inj same (parts.delegated.trans others.delegated.symm)
  obtain ⟨mark, texts⟩ := List.cons.inj behind
  have length : name.length = otherName.length := by
    rw [← Wire.toNat_ofNat_length parts.short, mark, Wire.toNat_ofNat_length others.short]
  exact (List.append_inj texts length).1

theorem parseResponse_eq (frame : Bytes) : parseResponse frame = Wire.decodeResponse frame := by
  cases frame with
  | nil => rfl
  | cons first rest =>
    have refused : (first :: rest).length < 1 + delegationBytes ∨ (first :: rest).getD 0 0 ≠ version ↔
        first ≠ Wire.version ∨ rest.length < Libp2pFfi.delegationBytes := by
      rw [List.length_cons, List.getD_cons_zero, or_comm, Nat.add_comm 1, Nat.add_lt_add_iff_right]
      rfl
    rw [parseResponse, Wire.decodeResponse]
    by_cases isRefused : first ≠ Wire.version ∨ rest.length < Libp2pFfi.delegationBytes
    · rw [if_pos (refused.mpr isRefused), if_pos isRefused]
    · rw [if_neg (refused.not.mpr isRefused), if_neg isRefused]
      rfl

/-- The two readers of requests agree on a frame exactly if its name is legible. -/
theorem parseRequest_agrees_iff (frame : Bytes) :
    parseRequest frame = Wire.decodeRequest frame ↔ Legible frame := by
  constructor
  · intro agree delegation name payload parts
    have decoded := agree.symm.trans (parseRequest_parts parts)
    have same := parts_unique parts (parts_of_decodeRequest decoded)
    dsimp only at same
    constructor
    · rw [same]
      exact (Utf8.textDecode name).isValidUTF8
    · have kept : Utf8.textDecode (Wire.asBytes (Utf8.textDecode name)) = Utf8.textDecode name := by
        rw [← same]
      rw [same]
      exact (Utf8.textDecode_iff _).mp kept
  · intro legible
    cases decoded : Wire.decodeRequest frame with
    | some request =>
      have parts := parts_of_decodeRequest decoded
      have kept := (Utf8.textDecode_iff request.protocol).mpr (legible _ _ _ parts).2
      rw [parseRequest_parts parts]
      exact congrArg (fun protocol => some { request with protocol }) kept
    | none =>
      cases parsed : parseRequest frame with
      | none => rfl
      | some request =>
        obtain ⟨delegation, name, payload, parts⟩ := parts_of_parseRequest parsed
        have valid : Wire.fromUtf8 name = some _ := dif_pos (legible _ _ _ parts).1
        rw [parts.whole, Wire.decodeRequest_parts parts.delegated parts.named parts.short valid]
          at decoded
        cases decoded

/-- The mirror writes the bytes of `wire.rs` and reads the same responses. It reads
the same requests exactly as far as the name in them is UTF-8 without a byte order
mark at its front. -/
theorem mirror_agrees_iff (frame delegation payload : Bytes) (protocol : String) :
    (parseRequest frame = Wire.decodeRequest frame ↔ Legible frame) ∧
      parseResponse frame = Wire.decodeResponse frame ∧
      requestFrame delegation protocol payload =
        Wire.encodeRequest delegation protocol payload ∧
      responseFrame delegation payload = Wire.encodeResponse delegation payload := by
  refine ⟨parseRequest_agrees_iff frame, parseResponse_eq frame, ?_, rfl⟩
  have name : Utf8.textEncode protocol = Wire.asBytes protocol := Utf8.textEncode_eq protocol
  simp only [requestFrame, Wire.encodeRequest, name, List.append_assoc, List.cons_append,
    List.nil_append]
  rfl

/-- A request whose name is one byte that is not UTF-8. -/
def illegible : Bytes := 1 :: (List.replicate 136 0 ++ [1, 0xFF])

/-- A request whose name is a byte order mark and a slash. -/
def marked : Bytes := 1 :: (List.replicate 136 0 ++ [4, 0xEF, 0xBB, 0xBF, 0x2F])

/-- The mirror reads a replacement character where `decode_request` refuses, and
another name where the name begins with a byte order mark. -/
theorem illegible_request_read :
    Wire.decodeRequest illegible = none ∧
      (parseRequest illegible).map Wire.Request.protocol = some "\uFFFD" ∧
      (Wire.decodeRequest marked).map Wire.Request.protocol = some "\uFEFF/" ∧
      (parseRequest marked).map Wire.Request.protocol = some "/" ∧
      ¬ ∀ frame, parseRequest frame = Wire.decodeRequest frame := by
  have refused : Wire.decodeRequest illegible = none := by
    rw [← Option.not_isSome_iff_eq_none]
    decide +kernel
  have read : (parseRequest illegible).map Wire.Request.protocol = some "\uFFFD" := by
    decide +kernel
  refine ⟨refused, read, by decide +kernel, by decide +kernel, fun agree => ?_⟩
  rw [agree illegible, refused] at read
  cases read

end Libp2pFfi.Mirror
