import Mathlib.Algebra.Group.Nat.Defs
import Mathlib.Data.List.Basic

/-!
# The UTF-8 decoder and encoder of the web platform

The decoder reads one byte at a time. It never fails: where the bytes are not
UTF-8 it answers a replacement character and goes on, with a byte that cannot
continue a code point read again as the first of the next one. A byte order mark
at the front is dropped from what it answers. On the encoding of a text without
such a mark it gives back the text.
-/

namespace Utf8

/-- What stands for bytes that are not UTF-8. -/
def replacement : Char := Char.ofNat 0xFFFD

/-- The byte order mark, as a code point and in UTF-8. -/
def byteOrderMark : Char := Char.ofNat 0xFEFF

def byteOrderMarkBytes : List UInt8 := [0xEF, 0xBB, 0xBF]

/-- What the decoder keeps between two bytes: the code point so far, how many of
its further bytes were seen and are needed, and the bounds of the next one. -/
structure Decoder where
  codePoint : Nat := 0
  bytesSeen : Nat := 0
  bytesNeeded : Nat := 0
  lowerBoundary : Nat := 0x80
  upperBoundary : Nat := 0xBF

/-- The first byte of a code point. -/
def Decoder.lead (byte : UInt8) : Decoder × List Char :=
  let value := byte.toNat
  if value ≤ 0x7F then ({}, [Char.ofNat value])
  else if 0xC2 ≤ value ∧ value ≤ 0xDF then ({ bytesNeeded := 1, codePoint := value % 32 }, [])
  else if 0xE0 ≤ value ∧ value ≤ 0xEF then
    ({ bytesNeeded := 2
       codePoint := value % 16
       lowerBoundary := if value = 0xE0 then 0xA0 else 0x80
       upperBoundary := if value = 0xED then 0x9F else 0xBF }, [])
  else if 0xF0 ≤ value ∧ value ≤ 0xF4 then
    ({ bytesNeeded := 3
       codePoint := value % 8
       lowerBoundary := if value = 0xF0 then 0x90 else 0x80
       upperBoundary := if value = 0xF4 then 0x8F else 0xBF }, [])
  else ({}, [replacement])

/-- Any byte. One that is out of bounds ends the code point and is read again. -/
def Decoder.next (decoder : Decoder) (byte : UInt8) : Decoder × List Char :=
  if decoder.bytesNeeded = 0 then lead byte
  else if byte.toNat < decoder.lowerBoundary ∨ decoder.upperBoundary < byte.toNat then
    ((lead byte).1, replacement :: (lead byte).2)
  else
    let codePoint := decoder.codePoint * 64 + byte.toNat % 64
    if decoder.bytesSeen + 1 ≠ decoder.bytesNeeded then
      ({ codePoint, bytesSeen := decoder.bytesSeen + 1, bytesNeeded := decoder.bytesNeeded }, [])
    else ({}, [Char.ofNat codePoint])

/-- The bytes up to the end. A code point that is not complete then is replaced. -/
def Decoder.run (decoder : Decoder) : List UInt8 → List Char
  | [] => if decoder.bytesNeeded = 0 then [] else [replacement]
  | byte :: rest => (decoder.next byte).2 ++ run (decoder.next byte).1 rest

/-- Drop a byte order mark at the front. -/
def dropMark : List Char → List Char
  | [] => []
  | first :: rest => if first = byteOrderMark then rest else first :: rest

/-- `new TextDecoder().decode`. -/
def textDecode (bytes : List UInt8) : String := String.ofList (dropMark (Decoder.run {} bytes))

/-- The bytes of a code point: a first one with an offset that tells how many
follow, and six bits in each of these. -/
def encodeCodePoint (char : Char) : List UInt8 :=
  let value := char.toNat
  let multibyte (count offset : Nat) : List UInt8 :=
    UInt8.ofNat (value / 64 ^ count + offset) ::
      (List.range count).reverse.map fun place => UInt8.ofNat (0x80 + value / 64 ^ place % 64)
  if value ≤ 0x7F then [UInt8.ofNat value]
  else if value ≤ 0x7FF then multibyte 1 0xC0
  else if value ≤ 0xFFFF then multibyte 2 0xE0
  else multibyte 3 0xF0

/-- `new TextEncoder().encode`. -/
def textEncode (text : String) : List UInt8 := text.toList.flatMap encodeCodePoint

/-! The encoder. -/

theorem toNat_lt (char : Char) : char.toNat < 0x110000 := by
  have valid := char.valid
  simp only [UInt32.isValidChar, Nat.isValidChar] at valid
  simp only [Char.toNat]
  omega

theorem encodeCodePoint_eq (char : Char) : encodeCodePoint char = String.utf8EncodeChar char := by
  have bound := toNat_lt char
  simp only [encodeCodePoint, String.utf8EncodeChar, Char.toNat] at bound ⊢
  generalize char.val.toNat = value at bound ⊢
  by_cases one : value ≤ 0x7F
  · rw [if_pos one, if_pos one]
  · rw [if_neg one, if_neg one]
    by_cases two : value ≤ 0x7FF
    · rw [if_pos two, if_pos two]
      have high : value / 64 % 32 = value / 64 ^ 1 := by omega
      have low : 0x80 + value / 64 ^ 0 % 64 = value % 64 + 0x80 := by omega
      rw [high, ← low]
      rfl
    · rw [if_neg two, if_neg two]
      by_cases three : value ≤ 0xFFFF
      · rw [if_pos three, if_pos three]
        have high : value / 4096 % 16 = value / 64 ^ 2 := by omega
        have middle : 0x80 + value / 64 ^ 1 % 64 = value / 64 % 64 + 0x80 := by omega
        have low : 0x80 + value / 64 ^ 0 % 64 = value % 64 + 0x80 := by omega
        rw [high, ← middle, ← low]
        rfl
      · rw [if_neg three, if_neg three]
        have high : value / 262144 % 8 = value / 64 ^ 3 := by omega
        have upper : 0x80 + value / 64 ^ 2 % 64 = value / 4096 % 64 + 0x80 := by omega
        have middle : 0x80 + value / 64 ^ 1 % 64 = value / 64 % 64 + 0x80 := by omega
        have low : 0x80 + value / 64 ^ 0 % 64 = value % 64 + 0x80 := by omega
        rw [high, ← upper, ← middle, ← low]
        rfl

/-- The bytes of a text are those of its characters. -/
theorem textEncode_eq (text : String) : textEncode text = text.toUTF8.data.toList := by
  have same : text.toUTF8 = text.toList.utf8Encode := String.utf8Encode_toList.symm
  rw [same, textEncode, List.utf8Encode, List.toList_data_toByteArray]
  congr 1
  funext char
  exact encodeCodePoint_eq char

/-! The decoder on what was encoded. -/

namespace Decoder

theorem run_lead (byte : UInt8) (rest : List UInt8) :
    run {} (byte :: rest) = (lead byte).2 ++ run (lead byte).1 rest := rfl

section

variable {decoder : Decoder} {byte : UInt8} {rest : List UInt8}

/-- A byte within bounds, with more to come. -/
theorem run_more (more : decoder.bytesSeen + 1 < decoder.bytesNeeded)
    (lower : decoder.lowerBoundary ≤ byte.toNat) (upper : byte.toNat ≤ decoder.upperBoundary) :
    run decoder (byte :: rest) =
      run { codePoint := decoder.codePoint * 64 + byte.toNat % 64
            bytesSeen := decoder.bytesSeen + 1
            bytesNeeded := decoder.bytesNeeded } rest := by
  rw [run, next, if_neg (by omega), if_neg (by omega)]
  dsimp only
  rw [if_pos (by omega)]
  rfl

/-- The last byte of a code point. -/
theorem run_last (last : decoder.bytesSeen + 1 = decoder.bytesNeeded)
    (lower : decoder.lowerBoundary ≤ byte.toNat) (upper : byte.toNat ≤ decoder.upperBoundary) :
    run decoder (byte :: rest) =
      Char.ofNat (decoder.codePoint * 64 + byte.toNat % 64) :: run {} rest := by
  rw [run, next, if_neg (by omega), if_neg (by omega)]
  dsimp only
  rw [if_neg (by omega)]
  rfl

end

theorem toNat_ofNat {value : Nat} (small : value < 256) : (UInt8.ofNat value).toNat = value :=
  UInt8.toNat_ofNat_of_lt' small

theorem lead_one {value : Nat} (one : value ≤ 0x7F) :
    lead (UInt8.ofNat value) = ({}, [Char.ofNat value]) := by
  rw [lead, toNat_ofNat (by omega), if_pos one]

theorem lead_two {value : Nat} (lower : 0xC2 ≤ value) (upper : value ≤ 0xDF) :
    lead (UInt8.ofNat value) = ({ bytesNeeded := 1, codePoint := value % 32 }, []) := by
  rw [lead, toNat_ofNat (by omega), if_neg (by omega), if_pos ⟨lower, upper⟩]

theorem lead_three {value : Nat} (lower : 0xE0 ≤ value) (upper : value ≤ 0xEF) :
    lead (UInt8.ofNat value) =
      ({ bytesNeeded := 2
         codePoint := value % 16
         lowerBoundary := if value = 0xE0 then 0xA0 else 0x80
         upperBoundary := if value = 0xED then 0x9F else 0xBF }, []) := by
  rw [lead, toNat_ofNat (by omega), if_neg (by omega), if_neg (by omega), if_pos ⟨lower, upper⟩]

theorem lead_four {value : Nat} (lower : 0xF0 ≤ value) (upper : value ≤ 0xF4) :
    lead (UInt8.ofNat value) =
      ({ bytesNeeded := 3
         codePoint := value % 8
         lowerBoundary := if value = 0xF0 then 0x90 else 0x80
         upperBoundary := if value = 0xF4 then 0x8F else 0xBF }, []) := by
  rw [lead, toNat_ofNat (by omega), if_neg (by omega), if_neg (by omega), if_neg (by omega),
    if_pos ⟨lower, upper⟩]

/-- A byte that continues a code point. -/
theorem toNat_tail (value : Nat) :
    (UInt8.ofNat (value % 64 + 0x80)).toNat = value % 64 + 0x80 := toNat_ofNat (by omega)

theorem run_two {value : Nat} (more : 0x7F < value) (two : value ≤ 0x7FF) (rest : List UInt8) :
    run {} (UInt8.ofNat (value / 64 % 32 + 0xC0) :: UInt8.ofNat (value % 64 + 0x80) :: rest) =
      Char.ofNat value :: run {} rest := by
  have last := toNat_tail value
  rw [run_lead, lead_two (by omega) (by omega), List.nil_append,
    run_last rfl (by dsimp only; omega) (by dsimp only; omega), last]
  congr 2
  dsimp only
  omega

theorem run_three {value : Nat} (more : 0x7FF < value) (three : value ≤ 0xFFFF)
    (scalar : value < 0xD800 ∨ 0xDFFF < value) (rest : List UInt8) :
    run {} (UInt8.ofNat (value / 4096 % 16 + 0xE0) :: UInt8.ofNat (value / 64 % 64 + 0x80) ::
        UInt8.ofNat (value % 64 + 0x80) :: rest) =
      Char.ofNat value :: run {} rest := by
  have middle := toNat_tail (value / 64)
  have last := toNat_tail value
  rw [run_lead, lead_three (by omega) (by omega), List.nil_append,
    run_more (by dsimp only; omega) (by dsimp only; split <;> omega) (by dsimp only; split <;> omega),
    run_last rfl (by dsimp only; omega) (by dsimp only; omega), middle, last]
  congr 2
  dsimp only
  omega

theorem run_four {value : Nat} (more : 0xFFFF < value) (four : value < 0x110000)
    (rest : List UInt8) :
    run {} (UInt8.ofNat (value / 262144 % 8 + 0xF0) :: UInt8.ofNat (value / 4096 % 64 + 0x80) ::
        UInt8.ofNat (value / 64 % 64 + 0x80) :: UInt8.ofNat (value % 64 + 0x80) :: rest) =
      Char.ofNat value :: run {} rest := by
  have upper := toNat_tail (value / 4096)
  have middle := toNat_tail (value / 64)
  have last := toNat_tail value
  rw [run_lead, lead_four (by omega) (by omega), List.nil_append,
    run_more (by dsimp only; omega) (by dsimp only; split <;> omega) (by dsimp only; split <;> omega),
    run_more (by dsimp only; omega) (by dsimp only; omega) (by dsimp only; omega),
    run_last rfl (by dsimp only; omega) (by dsimp only; omega), upper, middle, last]
  congr 2
  dsimp only
  omega

/-- One encoded character is decoded to itself, whatever follows. -/
theorem run_encodeChar (char : Char) (rest : List UInt8) :
    run {} (String.utf8EncodeChar char ++ rest) = char :: run {} rest := by
  have valid := char.valid
  simp only [UInt32.isValidChar, Nat.isValidChar] at valid
  have same : Char.ofNat char.val.toNat = char := Char.ofNat_toNat char
  rw [String.utf8EncodeChar]
  generalize char.val.toNat = value at valid same ⊢
  subst same
  by_cases one : value ≤ 0x7F
  · rw [if_pos one, List.cons_append, run_lead, lead_one one]
    rfl
  · rw [if_neg one]
    by_cases two : value ≤ 0x7FF
    · rw [if_pos two]
      exact run_two (by omega) two rest
    · rw [if_neg two]
      by_cases three : value ≤ 0xFFFF
      · rw [if_pos three]
        exact run_three (by omega) three (by omega) rest
      · rw [if_neg three]
        exact run_four (by omega) (by omega) rest

/-- What was encoded is decoded to itself. -/
theorem run_toUTF8 (text : String) : run {} text.toUTF8.data.toList = text.toList := by
  have same : text.toUTF8 = text.toList.utf8Encode := String.utf8Encode_toList.symm
  rw [same, List.utf8Encode, List.toList_data_toByteArray]
  induction text.toList with
  | nil => rfl
  | cons char rest inductionHypothesis =>
    rw [List.flatMap_cons, run_encodeChar, inductionHypothesis]

end Decoder

/-- A text begins with a byte order mark exactly if its bytes do. -/
theorem mark_iff (text : String) :
    text.toList.head? = some byteOrderMark ↔ byteOrderMarkBytes <+: text.toUTF8.data.toList := by
  constructor
  · intro marked
    obtain ⟨rest, begins⟩ := List.head?_eq_some_iff.mp marked
    have same : text.toUTF8 = text.toList.utf8Encode := String.utf8Encode_toList.symm
    rw [same, List.utf8Encode, List.toList_data_toByteArray, begins, List.flatMap_cons]
    exact List.prefix_append _ _
  · rintro ⟨rest, begins⟩
    rw [← Decoder.run_toUTF8 text, ← begins]
    rfl

theorem dropMark_eq_iff (chars : List Char) :
    dropMark chars = chars ↔ chars.head? ≠ some byteOrderMark := by
  cases chars with
  | nil => exact iff_of_true rfl nofun
  | cons first rest =>
    rw [dropMark, List.head?_cons, Ne, Option.some.injEq]
    by_cases mark : first = byteOrderMark
    · rw [if_pos mark]
      refine iff_of_false (fun same => ?_) (not_not.mpr mark)
      have shorter := congrArg List.length same
      rw [List.length_cons] at shorter
      omega
    · rw [if_neg mark]
      exact iff_of_true rfl mark

/-- Decoding gives an encoded text back exactly if it has no byte order mark at
its front. -/
theorem textDecode_iff (text : String) :
    textDecode text.toUTF8.data.toList = text ↔
      ¬ byteOrderMarkBytes <+: text.toUTF8.data.toList := by
  rw [← mark_iff, ← Ne, ← dropMark_eq_iff, textDecode, Decoder.run_toUTF8]
  constructor
  · intro same
    rw [← String.toList_ofList (l := dropMark text.toList), same]
  · intro same
    rw [same, String.ofList_toList]

end Utf8
