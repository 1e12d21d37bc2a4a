import Mathlib.Data.Set.Function

/-!
# Formats

A format writes values as lists of symbols and reads lists back. It is exact
when the two functions undo each other: what was written is read as it was, and
what is read was written so. The lists that are accepted are then those of one
grammar, and writing is a bijection between the values that may be written and
the words of that grammar.
-/

universe u v

/-- Writing and reading undo each other, on the values that may be written and on
the words of the grammar. -/
structure IsFormat {α : Type u} {σ : Type v} (Valid : α → Prop) (Grammar : List σ → Prop)
    (encode : α → List σ) (decode : List σ → Option α) : Prop where
  decode_encode : ∀ value, Valid value → decode (encode value) = some value
  accepts_iff : ∀ word, (∃ value, decode word = some value) ↔ Grammar word
  encode_decode : ∀ word value, decode word = some value → Valid value ∧ encode value = word

namespace IsFormat

variable {α : Type u} {σ : Type v} {Valid : α → Prop} {Grammar : List σ → Prop}
  {encode : α → List σ} {decode : List σ → Option α}

/-- No two values are written alike. -/
theorem injOn (format : IsFormat Valid Grammar encode decode) :
    Set.InjOn encode {value | Valid value} := by
  intro left validLeft right validRight same
  have read := format.decode_encode left validLeft
  rw [same, format.decode_encode right validRight] at read
  exact (Option.some.inj read).symm

/-- Writing is onto the grammar. -/
theorem bijOn (format : IsFormat Valid Grammar encode decode) :
    Set.BijOn encode {value | Valid value} {word | Grammar word} := by
  refine ⟨fun value valid => ?_, format.injOn, fun word inGrammar => ?_⟩
  · exact (format.accepts_iff _).mp ⟨value, format.decode_encode value valid⟩
  · obtain ⟨value, read⟩ := (format.accepts_iff word).mpr inGrammar
    obtain ⟨valid, written⟩ := format.encode_decode word value read
    exact ⟨value, valid, written⟩

end IsFormat
