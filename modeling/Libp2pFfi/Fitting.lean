import Mathlib.Algebra.BigOperators.Group.List.Basic
import Mathlib.Algebra.Order.BigOperators.Group.List
import Mathlib.Algebra.Order.Ring.Nat
import Mathlib.Data.List.Infix

/-!
# The longest part of a list that fits

Items of different sizes go into a room from the front, in order, until one does not
fit. That one stops the loop, also where a smaller one follows it, so what has gone in
is a prefix of the items: the longest one whose sizes add up to no more than the room.
-/

namespace Fitting

variable {α : Type} (size : α → Nat)

/-- The room a list of items takes. -/
def total (items : List α) : Nat := (items.map size).sum

/-- Take items from the front while they fit. -/
def fill : Nat → List α → List α
  | _, [] => []
  | room, item :: rest => if size item ≤ room then item :: fill (room - size item) rest else []

/-- `taken` is the longest prefix of the items that fits the room: every prefix that
fits is a prefix of it. -/
structure Longest (room : Nat) (items taken : List α) : Prop where
  initial : taken <+: items
  fits : total size taken ≤ room
  longest : ∀ shorter, shorter <+: items → total size shorter ≤ room → shorter <+: taken

variable {size} {room : Nat} {items taken : List α}

@[simp] theorem total_nil : total size [] = 0 := rfl

@[simp] theorem total_cons (item : α) (rest : List α) :
    total size (item :: rest) = size item + total size rest := by
  simp [total]

@[simp] theorem total_append (left right : List α) :
    total size (left ++ right) = total size left + total size right := by
  simp [total]

/-- Where the next item fits, the longest prefix goes on behind it. -/
theorem Longest.cons {item : α} (fits : size item ≤ room)
    (rest : Longest size (room - size item) items taken) :
    Longest size room (item :: items) (item :: taken) := by
  constructor
  · exact List.cons_prefix_cons.mpr ⟨rfl, rest.initial⟩
  · have behind := rest.fits
    rw [total_cons]
    omega
  · intro shorter initial within
    cases shorter with
    | nil => exact List.nil_prefix
    | cons first others =>
      obtain ⟨rfl, behind⟩ := List.cons_prefix_cons.mp initial
      rw [total_cons] at within
      exact List.cons_prefix_cons.mpr ⟨rfl, rest.longest others behind (by omega)⟩

/-- Where the next item does not fit, nothing does. -/
theorem Longest.nil_of_lt {item : α} (large : room < size item) :
    Longest size room (item :: items) [] := by
  constructor
  · exact List.nil_prefix
  · exact Nat.zero_le room
  · intro shorter initial within
    cases shorter with
    | nil => exact List.nil_prefix
    | cons first others =>
      obtain ⟨rfl, -⟩ := List.cons_prefix_cons.mp initial
      rw [total_cons] at within
      omega

theorem fill_longest (room : Nat) (items : List α) : Longest size room items (fill size room items) := by
  induction items generalizing room with
  | nil => exact ⟨List.nil_prefix, Nat.zero_le room, fun _ initial _ => initial⟩
  | cons item rest inductionHypothesis =>
    rw [fill]
    split
    · next fits => exact .cons fits (inductionHypothesis (room - size item))
    · next large => exact .nil_of_lt (not_le.mp large)

/-- A part of the items takes no more room than all of them. -/
theorem total_le_of_initial (initial : taken <+: items) : total size taken ≤ total size items := by
  obtain ⟨rest, rfl⟩ := initial
  rw [total_append]
  exact Nat.le_add_right _ _

/-- Where everything fits, everything goes in. -/
theorem fill_of_total_le (fits : total size items ≤ room) : fill size room items = items := by
  have longest : Longest size room items (fill size room items) := fill_longest room items
  exact longest.initial.eq_of_length_le (longest.longest items List.prefix_rfl fits).length_le

@[simp] theorem total_replicate (count : Nat) (item : α) :
    total size (List.replicate count item) = count * size item := by
  simp [total]

end Fitting
