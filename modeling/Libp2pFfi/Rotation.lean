import Mathlib.Data.Finset.Card
import Mathlib.Data.List.Rotate
import Mathlib.Order.Interval.Finset.Nat

/-!
# Windows on a circle

A circle has `size` places. A window shows `count` of them, one after the other, and
goes on at the first place behind the last. Moving the window by one place `size` times
takes it all the way around: every place is once the first of it, and is in it exactly
`count` times.
-/

namespace Rotation

/-- The places that a window from `start` on shows. -/
def window (size start count : Nat) : List Nat :=
  (List.range count).map fun offset => (start + offset) % size

variable {size start count place : Nat}

@[simp] theorem length_window (size start count : Nat) : (window size start count).length = count := by
  simp [window]

theorem mem_window :
    place ∈ window size start count ↔ ∃ offset < count, (start + offset) % size = place := by
  simp [window]

theorem mod_of_lt {value : Nat} (less : value < 2 * size) :
    value % size = if value < size then value else value - size := by
  split
  · rename_i below
    exact Nat.mod_eq_of_lt below
  · rename_i above
    rw [Nat.mod_eq_sub_mod (by omega), Nat.mod_eq_of_lt (by omega)]

/-- How far it is from `start` to `place`. -/
def distance (size start place : Nat) : Nat := (place + (size - start % size)) % size

theorem distance_lt (some : 0 < size) (start place : Nat) : distance size start place < size :=
  Nat.mod_lt _ some

/-- Of all ways shorter than the circle one leads to a place. -/
theorem reaches_iff {way : Nat} (inside : place < size) (short : way < size) :
    (start + way) % size = place ↔ way = distance size start place := by
  have turn : start % size < size := Nat.mod_lt _ (by omega)
  rw [distance, Nat.add_mod, Nat.mod_eq_of_lt short]
  generalize start % size = turned at turn ⊢
  rw [mod_of_lt (by omega), mod_of_lt (by omega)]
  split <;> split <;> omega

/-- A window shows the places that are not too far. -/
theorem mem_window_iff (fits : count ≤ size) (inside : place < size) :
    place ∈ window size start count ↔ distance size start place < count := by
  rw [mem_window]
  constructor
  · rintro ⟨offset, less, reached⟩
    rwa [← (reaches_iff inside (less.trans_le fits)).mp reached]
  · intro less
    exact ⟨_, less, (reaches_iff inside (less.trans_le fits)).mpr rfl⟩

/-- Whether the start is moved or the way is made longer comes to the same. -/
theorem distance_distance {way : Nat} (inside : place < size) (short : way < size) :
    distance size (start + distance size (start + way) place) place = way := by
  have there : (start + way + distance size (start + way) place) % size = place :=
    (reaches_iff inside (distance_lt (by omega) _ place)).mpr rfl
  rw [Nat.add_right_comm] at there
  exact ((reaches_iff inside short).mp there).symm

/-- A window shows no place twice unless it is longer than the circle. -/
theorem nodup_window (fits : count ≤ size) : (window size start count).Nodup := by
  apply List.Nodup.map_on _ List.nodup_range
  intro first isFirst second isSecond same
  rw [List.mem_range] at isFirst isSecond
  have inside : (start + first) % size < size := Nat.mod_lt _ (by omega)
  have left := (reaches_iff inside (isFirst.trans_le fits)).mp rfl
  have right := (reaches_iff inside (isSecond.trans_le fits)).mp same.symm
  exact left.trans right.symm

theorem head_window (size start : Nat) {count : Nat} (shows : 0 < count) :
    (window size start count).head? = some (start % size) := by
  obtain ⟨count, rfl⟩ := Nat.exists_eq_add_of_lt shows
  simp [window, List.range_succ_eq_map]

/-- Moving the window all the way around, a place is in it as often as it has places. -/
theorem card_shown (fits : count ≤ size) (start : Nat) (inside : place < size) :
    ((Finset.range size).filter fun moves => place ∈ window size (start + moves) count).card =
      count := by
  -- Moves that bring the place into the window and the places it takes there are one to one.
  refine Eq.trans ?_ (Finset.card_range count)
  apply Finset.card_nbij' (fun moves => distance size (start + moves) place)
    (fun way => distance size (start + way) place)
  · intro moves member
    obtain ⟨short, shown⟩ := Finset.mem_filter.mp member
    exact Finset.mem_range.mpr ((mem_window_iff fits inside).mp shown)
  · intro way member
    have less : way < size := (Finset.mem_range.mp member).trans_le fits
    refine Finset.mem_filter.mpr ⟨Finset.mem_range.mpr (distance_lt (by omega) _ place), ?_⟩
    refine (mem_window_iff fits inside).mpr ?_
    rw [distance_distance inside less]
    exact Finset.mem_range.mp member
  · intro moves member
    exact distance_distance inside (Finset.mem_range.mp (Finset.mem_filter.mp member).1)
  · intro way member
    exact distance_distance inside ((Finset.mem_range.mp member).trans_le fits)

theorem window_mod (size start count : Nat) :
    window size (start % size) count = window size start count := by
  simp [window]

/-- The front of a list that was turned shows a window of it. -/
theorem map_some_take_rotate {α : Type} {items : List α} (fits : count ≤ items.length)
    (start : Nat) :
    ((items.rotate start).take count).map some = (window items.length start count).map (items[·]?) := by
  apply List.ext_getElem?
  intro offset
  rw [window, List.map_map, List.getElem?_map, List.getElem?_map, List.getElem?_take]
  split
  · rename_i less
    have inside : offset < items.length := by omega
    rw [List.getElem?_range less, List.getElem?_rotate inside, Nat.add_comm offset start]
    obtain ⟨item, found⟩ : ∃ item, items[(start + offset) % items.length]? = some item :=
      ⟨_, List.getElem?_eq_getElem (Nat.mod_lt _ (Nat.zero_lt_of_lt inside))⟩
    simp [found]
  · rename_i beyond
    rw [List.getElem?_eq_none (by simpa using beyond)]
    rfl

/-- Each place of a window follows the one before. -/
theorem isChain_window (size start count : Nat) :
    (window size start count).IsChain fun earlier later => later = (earlier + 1) % size := by
  rw [window, List.isChain_map, List.isChain_range]
  intro offset _
  rw [Nat.mod_add_mod, Nat.add_assoc]

/-- Windows of these counts, each one place further than the one before. -/
def windows (size : Nat) : Nat → List Nat → List (List Nat)
  | _, [] => []
  | start, count :: counts => window size start count :: windows size (start + 1) counts

theorem windows_mod (size start : Nat) (counts : List Nat) :
    windows size (start % size) counts = windows size start counts := by
  induction counts generalizing start with
  | nil => rfl
  | cons count counts inductionHypothesis =>
    rw [windows, windows, window_mod, ← inductionHypothesis, Nat.mod_add_mod, inductionHypothesis]

theorem getElem?_windows (size start : Nat) (counts : List Nat) (moves : Nat) :
    (windows size start counts)[moves]? = counts[moves]?.map (window size (start + moves)) := by
  induction counts generalizing start moves with
  | nil => rfl
  | cons count counts inductionHypothesis =>
    cases moves with
    | zero => rfl
    | succ moves =>
      rw [windows, List.getElem?_cons_succ, List.getElem?_cons_succ, inductionHypothesis,
        Nat.add_assoc, Nat.add_comm 1]

theorem windows_replicate (size start count rounds : Nat) :
    windows size start (List.replicate rounds count) =
      (List.range rounds).map fun moves => window size (start + moves) count := by
  apply List.ext_getElem?
  intro moves
  rw [getElem?_windows, List.getElem?_map, List.getElem?_replicate]
  split
  · rename_i short
    rw [List.getElem?_range short]
    rfl
  · rename_i long
    rw [List.getElem?_eq_none (by simpa using long)]
    rfl

/-- Once around, every place is the first of one window, if all windows show something. -/
theorem first_once {counts : List Nat} (around : counts.length = size)
    (shows : ∀ count ∈ counts, 0 < count) (start : Nat) (inside : place < size) :
    ∃! moves : Nat, (windows size start counts)[moves]?.bind List.head? = some place := by
  have first {moves : Nat} (short : moves < size) :
      (windows size start counts)[moves]?.bind List.head? = some ((start + moves) % size) := by
    have found : counts[moves]? = some counts[moves] := List.getElem?_eq_getElem _
    rw [getElem?_windows, found]
    exact head_window _ _ (shows _ (List.getElem_mem _))
  have way : distance size start place < size := distance_lt (by omega) start place
  refine ⟨distance size start place, ?_, ?_⟩
  · exact (first way).trans (congrArg some ((reaches_iff inside way).mpr rfl))
  · intro moves isFirst
    by_cases short : moves < size
    · rw [first short] at isFirst
      exact (reaches_iff inside short).mp (Option.some.inj isFirst)
    · rw [getElem?_windows, List.getElem?_eq_none (by omega)] at isFirst
      cases isFirst

/-- Once around, a place is in as many of the windows as each of them has places. -/
theorem countP_windows (fits : count ≤ size) (start : Nat) (inside : place < size) :
    (windows size start (List.replicate size count)).countP (place ∈ ·) = count := by
  have shown := card_shown fits start inside
  rw [windows_replicate, List.countP_map, List.countP_eq_length_filter,
    ← List.toFinset_card_of_nodup (List.nodup_range.filter _)]
  convert shown using 2
  ext moves
  simp

end Rotation
