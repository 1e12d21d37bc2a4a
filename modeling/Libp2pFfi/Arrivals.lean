import Mathlib.Data.List.Induction
import Mathlib.Data.List.Nodup
import Mathlib.Tactic.Common

/-!
# A queue in three parts

Items arrive one after the other, some of them again. Each is put into a queue when it
arrives first: a favourite at the front, what is to come last at the end, and everything
else before the first of those. The queue is then what sorting the distinct items once
would give: the favourite, the others, and the last ones, each part in the order of first
arrival.
-/

namespace Arrivals

/-- What is put before the first that is to come last goes behind all the others. -/
theorem insertIdx_first {α : Type} {isLast : α → Bool} {front back : List α}
    (before : ∀ other ∈ front, isLast other = false)
    (behind : ∀ other ∈ back, isLast other = true) (item : α) :
    (front ++ back).insertIdx ((front ++ back).findIdx isLast) item = front ++ item :: back := by
  induction front with
  | nil =>
    cases back with
    | nil => rfl
    | cons head rest =>
      rw [List.nil_append, List.findIdx_cons, behind head List.mem_cons_self]
      rfl
  | cons head rest inductionHypothesis =>
    have tail := inductionHypothesis fun other member => before other (List.mem_cons_of_mem _ member)
    rw [List.cons_append, List.findIdx_cons, before head List.mem_cons_self]
    exact congrArg (head :: ·) tail

variable {α : Type} [DecidableEq α] (favourite : Option α) (isLast : α → Bool)

/-- Put an item into the queue. -/
def place (queue : List α) (item : α) : List α :=
  if favourite = some item ∧ isLast item = false then item :: queue
  else if isLast item then queue ++ [item]
  else queue.insertIdx (queue.findIdx isLast) item

/-- The distinct arrivals in three parts. -/
def arranged (arrivals : List α) : List α :=
  (arrivals.eraseDups.filter fun item => favourite = some item ∧ isLast item = false) ++
    ((arrivals.eraseDups.filter fun item => favourite ≠ some item ∧ isLast item = false) ++
      arrivals.eraseDups.filter isLast)

variable {favourite isLast} {arrivals : List α} {item : α}

theorem eraseDups_concat_of_mem (again : item ∈ arrivals) :
    (arrivals ++ [item]).eraseDups = arrivals.eraseDups := by
  rw [List.eraseDups_append]
  simp [List.removeAll, again]

theorem eraseDups_concat (first : item ∉ arrivals) :
    (arrivals ++ [item]).eraseDups = arrivals.eraseDups ++ [item] := by
  rw [List.eraseDups_append]
  simp [List.removeAll, first, List.eraseDups_cons]

theorem nodup_eraseDups (arrivals : List α) : arrivals.eraseDups.Nodup := by
  induction arrivals using List.reverseRecOn with
  | nil => exact List.nodup_nil
  | append_singleton arrivals item inductionHypothesis =>
    by_cases again : item ∈ arrivals
    · rw [eraseDups_concat_of_mem again]
      exact inductionHypothesis
    · rw [eraseDups_concat again]
      exact List.nodup_append.mpr ⟨inductionHypothesis, List.nodup_singleton item, by
        intro earlier member later same
        rw [List.mem_singleton.mp same]
        rintro rfl
        exact again (List.mem_eraseDups.mp member)⟩

/-- An item that arrived before is in the queue already. -/
theorem arranged_concat_of_mem (again : item ∈ arrivals) :
    arranged favourite isLast (arrivals ++ [item]) = arranged favourite isLast arrivals := by
  rw [arranged, eraseDups_concat_of_mem again, arranged]

/-- One that did not goes where it belongs. -/
theorem place_arranged (first : item ∉ arrivals) :
    place favourite isLast (arranged favourite isLast arrivals) item =
      arranged favourite isLast (arrivals ++ [item]) := by
  rw [place, arranged, arranged, eraseDups_concat first]
  by_cases last : isLast item = true
  · rw [if_neg (by simp [last]), if_pos last]
    simp [List.filter_append, last]
  · rw [Bool.not_eq_true] at last
    by_cases favoured : favourite = some item
    · -- Nobody else is the favourite, and the favourite had not arrived.
      have none : (arrivals.eraseDups.filter fun item =>
          favourite = some item ∧ isLast item = false) = [] := by
        rw [List.filter_eq_nil_iff]
        intro other member holds
        have isFavourite := (of_decide_eq_true holds).1
        obtain rfl := Option.some.inj (favoured.symm.trans isFavourite)
        exact first (List.mem_eraseDups.mp member)
      rw [if_pos ⟨favoured, last⟩, List.filter_append, List.filter_append, List.filter_append, none]
      simp [last, favoured]
    · rw [if_neg (fun both => favoured both.1), if_neg (by simp [last]), ← List.append_assoc,
        insertIdx_first]
      · simp [List.filter_append, last, favoured]
      · intro other member
        rcases List.mem_append.mp member with isFirst | isOther
        · exact (of_decide_eq_true (List.mem_filter.mp isFirst).2).2
        · exact (of_decide_eq_true (List.mem_filter.mp isOther).2).2
      · intro other member
        exact (List.mem_filter.mp member).2

theorem place_perm (favourite : Option α) (isLast : α → Bool) (queue : List α) (item : α) :
    (place favourite isLast queue item).Perm (item :: queue) := by
  unfold place
  split
  · exact List.Perm.refl _
  · split
    · exact List.perm_append_singleton item queue
    · exact List.perm_insertIdx item queue List.findIdx_le_length

/-- The queue has the distinct arrivals, each once. -/
theorem arranged_perm (favourite : Option α) (isLast : α → Bool) (arrivals : List α) :
    (arranged favourite isLast arrivals).Perm arrivals.eraseDups := by
  induction arrivals using List.reverseRecOn with
  | nil => exact List.Perm.refl _
  | append_singleton arrivals item inductionHypothesis =>
    by_cases again : item ∈ arrivals
    · rw [arranged_concat_of_mem again, eraseDups_concat_of_mem again]
      exact inductionHypothesis
    · rw [← place_arranged again, eraseDups_concat again]
      exact (place_perm favourite isLast _ item).trans
        ((inductionHypothesis.cons item).trans (List.perm_append_singleton item _).symm)

end Arrivals
