import Libp2pFfi.Events
import Mathlib.Algebra.BigOperators.Group.List.Basic
import Mathlib.Algebra.Order.BigOperators.Group.List
import Mathlib.Algebra.Order.Ring.Int
import Mathlib.Data.List.Induction

/-!
# What a queue does with its records over a whole run

A history is the queue together with what its callers have seen: the pushes it
accepted, how many it refused, and what its polls delivered, in the order in
which the mutex was taken. The laws hold for every bound, every interleaving of
pushes, closes and polls, and every buffer length.

Conservation is one equation per kind of record. What polls delivered followed
by what is queued is what was accepted, so nothing is lost, duplicated or
reordered; the counts delivered in overflow records and the count still pending
add up to the refused pushes, so nothing is lost silently either.
-/

namespace Libp2pFfi.QueueRuns

open EventQueue

/-- One call on the queue, atomic under its mutex. -/
inductive Op where
  | push (record : Record)
  | close (status : Int)
  | poll (cap : Nat)

/-- The queue and what was observed of it so far. `delivered` holds the queued
records that polls handed out, `overflows` the overflow records before them. -/
structure History where
  queue : EventQueue
  accepted : List Record := []
  refused : Nat := 0
  delivered : List Record := []
  overflows : List Record := []

def History.step (history : History) : Op → History
  | .push record =>
    { history with
      queue := history.queue.push record
      accepted := history.accepted ++ (if history.queue.accepts record then [record] else [])
      refused := history.refused + (if history.queue.accepts record then 0 else 1) }
  | .close status => { history with queue := history.queue.close status }
  | .poll cap =>
    { history with
      queue := (history.queue.poll cap).1
      delivered := history.delivered ++ (history.queue.poll cap).2.records
      overflows := history.overflows ++ (history.queue.poll cap).2.overflow.toList }

/-- A run on a new queue with the given bound. -/
def History.run (maxBytes : Nat) (ops : List Op) : History :=
  ops.foldl History.step { queue := EventQueue.new maxBytes }

/-- The bytes a list of records takes. -/
def total (records : List Record) : Int := (records.map fun record => (record.bytes.length : Int)).sum

@[simp] theorem total_nil : total [] = 0 := rfl

@[simp] theorem total_cons (record : Record) (records : List Record) :
    total (record :: records) = record.bytes.length + total records := by
  simp [total]

@[simp] theorem total_append (left right : List Record) :
    total (left ++ right) = total left + total right := by
  simp [total]

theorem total_nonneg (records : List Record) : 0 ≤ total records := by
  induction records with
  | nil => exact le_refl 0
  | cons record rest inductionHypothesis =>
    rw [total_cons]
    omega

/-- The loop splits the queued records: it copies a prefix, leaves the rest,
and accounts for exactly the copied bytes. -/
theorem drain_exact (cap written : Nat) (bytes : Int) (records : List Record) :
    (drain cap written bytes records).copied ++ (drain cap written bytes records).records = records ∧
      (drain cap written bytes records).bytes =
        bytes - total (drain cap written bytes records).copied := by
  induction records generalizing written bytes with
  | nil => simp [drain]
  | cons front rest inductionHypothesis =>
    by_cases full : written + front.bytes.length > cap
    · simp [drain, full]
    · obtain ⟨split, counted⟩ :=
        inductionHypothesis (written + front.bytes.length) (bytes - front.bytes.length)
      simp only [drain, full, if_false, List.cons_append, split, counted, total_cons, true_and]
      omega

/-- Whatever answer the rest of a poll gives, it takes the loop's split of the
queue and passes on the overflow record it was handed. -/
theorem pollRecords_exact (queue : EventQueue) (cap written : Nat) (overflow : Option Record) :
    (pollRecords queue cap written overflow).2.records ++
        (pollRecords queue cap written overflow).1.inner.records = queue.inner.records ∧
      (pollRecords queue cap written overflow).1.inner.bytes =
        queue.inner.bytes - total (pollRecords queue cap written overflow).2.records ∧
      (pollRecords queue cap written overflow).1.inner.dropped = queue.inner.dropped ∧
      (pollRecords queue cap written overflow).1.maxBytes = queue.maxBytes ∧
      (pollRecords queue cap written overflow).2.overflow = overflow := by
  obtain ⟨split, counted⟩ := drain_exact cap written queue.inner.bytes queue.inner.records
  exact ⟨split, counted, rfl, rfl, rfl⟩

/-- Where the dropped count goes in a poll that ends at `after`: it stays, or
it leaves in an overflow record and starts again from zero. A poll that keeps a
pending count hands out nothing at all. -/
def OverflowFirst (queue after : EventQueue) (polled : Polled) : Prop :=
  (polled.overflow = none ∧ after.inner.dropped = queue.inner.dropped ∧
      (0 < queue.inner.dropped → polled.records = [])) ∨
    (polled.overflow = some (overflowRecord queue.inner.dropped) ∧ after.inner.dropped = 0)

/-- One poll takes a prefix of the queue, its bytes with it, and deals with the
dropped count before any record. -/
theorem poll_exact (queue : EventQueue) (cap : Nat) :
    (queue.poll cap).2.records ++ (queue.poll cap).1.inner.records = queue.inner.records ∧
      (queue.poll cap).1.inner.bytes = queue.inner.bytes - total (queue.poll cap).2.records ∧
      (queue.poll cap).1.maxBytes = queue.maxBytes ∧
      OverflowFirst queue (queue.poll cap).1 (queue.poll cap).2 := by
  unfold poll
  split
  · exact ⟨rfl, by simp, rfl, .inl ⟨rfl, rfl, fun _ => rfl⟩⟩
  · split
    · dsimp only
      split
      · exact ⟨rfl, by simp, rfl, .inl ⟨rfl, rfl, fun _ => rfl⟩⟩
      · obtain ⟨split, counted, dropped, bound, passed⟩ := pollRecords_exact
          { queue with inner := { queue.inner with dropped := 0 } } cap
          (overflowRecord queue.inner.dropped).bytes.length (some (overflowRecord queue.inner.dropped))
        exact ⟨split, counted, bound, .inr ⟨passed, dropped⟩⟩
    · obtain ⟨split, counted, dropped, bound, passed⟩ := pollRecords_exact queue cap 0 none
      exact ⟨split, counted, bound, .inl ⟨passed, dropped, by omega⟩⟩

/-- The invariant of a history under the bound `maxBytes`. -/
structure Conserved (maxBytes : Nat) (history : History) : Prop where
  bound : history.queue.maxBytes = maxBytes
  records : history.delivered ++ history.queue.inner.records = history.accepted
  counts : history.refused =
    (history.overflows.map fun record => record.header.id).sum + history.queue.inner.dropped
  bytes : history.queue.inner.bytes = total history.queue.inner.records
  within : history.queue.inner.bytes ≤ maxBytes

theorem conserved_push {maxBytes : Nat} {history : History} (kept : Conserved maxBytes history)
    (record : Record) : Conserved maxBytes (history.step (.push record)) := by
  obtain ⟨bound, records, counts, bytes, within⟩ := kept
  cases room : history.queue.accepts record with
  | true =>
    have fits : history.queue.inner.bytes + record.bytes.length ≤ maxBytes := by
      simpa [EventQueue.accepts, bound] using room
    constructor
    · simp [History.step, EventQueue.push, room, bound]
    · simp [History.step, EventQueue.push, room, ← records]
    · simp [History.step, EventQueue.push, room, counts]
    · simp [History.step, EventQueue.push, room, bytes]
    · simpa [History.step, EventQueue.push, room] using fits
  | false =>
    constructor
    · simp [History.step, EventQueue.push, room, bound]
    · simp [History.step, EventQueue.push, room, records]
    · simp [History.step, EventQueue.push, room, counts, Nat.add_assoc]
    · simp [History.step, EventQueue.push, room, bytes]
    · simp [History.step, EventQueue.push, room, within]

theorem conserved_poll {maxBytes : Nat} {history : History} (kept : Conserved maxBytes history)
    (cap : Nat) : Conserved maxBytes (history.step (.poll cap)) := by
  obtain ⟨bound, records, counts, bytes, within⟩ := kept
  obtain ⟨split, counted, sameBound, overflow⟩ := poll_exact history.queue cap
  have copied : total history.queue.inner.records =
      total (history.queue.poll cap).2.records +
        total (history.queue.poll cap).1.inner.records := by
    rw [← total_append, split]
  refine ⟨sameBound.trans bound, ?_, ?_, ?_, ?_⟩
  · simp only [History.step, List.append_assoc, split, records]
  · rcases overflow with ⟨none, same, -⟩ | ⟨some, zero⟩
    · simp [History.step, none, same, counts]
    · simp [History.step, some, zero, counts, overflowRecord, EventBuilder.build,
        EventBuilder.data, EventBuilder.id]
  · simp only [History.step]
    omega
  · have taken : 0 ≤ total (history.queue.poll cap).2.records := total_nonneg _
    simp only [History.step]
    omega

/-- Every history of a new queue keeps the invariant, by induction on the run. -/
theorem conserved_run (maxBytes : Nat) (ops : List Op) :
    Conserved maxBytes (History.run maxBytes ops) := by
  induction ops using List.reverseRecOn with
  | nil => exact ⟨rfl, rfl, rfl, rfl, by simp [History.run, EventQueue.new]⟩
  | append_singleton ops op inductionHypothesis =>
    rw [History.run, List.foldl_append]
    cases op with
    | push record => exact conserved_push inductionHypothesis record
    | close status => exact { inductionHypothesis with }
    | poll cap => exact conserved_poll inductionHypothesis cap

/-- The queue loses, duplicates and reorders nothing silently. After any run,
for any bound: the records polls delivered followed by the queued ones are the
accepted pushes in push order; the refused pushes are the counts delivered in
overflow records plus the pending count; the byte count is that of the queued
records, within the bound and never negative; and a poll that hands anything
out while events are missing reports their number first. -/
theorem queue_run_exact (maxBytes : Nat) (ops : List Op) :
    let history := History.run maxBytes ops
    history.delivered ++ history.queue.inner.records = history.accepted ∧
      history.refused = (history.overflows.map fun record => record.header.id).sum +
        history.queue.inner.dropped ∧
      history.queue.inner.bytes = total history.queue.inner.records ∧
      history.queue.inner.bytes ≤ maxBytes ∧ 0 ≤ history.queue.inner.bytes ∧
      ∀ cap, (history.queue.poll cap).2.delivered ≠ [] → 0 < history.queue.inner.dropped →
        ∃ rest, (history.queue.poll cap).2.delivered =
          overflowRecord history.queue.inner.dropped :: rest := by
  intro history
  obtain ⟨-, records, counts, bytes, within⟩ := conserved_run maxBytes ops
  refine ⟨records, counts, bytes, within, bytes ▸ total_nonneg _, ?_⟩
  intro cap delivers missing
  obtain ⟨-, -, -, overflow⟩ := poll_exact history.queue cap
  rcases overflow with ⟨none, -, nothing⟩ | ⟨some, -⟩
  · exact absurd (by simp [Polled.delivered, none, nothing missing]) delivers
  · exact ⟨(history.queue.poll cap).2.records, by simp [Polled.delivered, some]⟩

end Libp2pFfi.QueueRuns
