import Libp2pFfi.Fitting
import Libp2pFfi.PollBuffer
import Libp2pFfi.Reader

/-!
# What a poll answers

The records that are due are the overflow record, while a count is pending, and the
queued records behind it. A poll that does not wait is decided by them, by the status
the queue was closed with, and by the length of the buffer:

* the first record due does not fit: the error of a small buffer;
* nothing is due and the queue is closed: the status it was closed with first;
* nothing is due and it is open: zero;
* in every other case: the bytes of as many records as fit.

Only the last consumes anything. It also clears the count of dropped events, which is
the number `lp2p_stats_get` reports as `events_dropped`.
-/

namespace Libp2pFfi

open Fitting
open QueueRuns (drain_written pollRecords_exact)

/-- The room a record takes in a buffer. -/
def Record.length (record : Record) : Nat := record.bytes.length

theorem total_length (records : List Record) :
    total Record.length records = (records.flatMap Record.bytes).length := by
  induction records with
  | nil => rfl
  | cons record rest inductionHypothesis =>
    rw [total_cons, List.flatMap_cons, List.length_append, inductionHypothesis, Record.length]

namespace EventQueue

/-- The records the next polls hand out, in order. -/
def due (queue : EventQueue) : List Record :=
  (if 0 < queue.inner.dropped then [overflowRecord queue.inner.dropped] else []) ++
    queue.inner.records

/-- The loop over the records fills what is left of the buffer. -/
theorem drain_fill {cap written : Nat} (within : written ≤ cap) (bytes : Int)
    (records : List Record) :
    (drain cap written bytes records).copied = fill Record.length (cap - written) records := by
  induction records generalizing written bytes with
  | nil => rfl
  | cons front rest inductionHypothesis =>
    rw [drain, fill]
    by_cases full : written + front.bytes.length > cap
    · rw [if_pos full, if_neg (by unfold Record.length; omega)]
    · rw [if_neg full, if_pos (by unfold Record.length; omega)]
      refine congrArg (front :: ·) ?_
      rw [inductionHypothesis (by omega), Nat.sub_sub]
      rfl

/-- The loop is an error exactly if it has nothing written and its first record does
not fit. -/
theorem drain_tooSmall (cap written : Nat) (bytes : Int) (records : List Record) :
    (drain cap written bytes records).tooSmall = true ↔
      written = 0 ∧ ∃ front ∈ records.head?, cap < front.bytes.length := by
  cases records with
  | nil => simp [drain]
  | cons front rest =>
    by_cases full : written + front.bytes.length > cap
    · rw [drain, if_pos full]
      simp only [beq_iff_eq, List.head?_cons, Option.mem_some_iff, exists_eq_left']
      omega
    · have positive := Record.bytes_length_pos front
      rw [drain, if_neg full]
      simp only [(drain_after_written cap (written + front.bytes.length) _ rest (by omega)).1,
        Bool.false_eq_true, List.head?_cons, Option.mem_some_iff, exists_eq_left', false_iff]
      omega

/-- The loop over the records when something is written already, or its first record
fits: it fills the buffer, leaves what is behind that, and answers what is written. -/
theorem pollRecords_fill (queue : EventQueue) {cap written : Nat} (overflow : Option Record)
    (within : written ≤ cap)
    (some : 0 < written ∨ ∃ next ∈ queue.inner.records.head?, next.length ≤ cap) :
    (pollRecords queue cap written overflow).2.records =
        fill Record.length (cap - written) queue.inner.records ∧
      (pollRecords queue cap written overflow).2.status =
        asI32 (written + total Record.length
          (fill Record.length (cap - written) queue.inner.records)) := by
  have copied := drain_fill within queue.inner.bytes queue.inner.records
  obtain ⟨counted, -, -⟩ := drain_written cap written queue.inner.bytes queue.inner.records
  rw [copied, ← total_length] at counted
  have noError : (drain cap written queue.inner.bytes queue.inner.records).tooSmall = false := by
    rw [← Bool.not_eq_true, drain_tooSmall]
    rintro ⟨rfl, front, first, large⟩
    rcases some with positive | ⟨next, same, fits⟩
    · exact absurd positive (lt_irrefl 0)
    · obtain rfl := Option.mem_unique first same
      exact absurd large (not_lt.mpr fits)
  have positive : (drain cap written queue.inner.bytes queue.inner.records).written ≠ 0 := by
    rw [counted]
    rcases some with positive | ⟨next, first, fits⟩
    · omega
    · obtain ⟨rest, front⟩ : ∃ rest, queue.inner.records = next :: rest :=
        List.head?_eq_some_iff.mp first
      have length := Record.bytes_length_pos next
      by_cases zero : written = 0
      · rw [front, fill, if_pos (by omega), total_cons, Record.length]
        omega
      · omega
  refine ⟨copied, ?_⟩
  rw [← counted]
  simp [pollRecords, Drained.status, noError, positive]

/-- With nothing due a poll answers the status of a closed queue, or zero. -/
theorem poll_idle {queue : EventQueue} (cap : Nat) (nothing : queue.due = []) :
    queue.poll cap = (queue, { status := queue.inner.closed.getD 0 }) := by
  obtain ⟨⟨records, bytes, dropped, closed⟩, maxBytes⟩ := queue
  obtain ⟨noOverflow, rfl⟩ := List.append_eq_nil_iff.mp nothing
  obtain rfl : dropped = 0 := by simpa using noOverflow
  cases closed with
  | none => rfl
  | some status => rfl

/-- A first record due that does not fit stays, and so does everything else. -/
theorem poll_tooSmall {queue : EventQueue} {cap : Nat} {next : Record}
    (first : next ∈ queue.due.head?) (large : cap < next.length) :
    queue.poll cap = (queue, { status := errBufferTooSmall }) := by
  obtain ⟨⟨records, bytes, dropped, closed⟩, maxBytes⟩ := queue
  by_cases missing : 0 < dropped
  · obtain rfl : overflowRecord dropped = next := by simpa [due, missing] using first
    rw [Record.length] at large
    simp [poll, missing, missing.ne', large]
  · obtain rfl : dropped = 0 := by omega
    cases records with
    | nil => simp [due] at first
    | cons front rest =>
      obtain rfl : front = next := by simpa [due] using first
      rw [Record.length] at large
      simp [poll, pollRecords, drain, Drained.status, large]

/-- The loop behind an overflow record, or without one, hands out the record and what
fits behind it, and leaves the rest due. -/
theorem pollRecords_delivers (queue : EventQueue) {cap : Nat} (overflow : Option Record)
    (counted : queue.inner.dropped = 0) (within : total Record.length overflow.toList ≤ cap)
    (some : 0 < total Record.length overflow.toList ∨
      ∃ next ∈ queue.inner.records.head?, next.length ≤ cap) :
    let written := total Record.length overflow.toList
    let polled := pollRecords queue cap written overflow
    polled.2.delivered =
        overflow.toList ++ fill Record.length (cap - written) queue.inner.records ∧
      polled.2.status = asI32 (total Record.length polled.2.delivered) ∧
      polled.2.delivered ++ polled.1.due = overflow.toList ++ queue.inner.records := by
  intro written polled
  obtain ⟨copied, status⟩ := pollRecords_fill queue overflow within some
  obtain ⟨split, -, kept, -, passed⟩ := pollRecords_exact queue cap written overflow
  have delivered : polled.2.delivered =
      overflow.toList ++ fill Record.length (cap - written) queue.inner.records := by
    rw [Polled.delivered, passed, copied]
  refine ⟨delivered, ?_, ?_⟩
  · rw [delivered, total_append]
    exact status
  · have due : polled.1.due = polled.1.inner.records := by
      rw [EventQueue.due, kept.trans counted]
      rfl
    rw [Polled.delivered, passed, due, List.append_assoc, split]

/-- Where the first record due fits, the buffer is filled with as many as do. -/
theorem poll_delivers {queue : EventQueue} {cap : Nat} {next : Record}
    (first : next ∈ queue.due.head?) (fits : next.length ≤ cap) :
    (queue.poll cap).2.delivered = fill Record.length cap queue.due ∧
      (queue.poll cap).2.status = asI32 (total Record.length (queue.poll cap).2.delivered) ∧
      (queue.poll cap).2.delivered ++ (queue.poll cap).1.due = queue.due := by
  obtain ⟨⟨records, bytes, dropped, closed⟩, maxBytes⟩ := queue
  by_cases missing : 0 < dropped
  · -- The overflow record goes first, and the count with it.
    obtain rfl : overflowRecord dropped = next := by simpa [due, missing] using first
    have all : due ⟨⟨records, bytes, dropped, closed⟩, maxBytes⟩ =
        overflowRecord dropped :: records := by
      simp [due, missing]
    have alone : total Record.length [overflowRecord dropped] = (overflowRecord dropped).length := by
      simp
    have shape : poll ⟨⟨records, bytes, dropped, closed⟩, maxBytes⟩ cap =
        pollRecords ⟨⟨records, bytes, 0, closed⟩, maxBytes⟩ cap
          (total Record.length [overflowRecord dropped]) (some (overflowRecord dropped)) := by
      have room : ¬ cap < (overflowRecord dropped).bytes.length := not_lt.mpr fits
      simp [poll, missing, missing.ne', room, Record.length]
    have delivers := pollRecords_delivers ⟨⟨records, bytes, 0, closed⟩, maxBytes⟩
      (some (overflowRecord dropped)) rfl (alone.trans_le fits) (.inl (alone ▸ Record.bytes_length_pos _))
    rw [shape, all, fill, if_pos fits]
    exact alone ▸ delivers
  · obtain rfl : dropped = 0 := by omega
    have all : due ⟨⟨records, bytes, 0, closed⟩, maxBytes⟩ = records := rfl
    have shape : poll ⟨⟨records, bytes, 0, closed⟩, maxBytes⟩ cap =
        pollRecords ⟨⟨records, bytes, 0, closed⟩, maxBytes⟩ cap 0 none := by
      cases records with
      | nil => simp [due] at first
      | cons front rest => rfl
    rw [all] at first ⊢
    rw [shape]
    exact pollRecords_delivers _ none rfl (Nat.zero_le cap) (.inr ⟨next, first, fits⟩)

/-- What a poll does, from what is due and the length of the buffer. -/
theorem poll_cases (queue : EventQueue) (cap : Nat) :
    (queue.due = [] ∧ queue.poll cap = (queue, { status := queue.inner.closed.getD 0 })) ∨
      (∃ next ∈ queue.due.head?, cap < next.length ∧
        queue.poll cap = (queue, { status := errBufferTooSmall })) ∨
      ∃ next ∈ queue.due.head?, next.length ≤ cap ∧
        (queue.poll cap).2.delivered = fill Record.length cap queue.due ∧
        (queue.poll cap).2.status = asI32 (total Record.length (queue.poll cap).2.delivered) ∧
        (queue.poll cap).2.delivered ++ (queue.poll cap).1.due = queue.due := by
  cases first : queue.due.head? with
  | none =>
    have nothing := List.head?_eq_none_iff.mp first
    exact .inl ⟨nothing, poll_idle cap nothing⟩
  | some next =>
    rcases lt_or_ge cap next.length with large | fits
    · exact .inr (.inl ⟨next, rfl, large, poll_tooSmall first large⟩)
    · exact .inr (.inr ⟨next, rfl, fits, poll_delivers first fits⟩)

end EventQueue

open EventQueue
open QueueRuns (Op History firstClose closed_run firstClose_mem)

/-- How a poll of `queue` with a buffer of `cap` bytes is decided, and what it leaves. -/
structure Answered (queue : EventQueue) (cap : Nat) (after : EventQueue) (polled : Polled) :
    Prop where
  tooSmall : polled.status = errBufferTooSmall ↔
    ∃ next ∈ queue.due.head?, cap < next.bytes.length
  closed : queue.inner.closed = some polled.status ↔
    queue.inner.closed.isSome ∧ queue.inner.records = [] ∧ queue.inner.dropped = 0
  idle : polled.status = 0 ↔
    queue.inner.closed = none ∧ queue.inner.records = [] ∧ queue.inner.dropped = 0
  /-- In every other case the records that fit are handed out, and no other. -/
  delivers : ∀ next ∈ queue.due.head?, next.bytes.length ≤ cap →
    Longest Record.length cap queue.due polled.delivered ∧
      polled.status = polled.buffer.length ∧ polled.delivered ++ after.due = queue.due
  untouched : polled.status ≤ 0 → after = queue ∧ polled.delivered = []

/-- Nothing is due exactly if nothing is queued and nothing was dropped. -/
theorem due_eq_nil_iff (queue : EventQueue) :
    queue.due = [] ↔ queue.inner.records = [] ∧ queue.inner.dropped = 0 := by
  simp [due, and_comm]

/-- The statuses a node closes its queue with. -/
def ClosedBy (closed : Option Int) : Prop :=
  ∀ status, closed = some status → status = errShutDown ∨ status = errPanic

theorem answered_idle {queue : EventQueue} {cap : Nat} (closes : ClosedBy queue.inner.closed)
    (nothing : queue.due = []) :
    Answered queue cap queue { status := queue.inner.closed.getD 0 } := by
  obtain ⟨empty, none⟩ := (due_eq_nil_iff queue).mp nothing
  cases isClosed : queue.inner.closed with
  | none => constructor <;> simp [nothing, isClosed, empty, none, Polled.delivered, errBufferTooSmall]
  | some status =>
    have negative : status ≠ errBufferTooSmall ∧ status ≠ 0 := by
      rcases closes status isClosed with rfl | rfl <;> decide
    constructor <;> simp [nothing, isClosed, empty, none, Polled.delivered, negative]

theorem answered_tooSmall {queue : EventQueue} {cap : Nat} {next : Record}
    (closes : ClosedBy queue.inner.closed) (first : next ∈ queue.due.head?)
    (large : cap < next.bytes.length) :
    Answered queue cap queue { status := errBufferTooSmall } := by
  have due : ¬ (queue.inner.records = [] ∧ queue.inner.dropped = 0) := by
    rw [← due_eq_nil_iff]
    intro nothing
    simp [nothing] at first
  constructor
  · exact ⟨fun _ => ⟨next, first, large⟩, fun _ => rfl⟩
  · constructor
    · intro same
      exact absurd (closes _ same) (by decide)
    · rintro ⟨-, drained⟩
      exact absurd drained due
  · constructor
    · intro zero
      exact absurd zero (by decide)
    · rintro ⟨-, drained⟩
      exact absurd drained due
  · intro other same fits
    obtain rfl := Option.mem_unique first same
    exact absurd large (not_lt.mpr fits)
  · exact fun _ => ⟨rfl, rfl⟩

theorem answered_delivers {queue after : EventQueue} {polled : Polled} {cap : Nat} {next : Record}
    (small : cap ≤ 2147483647) (closes : ClosedBy queue.inner.closed)
    (first : next ∈ queue.due.head?) (fits : next.length ≤ cap)
    (delivered : polled.delivered = fill Record.length cap queue.due)
    (status : polled.status = asI32 (total Record.length polled.delivered))
    (split : polled.delivered ++ after.due = queue.due) : Answered queue cap after polled := by
  have longest : Longest Record.length cap queue.due polled.delivered :=
    delivered ▸ fill_longest cap queue.due
  have written : polled.status = total Record.length polled.delivered :=
    status.trans (asI32_of_le (longest.fits.trans small))
  obtain ⟨rest, front⟩ : ∃ rest, queue.due = next :: rest := List.head?_eq_some_iff.mp first
  have positive : 0 < polled.status := by
    have length : 0 < next.length := Record.bytes_length_pos next
    rw [written, delivered, front, fill, if_pos fits, total_cons]
    omega
  have due : ¬ (queue.inner.records = [] ∧ queue.inner.dropped = 0) := by
    rw [← due_eq_nil_iff, front]
    exact List.cons_ne_nil next rest
  constructor
  · constructor
    · intro error
      rw [error] at positive
      exact absurd positive (by decide)
    · rintro ⟨other, same, large⟩
      obtain rfl := Option.mem_unique first same
      exact absurd large (not_lt.mpr fits)
  · constructor
    · intro same
      rcases closes _ same with error | error
      · rw [error] at positive
        exact absurd positive (by decide)
      · rw [error] at positive
        exact absurd positive (by decide)
    · rintro ⟨-, drained⟩
      exact absurd drained due
  · constructor
    · intro zero
      exact absurd zero positive.ne'
    · rintro ⟨-, drained⟩
      exact absurd drained due
  · intro other same fits
    exact ⟨longest, written.trans (congrArg Nat.cast (total_length _)), split⟩
  · intro error
    exact absurd positive (not_lt.mpr error)

/-- What a poll answers is determined, and an error consumes nothing. For every queue and
every run of calls on it, and every buffer an `i32` can measure: the poll after the run
answers as `Answered` says, and the status of the closed queue is that of the first
close. A node closes its queue when it is shut down and after a panic. -/
theorem poll_determined (queue : EventQueue) (ops : List Op) {cap : Nat}
    (small : cap ≤ 2147483647) (before : ClosedBy queue.inner.closed)
    (closes : ∀ status, .close status ∈ ops → status = errShutDown ∨ status = errPanic) :
    let reached := (ops.foldl History.step { queue }).queue
    reached.inner.closed = queue.inner.closed.or (firstClose ops) ∧
      Answered reached cap (reached.poll cap).1 (reached.poll cap).2 := by
  intro reached
  have first : reached.inner.closed = queue.inner.closed.or (firstClose ops) :=
    closed_run { queue } ops
  have closed : ClosedBy reached.inner.closed := by
    intro status isClosed
    rw [first, Option.or_eq_some_iff] at isClosed
    rcases isClosed with earlier | ⟨-, later⟩
    · exact before status earlier
    · exact closes status (firstClose_mem later)
  refine ⟨first, ?_⟩
  rcases poll_cases reached cap with ⟨nothing, shape⟩ | ⟨next, due, large, shape⟩ |
    ⟨next, due, fits, delivered, status, split⟩
  · rw [shape]
    exact answered_idle closed nothing
  · rw [shape]
    exact answered_tooSmall closed due large
  · exact answered_delivers small closed due fits delivered status split

/-- Two events are queued, a third is refused, the node shuts down, and a panic after
that changes nothing. -/
def Sample.refusedThenClosed : List Op :=
  let record := (EventBuilder.new .listening).build
  [.push record, .push record, .push record, .close errShutDown, .close errPanic]

theorem poll_determined_after_refusal :
    let reached := (Sample.refusedThenClosed.foldl History.step { queue := new 200 }).queue
    (reached.inner.closed = some errShutDown ∧
        Answered reached 100 (reached.poll 100).1 (reached.poll 100).2) ∧
      (reached.poll 100).2.status = 88 ∧ (reached.poll 80).2.status = errBufferTooSmall := by
  refine ⟨?_, by decide +kernel, by decide +kernel⟩
  refine poll_determined (new 200) Sample.refusedThenClosed (by decide) ?_ ?_
  · intro status isClosed
    simp [new] at isClosed
  · intro status given
    simpa [Sample.refusedThenClosed] using given

/-! The count of dropped events. -/

/-- Whenever during these calls the statistics are read, the events reported as dropped
are those refused since the start, and no fewer than at any reading before. -/
structure CountsRefused (maxBytes : Nat) (ops : List Op) : Prop where
  counts : ∀ before, before <+: ops →
    (History.run maxBytes before).queue.dropped = (History.run maxBytes before).refused
  grows : ∀ earlier later, earlier <+: later → later <+: ops →
    (History.run maxBytes earlier).queue.dropped ≤ (History.run maxBytes later).queue.dropped

/-- No poll hands out an overflow record: whenever one is due, the buffer is too short
for it. -/
def KeepsCount (maxBytes : Nat) (ops : List Op) : Prop :=
  ∀ before cap, before ++ [.poll cap] <+: ops →
    (History.run maxBytes before).queue.dropped = 0 ∨ cap < eventHeaderBytes

theorem overflowRecord_length (dropped : Nat) : (overflowRecord dropped).length = eventHeaderBytes := by
  rw [Record.length, Record.bytes_length]
  show paddedSize 0 = eventHeaderBytes
  decide

/-- A poll keeps the count exactly if there is none or the overflow record does not fit. -/
theorem poll_dropped (queue : EventQueue) (cap : Nat) :
    (queue.poll cap).1.dropped =
      if queue.dropped = 0 ∨ cap < eventHeaderBytes then queue.dropped else 0 := by
  by_cases none : queue.dropped = 0
  · rw [if_pos (.inl none)]
    obtain ⟨-, -, -, ⟨-, same, -⟩ | ⟨-, zero⟩⟩ := QueueRuns.poll_exact queue cap
    · exact same
    · exact zero.trans none.symm
  · have first : overflowRecord queue.dropped ∈ queue.due.head? := by
      have missing : 0 < queue.inner.dropped := Nat.pos_of_ne_zero none
      simp [due, missing, EventQueue.dropped]
    by_cases short : cap < eventHeaderBytes
    · rw [if_pos (.inr short), poll_tooSmall first (by rw [overflowRecord_length]; exact short)]
    · rw [if_neg (not_or.mpr ⟨none, short⟩)]
      have fits : (overflowRecord queue.dropped).length ≤ cap := by
        rw [overflowRecord_length]
        exact not_lt.mp short
      obtain ⟨rest, front⟩ : ∃ rest, queue.due = overflowRecord queue.dropped :: rest :=
        List.head?_eq_some_iff.mp first
      have some : (queue.poll cap).2.delivered ≠ [] := by
        rw [(poll_delivers first fits).1, front, fill, if_pos fits]
        exact List.cons_ne_nil _ _
      obtain ⟨-, -, -, ⟨missing, -, nothing⟩ | ⟨-, zero⟩⟩ := QueueRuns.poll_exact queue cap
      · refine absurd ?_ some
        simp [Polled.delivered, missing, nothing (Nat.pos_of_ne_zero none)]
      · exact zero

theorem refused_step (history : History) (op : Op) : history.refused ≤ (history.step op).refused := by
  cases op with
  | push record => exact Nat.le_add_right _ _
  | close status => exact le_refl _
  | poll cap => exact le_refl _

theorem refused_run {maxBytes : Nat} {earlier later : List Op} (longer : earlier <+: later) :
    (History.run maxBytes earlier).refused ≤ (History.run maxBytes later).refused := by
  obtain ⟨rest, rfl⟩ := longer
  induction rest using List.reverseRecOn with
  | nil => rw [List.append_nil]
  | append_singleton rest op inductionHypothesis =>
    rw [← List.append_assoc, QueueRuns.run_concat]
    exact inductionHypothesis.trans (refused_step _ op)

/-- The count is kept by every call but a poll that hands it out. -/
theorem counts_of_keeps {maxBytes : Nat} {ops : List Op} (keeps : KeepsCount maxBytes ops) :
    (History.run maxBytes ops).queue.dropped = (History.run maxBytes ops).refused := by
  induction ops using List.reverseRecOn with
  | nil => rfl
  | append_singleton ops op inductionHypothesis =>
    have same := inductionHypothesis fun before cap within =>
      keeps before cap (within.trans (List.prefix_append _ _))
    rw [QueueRuns.run_concat]
    cases op with
    | push record =>
      rw [EventQueue.dropped] at same
      cases room : (History.run maxBytes ops).queue.accepts record with
      | true => simp [History.step, EventQueue.push, EventQueue.dropped, room, same]
      | false => simp [History.step, EventQueue.push, EventQueue.dropped, room, same]
    | close status => exact same
    | poll cap =>
      have kept := poll_dropped (History.run maxBytes ops).queue cap
      rw [if_pos (keeps ops cap List.prefix_rfl)] at kept
      exact kept.trans same

/-- The statistic counts what was refused, through every run of calls, exactly if no poll
of the run hands out the count: the two share one number. -/
theorem counts_refused_iff (maxBytes : Nat) (ops : List Op) :
    CountsRefused maxBytes ops ↔ KeepsCount maxBytes ops := by
  constructor
  · intro counted before cap within
    by_contra! cleared
    have kept := poll_dropped (History.run maxBytes before).queue cap
    rw [if_neg (by omega)] at kept
    have counts := counted.counts before ((List.prefix_append _ _).trans within)
    have after := counted.counts _ within
    rw [QueueRuns.run_concat] at after
    exact cleared.1 (counts.trans (after.symm.trans kept))
  · intro keeps
    have counts : ∀ before, before <+: ops →
        (History.run maxBytes before).queue.dropped = (History.run maxBytes before).refused := by
      intro before within
      exact counts_of_keeps fun earlier cap poll => keeps earlier cap (poll.trans within)
    refine ⟨counts, ?_⟩
    intro earlier later longer within
    rw [counts later within, counts earlier (longer.trans within)]
    exact refused_run longer

/-- Forty-seven events for a queue with the smallest bound, which has room for all but the
last of them. -/
def Sample.overfull : List Op := List.replicate 47 (.push (EventBuilder.new .listening).build)

/-- The last event is refused, and the caller polls. The statistic counted it before the
poll and does not after it. -/
theorem polled_count_cleared :
    (History.run 4097 Sample.overfull).queue.dropped = 1 ∧
      (History.run 4097 (Sample.overfull ++ [.poll 88])).refused = 1 ∧
      (History.run 4097 (Sample.overfull ++ [.poll 88])).queue.dropped = 0 ∧
      ¬ CountsRefused 4097 (Sample.overfull ++ [.poll 88]) := by
  refine ⟨by decide +kernel, by decide +kernel, by decide +kernel, ?_⟩
  intro counted
  exact absurd (counted.counts _ List.prefix_rfl) (by decide +kernel)

end Libp2pFfi
