import Libp2pFfi.Monitors
import Libp2pFfi.QueueRuns

/-!
# Polls that wait

The queue of events is a mutex around its contents and a condition variable. A
poll that finds nothing sleeps until its timeout is over. A push or a close lets
go of the mutex before it wakes the sleepers, any number of threads may poll, and
the runtime thread pushes while they do. What is said elsewhere of a queue whose
calls are atomic holds of this one: every call takes effect at one moment between
its start and its end, a poll comes back with nothing only when its time is over,
and no poll sleeps on while there is something for it, unless the thread that
brought it has yet to wake the sleepers.
-/

namespace Libp2pFfi

open Monitors QueueRuns

namespace EventQueue

/-- There is nothing for a poll, and it waits. -/
def idle (queue : EventQueue) : Bool :=
  queue.inner.records.isEmpty && queue.inner.dropped == 0 && queue.inner.closed.isNone

/-- The calls on a queue behind its mutex. Only a poll has an answer. -/
def guarded : Guarded EventQueue Op (Option Polled) where
  act
    | .push record, queue => (queue.push record, none)
    | .close status, queue => (queue.close status, none)
    | .poll cap, queue => ((queue.poll cap).1, some (queue.poll cap).2)
  blocks
    | .poll _, queue => queue.idle
    | _, _ => false
  signals
    | .poll _ => false
    | _ => true

theorem poll_of_idle {queue : EventQueue} (isIdle : queue.idle = true) (cap : Nat) :
    queue.poll cap = (queue, { status := 0 }) := by
  unfold poll
  exact if_pos isIdle

/-- A poll ends nobody's wait. -/
theorem guarded_calm (op other : Op) (queue : EventQueue) (quiet : guarded.signals op = false)
    (waits : guarded.blocks other queue = true) :
    guarded.blocks other (guarded.act op queue).1 = true := by
  cases op with
  | push => cases quiet
  | close => cases quiet
  | poll cap =>
    cases other with
    | push => cases waits
    | close => cases waits
    | poll =>
      change (queue.poll cap).1.idle = true
      rw [poll_of_idle waits]
      exact waits

theorem queue_step (history : History) (op : Op) :
    (history.step op).queue = (guarded.act op history.queue).1 := by
  cases op <;> rfl

end EventQueue

section

variable {Thread : Type} {maxBytes : Nat}

/-- What the polls of all threads were handed, in the order in which they had the
mutex. -/
def handedOut (log : List (Done Thread Op (Option EventQueue.Polled))) : List Record :=
  log.flatMap fun done => (done.result.map EventQueue.Polled.records).getD []

/-- Calls that follow one another are a history of the queue. -/
theorem history_replays {log : List (Done Thread Op (Option EventQueue.Polled))} {queue : EventQueue}
    (replays : Monitor.Replays EventQueue.guarded (EventQueue.new maxBytes) log queue) :
    (History.run maxBytes (log.map Done.op)).queue = queue ∧
      (History.run maxBytes (log.map Done.op)).delivered = handedOut log ∧
      ∀ before done later, log = before ++ done :: later →
        done.result = (EventQueue.guarded.act done.op
          (History.run maxBytes (before.map Done.op)).queue).2 ∧
        (EventQueue.guarded.blocks done.op
          (History.run maxBytes (before.map Done.op)).queue = true → done.deadline ≤ done.doneAt) := by
  induction replays with
  | nil => exact ⟨rfl, rfl, fun before done later impossible => by simp at impossible⟩
  | snoc last earlier result patient inductionHypothesis =>
    rename_i log queue
    obtain ⟨same, delivered, each⟩ := inductionHypothesis
    have grown : History.run maxBytes ((log ++ [last]).map Done.op) =
        (History.run maxBytes (log.map Done.op)).step last.op := by
      rw [List.map_append, History.run, List.foldl_append]
      rfl
    refine ⟨?_, ?_, fun before done later split => ?_⟩
    · rw [grown, EventQueue.queue_step, same]
    · rw [grown, handedOut, List.flatMap_append, ← handedOut, ← delivered]
      cases op : last.op with
      | push => simp [History.step, result, op, EventQueue.guarded]
      | close => simp [History.step, result, op, EventQueue.guarded]
      | poll cap => simp [History.step, result, op, EventQueue.guarded, same]
    · rcases List.eq_nil_or_concat later with rfl | ⟨rest, final, rfl⟩
      · obtain ⟨rfl, isLast⟩ := List.append_inj' split rfl
        obtain rfl := List.cons.inj isLast |>.1
        rw [same]
        exact ⟨result, patient⟩
      · have shorter : log = before ++ done :: rest := by
          have ends : log ++ [last] = (before ++ done :: rest) ++ [final] := by
            rw [split, List.concat_eq_append, List.append_assoc]
            rfl
          exact (List.append_inj' ends rfl).1
        exact each before done rest shorter

end

/-- No poll sleeps through an event. In every interleaving, of any number of
threads, at most one thread has the mutex, and if a poll sleeps while something is
queued, was dropped, or the queue is closed, a thread that pushed or closed has
yet to wake the sleepers. -/
theorem EventQueue.polls_awake {Thread : Type} [DecidableEq Thread] {maxBytes : Nat}
    {actions : List (Monitors.Action Thread Op)}
    (run : Monitor.Run EventQueue.guarded (EventQueue.new maxBytes) actions) :
    let monitor := Monitor.after EventQueue.guarded (EventQueue.new maxBytes) actions
    (∀ first second, (monitor.phases first).holding = true →
        (monitor.phases second).holding = true → first = second) ∧
      ∀ thread op deadline, monitor.phases thread = .asleep op deadline →
        monitor.shared.idle = true ∨ ∃ other, monitor.phases other = .signalling := by
  intro monitor
  have sound := Monitor.sound_after EventQueue.guarded_calm run
  constructor
  · intro first second holds alsoHolds
    have both := ((sound.exclusive first).mp holds).symm.trans
      ((sound.exclusive second).mp alsoHolds)
    exact Option.some.inj both
  · intro thread op deadline sleeps
    refine (sound.awake thread op deadline sleeps).imp_left fun blocks => ?_
    cases op with
    | push => cases blocks
    | close => cases blocks
    | poll => exact blocks

/-- One thread polls and falls asleep, and another pushes. -/
def Sample.pushedAsleep : List (Monitors.Action Bool Op) :=
  [.call true (.poll 4096) 10, .acquire true, .proceed true,
    .call false (.push (EventBuilder.new .listening).build) 0, .acquire false, .proceed false]

theorem Sample.pushedAsleep_run :
    Monitor.Run EventQueue.guarded (EventQueue.new 4096) Sample.pushedAsleep := by
  simp only [Monitor.Run, Sample.pushedAsleep, Runs.admissible_cons, Runs.admissible_nil, and_true]
  exact ⟨rfl, ⟨rfl, _, _, rfl⟩, ⟨_, _, rfl⟩, rfl, ⟨rfl, _, _, rfl⟩, _, _, rfl⟩

/-- The poll sleeps on a queue with a record, and the push has yet to wake it. -/
theorem EventQueue.polls_awake_pushed :
    (Monitor.after EventQueue.guarded (EventQueue.new 4096)
        Sample.pushedAsleep).shared.idle = false ∧
      ∃ other, (Monitor.after EventQueue.guarded (EventQueue.new 4096)
        Sample.pushedAsleep).phases other = .signalling := by
  have busy : (Monitor.after EventQueue.guarded (EventQueue.new 4096)
      Sample.pushedAsleep).shared.idle = false := by decide +kernel
  refine ⟨busy, ?_⟩
  have asleep : (Monitor.after EventQueue.guarded (EventQueue.new 4096)
      Sample.pushedAsleep).phases true = .asleep (.poll 4096) 10 := rfl
  rcases (EventQueue.polls_awake Sample.pushedAsleep_run).2 true _ _ asleep with isIdle | somebody
  · rw [busy] at isIdle
    cases isIdle
  · exact somebody

/-- Calls from any number of threads, in any interleaving, act on the queue one
after the other. What all polls were handed and what is queued is what was
accepted, each call does once what it was made for, it answers as it would on the
queue that the calls before it left, and a poll that found nothing has waited its
timeout out. -/
theorem EventQueue.calls_linearize {Thread : Type} [DecidableEq Thread] {maxBytes : Nat}
    {actions : List (Monitors.Action Thread Op)}
    (run : Monitor.Run EventQueue.guarded (EventQueue.new maxBytes) actions) :
    let monitor := Monitor.after EventQueue.guarded (EventQueue.new maxBytes) actions
    let history := History.run maxBytes (monitor.log.map Done.op)
    monitor.shared = history.queue ∧
      handedOut monitor.log ++ monitor.shared.inner.records = history.accepted ∧
      (∀ before done later, monitor.log = before ++ done :: later →
        done.result = (EventQueue.guarded.act done.op
          (History.run maxBytes (before.map Done.op)).queue).2 ∧
        ∀ cap, done.op = .poll cap → (History.run maxBytes (before.map Done.op)).queue.idle = true →
          done.deadline ≤ done.doneAt) ∧
      ∀ thread, Runs.trace (Monitor.step EventQueue.guarded) (Monitor.called thread)
          { shared := EventQueue.new maxBytes } actions =
        Monitor.doneBy thread monitor.log ++ (monitor.phases thread).pending := by
  intro monitor history
  have sound := Monitor.sound_after EventQueue.guarded_calm run
  obtain ⟨same, delivered, each⟩ := history_replays sound.replays
  refine ⟨same.symm, ?_, fun before done later split => ?_, Monitor.calls_done_once run⟩
  · rw [← delivered, ← same]
    exact (conserved_run maxBytes _).records
  · obtain ⟨result, patient⟩ := each before done later split
    refine ⟨result, fun cap isPoll isIdle => patient ?_⟩
    rw [isPoll]
    exact isIdle

/-- The sleeper is woken and takes the record. -/
def Sample.pushedAwake : List (Monitors.Action Bool Op) :=
  Sample.pushedAsleep ++ [.notifyAll false, .acquire true, .proceed true]

/-- The poll began first and took effect last. -/
theorem EventQueue.calls_linearize_woken :
    handedOut (Monitor.after EventQueue.guarded (EventQueue.new 4096) Sample.pushedAwake).log =
      [(EventBuilder.new .listening).build] := by
  have run : Monitor.Run EventQueue.guarded (EventQueue.new 4096) Sample.pushedAwake := by
    refine (Runs.admissible_append _ _ _ _ _).mpr ⟨Sample.pushedAsleep_run, ?_⟩
    simp only [Runs.admissible_cons, Runs.admissible_nil, and_true]
    exact ⟨rfl, ⟨rfl, _, _, rfl⟩, _, _, rfl⟩
  obtain ⟨-, conserved, -⟩ := EventQueue.calls_linearize run
  have accepted : (History.run 4096 ((Monitor.after EventQueue.guarded (EventQueue.new 4096)
      Sample.pushedAwake).log.map Done.op)).accepted = [(EventBuilder.new .listening).build] := by
    decide +kernel
  have drained : (Monitor.after EventQueue.guarded (EventQueue.new 4096)
      Sample.pushedAwake).shared.inner.records = [] := by decide +kernel
  rw [accepted, drained, List.append_nil] at conserved
  exact conserved

end Libp2pFfi
