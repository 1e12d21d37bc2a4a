import Libp2pFfi.Runs
import Mathlib.Logic.Function.Basic

/-!
# Values behind a lock that threads wait on

Threads share a value behind a lock. An operation takes the lock, looks at the
value, and either acts and lets go, or finds that it has to wait: then it lets go
and falls asleep in one step, and looks again once it was woken and has the lock
back. Some operations wake all sleepers, but only after they have let go, so that
others may run in between. A sleeper may also wake by itself, because its time is
up or for no reason.

Two things are proved of every interleaving. The operations act as if one after
the other, in the order in which they appear in the log, and each once between
its call and its return. And no thread sleeps through its chance: while one is
asleep that need not wait, a thread is still on its way to wake it. The second
needs that an operation which wakes nobody ends nobody's wait.
-/

universe u v w x

namespace Monitors

/-- How operations act on a shared value, which of them have to wait at it, and
which wake the others. -/
structure Guarded (Shared : Type u) (Op : Type v) (Result : Type w) where
  act : Op → Shared → Shared × Result
  blocks : Op → Shared → Bool
  signals : Op → Bool

/-- Where a thread is in a call. A deadline is how long the call may wait. -/
inductive Phase (Op : Type v) where
  | outside
  /-- It needs the lock. -/
  | entering (op : Op) (deadline : Nat)
  /-- It has the lock. -/
  | inside (op : Op) (deadline : Nat)
  | asleep (op : Op) (deadline : Nat)
  /-- It has acted and let go, and has the others still to wake. -/
  | signalling

/-- The operation that a thread was called for and has not done. -/
def Phase.pending {Op : Type v} : Phase Op → List Op
  | outside => []
  | entering op _ => [op]
  | inside op _ => [op]
  | asleep op _ => [op]
  | signalling => []

def Phase.woken {Op : Type v} : Phase Op → Phase Op
  | asleep op deadline => .entering op deadline
  | phase => phase

def Phase.holding {Op : Type v} : Phase Op → Bool
  | inside _ _ => true
  | _ => false

theorem Phase.holding_woken {Op : Type v} (phase : Phase Op) :
    phase.woken.holding = phase.holding := by
  cases phase <;> rfl

theorem Phase.pending_woken {Op : Type v} (phase : Phase Op) :
    phase.woken.pending = phase.pending := by
  cases phase <;> rfl

/-- An operation that was done. -/
structure Done (Thread : Type x) (Op : Type v) (Result : Type w) where
  thread : Thread
  op : Op
  deadline : Nat
  doneAt : Nat
  result : Result

structure Monitor (Thread : Type x) (Shared : Type u) (Op : Type v) (Result : Type w) where
  shared : Shared
  holder : Option Thread := none
  phases : Thread → Phase Op := fun _ => .outside
  clock : Nat := 0
  log : List (Done Thread Op Result) := []

inductive Action (Thread : Type x) (Op : Type v) where
  | pass (duration : Nat)
  | call (thread : Thread) (op : Op) (timeout : Nat)
  | acquire (thread : Thread)
  /-- The thread that has the lock acts, or falls asleep, and lets go. -/
  | proceed (thread : Thread)
  | notifyAll (thread : Thread)
  | wake (thread : Thread)

namespace Monitor

variable {Thread : Type x} {Shared : Type u} {Op : Type v} {Result : Type w} [DecidableEq Thread]

def move (monitor : Monitor Thread Shared Op Result) (thread : Thread) (phase : Phase Op) :
    Monitor Thread Shared Op Result :=
  { monitor with phases := Function.update monitor.phases thread phase }

@[simp] theorem move_self (monitor : Monitor Thread Shared Op Result) (thread : Thread)
    (phase : Phase Op) : (monitor.move thread phase).phases thread = phase := by
  simp [move]

theorem move_other (monitor : Monitor Thread Shared Op Result) {thread other : Thread}
    (different : other ≠ thread) (phase : Phase Op) :
    (monitor.move thread phase).phases other = monitor.phases other := by
  simp [move, different]

/-- One look at the shared value with the lock in hand. -/
def look (guarded : Guarded Shared Op Result) (monitor : Monitor Thread Shared Op Result)
    (thread : Thread) (op : Op) (deadline : Nat) : Monitor Thread Shared Op Result :=
  if guarded.blocks op monitor.shared ∧ monitor.clock < deadline then
    { monitor.move thread (.asleep op deadline) with holder := none }
  else
    { monitor.move thread (if guarded.signals op then .signalling else .outside) with
      shared := (guarded.act op monitor.shared).1
      holder := none
      log := monitor.log ++
        [⟨thread, op, deadline, monitor.clock, (guarded.act op monitor.shared).2⟩] }

def step (guarded : Guarded Shared Op Result) (monitor : Monitor Thread Shared Op Result) :
    Action Thread Op → Monitor Thread Shared Op Result
  | .pass duration => { monitor with clock := monitor.clock + duration }
  | .call thread op timeout => monitor.move thread (.entering op (monitor.clock + timeout))
  | .acquire thread =>
    match monitor.phases thread with
    | .entering op deadline =>
      { monitor.move thread (.inside op deadline) with holder := some thread }
    | _ => monitor
  | .proceed thread =>
    match monitor.phases thread with
    | .inside op deadline => monitor.look guarded thread op deadline
    | _ => monitor
  | .notifyAll thread =>
    { monitor with
      phases := Function.update (fun other => (monitor.phases other).woken) thread .outside }
  | .wake thread => monitor.move thread (monitor.phases thread).woken

def Enabled (monitor : Monitor Thread Shared Op Result) : Action Thread Op → Prop
  | .pass _ => True
  | .call thread _ _ => monitor.phases thread = .outside
  | .acquire thread =>
    monitor.holder = none ∧ ∃ op deadline, monitor.phases thread = .entering op deadline
  | .proceed thread => ∃ op deadline, monitor.phases thread = .inside op deadline
  | .notifyAll thread => monitor.phases thread = .signalling
  | .wake thread => ∃ op deadline, monitor.phases thread = .asleep op deadline

/-- The monitor after some actions. -/
def after (guarded : Guarded Shared Op Result) (shared : Shared) (actions : List (Action Thread Op)) :
    Monitor Thread Shared Op Result :=
  actions.foldl (step guarded) { shared }

theorem after_append_singleton (guarded : Guarded Shared Op Result) (shared : Shared)
    (actions : List (Action Thread Op)) (action : Action Thread Op) :
    after guarded shared (actions ++ [action]) = (after guarded shared actions).step guarded action :=
  List.foldl_append

/-- The actions can happen in this order. -/
def Run (guarded : Guarded Shared Op Result) (shared : Shared) (actions : List (Action Thread Op)) :
    Prop :=
  Runs.Admissible (step guarded) { shared } Enabled actions

/-- One operation after the other, each with the result that it has on what the
ones before it left. An operation that had to wait has waited its time out. -/
inductive Replays (guarded : Guarded Shared Op Result) (start : Shared) :
    List (Done Thread Op Result) → Shared → Prop where
  | nil : Replays guarded start [] start
  | snoc {log : List (Done Thread Op Result)} {shared : Shared} (done : Done Thread Op Result)
      (earlier : Replays guarded start log shared)
      (result : done.result = (guarded.act done.op shared).2)
      (patient : guarded.blocks done.op shared = true → done.deadline ≤ done.doneAt) :
      Replays guarded start (log ++ [done]) (guarded.act done.op shared).1

/-- The invariant of a monitor. -/
structure Sound (guarded : Guarded Shared Op Result) (start : Shared)
    (monitor : Monitor Thread Shared Op Result) : Prop where
  exclusive : ∀ thread, (monitor.phases thread).holding = true ↔ monitor.holder = some thread
  replays : Replays guarded start monitor.log monitor.shared
  awake : ∀ thread op deadline, monitor.phases thread = .asleep op deadline →
    guarded.blocks op monitor.shared = true ∨ ∃ other, monitor.phases other = .signalling

section

variable {guarded : Guarded Shared Op Result} {start : Shared}
  {monitor : Monitor Thread Shared Op Result} {thread : Thread}

omit [DecidableEq Thread] in
theorem sound_new (guarded : Guarded Shared Op Result) (start : Shared) :
    Sound guarded start ({ shared := start } : Monitor Thread Shared Op Result) where
  exclusive := fun _ => iff_of_false nofun nofun
  replays := .nil
  awake := nofun

/-- A thread that is not about to wake the others moves on, and whoever is stays. -/
theorem signalling_move {phase : Phase Op} (passive : monitor.phases thread ≠ .signalling)
    (somebody : ∃ other, monitor.phases other = .signalling) :
    ∃ other, (monitor.move thread phase).phases other = .signalling := by
  obtain ⟨other, signals⟩ := somebody
  have different : other ≠ thread := by
    rintro rfl
    exact passive signals
  exact ⟨other, (monitor.move_other different phase).trans signals⟩

/-- A thread without the lock moves on without it. -/
theorem exclusive_move (sound : Sound guarded start monitor) {phase : Phase Op}
    (without : (monitor.phases thread).holding = false) (still : phase.holding = false)
    (other : Thread) :
    ((monitor.move thread phase).phases other).holding = true ↔ monitor.holder = some other := by
  rw [← sound.exclusive other]
  by_cases same : other = thread
  · subst same
    rw [move_self, still, without]
  · rw [move_other monitor same]

/-- A thread that had the lock and has let go was the only one with it. -/
theorem exclusive_release (sound : Sound guarded start monitor) {phase : Phase Op}
    (had : (monitor.phases thread).holding = true) (still : phase.holding = false)
    (other : Thread) : ((monitor.move thread phase).phases other).holding = true ↔
      (none : Option Thread) = some other := by
  refine ⟨fun holds => ?_, nofun⟩
  by_cases same : other = thread
  · subst same
    rw [move_self, still] at holds
    cases holds
  · rw [move_other monitor same] at holds
    have both := ((sound.exclusive thread).mp had).symm.trans ((sound.exclusive other).mp holds)
    exact absurd (Option.some.inj both).symm same

/-- A thread that falls asleep was told to wait; others sleep as before. -/
theorem awake_move (sound : Sound guarded start monitor) {phase : Phase Op}
    (passive : monitor.phases thread ≠ .signalling)
    (waits : ∀ op deadline, phase = .asleep op deadline →
      guarded.blocks op monitor.shared = true)
    (other : Thread) (op : Op) (deadline : Nat)
    (sleeps : (monitor.move thread phase).phases other = .asleep op deadline) :
    guarded.blocks op monitor.shared = true ∨
      ∃ other, (monitor.move thread phase).phases other = .signalling := by
  by_cases same : other = thread
  · subst same
    rw [move_self] at sleeps
    exact .inl (waits op deadline sleeps)
  · rw [move_other monitor same] at sleeps
    exact (sound.awake other op deadline sleeps).imp_right (signalling_move passive)

/-- The only step that touches the shared value. -/
theorem sound_look (sound : Sound guarded start monitor)
    (calm : ∀ op other shared, guarded.signals op = false → guarded.blocks other shared = true →
      guarded.blocks other (guarded.act op shared).1 = true)
    {op : Op} {deadline : Nat} (has : monitor.phases thread = .inside op deadline) :
    Sound guarded start (monitor.look guarded thread op deadline) := by
  have holds : (monitor.phases thread).holding = true := by rw [has]; rfl
  have passive : monitor.phases thread ≠ .signalling := by rw [has]; nofun
  unfold look
  split
  · rename_i mustWait
    refine ⟨exclusive_release sound holds rfl, sound.replays, awake_move sound passive ?_⟩
    intro asleep expiry same
    obtain ⟨rfl, rfl⟩ := Phase.asleep.inj same
    exact mustWait.1
  · rename_i mayGo
    refine ⟨exclusive_release sound holds (by split <;> rfl),
      .snoc ⟨thread, op, deadline, monitor.clock, _⟩ sound.replays rfl ?_, ?_⟩
    · intro blocks
      exact not_lt.mp fun early => mayGo ⟨blocks, early⟩
    · intro other asleep deadline sleeps
      by_cases signals : guarded.signals op = true
      · refine .inr ⟨thread, ?_⟩
        exact (monitor.move_self thread _).trans (if_pos signals)
      · have quiet : guarded.signals op = false := by simpa using signals
        exact (awake_move sound passive (by simp [quiet]) other asleep deadline sleeps).imp_left
          (calm op asleep monitor.shared quiet)

theorem sound_step (sound : Sound guarded start monitor)
    (calm : ∀ op other shared, guarded.signals op = false → guarded.blocks other shared = true →
      guarded.blocks other (guarded.act op shared).1 = true)
    (action : Action Thread Op) (enabled : monitor.Enabled action) :
    Sound guarded start (monitor.step guarded action) := by
  cases action with
  | pass duration => exact ⟨sound.exclusive, sound.replays, sound.awake⟩
  | call thread op timeout =>
    have idle : monitor.phases thread = .outside := enabled
    exact ⟨exclusive_move sound (by rw [idle]; rfl) rfl, sound.replays,
      awake_move sound (by rw [idle]; nofun) nofun⟩
  | acquire thread =>
    obtain ⟨free, op, deadline, waits⟩ := enabled
    simp only [step, waits]
    refine ⟨fun other => ?_, sound.replays, awake_move sound (by rw [waits]; nofun) nofun⟩
    by_cases same : other = thread
    · subst same
      simp [move, Phase.holding]
    · have without : (monitor.phases other).holding ≠ true := by
        rw [Ne, sound.exclusive other, free]
        nofun
      simp [move, same, without, Ne.symm same]
  | proceed thread =>
    obtain ⟨op, deadline, has⟩ := enabled
    simp only [step, has]
    exact sound_look sound calm has
  | notifyAll thread =>
    have signals : monitor.phases thread = .signalling := enabled
    refine ⟨fun other => ?_, sound.replays, fun other op deadline sleeps => ?_⟩
    · change _ ↔ monitor.holder = some other
      rw [← sound.exclusive other]
      by_cases same : other = thread
      · subst same
        simp [step, signals, Phase.holding]
      · simp [step, same, Phase.holding_woken]
    · -- Everybody was woken.
      by_cases same : other = thread
      · subst same
        simp [step] at sleeps
      · simp only [step, Function.update_of_ne same] at sleeps
        cases phase : monitor.phases other <;> rw [phase] at sleeps <;> cases sleeps
  | wake thread =>
    obtain ⟨op, deadline, sleeps⟩ := enabled
    simp only [step, sleeps]
    exact ⟨exclusive_move sound (by rw [sleeps]; rfl) rfl, sound.replays,
      awake_move sound (by rw [sleeps]; nofun) nofun⟩

/-- In every run of a monitor the invariant holds. -/
theorem sound_after
    (calm : ∀ op other shared, guarded.signals op = false → guarded.blocks other shared = true →
      guarded.blocks other (guarded.act op shared).1 = true)
    {actions : List (Action Thread Op)} (run : Run guarded start actions) :
    Sound guarded start (after guarded start actions) :=
  Runs.invariant (step guarded) _ (sound_new guarded start)
    (fun _ action sound enabled => sound_step sound calm action enabled) run

end

/-- The operations that were done for a thread. -/
def doneBy (thread : Thread) (log : List (Done Thread Op Result)) : List Op :=
  (log.filter fun done => done.thread = thread).map Done.op

/-- The operation that a thread is called for. -/
def called (thread : Thread) (_ : Monitor Thread Shared Op Result) : Action Thread Op → List Op
  | .call caller op _ => if caller = thread then [op] else []
  | _ => []

theorem doneBy_append (thread : Thread) (first second : List (Done Thread Op Result)) :
    doneBy thread (first ++ second) = doneBy thread first ++ doneBy thread second := by
  rw [doneBy, List.filter_append, List.map_append]
  rfl

/-- A thread that goes on with its call still has to do what it was called for. -/
theorem pending_move {monitor : Monitor Thread Shared Op Result} {mover : Thread} {phase : Phase Op}
    (same : phase.pending = (monitor.phases mover).pending) (thread : Thread) :
    ((monitor.move mover phase).phases thread).pending = (monitor.phases thread).pending := by
  by_cases isMover : thread = mover
  · subst isMover
    rw [move_self, same]
  · rw [move_other monitor isMover]

/-- One look does what the thread was called for, or leaves it to do. -/
theorem pending_look {guarded : Guarded Shared Op Result}
    {monitor : Monitor Thread Shared Op Result} {mover : Thread} {op : Op} {deadline : Nat}
    (has : monitor.phases mover = .inside op deadline) (thread : Thread) :
    doneBy thread (monitor.look guarded mover op deadline).log ++
        ((monitor.look guarded mover op deadline).phases thread).pending =
      doneBy thread monitor.log ++ (monitor.phases thread).pending := by
  unfold look
  split
  · exact congrArg (doneBy thread monitor.log ++ ·) (pending_move (by rw [has]; rfl) thread)
  · dsimp only
    rw [doneBy_append, List.append_assoc]
    refine congrArg (doneBy thread monitor.log ++ ·) ?_
    by_cases isMover : thread = mover
    · subst isMover
      rw [move_self, has]
      split <;> simp [doneBy, Phase.pending]
    · rw [move_other monitor isMover]
      simp [doneBy, Ne.symm isMover]

theorem pending_step {guarded : Guarded Shared Op Result}
    {monitor : Monitor Thread Shared Op Result} (action : Action Thread Op)
    (enabled : monitor.Enabled action) (thread : Thread) :
    doneBy thread (monitor.step guarded action).log ++
        ((monitor.step guarded action).phases thread).pending =
      doneBy thread monitor.log ++ (monitor.phases thread).pending ++
        called thread monitor action := by
  cases action with
  | pass duration => simp [step, called]
  | call caller op timeout =>
    have idle : monitor.phases caller = .outside := enabled
    rw [List.append_assoc]
    refine congrArg (doneBy thread monitor.log ++ ·) ?_
    by_cases isCaller : thread = caller
    · subst isCaller
      simp [step, called, idle, Phase.pending]
    · simp [step, called, Ne.symm isCaller, move_other monitor isCaller]
  | acquire mover =>
    obtain ⟨-, op, deadline, waits⟩ := enabled
    simp only [step, waits, called, List.append_nil]
    exact congrArg (doneBy thread monitor.log ++ ·) (pending_move (by rw [waits]; rfl) thread)
  | proceed mover =>
    obtain ⟨op, deadline, has⟩ := enabled
    simp only [step, has, called, List.append_nil]
    exact pending_look has thread
  | notifyAll signaller =>
    have signals : monitor.phases signaller = .signalling := enabled
    simp only [step, called, List.append_nil]
    refine congrArg (doneBy thread monitor.log ++ ·) ?_
    by_cases isSignaller : thread = signaller
    · subst isSignaller
      simp [signals, Phase.pending]
    · simp [isSignaller, Phase.pending_woken]
  | wake sleeper =>
    simp only [step, called, List.append_nil]
    exact congrArg (doneBy thread monitor.log ++ ·)
      (pending_move (Phase.pending_woken _) thread)

/-- Every operation is done once, after the call for it and before the next. -/
theorem calls_done_once {guarded : Guarded Shared Op Result} {start : Shared}
    {actions : List (Action Thread Op)} (run : Run guarded start actions) (thread : Thread) :
    Runs.trace (step guarded) (called thread) { shared := start } actions =
      doneBy thread (after guarded start actions).log ++
        ((after guarded start actions).phases thread).pending := by
  induction actions using List.reverseRecOn with
  | nil => rfl
  | append_singleton before action inductionHypothesis =>
    have earlier := inductionHypothesis (run.take _ _ (List.prefix_append before [action]))
    rw [Runs.trace_append_singleton, earlier, after_append_singleton]
    exact (pending_step action (run before action (List.prefix_refl _)) thread).symm

end Monitor

end Monitors
