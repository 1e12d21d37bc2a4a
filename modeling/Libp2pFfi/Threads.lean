import Libp2pFfi.Inbound
import Libp2pFfi.Memory
import Libp2pFfi.Process
import Libp2pFfi.Refinement
import Libp2pFfi.Tidings

/-!
# Many threads are one run

However the threads are scheduled, what they and the runtime thread do to the
node is a run of `System`: the commands arrive as their handlers expect them,
each with an id that was drawn for it and that nothing else carries. `Tied` says
what the threads and the channel hold at a point of that run, and every deed is
some actions that keep it. A panic ends the comparison, since what is left of a
handler that panicked is nobody's state.
-/

namespace Libp2pFfi

/-! What the threads hold. -/

namespace Stage

/-- The ids a call is going to send. -/
def ids : Stage → List Nat
  | drawing _ => []
  | asking _ command => command.ids
  | sending _ command => command.ids
  | waiting _ => []

/-- A call is going to send what its handler expects, and to write the id of it. -/
def Sound (crates : Crates) (config : Config) : Stage → Prop
  | drawing make => Prepared.Sound crates config (.numbered make)
  | asking id command => command.Sound crates config ∧ command.ids = id.toList
  | sending id command => command.Sound crates config ∧ command.ids = id.toList
  | waiting _ => True

end Stage

/-- The command that a line of the log notes. -/
def Entry.command? : Entry → Option Command
  | heard _ (.command command) => some command
  | _ => none

/-- The commands that were handled, the oldest first. -/
def commands (log : List Entry) : List Command := log.filterMap Entry.command?

def Action.command? : Action → Option Command
  | handle _ (.command command) => some command
  | _ => none

/-- An action notes the command it handles, and no other. -/
theorem commands_step (system : System) (action : Action) :
    commands (system.step action).state.log =
      commands system.state.log ++ action.command?.toList := by
  have silent {touched : List Part} {extra : List Entry}
      (effects : ∀ entry ∈ extra, entry.Within touched) (log : List Entry) :
      commands (log ++ extra) = commands log := by
    refine State.filterMap_unseen (fun entry member => ?_) log
    cases entry with
    | heard => exact (effects _ member).elim
    | did => rfl
  cases action with
  | handle env input =>
    obtain ⟨extra, grown, effects⟩ := (State.confined_handle env (system.state.deliver input)
      input).adds
    rw [(State.noted_heard system.state env.nowMs input).log] at grown
    have noted : (system.step (.handle env input)).state.log =
        system.state.log ++ [.heard env.nowMs input] ++ extra := grown
    rw [noted, silent effects, commands, List.filterMap_append]
    cases input <;> rfl
  | ready env =>
    obtain ⟨extra, grown, effects⟩ := (State.confined_ready env system.state).adds
    have noted : (system.step (.ready env)).state.log = system.state.log ++ extra := grown
    rw [noted, silent effects]
    exact (List.append_nil _).symm
  | _ => exact (List.append_nil _).symm

/-- The node with its queue closed. -/
def System.closing (system : System) : Option Int → System
  | none => system
  | some status => system.sharing
    { system.state.shared with events := system.state.shared.events.close status }

/-- What a poll takes does not depend on whether the queue is closed. -/
theorem EventQueue.poll_close (queue : EventQueue) (cap : Nat) (status : Int) :
    ((queue.close status).poll cap).1 = (queue.poll cap).1.close status := by
  obtain ⟨⟨records, bytes, dropped, closed⟩, maxBytes⟩ := queue
  cases dropped with
  | zero =>
    cases records with
    | nil => cases closed <;> simp [poll, close, pollRecords, drain]
    | cons => simp [poll, close, pollRecords]
  | succ count =>
    by_cases small : (overflowRecord (count + 1)).bytes.length > cap
    · simp [poll, close, small]
    · simp [poll, close, pollRecords, small]

namespace Process

variable {crates : Crates} {config : Config}

/-- A call that is under way after another has ended was so before. -/
theorem threads_freed {threads : Nat → Option Stage} {thread holder : Nat} {stage : Stage}
    (isAt : Function.update threads thread none holder = some stage) :
    threads holder = some stage ∧ holder ≠ thread := by
  by_cases own : holder = thread
  · subst own
    simp at isAt
  · exact ⟨by simpa [own] using isAt, own⟩

theorem threads_answer {process : Process} {answer : Answer} {thread : Nat} {stage : Stage}
    (isAt : (process.answer answer).threads thread = some stage) :
    process.threads thread = some stage ∧ thread ≠ answer.thread :=
  threads_freed isAt

theorem threads_goOn {process : Process} {thread holder : Nat} {stage held : Stage}
    (isAt : (process.goOn thread stage).threads holder = some held) :
    holder = thread ∧ held = stage ∨ holder ≠ thread ∧ process.threads holder = some held := by
  by_cases own : holder = thread
  · subst own
    exact .inl ⟨rfl, by simpa [Process.goOn, eq_comm] using isAt⟩
  · exact .inr ⟨own, by simpa [Process.goOn, own] using isAt⟩

/-- The id is carried by a call under way or by a command on the channel. -/
def InUse (process : Process) (id : Nat) : Prop :=
  (∃ command ∈ process.channel, id ∈ command.ids) ∨
    ∃ thread stage, process.threads thread = some stage ∧ id ∈ stage.ids

/-- The threads and the channel hold what the node at this point can take. -/
structure Tied (crates : Crates) (config : Config) (process : Process) (system : System) : Prop where
  node : process.system = system.closing process.phase.status?
  starting : process.system.started = false ↔ ∃ pending, process.phase = .starting pending
  idle : process.system.started = false → process.channel = [] ∧
    ∀ thread, process.threads thread = none
  heard : commands system.state.log = process.taken
  stages : ∀ thread stage, process.threads thread = some stage → stage.Sound crates config
  queued : ∀ command ∈ process.channel, command = .shutdown ∨ command.Sound crates config
  drawn : ∀ id, process.InUse id → id ∈ system.drawn
  ordered : (process.channel.flatMap Command.ids).Nodup
  away : ∀ thread stage, process.threads thread = some stage →
    ∀ id ∈ stage.ids, id ∉ process.channel.flatMap Command.ids
  apart : ∀ first second stage other, process.threads first = some stage →
    process.threads second = some other → first ≠ second → ∀ id ∈ stage.ids, id ∉ other.ids

section

variable {process after : Process} {system : System}

/-- The node does something that concerns neither threads nor the channel. -/
theorem Tied.acts (tied : Tied crates config process system) {action : Action}
    (plain : action.command? = none) (kept : system.drawn ⊆ (system.step action).drawn)
    (node : after.system = (system.step action).closing after.phase.status?)
    (starting : after.system.started = false ↔ ∃ pending, after.phase = .starting pending)
    (begun : process.system.started = true → after.system.started = true)
    (threads : after.threads = process.threads) (channel : after.channel = process.channel)
    (taken : after.taken = process.taken) : Tied crates config after (system.step action) := by
  refine ⟨node, starting, ?_, ?_, ?_, ?_, ?_, ?_, ?_, ?_⟩
  · intro unbegun
    rw [threads, channel]
    apply tied.idle
    by_contra started
    rw [begun (by simpa using started)] at unbegun
    cases unbegun
  · rw [commands_step, plain, tied.heard, taken]
    exact List.append_nil _
  · rw [threads]
    exact tied.stages
  · rw [channel]
    exact tied.queued
  · intro id inUse
    apply kept
    apply tied.drawn
    unfold InUse at inUse ⊢
    rwa [threads, channel] at inUse
  · rw [channel]
    exact tied.ordered
  · rw [threads, channel]
    exact tied.away
  · rw [threads]
    exact tied.apart

/-- A thread has ended its call. -/
theorem Tied.frees (tied : Tied crates config process system) (thread : Nat)
    (answers returned : List Answer) :
    Tied crates config
      { process with
        threads := Function.update process.threads thread none
        answers
        returned } system := by
  refine ⟨tied.node, tied.starting, fun unbegun => ?_, tied.heard,
    fun holder stage isAt => tied.stages holder stage (threads_freed isAt).1, tied.queued, ?_,
    tied.ordered, fun holder stage isAt => tied.away holder stage (threads_freed isAt).1,
    fun first second stage other atFirst atSecond =>
      tied.apart first second stage other (threads_freed atFirst).1 (threads_freed atSecond).1⟩
  · obtain ⟨empty, idle⟩ := tied.idle unbegun
    refine ⟨empty, fun holder => ?_⟩
    cases found : Function.update process.threads thread none holder with
    | none => exact found
    | some stage => cases (idle holder).symm.trans (threads_freed found).1
  · rintro id (queued | ⟨holder, stage, isAt, carried⟩)
    · exact tied.drawn id (.inl queued)
    · exact tied.drawn id (.inr ⟨holder, stage, (threads_freed isAt).1, carried⟩)

theorem Tied.answer (tied : Tied crates config process system) (answer : Answer) :
    Tied crates config (process.answer answer) system :=
  tied.frees answer.thread _ _

theorem Tied.comeBack (tied : Tied crates config process system) (thread : Nat) (status : Int) :
    Tied crates config (process.comeBack thread status) system :=
  tied.frees thread _ _

/-- The reply reaches a thread. -/
theorem Tied.receive (tied : Tied crates config process system) (thread cap : Nat) :
    Tied crates config (process.receive thread cap) system := by
  unfold Process.receive
  split
  · split
    · exact tied.comeBack thread _
    · exact tied
  · exact tied

/-- A call goes on, with no ids but those it had. -/
theorem Tied.goOn (tied : Tied crates config process system) {thread : Nat} {stage : Stage}
    (sound : stage.Sound crates config) (begun : process.system.started = true)
    (had : ∀ id ∈ stage.ids, ∃ old, process.threads thread = some old ∧ id ∈ old.ids) :
    Tied crates config (process.goOn thread stage) system := by
  -- Whatever a thread holds now, the same thread held before.
  have older {holder : Nat} {held : Stage} {id : Nat}
      (isAt : (process.goOn thread stage).threads holder = some held) (carried : id ∈ held.ids) :
      ∃ old, process.threads holder = some old ∧ id ∈ old.ids := by
    rcases threads_goOn isAt with ⟨rfl, rfl⟩ | ⟨-, older⟩
    · exact had id carried
    · exact ⟨held, older, carried⟩
  refine ⟨tied.node, tied.starting, fun unbegun => ?_, tied.heard, fun holder held isAt => ?_,
    tied.queued, ?_, tied.ordered, fun holder held isAt id carried => ?_,
    fun first second held other atFirst atSecond different id carried isOther => ?_⟩
  · cases unbegun.symm.trans begun
  · rcases threads_goOn isAt with ⟨-, rfl⟩ | ⟨-, older⟩
    · exact sound
    · exact tied.stages holder held older
  · rintro id (queued | ⟨holder, held, isAt, carried⟩)
    · exact tied.drawn id (.inl queued)
    · obtain ⟨old, wasAt, hadIt⟩ := older isAt carried
      exact tied.drawn id (.inr ⟨holder, old, wasAt, hadIt⟩)
  · obtain ⟨old, wasAt, hadIt⟩ := older isAt carried
    exact tied.away holder old wasAt id hadIt
  · obtain ⟨old, wasAt, hadIt⟩ := older atFirst carried
    obtain ⟨oldToo, wasAtToo, hadItToo⟩ := older atSecond isOther
    exact tied.apart first second old oldToo wasAt wasAtToo different id hadIt hadItToo

/-- A function begins. -/
theorem Tied.invoke (tied : Tied crates config process system)
    (begun : process.system.started = true) (thread : Nat) (invocation : Invocation) :
    Tied crates config (process.invoke crates config thread invocation) system := by
  unfold Process.invoke
  split
  · exact tied.answer _
  · rename_i command prepared
    obtain ⟨sound, unnumbered⟩ := Invocation.prepare_sound prepared
    refine tied.goOn ⟨sound, unnumbered⟩ begun fun id carried => ?_
    rw [Stage.ids, unnumbered] at carried
    cases carried
  · rename_i make prepared
    refine tied.goOn (Invocation.prepare_sound prepared) begun fun id carried => ?_
    cases carried

/-- A thread draws an id. -/
theorem Tied.draw (tied : Tied crates config process system) {thread : Nat} {make : Nat → Command}
    (isAt : process.threads thread = some (.drawing make)) (begun : process.system.started = true)
    (fresh : process.system.state.shared.nextId ∉ system.drawn) :
    Tied crates config (process.proceed thread) (system.step .draw) := by
  have sound := tied.stages thread _ isAt process.system.state.shared.nextId
  have same : process.system.state.shared.nextId = system.state.shared.nextId := by
    rw [tied.node]
    cases process.phase.status? <;> rfl
  -- What any other thread holds was drawn before.
  have unused {id : Nat} (inUse : process.InUse id) : id ≠ process.system.state.shared.nextId :=
    fun isNext => fresh (isNext ▸ tied.drawn id inUse)
  have drew : process.proceed thread =
      { process.goOn thread (.asking (some process.system.state.shared.nextId)
          (make process.system.state.shared.nextId)) with
        system := process.system.step .draw } := by
    rw [Process.proceed, isAt]
  have held {holder : Nat} {stage : Stage}
      (holds : (process.proceed thread).threads holder = some stage) :
      holder = thread ∧ stage.ids = [process.system.state.shared.nextId] ∧
          stage.Sound crates config ∨
        process.threads holder = some stage ∧ holder ≠ thread := by
    rw [drew] at holds
    rcases threads_goOn holds with ⟨rfl, rfl⟩ | ⟨different, older⟩
    · exact .inl ⟨rfl, sound.2, sound⟩
    · exact .inr ⟨older, different⟩
  have channel : (process.proceed thread).channel = process.channel := by rw [drew]; rfl
  have phase : (process.proceed thread).phase = process.phase := by rw [drew]; rfl
  have started : (process.proceed thread).system.started = process.system.started := by
    rw [drew]
    rfl
  have taken : (process.proceed thread).taken = process.taken := by rw [drew]; rfl
  refine ⟨?_, ?_, ?_, ?_, ?_, ?_, ?_, ?_, ?_, ?_⟩
  · rw [phase, drew]
    change process.system.step .draw = _
    rw [tied.node]
    cases process.phase.status? <;> rfl
  · rw [started, phase]
    exact tied.starting
  · intro unbegun
    cases (started ▸ unbegun).symm.trans begun
  · rw [commands_step, tied.heard, taken]
    exact List.append_nil _
  · intro holder stage holds
    rcases held holds with ⟨-, -, isSound⟩ | ⟨older, -⟩
    · exact isSound
    · exact tied.stages holder stage older
  · rw [channel]
    exact tied.queued
  · rintro id (queued | ⟨holder, stage, holds, carried⟩)
    · rw [channel] at queued
      exact Finset.mem_insert_of_mem (tied.drawn id (.inl queued))
    · rcases held holds with ⟨-, own, -⟩ | ⟨older, -⟩
      · rw [own, List.mem_singleton] at carried
        rw [carried, same]
        exact Finset.mem_insert_self _ _
      · exact Finset.mem_insert_of_mem (tied.drawn id (.inr ⟨holder, stage, older, carried⟩))
  · rw [channel]
    exact tied.ordered
  · intro holder stage holds id carried queued
    rw [channel] at queued
    rcases held holds with ⟨-, own, -⟩ | ⟨older, -⟩
    · rw [own, List.mem_singleton] at carried
      exact unused (.inl (List.mem_flatMap.mp queued)) carried
    · exact tied.away holder stage older id carried queued
  · intro first second stage other atFirst atSecond different id carried isOther
    rcases held atFirst with ⟨rfl, own, -⟩ | ⟨older, -⟩
    · rw [own, List.mem_singleton] at carried
      rcases held atSecond with ⟨rfl, -, -⟩ | ⟨olderToo, -⟩
      · exact different rfl
      · exact unused (.inr ⟨second, other, olderToo, isOther⟩) carried
    · rcases held atSecond with ⟨-, own, -⟩ | ⟨olderToo, -⟩
      · rw [own, List.mem_singleton] at isOther
        exact unused (.inr ⟨first, stage, older, carried⟩) isOther
      · exact tied.apart first second stage other older olderToo different id carried isOther

/-- A thread puts its command on the channel. -/
theorem Tied.send (tied : Tied crates config process system) {thread : Nat} {id : Option Nat}
    {command : Command} (isAt : process.threads thread = some (.sending id command))
    (begun : process.system.started = true) (channel : List Command)
    (longer : channel = process.channel ++ [command]) (sent : List Command) (answer : Answer)
    (own : answer.thread = thread) :
    Tied crates config { process.answer answer with channel, sent } system := by
  have answered := tied.answer answer
  obtain ⟨sound, -⟩ := tied.stages thread _ isAt
  have queued {tested : Nat} : tested ∈ channel.flatMap Command.ids ↔
      tested ∈ process.channel.flatMap Command.ids ∨ tested ∈ command.ids := by
    rw [longer, List.flatMap_append, List.mem_append]
    simp
  refine ⟨answered.node, answered.starting, fun unbegun => ?_, answered.heard, answered.stages,
    ?_, ?_, ?_, ?_, answered.apart⟩
  · cases unbegun.symm.trans begun
  · intro other member
    dsimp only at member
    rw [longer] at member
    rcases List.mem_append.mp member with old | isNew
    · exact tied.queued other old
    · rw [List.mem_singleton.mp isNew]
      exact .inr sound
  · rintro tested (⟨other, member, carried⟩ | ⟨holder, stage, holds, carried⟩)
    · rcases queued.mp (List.mem_flatMap.mpr ⟨other, member, carried⟩) with old | isNew
      · exact tied.drawn tested (.inl (List.mem_flatMap.mp old))
      · exact tied.drawn tested (.inr ⟨thread, _, isAt, isNew⟩)
    · exact tied.drawn tested (.inr ⟨holder, stage, (threads_answer holds).1, carried⟩)
  · rw [longer, List.flatMap_append, List.nodup_append]
    refine ⟨tied.ordered, ?_, ?_⟩
    · rw [List.flatMap_singleton]
      obtain ⟨-, ids⟩ := tied.stages thread _ isAt
      rw [ids]
      cases id <;> simp
    · intro first isOld second isNew same
      rw [List.flatMap_singleton] at isNew
      exact tied.away thread _ isAt second isNew (same ▸ isOld)
  · intro holder stage holds tested carried member
    obtain ⟨wasAt, different⟩ := threads_answer holds
    rcases queued.mp member with old | isNew
    · exact tied.away holder stage wasAt tested carried old
    · exact tied.apart holder thread stage _ wasAt isAt (own ▸ different) tested carried isNew

/-- The event loop takes a command. -/
theorem Tied.take (tied : Tied crates config process system) (env : Env) {command : Command}
    {rest : List Command} (next : process.channel = command :: rest)
    (phase : process.phase = .running) (replies : List (Nat × Reply)) :
    Tied crates config
      { process with
        channel := rest
        taken := process.taken ++ [command]
        replies
        system := process.system.step (.handle env (.command command)) }
      (system.step (.handle env (.command command))) := by
  have node : process.system = system := by
    rw [tied.node, phase]
    rfl
  have ordered := tied.ordered
  rw [next, List.flatMap_cons, List.nodup_append] at ordered
  obtain ⟨-, restOrdered, separate⟩ := ordered
  have waiting {id : Nat} (member : id ∈ rest.flatMap Command.ids) :
      id ∈ process.channel.flatMap Command.ids := by
    rw [next, List.flatMap_cons]
    exact List.mem_append_right _ member
  have kept {id : Nat} (isDrawn : id ∈ system.drawn) (other : id ∉ command.ids) :
      id ∈ (system.step (.handle env (.command command))).drawn :=
    Finset.mem_filter.mpr ⟨isDrawn, other⟩
  refine ⟨?_, ?_, ?_, ?_, tied.stages, ?_, ?_, restOrdered, ?_, tied.apart⟩
  · rw [phase, node]
    rfl
  · exact tied.starting
  · intro unbegun
    obtain ⟨pending, isStarting⟩ := tied.starting.mp unbegun
    cases phase.symm.trans isStarting
  · rw [commands_step, tied.heard]
    rfl
  · intro other member
    exact tied.queued other (next ▸ List.mem_cons_of_mem _ member)
  · rintro id (⟨other, member, carried⟩ | ⟨thread, stage, isAt, carried⟩)
    · have inRest : id ∈ rest.flatMap Command.ids := List.mem_flatMap.mpr ⟨other, member, carried⟩
      refine kept (tied.drawn id (.inl (List.mem_flatMap.mp (waiting inRest)))) fun own => ?_
      exact separate id own id inRest rfl
    · refine kept (tied.drawn id (.inr ⟨thread, stage, isAt, carried⟩)) fun own => ?_
      refine tied.away thread stage isAt id carried ?_
      rw [next, List.flatMap_cons]
      exact List.mem_append_left _ own
  · intro thread stage isAt id carried member
    exact tied.away thread stage isAt id carried (waiting member)

/-- What a thread does next is a draw of the node, or nothing. -/
theorem Tied.proceed (tied : Tied crates config process system) {thread : Nat}
    (calling : (process.threads thread).isSome)
    (fresh : system.state.shared.nextId ∉ system.drawn) :
    Tied crates config (process.proceed thread) system ∨
      Tied crates config (process.proceed thread) (system.step .draw) := by
  obtain ⟨stage, isAt⟩ := Option.isSome_iff_exists.mp calling
  have begun : process.system.started = true := by
    by_contra unbegun
    cases ((tied.idle (by simpa using unbegun)).2 thread).symm.trans isAt
  have same : process.system.state.shared.nextId = system.state.shared.nextId := by
    rw [tied.node]
    cases process.phase.status? <;> rfl
  cases stage with
  | drawing make => exact .inr (tied.draw isAt begun (same ▸ fresh))
  | asking id command =>
    left
    rw [Process.proceed, isAt]
    dsimp only
    split
    · exact tied.answer _
    · have sound : (Stage.sending id command).Sound crates config :=
        tied.stages thread (.asking id command) isAt
      exact tied.goOn sound begun fun tested carried => ⟨_, isAt, carried⟩
  | sending id command =>
    left
    rw [Process.proceed, isAt]
    dsimp only
    split
    · have sent := tied.send isAt begun _ rfl (process.sent ++ [command])
        { thread, status := statusOk, id } rfl
      split
      · exact sent.goOn trivial begun fun tested carried => by cases carried
      · exact sent
    · exact tied.answer _
  | waiting place =>
    left
    rw [Process.proceed, isAt]
    exact tied

end

/-! What the threads and the channel do to the node is a run of it. -/

section

variable {localPeer : PeerId} {since : Instant} {process : Process} {system : System}

/-- While the channel has a receiver the node is what it is. -/
theorem Tied.same (tied : Tied crates config process system)
    (receives : process.phase.receives = true) : process.system = system := by
  rw [tied.node, Phase.status_of_receives receives]
  rfl

/-- While the node waits or runs, an action of it changes nothing for the threads. -/
theorem Tied.plain (tied : Tied crates config process system) {action : Action} {phase : Phase}
    (receives : process.phase.receives = true) (isOpen : phase.status? = none)
    (noCommand : action.command? = none) (kept : system.drawn ⊆ (system.step action).drawn)
    (starting : (system.step action).started = false ↔ ∃ pending, phase = .starting pending)
    (begun : system.started = true → (system.step action).started = true) :
    Tied crates config { process with phase, system := process.system.step action }
      (system.step action) := by
  have node := tied.same receives
  refine tied.acts noCommand kept ?_ ?_ ?_ rfl rfl rfl
  · rw [isOpen, node]
    rfl
  · rw [node]
    exact starting
  · rw [node]
    exact begun

/-- The ids on the channel stay the same. -/
theorem Tied.requeue (tied : Tied crates config process system) {channel : List Command}
    {phase : Phase} {shut : Bool} (begun : process.system.started = true)
    (isOpen : process.phase.status? = phase.status?)
    (past : ∀ pending, phase ≠ .starting pending)
    (ids : channel.flatMap Command.ids = process.channel.flatMap Command.ids)
    (queued : ∀ command ∈ channel, command = .shutdown ∨ command.Sound crates config) :
    Tied crates config { process with channel, phase, shut } system := by
  refine ⟨?_, ?_, fun unbegun => ?_, tied.heard, tied.stages, queued, ?_, ?_, ?_, tied.apart⟩
  · rw [tied.node, isOpen]
  · constructor
    · intro unbegun
      cases unbegun.symm.trans begun
    · rintro ⟨pending, isStarting⟩
      exact absurd isStarting (past pending)
  · cases unbegun.symm.trans begun
  · rintro id (isQueued | held)
    · have member := List.mem_flatMap.mpr isQueued
      rw [ids] at member
      exact tied.drawn id (.inl (List.mem_flatMap.mp member))
    · exact tied.drawn id (.inr held)
  · rw [ids]
    exact tied.ordered
  · rw [ids]
    exact tied.away

theorem Tied.poll (tied : Tied crates config process system) (cap : Nat) :
    Tied crates config { process with system := process.system.step (.poll cap) }
      (system.step (.poll cap)) := by
  refine tied.acts rfl (Finset.Subset.refl _) ?_ tied.starting (fun begun => begun) rfl rfl rfl
  dsimp only
  rw [tied.node]
  cases process.phase.status? with
  | none => rfl
  | some status =>
    have same := EventQueue.poll_close system.state.shared.events cap status
    simp only [System.closing, System.sharing, System.step, same]

theorem Tied.begun (tied : Tied crates config process system)
    (past : ∀ pending, process.phase ≠ .starting pending) : process.system.started = true := by
  by_contra unbegun
  obtain ⟨pending, isStarting⟩ := tied.starting.mp (by simpa using unbegun)
  exact past pending isStarting

theorem Tied.drop (tied : Tied crates config process system)
    (begun : process.system.started = true) (past : ∀ pending, process.phase ≠ .starting pending) :
    Tied crates config (process.step crates config .drop) system := by
  refine tied.requeue begun rfl past ?_ fun command member => ?_
  · split
    · rw [List.flatMap_append]
      exact List.append_nil _
    · rfl
  · split at member
    · rcases List.mem_append.mp member with old | isNew
      · exact tied.queued command old
      · exact .inl (List.mem_singleton.mp isNew)
    · exact tied.queued command member

theorem Tied.close (tied : Tied crates config process system) (phase : process.phase = .stopped) :
    Tied crates config (process.close errShutDown) system := by
  have node : process.system = system := by
    rw [tied.node, phase]
    rfl
  have begun := tied.begun (by simp [phase])
  refine ⟨?_, ?_, tied.idle, tied.heard, tied.stages, tied.queued, tied.drawn, tied.ordered,
    tied.away, tied.apart⟩
  · rw [← node]
    rfl
  · constructor
    · intro unbegun
      cases unbegun.symm.trans begun
    · rintro ⟨pending, isStarting⟩
      cases isStarting

/-- What a deed does to the node is some actions of it, unless the node panics. -/
def Carried (crates : Crates) (config : Config) (after : Process) (system : System) : Prop :=
  ∃ actions, Runs.Admissible System.step system (System.Enabled crates) actions ∧
    (after.phase.panicked = false →
      Tied crates config after (actions.foldl System.step system))

theorem Carried.nothing {after : Process}
    (same : after.phase.panicked = false → Tied crates config after system) :
    Carried crates config after system := ⟨[], Runs.admissible_nil _ _ _, same⟩

theorem Carried.one {after : Process} (action : Action)
    (enabled : System.Enabled crates system action)
    (same : Tied crates config after (system.step action)) : Carried crates config after system :=
  ⟨[action], (Runs.admissible_cons _ _ _ _ _).mpr ⟨enabled, Runs.admissible_nil _ _ _⟩,
    fun _ => same⟩

end

end Process

end Libp2pFfi
