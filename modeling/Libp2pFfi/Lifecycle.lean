import Libp2pFfi.PollAnswers
import Libp2pFfi.Postings
import Libp2pFfi.Threads

/-!
# Order on the channel and the end of a node

The channel is first in, first out, and nothing but calls and the end of the
handle puts anything on it. So the commands that were taken are the first of
those that were sent, every call whose `send` succeeded has sent one command and
written the id that the command carries, and a shutdown, which comes last, finds all
others handled. A call that waits for a reply gets that to its own command, or none.
After a panic nothing is sent any more, and once the queue is drained every poll
answers why the node has ended.
-/

namespace Libp2pFfi

/-! Arguments that are refused. -/

/-- A block that answers an error fails at its first step or later. -/
theorem bind_error {α β : Type} {first : Except Int α} {next : α → Except Int β} {status : Int}
    (fails : first >>= next = .error status) :
    first = .error status ∨ ∃ value, next value = .error status := by
  cases first with
  | error other => exact .inl (congrArg Except.error (Except.error.inj fails))
  | ok value => exact .inr ⟨value, fails⟩

/-- A status by which arguments are refused. -/
def Refusal (status : Int) : Prop :=
  status = errInvalidArgument ∨ status = errUnavailable ∨ status = errLimited

/-- A missing pointer is a refused argument. -/
theorem refusal_required {α : Type} {pointer : Option α} {status : Int}
    (fails : required pointer = .error status) : Refusal status := by
  cases pointer with
  | none => exact .inl (Except.error.inj fails).symm
  | some value => cases fails

/-- A query without room for its id is refused before it is sent. -/
theorem refusal_query {writable : Bool} {make : Nat → Command} {status : Int}
    (fails : query writable make = .error status) : Refusal status := by
  unfold query at fails
  split at fails
  · cases fails
  · exact .inl (Except.error.inj fails).symm

/-- A call whose arguments are refused says so. -/
theorem Invocation.refusal_prepare {crates : Crates} {handle : Handle} {topics : Nat}
    {invocation : Invocation} {status : Int}
    (fails : invocation.prepare crates handle topics = .error status) : Refusal status := by
  -- Most functions refuse nothing but null pointers.
  have simple {α : Type} {pointer : Option α} {next : α → Prepared}
      (refused : (required pointer >>= fun value => .ok (next value)) = .error status) :
      Refusal status := by
    rcases bind_error refused with missing | ⟨value, made⟩
    · exact refusal_required missing
    · cases made
  cases invocation with
  | rpcRequest group nodeKey protocol data timeoutMs writable =>
    rcases bind_error fails with missing | ⟨group, fails⟩
    · exact refusal_required missing
    rcases bind_error fails with missing | ⟨payload, fails⟩
    · exact refusal_required missing
    split at fails
    · exact .inl (Except.error.inj fails).symm
    · rcases bind_error fails with unknown | ⟨target, made⟩
      · cases nodeKey with
        | none => cases unknown
        | some key =>
          cases isPeer : peerId crates key with
          | none =>
            rw [targeted, isPeer] at unknown
            exact .inl (Except.error.inj unknown).symm
          | some peer =>
            rw [targeted, isPeer] at unknown
            cases unknown
      · cases made
  | rpcRespond => exact simple fails
  | rpcReject => cases fails
  | peerSetClass => exact simple fails
  | limitSet id rate =>
    simp only [prepare] at fails
    split at fails
    · cases fails
    · exact .inl (Except.error.inj fails).symm
  | announceSetPayload data =>
    rcases bind_error fails with missing | ⟨payload, fails⟩
    · exact refusal_required missing
    split at fails
    · exact .inr (.inl (Except.error.inj fails).symm)
    · split at fails
      · exact .inl (Except.error.inj fails).symm
      · cases fails
  | topicSubscribe topicKey =>
    rcases bind_error fails with missing | ⟨key, fails⟩
    · exact refusal_required missing
    split at fails
    · exact .inr (.inr (Except.error.inj fails).symm)
    · cases fails
  | topicUnsubscribe => exact simple fails
  | topicPublish topicKey data =>
    rcases bind_error fails with missing | ⟨key, fails⟩
    · exact refusal_required missing
    rcases bind_error fails with missing | ⟨payload, fails⟩
    · exact refusal_required missing
    split at fails
    · exact .inl (Except.error.inj fails).symm
    · cases fails
  | topicPeers => exact simple fails
  | dhtProvide => exact simple fails
  | dhtStopProviding => exact simple fails
  | dhtFindProviders recordKey writable =>
    rcases bind_error fails with missing | ⟨key, fails⟩
    · exact refusal_required missing
    · exact refusal_query fails
  | dhtBootstrap => exact refusal_query fails
  | dhtRandomWalk => exact refusal_query fails
  | addAddress nodeKey multiaddr =>
    rcases bind_error fails with missing | ⟨target, fails⟩
    · exact refusal_required missing
    rcases bind_error fails with missing | ⟨peer, fails⟩
    · exact refusal_required missing
    rcases bind_error fails with missing | ⟨text, fails⟩
    · exact refusal_required missing
    rcases bind_error fails with missing | ⟨address, made⟩
    · exact refusal_required missing
    · cases made
  | routingSample writable maxPeers =>
    simp only [prepare] at fails
    split at fails
    · cases fails
    · exact .inl (Except.error.inj fails).symm

/-! The queue stays open until it is closed. -/

/-- Nothing that is queued closes the queue. -/
theorem EventQueue.closed_push (queue : EventQueue) (record : Record) :
    (queue.push record).inner.closed = queue.inner.closed := by
  unfold push
  split <;> rfl

/-- Nor does reading from it. -/
theorem EventQueue.closed_poll (queue : EventQueue) (cap : Nat) :
    (queue.poll cap).1.inner.closed = queue.inner.closed := by
  unfold poll
  split
  · rfl
  · split
    · dsimp only
      split <;> rfl
    · rfl

/-- So no action of the node does: only its thread, at the end. -/
theorem System.closed_step (system : System) (action : Action) :
    (system.step action).state.shared.events.inner.closed =
      system.state.shared.events.inner.closed := by
  by_cases isPoll : ∃ cap, action = .poll cap
  · obtain ⟨cap, rfl⟩ := isPoll
    exact EventQueue.closed_poll _ cap
  · obtain ⟨extra, -, posted⟩ := system.posts_step action fun cap same => isPoll ⟨cap, same⟩
    rw [posted]
    exact Runs.unchanged EventQueue.push system.state.shared.events
      (fun queue => queue.inner.closed) EventQueue.closed_push (emitted extra)

/-- The `send` of a call succeeded. -/
def Answer.succeeded (answer : Answer) : Bool := answer.status == statusOk

namespace Process

/-- The channel, the calls and the end of the node are in order. -/
structure Orderly (crates : Crates) (config : Config) (process : Process) : Prop where
  sound : ∀ command ∈ process.sent, command.Sound crates config
  stages : ∀ thread stage, process.threads thread = some stage → stage.Sound crates config
  fifo : process.phase.receives = true →
    process.taken ++ process.channel =
      process.sent ++ if process.shut then [.shutdown] else []
  earlier : process.taken <+: process.sent
  complete : process.phase = .stopped ∨ process.phase = .ended errShutDown →
    process.taken = process.sent
  idle : process.shut = true → ∀ thread, process.threads thread = none
  closed : process.system.state.shared.events.inner.closed = process.phase.status?
  ends : ∀ status, process.phase = .ended status → status = errShutDown ∨ status = errPanic
  written : (process.answers.filter Answer.succeeded).map Answer.id =
    process.sent.map fun command => command.ids.head?
  handled : commands process.system.state.log = process.taken

section

variable {crates : Crates} {config : Config} {process : Process} {since : Instant}

/-- A deed that is about the node only. -/
theorem Orderly.acts (orderly : Orderly crates config process) {system : System} {phase : Phase}
    (closed : system.state.shared.events.inner.closed =
      process.system.state.shared.events.inner.closed)
    (receives : process.phase.receives = phase.receives)
    (status : process.phase.status? = phase.status?)
    (stopped : phase = .stopped → process.phase = .stopped)
    (same : commands system.state.log = commands process.system.state.log) :
    Orderly crates config { process with system, phase } := by
  refine ⟨orderly.sound, orderly.stages, fun isReceiving => orderly.fifo (receives ▸ isReceiving),
    orderly.earlier, ?_, orderly.idle, (closed.trans orderly.closed).trans status, ?_,
    orderly.written, same.trans orderly.handled⟩
  · have ended {other : Int} (isEnded : phase = .ended other) : process.phase = .ended other := by
      rw [isEnded] at status
      cases isPhase : process.phase with
      | ended was =>
        rw [isPhase] at status
        rw [Option.some.inj status]
      | _ => rw [isPhase] at status; cases status
    rintro (isStopped | isEnded)
    · exact orderly.complete (.inl (stopped isStopped))
    · exact orderly.complete (.inr (ended isEnded))
  · intro other isEnded
    obtain rfl : phase = .ended other := isEnded
    cases isPhase : process.phase with
    | ended was =>
      rw [isPhase] at status
      exact orderly.ends other (isPhase.trans (congrArg Phase.ended (Option.some.inj status)))
    | _ => rw [isPhase] at status; cases status

/-- A thread has ended its call, and no command was sent for it. -/
theorem Orderly.frees (orderly : Orderly crates config process) (thread : Nat)
    (answers returned : List Answer)
    (same : answers.filter Answer.succeeded = process.answers.filter Answer.succeeded) :
    Orderly crates config
      { process with
        threads := Function.update process.threads thread none
        answers
        returned } := by
  refine ⟨orderly.sound,
    fun holder stage isAt => orderly.stages holder stage (threads_freed isAt).1, orderly.fifo,
    orderly.earlier, orderly.complete, fun shut holder => ?_, orderly.closed, orderly.ends, ?_,
    orderly.handled⟩
  · cases isAt : Function.update process.threads thread none holder with
    | none => exact isAt
    | some stage => cases (orderly.idle shut holder).symm.trans (threads_freed isAt).1
  · dsimp only
    rw [same]
    exact orderly.written

/-- A call is over without success. -/
theorem Orderly.fails (orderly : Orderly crates config process) {thread : Nat} {status : Int}
    (failed : status ≠ statusOk) : Orderly crates config (process.answer { thread, status }) := by
  have dropped : [({ thread, status } : Answer)].filter Answer.succeeded = [] := by
    simp [Answer.succeeded, failed]
  refine orderly.frees thread _ _ ?_
  rw [List.filter_append, dropped, List.append_nil]

/-- A call goes on. -/
theorem Orderly.goOn (orderly : Orderly crates config process) {thread : Nat} {stage : Stage}
    (sound : stage.Sound crates config) (unshut : process.shut = false) :
    Orderly crates config (process.goOn thread stage) := by
  refine ⟨orderly.sound, fun holder held isAt => ?_, orderly.fifo, orderly.earlier,
    orderly.complete, fun shut => ?_, orderly.closed, orderly.ends, orderly.written,
    orderly.handled⟩
  · rcases threads_goOn isAt with ⟨-, rfl⟩ | ⟨-, older⟩
    · exact sound
    · exact orderly.stages holder held older
  · cases unshut.symm.trans shut

/-- A `send` succeeds: its command is the last on the channel. -/
theorem Orderly.succeeds (orderly : Orderly crates config process) {thread : Nat}
    {id : Option Nat} {command : Command}
    (isAt : process.threads thread = some (.sending id command)) (unshut : process.shut = false)
    (receives : process.phase.receives = true) :
    Orderly crates config
      { process.answer { thread, status := statusOk, id } with
        channel := process.channel ++ [command]
        sent := process.sent ++ [command] } := by
  obtain ⟨sound, carries⟩ := orderly.stages thread _ isAt
  refine ⟨?_, fun holder stage holds => orderly.stages holder stage (threads_answer holds).1,
    fun _ => ?_, orderly.earlier.trans (List.prefix_append _ _), ?_, fun shut => ?_,
    orderly.closed, orderly.ends, ?_, orderly.handled⟩
  · intro other member
    rcases List.mem_append.mp member with old | isNew
    · exact orderly.sound other old
    · rw [List.mem_singleton.mp isNew]
      exact sound
  · have fifo := orderly.fifo receives
    rw [unshut] at fifo
    change process.taken ++ (process.channel ++ [command]) =
      process.sent ++ [command] ++ if process.shut then [.shutdown] else []
    rw [← List.append_assoc, fifo, unshut]
    simp
  · rintro (stopped | ended)
    · have isPhase : process.phase = .stopped := stopped
      rw [isPhase] at receives
      cases receives
    · have isPhase : process.phase = .ended errShutDown := ended
      rw [isPhase] at receives
      cases receives
  · cases unshut.symm.trans shut
  · have kept : [({ thread, status := statusOk, id } : Answer)].filter Answer.succeeded =
        [{ thread, status := statusOk, id }] := by
      simp [Answer.succeeded]
    rw [Process.answer]
    dsimp only
    rw [List.filter_append, kept, List.map_append, orderly.written, List.map_append, List.map_cons,
      List.map_cons, carries]
    cases id <;> rfl

/-- A thread goes on with its call. -/
theorem Orderly.proceed (orderly : Orderly crates config process) {thread : Nat}
    (calling : (process.threads thread).isSome) :
    Orderly crates config (process.proceed thread) := by
  obtain ⟨stage, isAt⟩ := Option.isSome_iff_exists.mp calling
  have unshut : process.shut = false := by
    by_contra shut
    cases (orderly.idle (by simpa using shut) thread).symm.trans isAt
  have sound := orderly.stages thread stage isAt
  rw [Process.proceed, isAt]
  cases stage with
  | drawing make =>
    have asks : (Stage.asking (some process.system.state.shared.nextId)
        (make process.system.state.shared.nextId)).Sound crates config := sound _
    exact (orderly.goOn asks unshut).acts (System.closed_step _ .draw) rfl rfl (fun same => same)
      rfl
  | asking id command =>
    dsimp only
    split
    · exact orderly.fails (by decide)
    · exact orderly.goOn sound unshut
  | sending id command =>
    dsimp only
    split
    · rename_i receives
      have sent := orderly.succeeds isAt unshut receives
      split
      · exact sent.goOn trivial unshut
      · exact sent
    · exact orderly.fails (by decide)
  | waiting place => exact orderly

/-- The reply reaches a thread. -/
theorem Orderly.receive (orderly : Orderly crates config process) (thread cap : Nat) :
    Orderly crates config (process.receive thread cap) := by
  unfold Process.receive
  split
  · split
    · exact orderly.frees thread _ _ rfl
    · exact orderly
  · exact orderly

/-- The event loop takes a command. The one that ends it is the last. -/
theorem Orderly.take (orderly : Orderly crates config process) (env : Env)
    (phase : process.phase = .running) (nonempty : process.channel ≠ []) :
    Orderly crates config (process.take env) := by
  have fifo := orderly.fifo (by rw [phase]; rfl)
  obtain ⟨command, rest, next⟩ := List.exists_cons_of_ne_nil nonempty
  rw [next] at fifo
  by_cases ends : command = .shutdown
  · subst ends
    have unsent : Command.shutdown ∉ process.sent := orderly.sound _
    have stopped : process.take env = { process with channel := rest, phase := .stopped } := by
      rw [Process.take, next]
    -- The command stands where the list of those that were sent ends.
    have all : process.taken = process.sent := by
      cases shut : process.shut with
      | false =>
        rw [shut] at fifo
        refine absurd ?_ unsent
        rw [← List.append_nil process.sent]
        exact fifo ▸ List.mem_append_right _ List.mem_cons_self
      | true =>
        rw [shut] at fifo
        cases rest using List.reverseRecOn with
        | nil => exact (List.append_inj' fifo rfl).1
        | append_singleton rest last =>
          rw [if_pos rfl] at fifo
          have longer : process.taken ++ .shutdown :: rest ++ [last] =
              process.sent ++ [.shutdown] := by
            rw [← fifo]
            simp
          have sent := (List.append_inj' longer rfl).1
          exact absurd (sent ▸ List.mem_append_right _ List.mem_cons_self) unsent
    rw [stopped]
    refine ⟨orderly.sound, orderly.stages, fun receives => ?_, orderly.earlier, fun _ => all,
      orderly.idle, ?_, fun status ended => ?_, orderly.written, orderly.handled⟩
    · cases receives
    · have closed := orderly.closed
      rw [phase] at closed
      exact closed
    · cases ended
  · have handled : process.take env =
        { process with
          channel := rest
          taken := process.taken ++ [command]
          replies := process.replies ++
            (process.system.state.replyTo env command).toList.map (Prod.mk process.taken.length)
          system := process.system.step (.handle env (.command command)) } := by
      rw [Process.take, next]
      cases command with
      | shutdown => exact absurd rfl ends
      | _ => rfl
    have moved : process.taken ++ [command] ++ rest =
        process.sent ++ if process.shut then [.shutdown] else [] := by
      rw [← fifo]
      simp
    rw [handled]
    refine ⟨orderly.sound, orderly.stages, fun _ => moved, ?_, ?_, orderly.idle,
      (System.closed_step _ _).trans orderly.closed, orderly.ends, orderly.written, ?_⟩
    · cases shut : process.shut with
      | false =>
        rw [shut] at moved
        exact ⟨rest, moved.trans (List.append_nil _)⟩
      | true =>
        rw [shut] at moved
        cases rest using List.reverseRecOn with
        | nil =>
          rw [List.append_nil] at moved
          exact absurd (List.singleton_inj.mp (List.append_inj' moved rfl).2) ends
        | append_singleton rest last =>
          rw [← List.append_assoc] at moved
          exact ⟨rest, (List.append_inj' moved rfl).1⟩
    · rintro (stopped | ended)
      · cases phase.symm.trans stopped
      · cases phase.symm.trans ended
    · rw [commands_step, orderly.handled]
      rfl

/-- The handle is dropped. -/
theorem Orderly.drop (orderly : Orderly crates config process) (unshut : process.shut = false)
    (idle : ∀ thread, process.threads thread = none) :
    Orderly crates config (process.step crates config .drop) := by
  refine ⟨orderly.sound, orderly.stages, fun receives => ?_, orderly.earlier, orderly.complete,
    fun _ => idle, orderly.closed, orderly.ends, orderly.written, orderly.handled⟩
  have isReceiving : process.phase.receives = true := receives
  have fifo := orderly.fifo isReceiving
  rw [unshut] at fifo
  simp only [step, isReceiving, if_true]
  rw [← List.append_assoc, fifo]
  simp

/-- The queue is closed. -/
theorem Orderly.close (orderly : Orderly crates config process) {status : Int}
    (isOpen : process.phase.status? = none)
    (known : status = errShutDown ∧ process.phase = .stopped ∨ status = errPanic) :
    Orderly crates config (process.close status) := by
  refine ⟨orderly.sound, orderly.stages, fun receives => ?_, orderly.earlier, ?_, orderly.idle, ?_,
    ?_, orderly.written, orderly.handled⟩
  · cases receives
  · rintro (stopped | ended)
    · cases stopped
    · obtain rfl : status = errShutDown := Phase.ended.inj ended
      rcases known with ⟨-, stopped⟩ | panicked
      · exact orderly.complete (.inl stopped)
      · cases panicked
  · have wasOpen := orderly.closed
    rw [isOpen] at wasOpen
    change some (process.system.state.shared.events.inner.closed.getD status) = some status
    rw [wasOpen]
    rfl
  · intro other ended
    obtain rfl : status = other := Phase.ended.inj ended
    exact known.imp_left And.left

/-- Every deed keeps the process orderly. -/
theorem orderly_step (deed : Deed) (orderly : Orderly crates config process)
    (enabled : process.Enabled crates since deed) :
    Orderly crates config (process.step crates config deed) := by
  -- Whatever the node does while it waits or runs.
  have acts {action : Action} {phase : Phase} (receives : process.phase.receives = true)
      (still : phase.receives = true) (quiet : action.command? = none) :
      Orderly crates config { process with phase, system := process.system.step action } := by
    refine orderly.acts (System.closed_step _ action) (receives.trans still.symm) ?_ ?_ ?_
    · rw [Phase.status_of_receives receives, Phase.status_of_receives still]
    · rintro rfl
      cases still
    · rw [commands_step, quiet]
      exact List.append_nil _
  cases deed with
  | invoke thread invocation =>
    obtain ⟨-, unshut, -⟩ := enabled
    change Orderly crates config (process.invoke crates config thread invocation)
    unfold Process.invoke
    split
    · rename_i status refused
      refine orderly.fails ?_
      rcases Invocation.refusal_prepare refused with rfl | rfl | rfl <;> decide
    · rename_i command prepared
      have sound : (Stage.asking none command).Sound crates config :=
        Invocation.prepare_sound prepared
      exact orderly.goOn sound unshut
    · rename_i make prepared
      have sound : (Stage.drawing make).Sound crates config := Invocation.prepare_sound prepared
      exact orderly.goOn sound unshut
  | proceed thread => exact orderly.proceed enabled
  | receive thread cap => exact orderly.receive thread cap
  | giveUp thread => exact orderly.frees thread _ _ rfl
  | poll cap =>
    exact orderly.acts (System.closed_step _ (.poll cap)) rfl rfl (fun same => same) rfl
  | drop => exact orderly.drop enabled.2.1 enabled.2.2
  | internalQuery => exact acts enabled enabled rfl
  | learn peer address => exact acts enabled enabled rfl
  | listen env event =>
    obtain ⟨⟨pending, phase, -⟩, -⟩ := enabled
    rw [step, phase]
    exact acts (by rw [phase]; rfl) rfl rfl
  | ready env =>
    obtain ⟨⟨pending, phase, -⟩, -⟩ := enabled
    exact acts (by rw [phase]; rfl) rfl rfl
  | take env => exact orderly.take env enabled.1 enabled.2.1
  | swarm env event =>
    have receives : process.phase.receives = true := by
      rw [enabled.1]
      rfl
    exact acts receives receives rfl
  | tick env =>
    have receives : process.phase.receives = true := by
      rw [enabled.1]
      rfl
    exact acts receives receives rfl
  | panic left =>
    refine ⟨orderly.sound, orderly.stages, fun receives => ?_, orderly.earlier, ?_, orderly.idle,
      enabled.2.1, fun status ended => ?_, orderly.written, orderly.handled⟩
    · cases receives
    · rintro (stopped | ended)
      · cases stopped
      · cases ended
    · cases ended
  | poison =>
    have phase : process.phase = .unwinding := enabled
    refine orderly.acts rfl ?_ ?_ (fun stopped => ?_) rfl
    · rw [phase]
      rfl
    · rw [phase]
      rfl
    · cases stopped
  | close =>
    rcases enabled with phase | phase
    · have isOpen : process.phase.status? = none := by
        rw [phase]
        rfl
      rw [step, if_pos phase]
      exact orderly.close isOpen (.inl ⟨rfl, phase⟩)
    · have isOpen : process.phase.status? = none := by
        rw [phase]
        rfl
      rw [step, if_neg (by rw [phase]; decide)]
      exact orderly.close isOpen (.inr rfl)

/-- A process that was just created is orderly. -/
theorem orderly_start (crates : Crates) (config : Config) (localPeer : PeerId) (since : Instant)
    (listeners : List (ListenerId × Bool)) :
    Orderly crates config (start config localPeer since listeners) := by
  refine ⟨?_, ?_, fun _ => rfl, List.prefix_refl _, fun _ => rfl, fun _ _ => rfl, rfl, ?_, rfl,
    rfl⟩
  · intro command member
    cases member
  · intro thread stage isAt
    cases isAt
  · intro status ended
    cases ended

/-- So a process is orderly after every run. -/
theorem orderly_after {localPeer : PeerId} {listeners : List (ListenerId × Bool)}
    {deeds : List Deed} (run : Run crates config localPeer since listeners deeds) :
    Orderly crates config (after crates config localPeer since listeners deeds) :=
  Runs.invariant _ _ (orderly_start crates config localPeer since listeners)
    (fun _ deed orderly enabled => orderly_step deed orderly enabled) run

/-! What a call returns that has waited for a reply. -/

/-- What stands at a place stays there as the list grows. -/
theorem getElem?_mono {α : Type} {first more : List α} (kept : first <+: more) {place : Nat}
    {value : α} (found : first[place]? = some value) : more[place]? = some value := by
  obtain ⟨extra, rfl⟩ := kept
  obtain ⟨inside, -⟩ := List.getElem?_eq_some_iff.mp found
  rw [List.getElem?_append_left inside, found]

/-- Of the calls that sent a command, it is this thread that sent the one at this place. -/
def Sender (process : Process) (thread place : Nat) : Prop :=
  ∃ answer, (process.answers.filter Answer.succeeded)[place]? = some answer ∧
    answer.thread = thread

/-- Later answers do not change who sent the command at a place. -/
theorem Sender.mono {after : Process} {thread place : Nat} (sender : process.Sender thread place)
    (kept : process.answers <+: after.answers) : after.Sender thread place := by
  obtain ⟨answer, found, own⟩ := sender
  exact ⟨answer, getElem?_mono (kept.filter _) found, own⟩

variable (crates config) in
/-- The node replied this to the command at this place when it handled it. -/
def Given (localPeer : PeerId) (since : Instant) (listeners : List (ListenerId × Bool))
    (deeds : List Deed) (place : Nat) (reply : Reply) : Prop :=
  ∃ before env command rest, before ++ [.take env] <+: deeds ∧
    (after crates config localPeer since listeners before).channel = command :: rest ∧
    (after crates config localPeer since listeners before).taken.length = place ∧
    (after crates config localPeer since listeners before).system.state.replyTo env command =
      some reply

/-- A reply that was given stays given. -/
theorem Given.mono {localPeer : PeerId} {listeners : List (ListenerId × Bool)}
    {deeds more : List Deed} {place : Nat} {reply : Reply} (kept : deeds <+: more)
    (given : Given crates config localPeer since listeners deeds place reply) :
    Given crates config localPeer since listeners more place reply := by
  obtain ⟨before, env, command, rest, inside, facts⟩ := given
  exact ⟨before, env, command, rest, inside.trans kept, facts⟩

variable (crates config) in
/-- Threads wait for replies to commands of their own, and return with nothing else. -/
structure Served (localPeer : PeerId) (since : Instant) (listeners : List (ListenerId × Bool))
    (deeds : List Deed) (process : Process) : Prop where
  given : ∀ place reply, (place, reply) ∈ process.replies →
    Given crates config localPeer since listeners deeds place reply
  waiting : ∀ thread place, process.threads thread = some (.waiting place) →
    process.Sender thread place
  returned : ∀ answer ∈ process.returned, answer.status = errShutDown ∨
    ∃ place reply cap, process.Sender answer.thread place ∧
      Given crates config localPeer since listeners deeds place reply ∧
      answer.status = reply.status cap

section

variable {localPeer : PeerId} {listeners : List (ListenerId × Bool)} {deeds more : List Deed}
variable {after : Process}

/-- Nobody begins to wait, and nobody has stopped waiting. -/
theorem Served.keeps (served : Served crates config localPeer since listeners deeds process)
    (longer : deeds <+: more) (answers : process.answers <+: after.answers)
    (replies : after.replies = process.replies) (returned : after.returned = process.returned)
    (waiting : ∀ thread place, after.threads thread = some (.waiting place) →
      process.threads thread = some (.waiting place)) :
    Served crates config localPeer since listeners more after := by
  refine ⟨fun place reply member => ?_, fun thread place isAt => ?_, fun answer member => ?_⟩
  · rw [replies] at member
    exact (served.given place reply member).mono longer
  · exact (served.waiting thread place (waiting thread place isAt)).mono answers
  · rw [returned] at member
    refine (served.returned answer member).imp_right ?_
    rintro ⟨place, reply, cap, sender, given, status⟩
    exact ⟨place, reply, cap, sender.mono answers, given.mono longer, status⟩

/-- A thread that is answered waits no more. -/
theorem Served.answer (served : Served crates config localPeer since listeners deeds process)
    (longer : deeds <+: more) (answer : Answer) :
    Served crates config localPeer since listeners more (process.answer answer) :=
  served.keeps longer (List.prefix_append _ _) rfl rfl fun _ _ isAt => (threads_answer isAt).1

/-- A thread that goes on to anything but a wait leaves the others waiting as they were.
-/
theorem Served.goOn (served : Served crates config localPeer since listeners deeds process)
    (longer : deeds <+: more) (thread : Nat) {stage : Stage}
    (busy : ∀ place, stage ≠ .waiting place) :
    Served crates config localPeer since listeners more (process.goOn thread stage) := by
  refine served.keeps longer (List.prefix_refl _) rfl rfl fun holder place isAt => ?_
  rcases threads_goOn isAt with ⟨-, same⟩ | ⟨-, older⟩
  · exact absurd same.symm (busy place)
  · exact older

/-- A thread has sent its command and may have to wait. -/
theorem Served.sends (served : Served crates config localPeer since listeners deeds process)
    (orderly : Orderly crates config process) (longer : deeds <+: more) (thread : Nat)
    (id : Option Nat) (command : Command) :
    Served crates config localPeer since listeners more
      (let sent :=
        { process.answer { thread, status := statusOk, id } with
          channel := process.channel ++ [command]
          sent := process.sent ++ [command] }
      if command.awaits then sent.goOn thread (.waiting process.sent.length) else sent) := by
  have answered := served.answer longer { thread, status := statusOk, id }
  -- The command is the last of those that were sent, and so is its answer.
  have count : (process.answers.filter Answer.succeeded).length = process.sent.length := by
    have written := congrArg List.length orderly.written
    simpa using written
  have sender : (process.answer { thread, status := statusOk, id }).Sender thread
      process.sent.length := by
    refine ⟨{ thread, status := statusOk, id }, ?_, rfl⟩
    have kept : [({ thread, status := statusOk, id } : Answer)].filter Answer.succeeded =
        [{ thread, status := statusOk, id }] := by
      simp [Answer.succeeded]
    rw [Process.answer]
    dsimp only
    rw [List.filter_append, kept, ← count, List.getElem?_concat_length]
  dsimp only
  split
  · refine ⟨answered.given, fun holder place isAt => ?_, answered.returned⟩
    rcases threads_goOn isAt with ⟨rfl, same⟩ | ⟨-, older⟩
    · obtain rfl := Stage.waiting.inj same
      exact sender
    · exact answered.waiting holder place older
  · exact ⟨answered.given, answered.waiting, answered.returned⟩

/-- A thread stops waiting. -/
theorem Served.comeBack (served : Served crates config localPeer since listeners deeds process)
    (longer : deeds <+: more) {thread : Nat} {status : Int}
    (known : status = errShutDown ∨ ∃ place reply cap, process.Sender thread place ∧
      Given crates config localPeer since listeners deeds place reply ∧
      status = reply.status cap) :
    Served crates config localPeer since listeners more (process.comeBack thread status) := by
  refine ⟨fun place reply member => (served.given place reply member).mono longer,
    fun holder place isAt => served.waiting holder place (threads_freed isAt).1,
    fun answer member => ?_⟩
  rcases List.mem_append.mp member with older | isNew
  · refine (served.returned answer older).imp_right ?_
    rintro ⟨place, reply, cap, sender, given, same⟩
    exact ⟨place, reply, cap, sender, given.mono longer, same⟩
  · rw [List.mem_singleton.mp isNew]
    refine known.imp_right ?_
    rintro ⟨place, reply, cap, sender, given, same⟩
    exact ⟨place, reply, cap, sender, given.mono longer, same⟩

/-- A call whose command was sent waits for the reply to that command. -/
theorem Served.proceed (served : Served crates config localPeer since listeners deeds process)
    (orderly : Orderly crates config process) (longer : deeds <+: more) (thread : Nat) :
    Served crates config localPeer since listeners more (process.proceed thread) := by
  have still : Served crates config localPeer since listeners more process :=
    served.keeps longer (List.prefix_refl _) rfl rfl fun _ _ isAt => isAt
  unfold Process.proceed
  split
  · exact still
  · rename_i make isAt
    have asks : Served crates config localPeer since listeners more (process.goOn thread (.asking
        (some process.system.state.shared.nextId) (make process.system.state.shared.nextId))) :=
      served.goOn longer thread fun place => Stage.noConfusion
    exact asks.keeps (List.prefix_refl _) (List.prefix_refl _) rfl rfl fun _ _ isAt => isAt
  · split
    · exact served.answer longer _
    · exact served.goOn longer thread fun place => Stage.noConfusion
  · split
    · exact served.sends orderly longer thread _ _
    · exact served.answer longer _
  · exact still

/-- A thread that receives returns the status of the reply to its own command. -/
theorem Served.receive (served : Served crates config localPeer since listeners deeds process)
    (longer : deeds <+: more) (thread cap : Nat) :
    Served crates config localPeer since listeners more (process.receive thread cap) := by
  have still : Served crates config localPeer since listeners more process :=
    served.keeps longer (List.prefix_refl _) rfl rfl fun _ _ isAt => isAt
  unfold Process.receive
  split
  · rename_i place isAt
    split
    · rename_i reply replied
      have member : (place, reply) ∈ process.replies := by
        obtain ⟨before, later, same, -⟩ := List.lookup_eq_some_iff.mp replied
        rw [same]
        exact List.mem_append_right _ List.mem_cons_self
      exact served.comeBack longer (.inr ⟨place, reply, cap, served.waiting thread place isAt,
        served.given place reply member, rfl⟩)
    · exact still
  · exact still

/-- A command that is taken is replied to at once, if at all. -/
theorem Served.take {env : Env}
    (served : Served crates config localPeer since listeners deeds
      (Process.after crates config localPeer since listeners deeds)) :
    Served crates config localPeer since listeners (deeds ++ [.take env])
      ((Process.after crates config localPeer since listeners deeds).take env) := by
  have longer : deeds <+: deeds ++ [.take env] := List.prefix_append _ _
  unfold Process.take
  split
  · exact served.keeps longer (List.prefix_refl _) rfl rfl fun _ _ isAt => isAt
  · exact served.keeps longer (List.prefix_refl _) rfl rfl fun _ _ isAt => isAt
  · rename_i command rest _ next
    have kept := served.keeps longer (List.prefix_refl _) rfl rfl fun _ _ isAt => isAt
    refine ⟨fun place reply member => ?_, kept.waiting, kept.returned⟩
    rcases List.mem_append.mp member with older | isNew
    · exact kept.given place reply older
    · obtain ⟨sent, isSent, same⟩ := List.mem_map.mp isNew
      obtain ⟨rfl, rfl⟩ := Prod.mk.inj same
      exact ⟨deeds, env, command, rest, List.prefix_refl _, next, rfl, Option.mem_toList.mp isSent⟩

variable (crates config) in
/-- What was sent stays sent. -/
theorem sent_step (process : Process) (deed : Deed) :
    process.sent <+: (process.step crates config deed).sent := by
  cases deed with
  | invoke thread invocation =>
    change _ <+: (process.invoke crates config thread invocation).sent
    unfold Process.invoke
    split <;> exact List.prefix_refl _
  | proceed thread =>
    change _ <+: (process.proceed thread).sent
    unfold Process.proceed
    split
    · exact List.prefix_refl _
    · exact List.prefix_refl _
    · split <;> exact List.prefix_refl _
    · split
      · dsimp only
        split <;> exact List.prefix_append _ _
      · exact List.prefix_refl _
    · exact List.prefix_refl _
  | receive thread cap =>
    change _ <+: (process.receive thread cap).sent
    unfold Process.receive
    split
    · split <;> exact List.prefix_refl _
    · exact List.prefix_refl _
  | listen env event =>
    simp only [step]
    split <;> exact List.prefix_refl _
  | take env =>
    change _ <+: (process.take env).sent
    unfold Process.take
    split <;> exact List.prefix_refl _
  | _ => exact List.prefix_refl _

variable (crates config) in

/-- What was sent stays sent. -/
theorem sent_foldl (process : Process) (deeds : List Deed) :
    process.sent <+: (deeds.foldl (step crates config) process).sent := by
  induction deeds generalizing process with
  | nil => exact List.prefix_refl _
  | cons deed rest inductionHypothesis =>
    exact (sent_step crates config process deed).trans
      (inductionHypothesis (process.step crates config deed))

/-- A reply is to the command that was sent at its place. -/
theorem Given.sent (run : Run crates config localPeer since listeners deeds) {place : Nat}
    {reply : Reply} (given : Given crates config localPeer since listeners deeds place reply) :
    ∃ before env command, before ++ [.take env] <+: deeds ∧
      (Process.after crates config localPeer since listeners deeds).sent[place]? = some command ∧
      (Process.after crates config localPeer since listeners before).system.state.replyTo env
        command = some reply := by
  obtain ⟨before, env, command, rest, inside, next, rfl, replied⟩ := given
  refine ⟨before, env, command, inside, ?_, replied⟩
  have orderly := orderly_after (run.take _ _ inside)
  -- The command is the last that was taken then, and what was taken was sent.
  have taken : (Process.after crates config localPeer since listeners
      (before ++ [.take env])).taken =
        (Process.after crates config localPeer since listeners before).taken ++ [command] := by
    have ends : command ≠ .shutdown := by
      rintro rfl
      cases replied
    unfold Process.after at next ⊢
    rw [List.foldl_append]
    simp only [List.foldl_cons, List.foldl_nil, step, Process.take, next]
  have sent := orderly.earlier
  rw [taken] at sent
  obtain ⟨later, rfl⟩ := inside
  have kept := sent_foldl crates config
    (Process.after crates config localPeer since listeners (before ++ [.take env])) later
  have last : ((Process.after crates config localPeer since listeners before).taken ++
      [command])[(Process.after crates config localPeer since listeners before).taken.length]? =
        some command := List.getElem?_concat_length
  unfold Process.after at kept ⊢
  rw [List.foldl_append]
  exact getElem?_mono kept (getElem?_mono sent last)

end

/-! A runtime thread that has left its loop never takes up another command. -/

/-- What a thread that calls can see of the end: nothing more was sent, nothing more
was handled, and no call that was under way has had its command sent. -/
structure Over (before after : Process) : Prop where
  gone : after.phase.receives = false
  sent : after.sent = before.sent
  taken : after.taken = before.taken
  refused : after.answers.filter Answer.succeeded = before.answers.filter Answer.succeeded
  final : ∀ status, before.phase = .ended status → after.phase = .ended status

theorem Over.refl (gone : process.phase.receives = false) : Over process process :=
  ⟨gone, rfl, rfl, rfl, fun _ same => same⟩

/-- What is over stays over. -/
theorem Over.trans {first second third : Process} (earlier : Over first second)
    (later : Over second third) : Over first third :=
  ⟨later.gone, later.sent.trans earlier.sent, later.taken.trans earlier.taken,
    later.refused.trans earlier.refused,
    fun status ended => later.final status (earlier.final status ended)⟩

/-- A call is over without success. -/
theorem over_answer (gone : process.phase.receives = false) {thread : Nat} {status : Int}
    (failed : status ≠ statusOk) : Over process (process.answer { thread, status }) := by
  refine ⟨gone, rfl, rfl, ?_, fun _ same => same⟩
  rw [Process.answer, List.filter_append]
  simp [Answer.succeeded, failed]

/-- Once the loop is left, no deed sends or handles a command. -/
theorem over_step (deed : Deed) (gone : process.phase.receives = false)
    (enabled : process.Enabled crates since deed) :
    Over process (process.step crates config deed) := by
  -- The loop does not turn any more.
  have absent {value : Prop} (receives : process.phase.receives = true) : value := by
    cases gone.symm.trans receives
  cases deed with
  | invoke thread invocation =>
    change Over process (process.invoke crates config thread invocation)
    unfold Process.invoke
    split
    · rename_i status refused
      refine over_answer gone ?_
      rcases Invocation.refusal_prepare refused with rfl | rfl | rfl <;> decide
    · exact ⟨gone, rfl, rfl, rfl, fun _ same => same⟩
    · exact ⟨gone, rfl, rfl, rfl, fun _ same => same⟩
  | proceed thread =>
    change Over process (process.proceed thread)
    unfold Process.proceed
    split
    · exact .refl gone
    · exact ⟨gone, rfl, rfl, rfl, fun _ same => same⟩
    · split
      · exact over_answer gone (by decide)
      · exact ⟨gone, rfl, rfl, rfl, fun _ same => same⟩
    · rw [if_neg (by rw [gone]; decide)]
      exact over_answer gone (by decide)
    · exact .refl gone
  | receive thread cap =>
    change Over process (process.receive thread cap)
    unfold Process.receive
    split
    · split
      · exact ⟨gone, rfl, rfl, rfl, fun _ same => same⟩
      · exact .refl gone
    · exact .refl gone
  | giveUp thread => exact ⟨gone, rfl, rfl, rfl, fun _ same => same⟩
  | poll cap => exact ⟨gone, rfl, rfl, rfl, fun _ same => same⟩
  | drop => exact ⟨gone, rfl, rfl, rfl, fun _ same => same⟩
  | internalQuery => exact absent enabled
  | learn peer address => exact absent enabled
  | listen env event =>
    obtain ⟨⟨pending, phase, -⟩, -⟩ := enabled
    exact absent (by rw [phase]; rfl)
  | ready env =>
    obtain ⟨⟨pending, phase, -⟩, -⟩ := enabled
    exact absent (by rw [phase]; rfl)
  | take env => exact absent (by rw [enabled.1]; rfl)
  | swarm env event => exact absent (by rw [enabled.1]; rfl)
  | tick env => exact absent (by rw [enabled.1]; rfl)
  | panic left => exact absent enabled.1
  | poison =>
    refine ⟨rfl, rfl, rfl, rfl, fun status ended => ?_⟩
    have phase : process.phase = .unwinding := enabled
    cases phase.symm.trans ended
  | close =>
    refine ⟨rfl, rfl, rfl, rfl, fun status ended => ?_⟩
    rcases enabled with phase | phase <;> cases phase.symm.trans ended

/-- So no run does. -/
theorem over_after (gone : process.phase.receives = false) {later : List Deed}
    (run : Runs.Admissible (step crates config) process (Enabled crates since) later) :
    Over process (later.foldl (step crates config) process) :=
  Runs.invariant _ _ (.refl gone)
    (fun _ deed known enabled => known.trans (over_step deed known.gone enabled)) run

end

section

variable {crates : Crates} {config : Config} {localPeer : PeerId} {since : Instant}
variable {listeners : List (ListenerId × Bool)} {deeds earlier later : List Deed}

/-- Once the runtime thread has left its loop, by a shutdown or by a panic, no `send`
succeeds any more and no command is handled. Once it has closed the queue, every
poll that has nothing to hand out answers which of the two it was, for ever. -/
theorem end_is_final (run : Run crates config localPeer since listeners (earlier ++ later))
    (gone : (after crates config localPeer since listeners earlier).phase.receives = false) :
    let ended := after crates config localPeer since listeners earlier
    let process := after crates config localPeer since listeners (earlier ++ later)
    process.phase.receives = false ∧
      process.answers.filter Answer.succeeded = ended.answers.filter Answer.succeeded ∧
      process.sent = ended.sent ∧
      commands process.system.state.log = commands ended.system.state.log ∧
      ∀ status, ended.phase = .ended status →
        (status = errShutDown ∨ status = errPanic) ∧
          ∀ cap, process.system.state.shared.events.due = [] →
            (process.system.state.shared.events.poll cap).2.status = status := by
  have orderly := orderly_after run
  have first := orderly_after ((Runs.admissible_append _ _ _ _ _).mp run).1
  have still : Over (after crates config localPeer since listeners earlier)
      (after crates config localPeer since listeners (earlier ++ later)) := by
    unfold after
    rw [List.foldl_append]
    exact over_after gone ((Runs.admissible_append _ _ _ _ _).mp run).2
  refine ⟨still.gone, still.refused, still.sent, ?_, fun status ended => ⟨first.ends status ended,
    fun cap nothing => ?_⟩⟩
  · rw [orderly.handled, first.handled]
    exact still.taken
  · rw [EventQueue.poll_idle cap nothing, orderly.closed, still.final status ended]
    rfl

end

end Process

/-- A thread is in the middle of a call when the runtime thread panics. -/
def Sample.calledTooLate : List Deed :=
  [.ready Sample.env, .invoke 0 (.dhtBootstrap true), .proceed 0, .proceed 0,
    .panic { events := EventQueue.new 1024, nextId := 2 }, .poison, .close]

/-- Its call fails, and the next one does too. -/
theorem Process.end_is_final_panic :
    let later : List Deed := [.proceed 0, .invoke 1 (.rpcReject 7), .proceed 1]
    let process := Process.after Sample.crates Sample.config Sample.peer 0 []
      (Sample.calledTooLate ++ later)
    process.answers.map Answer.status = [errShutDown, errPanic] ∧ process.sent = [] ∧
      (process.system.state.shared.events.poll 64).2.status = errPanic := by
  have run : Process.Run Sample.crates Sample.config Sample.peer 0 []
      (Sample.calledTooLate ++ [.proceed 0, .invoke 1 (.rpcReject 7), .proceed 1]) := by
    simp only [Process.Run, Sample.calledTooLate, List.cons_append, List.nil_append,
      Runs.admissible_cons, Runs.admissible_nil, and_true]
    exact ⟨⟨⟨[], rfl, .inl rfl⟩, rfl⟩, ⟨rfl, rfl, rfl⟩, rfl, rfl, ⟨rfl, rfl, le_refl 2⟩, rfl,
      .inr rfl, rfl, ⟨rfl, rfl, rfl⟩, rfl⟩
  obtain ⟨-, -, sent, -, final⟩ := Process.end_is_final run rfl
  exact ⟨rfl, sent.trans rfl, (final errPanic rfl).2 64 rfl⟩

end Libp2pFfi
