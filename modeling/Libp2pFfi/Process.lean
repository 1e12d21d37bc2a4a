import Libp2pFfi.Interface
import Libp2pFfi.Lengths

/-!
# Threads, the channel and the runtime thread

Any number of the caller's threads call the functions of the interface at once. A
call looks at the handle, draws an id if it needs one, looks whether the node has
panicked and puts its command on a channel, and other threads may do anything
between these. Most calls are over then. The number of a topic's peers and a routing
sample are waited for: the handler of the command replies, or five seconds pass, or
the runtime thread is gone. The runtime thread first waits for its listeners, then takes
commands, events and ticks in turn, until it takes the command that ends it or
panics; then it closes the queue of events with a status. `Process` is all of
that.
-/

namespace Libp2pFfi

/-- Where a thread stands in a call. -/
inductive Stage where
  /-- It draws an id next. -/
  | drawing (make : Nat → Command)
  /-- It looks next whether the node has panicked. -/
  | asking (id : Option Nat) (command : Command)
  /-- It puts the command on the channel next. -/
  | sending (id : Option Nat) (command : Command)
  /-- It waits for the reply to the command that was sent at this place. -/
  | waiting (place : Nat)

/-- What the handler of a command replies to the thread that sent it. -/
inductive Reply where
  | peers (count : Nat)
  | sample (records : List Record)

/-- The commands whose callers wait for a reply. -/
def Command.awaits : Command → Bool
  | topicPeers _ => true
  | routingSample _ => true
  | _ => false

/-- The reply that a handler sends. -/
def State.replyTo (env : Env) (state : State) : Command → Option Reply
  | .topicPeers key => some (.peers (state.topicPeers env key))
  | .routingSample max => some (.sample (state.routingSample env max).2)
  | _ => none

/-- What `lp2p_topic_peers` and `lp2p_routing_sample` answer with a reply. The second
has `cap` bytes to write the sample to. -/
def Reply.status (cap : Nat) : Reply → Int
  | peers count => (min count (2 ^ 31 - 1) : Nat)
  | sample records => (lp2pRoutingSample cap records).1

/-- What became of a call up to `send`, and the id it wrote. A call that is not waiting
then has answered this status. -/
structure Answer where
  thread : Nat
  status : Int
  id : Option Nat := none

/-- Where the runtime thread stands. -/
inductive Phase where
  /-- It waits for these listeners, some of which are on every interface. -/
  | starting (pending : List (ListenerId × Bool))
  | running
  /-- It has left the loop. -/
  | stopped
  /-- It has panicked. -/
  | unwinding
  /-- The handle is marked. -/
  | poisoned
  /-- The queue is closed. -/
  | ended (status : Int)
deriving DecidableEq

namespace Phase

/-- The channel has a receiver. -/
def receives : Phase → Bool
  | starting _ => true
  | running => true
  | _ => false

/-- The runtime thread has panicked. -/
def panicked : Phase → Bool
  | unwinding => true
  | poisoned => true
  | ended status => status == errPanic
  | _ => false

/-- The flag that `send` looks at. -/
def flagged : Phase → Bool
  | poisoned => true
  | ended status => status == errPanic
  | _ => false

/-- The status the queue was closed with. -/
def status? : Phase → Option Int
  | ended status => some status
  | _ => none

theorem status_of_receives {phase : Phase} (isReceiving : phase.receives = true) :
    phase.status? = none := by
  cases phase with
  | starting => rfl
  | running => rfl
  | _ => cases isReceiving

end Phase

/-- A node with the threads that use it. What was sent, taken and answered is kept
in order, and so is what the calls returned that had to wait. A reply stands with the
place of its command among those that were handled. -/
structure Process where
  system : System
  threads : Nat → Option Stage := fun _ => none
  channel : List Command := []
  phase : Phase
  shut : Bool := false
  sent : List Command := []
  taken : List Command := []
  answers : List Answer := []
  replies : List (Nat × Reply) := []
  returned : List Answer := []

inductive Deed where
  /-- A thread calls a function. -/
  | invoke (thread : Nat) (invocation : Invocation)
  /-- A thread goes on with its call. -/
  | proceed (thread : Nat)
  /-- The reply reaches the thread that waits for it, which has `cap` bytes for it. -/
  | receive (thread cap : Nat)
  /-- A thread has waited for five seconds, or nobody is left to reply. -/
  | giveUp (thread : Nat)
  | poll (cap : Nat)
  /-- The handle is dropped. -/
  | drop
  | internalQuery
  | learn (peer : PeerId) (address : Multiaddr)
  /-- An event while the node waits for its listeners. -/
  | listen (env : Env) (event : SwarmEvent)
  | ready (env : Env)
  /-- The event loop takes a command. -/
  | take (env : Env)
  | swarm (env : Env) (event : SwarmEvent)
  | tick (env : Env)
  /-- The runtime thread panics, in the middle of a handler that leaves this
  behind. -/
  | panic (left : Shared)
  | poison
  | close

/-- The listeners `await_listeners` still waits for after an event. -/
def stillPending (pending : List (ListenerId × Bool)) : SwarmEvent → List (ListenerId × Bool)
  | .newListenAddr listener address =>
    pending.filter fun (id, wildcard) => !(id == listener && (!wildcard || !isLoopback address))
  | .listenerClosed listener => pending.filter fun (id, _) => id != listener
  | .listenerError listener => pending.filter fun (id, _) => id != listener
  | _ => pending

/-- `LISTEN_READY_TIMEOUT`. -/
def listenReadyTimeout : Duration := Duration.fromSecs 2

/-- The node with other counters and another queue. -/
def System.sharing (system : System) (shared : Shared) : System :=
  { system with state := { system.state with shared } }

namespace Process

variable (crates : Crates) (config : Config)

/-- A call is over, or has sent its command. -/
def answer (process : Process) (answer : Answer) : Process :=
  { process with
    threads := Function.update process.threads answer.thread none
    answers := process.answers ++ [answer] }

/-- A call goes on. -/
def goOn (process : Process) (thread : Nat) (stage : Stage) : Process :=
  { process with threads := Function.update process.threads thread (some stage) }

def invoke (process : Process) (thread : Nat) (invocation : Invocation) : Process :=
  match invocation.prepare crates (Handle.new config)
      process.system.state.shared.topicsSubscribed with
  | .error status => process.answer { thread, status }
  | .ok (.plain command) => process.goOn thread (.asking none command)
  | .ok (.numbered make) => process.goOn thread (.drawing make)

/-- `send`, and the id that is drawn before it. -/
def proceed (process : Process) (thread : Nat) : Process :=
  match process.threads thread with
  | none => process
  | some (.drawing make) =>
    let id := process.system.state.shared.nextId
    { process.goOn thread (.asking (some id) (make id)) with system := process.system.step .draw }
  | some (.asking id command) =>
    if process.phase.flagged then process.answer { thread, status := errPanic }
    else process.goOn thread (.sending id command)
  | some (.sending id command) =>
    if process.phase.receives then
      let sent :=
        { process.answer { thread, status := statusOk, id } with
          channel := process.channel ++ [command]
          sent := process.sent ++ [command] }
      if command.awaits then sent.goOn thread (.waiting process.sent.length) else sent
    else process.answer { thread, status := errShutDown }
  | some (.waiting _) => process

/-- A call that had to wait is over. -/
def comeBack (process : Process) (thread : Nat) (status : Int) : Process :=
  { process with
    threads := Function.update process.threads thread none
    returned := process.returned ++ [{ thread, status }] }

def receive (process : Process) (thread cap : Nat) : Process :=
  match process.threads thread with
  | some (.waiting place) =>
    match process.replies.lookup place with
    | some reply => process.comeBack thread (reply.status cap)
    | none => process
  | _ => process

/-- One turn of the loop, for a command. -/
def take (process : Process) (env : Env) : Process :=
  match process.channel with
  | [] => process
  | .shutdown :: rest => { process with channel := rest, phase := .stopped }
  | command :: rest =>
    { process with
      channel := rest
      taken := process.taken ++ [command]
      replies := process.replies ++
        (process.system.state.replyTo env command).toList.map (Prod.mk process.taken.length)
      system := process.system.step (.handle env (.command command)) }

/-- Close the queue. -/
def close (process : Process) (status : Int) : Process :=
  { process with
    phase := .ended status
    system := process.system.sharing
      { process.system.state.shared with
        events := process.system.state.shared.events.close status } }

def step (process : Process) : Deed → Process
  | .invoke thread invocation => process.invoke crates config thread invocation
  | .proceed thread => process.proceed thread
  | .receive thread cap => process.receive thread cap
  | .giveUp thread => process.comeBack thread errShutDown
  | .poll cap => { process with system := process.system.step (.poll cap) }
  | .drop =>
    { process with
      shut := true
      channel :=
        if process.phase.receives then process.channel ++ [.shutdown] else process.channel }
  | .internalQuery => { process with system := process.system.step .internalQuery }
  | .learn peer address => { process with system := process.system.step (.learn peer address) }
  | .listen env event =>
    match process.phase with
    | .starting pending =>
      { process with
        phase := .starting (stillPending pending event)
        system := process.system.step (.handle env (.swarm event)) }
    | _ => process
  | .ready env =>
    { process with phase := .running, system := process.system.step (.ready env) }
  | .take env => process.take env
  | .swarm env event =>
    { process with system := process.system.step (.handle env (.swarm event)) }
  | .tick env => { process with system := process.system.step (.handle env .tick) }
  | .panic left =>
    { process with phase := .unwinding, channel := [], system := process.system.sharing left }
  | .poison => { process with phase := .poisoned }
  | .close => process.close (if process.phase = .stopped then errShutDown else errPanic)

/-- Whether a deed can happen. Only the threads of a caller that has the handle call
functions, and none is in a call or begins one when the handle is dropped. -/
def Enabled (since : Instant) (process : Process) : Deed → Prop
  | .invoke thread _ =>
    process.system.started = true ∧ process.shut = false ∧ process.threads thread = none
  | .proceed thread => (process.threads thread).isSome
  | .receive thread _ => ∃ place reply, process.threads thread = some (.waiting place) ∧
      process.replies.lookup place = some reply
  | .giveUp thread => ∃ place, process.threads thread = some (.waiting place)
  | .poll _ => process.system.started = true
  | .drop =>
    process.system.started = true ∧ process.shut = false ∧
      ∀ thread, process.threads thread = none
  | .internalQuery => process.phase.receives = true
  | .learn _ _ => process.phase.receives = true
  | .listen env event =>
    (∃ pending, process.phase = .starting pending ∧ pending ≠ []) ∧
      System.Enabled crates process.system (.handle env (.swarm event))
  | .ready env =>
    (∃ pending, process.phase = .starting pending ∧
      (pending = [] ∨ since + listenReadyTimeout ≤ env.now)) ∧ env.crates = crates
  | .take env => process.phase = .running ∧ process.channel ≠ [] ∧ env.crates = crates
  | .swarm env event =>
    process.phase = .running ∧ System.Enabled crates process.system (.handle env (.swarm event))
  | .tick env => process.phase = .running ∧ env.crates = crates
  | .panic left =>
    process.phase.receives = true ∧ left.events.inner.closed = none ∧
      process.system.state.shared.nextId ≤ left.nextId
  | .poison => process.phase = .unwinding
  | .close => process.phase = .stopped ∨ process.phase = .poisoned

variable (localPeer : PeerId) (since : Instant) (listeners : List (ListenerId × Bool))

def start : Process where
  system := System.start config localPeer since
  phase := .starting listeners

def after (deeds : List Deed) : Process :=
  deeds.foldl (step crates config) (start config localPeer since listeners)

def Run (deeds : List Deed) : Prop :=
  Runs.Admissible (step crates config) (start config localPeer since listeners)
    (Enabled crates since) deeds

end Process

end Libp2pFfi
