import Libp2pFfi.Advance
import Libp2pFfi.Runs

/-!
# Runs of the node

The runtime thread takes one command, one swarm event or one tick at a time and
runs its handler to the end. Meanwhile the caller's threads draw ids and poll
events, and libp2p starts queries of its own and learns addresses. A run is any
sequence of these, as far as libp2p's promises allow: it reports on requests and
queries that have not ended, it ends each once, and ids are not used twice.

The commands reach the thread through a channel. An id is drawn first and sent
with its command later, from any thread, so commands may arrive in an order
different from that of their ids; what is left of the channel here is that a
command's id was drawn and no earlier command has used it.
-/

namespace Libp2pFfi

/-- The node with what its callers hold: the ids drawn for commands that have not
been applied, and whether the node has started. -/
structure System where
  state : State
  drawn : Finset Nat := ∅
  started : Bool := false

inductive Action where
  /-- A thread of the caller draws an id. -/
  | draw
  /-- A thread of the caller polls with a buffer of this size. -/
  | poll (cap : Nat)
  /-- libp2p starts a query of its own. -/
  | internalQuery
  /-- libp2p tells the address book of an address. -/
  | learn (peer : PeerId) (address : Multiaddr)
  /-- The listeners are ready and the event loop begins. -/
  | ready (env : Env)
  | handle (env : Env) (input : Input)

/-- The ids of the caller's that a command carries. -/
def Command.ids : Command → List Nat
  | .rpc id _ _ _ _ _ => [id]
  | .bootstrap id => [id]
  | .randomWalk id => [id]
  | .findProviders id _ => [id]
  | _ => []

def Input.ids : Input → List Nat
  | command sent => sent.ids
  | _ => []

namespace State

/-- libp2p forgets what ends with the event it hands over. -/
def deliver (state : State) : Input → State
  | .swarm (.kad (.progressed query _ true)) =>
    { state with swarm := { state.swarm with queries := state.swarm.queries.erase query } }
  | .swarm (.rpc (.response _ request _)) =>
    { state with swarm := { state.swarm with requests := state.swarm.requests.erase request } }
  | .swarm (.rpc (.outboundFailure _ request _)) =>
    { state with swarm := { state.swarm with requests := state.swarm.requests.erase request } }
  | .swarm (.rpc (.request _ _ request _ _)) =>
    { state with
      swarm := { state.swarm with inboundSeen := insert request state.swarm.inboundSeen } }
  | _ => state

end State

/-- The results a query reports by the purpose it runs for. The closest peers are
reported once. -/
def QueryResult.Fits (last : Bool) : QueryResult → Purpose → Prop
  | getProviders _, .topic _ => True
  | getProviders _, .find _ => True
  | getProviders _, .lookup _ => True
  | getClosestPeers _, .resolve _ _ => last = true
  | getClosestPeers _, .walk _ => last = true
  | bootstrap _, .bootstrap _ => True
  | bootstrap _, .internal => True
  | other, .provide => True
  | other, .internal => True
  | _, _ => False

/-- What libp2p may report. -/
def SwarmEvent.Offered (state : State) : SwarmEvent → Prop
  | kad (.progressed query result last) =>
    ∃ purpose, state.swarm.queries.lookup query = some purpose ∧ result.Fits last purpose
  | rpc (.response peer request _) =>
    ∃ call, state.swarm.requests.lookup request = some (peer, call)
  | rpc (.outboundFailure peer request _) =>
    ∃ call, state.swarm.requests.lookup request = some (peer, call)
  | rpc (.request _ _ request _ channel) =>
    request ∉ state.swarm.inboundSeen ∧ channel.request = request
  | _ => True

/-- What the interface lets through to the event loop: a call names a registered
protocol, and a shutdown ends the loop. -/
def Command.Accepted (state : State) : Command → Prop
  | rpc _ _ _ protocol _ _ => protocol < state.rpcProtocols.length
  | shutdown => False
  | _ => True

namespace System

def start (config : Config) (localPeer : PeerId) (now : Instant) : System where
  state := State.new config localPeer now

def step (system : System) : Action → System
  | .draw =>
    { system with
      state :=
        { system.state with
          shared := { system.state.shared with nextId := system.state.shared.nextId + 1 } }
      drawn := insert system.state.shared.nextId system.drawn }
  | .poll cap =>
    { system with
      state :=
        { system.state with
          shared :=
            { system.state.shared with events := (system.state.shared.events.poll cap).1 } } }
  | .internalQuery => { system with state := system.state.beginQuery .internal }
  | .learn peer address => { system with state := system.state.addAddresses peer [address] }
  | .ready env => { system with state := system.state.ready env, started := true }
  | .handle env input =>
    { system with
      state := (system.state.deliver input).handle env input
      drawn := system.drawn.filter fun id => id ∉ input.ids }

/-- Whether an action can happen. The functions of other crates are the same
throughout a run. -/
def Enabled (crates : Crates) (system : System) : Action → Prop
  | .draw => True
  | .poll _ => True
  | .internalQuery => True
  | .learn _ _ => True
  | .ready env => env.crates = crates ∧ system.started = false
  | .handle env (.command command) =>
    env.crates = crates ∧ system.started = true ∧ (∀ id ∈ command.ids, id ∈ system.drawn) ∧
      command.Accepted system.state
  | .handle env .tick => env.crates = crates ∧ system.started = true
  | .handle env (.swarm event) => env.crates = crates ∧ event.Offered system.state

/-- The node after some actions. -/
def after (config : Config) (localPeer : PeerId) (now : Instant) (actions : List Action) : System :=
  actions.foldl step (start config localPeer now)

theorem after_append_singleton (config : Config) (localPeer : PeerId) (now : Instant)
    (actions : List Action) (action : Action) :
    after config localPeer now (actions ++ [action]) =
      (after config localPeer now actions).step action := by
  rw [after, List.foldl_append]
  rfl

/-- A sequence of actions that can happen. -/
def Run (crates : Crates) (config : Config) (localPeer : PeerId) (now : Instant)
    (actions : List Action) : Prop :=
  Runs.Admissible step (start config localPeer now) (Enabled crates) actions

/-- What holds at the start and is kept by every action that can happen holds
after every run. -/
theorem Run.invariant {crates : Crates} {config : Config} {localPeer : PeerId} {now : Instant}
    {actions : List Action} {Holds : System → Prop} (run : Run crates config localPeer now actions)
    (initially : Holds (start config localPeer now))
    (kept : ∀ system action, Holds system → Enabled crates system action → Holds (system.step action)) :
    Holds (after config localPeer now actions) :=
  Runs.invariant step _ initially kept run

/-- The part of a run up to any point is a run. -/
theorem Run.take {crates : Crates} {config : Config} {localPeer : PeerId} {now : Instant}
    {actions before : List Action} (run : Run crates config localPeer now actions)
    (earlier : before <+: actions) : Run crates config localPeer now before :=
  Runs.Admissible.take step _ run earlier

end System

/-! A node of one group, with keys that belong to each other, for examples. The
functions of other crates are given their values on these keys. -/

namespace Sample

/-- The public key of the seed of 32 sevens. -/
def node : Key :=
  ⟨[234, 74, 108, 99, 226, 156, 82, 10, 190, 245, 80, 123, 19, 46, 197, 249, 149, 71, 118, 174, 190,
    190, 123, 146, 66, 30, 234, 105, 20, 70, 210, 44], rfl⟩

/-- The public key of the seed of 32 nines. -/
def group : Key :=
  ⟨[253, 23, 36, 56, 90, 160, 199, 91, 100, 251, 120, 205, 96, 47, 161, 217, 145, 253, 235, 247,
    107, 19, 197, 142, 215, 2, 234, 200, 53, 233, 246, 24], rfl⟩

/-- The SHA-256 of the group's key. -/
def groupDigest : Key :=
  ⟨[219, 194, 152, 37, 28, 81, 50, 27, 114, 102, 231, 141, 28, 21, 28, 43, 98, 175, 248, 203, 149,
    178, 147, 9, 109, 52, 99, 1, 133, 68, 250, 206], rfl⟩

/-- A topic the caller chose. -/
def topic : Key := Key.filled 1

/-- The SHA-256 of the topic's key. -/
def topicDigest : Key :=
  ⟨[114, 205, 110, 132, 34, 196, 7, 251, 109, 9, 134, 144, 241, 19, 11, 125, 237, 126, 194, 247,
    245, 225, 211, 11, 217, 213, 33, 240, 21, 54, 55, 147], rfl⟩

/-- The group's delegation to the node, without an expiry. -/
def delegation : Delegation where
  node
  group
  expiresMs := 0
  signature :=
    ⟨[128, 171, 153, 0, 176, 10, 228, 193, 6, 172, 179, 36, 118, 44, 102, 156, 250, 234, 127, 69, 38,
      98, 179, 162, 41, 30, 49, 15, 156, 41, 93, 183, 14, 244, 202, 156, 51, 235, 219, 245, 21, 145,
      176, 167, 7, 76, 243, 67, 35, 227, 57, 69, 11, 97, 96, 175, 167, 185, 183, 222, 109, 55, 12,
      8], rfl⟩

/-- The public key of the seed of 32 threes. -/
def remote : Key :=
  ⟨[237, 73, 40, 198, 40, 209, 194, 198, 234, 233, 3, 56, 144, 89, 149, 97, 41, 89, 39, 58, 92, 99,
    249, 54, 54, 193, 70, 20, 172, 135, 55, 209], rfl⟩

/-- The group's delegation to the remote node. -/
def remoteDelegation : Delegation where
  node := remote
  group
  expiresMs := 0
  signature :=
    ⟨[166, 217, 48, 116, 41, 176, 57, 159, 83, 57, 78, 188, 88, 216, 85, 28, 59, 151, 127, 41, 198,
      168, 149, 129, 101, 2, 198, 56, 30, 88, 109, 165, 62, 14, 104, 69, 43, 23, 245, 216, 145, 126,
      62, 203, 27, 116, 47, 45, 217, 61, 152, 58, 207, 92, 37, 68, 68, 33, 17, 188, 159, 211, 118,
      1], rfl⟩

/-- The protobuf encoding of an ed25519 key. -/
def encoded (key : Key) : Bytes := [8, 1, 18, 32] ++ key.toList

def crates : Crates where
  isPublicKey key := key = node ∨ key = remote ∨ key = group
  verify key message signature :=
    key = group ∧
      (message = Delegation.message node group 0 ∧ signature = delegation.signature ∨
        message = Delegation.message remote group 0 ∧ signature = remoteDelegation.signature)
  publicFromSeed seed :=
    if seed = Key.filled 7 then some node
    else if seed = Key.filled 3 then some remote
    else if seed = Key.filled 9 then some group
    else none
  sign _ message :=
    if message = Delegation.message remote group 0 then remoteDelegation.signature
    else delegation.signature
  decodeEd25519 digest :=
    if digest = encoded node then some node
    else if digest = encoded remote then some remote
    else none
  toPeerId key := ⟨0, encoded key⟩
  -- Injective, as no two keys with the same digest are known.
  sha256 key :=
    if key = group then groupDigest
    else if key = groupDigest then group
    else if key = topic then topicDigest
    else if key = topicDigest then topic
    else key
  display _ := []
  parse _ := none
  streamProtocol name := if name.startsWith "/" then some name else none

/-- The peer id of the node. -/
def peer : PeerId := ⟨0, encoded node⟩

/-- The peer id of the remote node. -/
def remotePeer : PeerId := ⟨0, encoded remote⟩

def config : Config where
  nodeSeed := Key.filled 7
  delegation
  listen := []
  dhtProtocol := "/lp2p/kad/1"
  rpcProtocols := ["/echo/1"]
  rpcMaxRequestBytes := 1024
  rpcMaxResponseBytes := 1024
  rpcTimeout := Duration.fromSecs 10
  quic := true
  dcutr := true
  autonat := true
  reachability := .publicNode
  relay :=
    { server := true
      client := true
      maxReservations := 128
      maxReservationsPerPeer := 4
      reservationDuration := Duration.fromSecs 3600
      maxCircuits := 16
      maxCircuitsPerPeer := 4
      maxCircuitDuration := Duration.fromSecs 120
      maxCircuitBytes := 131072
      circuitsPerPeer := none
      circuitsPerIp := none }
  maxConnections := none
  maxConnectionsPerPeer := none
  maxPendingIncoming := none
  announce := none
  eventQueueBytes := 1048576
  topicMaxMessageBytes := 65536
  topicMaxSubscriptions := 256

/-- Nobody is connected, and libp2p refuses nothing. -/
def env : Env where
  crates
  now := 0
  nowMs := 1
  isConnected _ := false
  connectedPeers := []
  startsProviding _ := true
  bootstraps := true
  randomPeer := peer
  subscribes _ := true
  publishes _ _ := .ok
  meshPeers _ := 0
  dials _ := true
  listens _ := true
  routingTable := []
  numPeers := 0
  order items := items
  order_perm items := List.Perm.refl items

/-- The remote node is connected. -/
def connectedEnv : Env := { env with isConnected := fun peer => peer = remotePeer }

/-- A call to the group, by its key. -/
def call : Input := .command (.rpc 1 group none 0 [] (Duration.fromSecs 10))

/-- A step of the group's lookup, which is the second query after that of the
provider record. -/
def lookupStep (result : GetProvidersResult) (last : Bool) : Input :=
  .swarm (.kad (.progressed 1 (.getProviders result) last))

end Sample

end Libp2pFfi
