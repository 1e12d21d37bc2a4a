import Libp2pFfi.Interleavings
import Libp2pFfi.Provenance

/-!
# Several nodes on one network

Nodes that run this program exchange frames over libp2p, in any order, next to
peers of which nothing is known. libp2p authenticates a peer by the key in its
peer id and gossipsub by a signature over the message: what arrives in the name
of a node's key was said by that node. Beyond that the network may lose anything,
deliver it late, and deliver a gossip message any number of times; a peer that is
not one of the nodes may say anything at any time.

Each node's part in a run of the network is a run of the node, whatever the
others do meanwhile. `Consistent` says how the logs of the nodes fit together:
what one has heard in the name of another stands in the other's log as said.
-/

namespace Libp2pFfi

/-- Nodes that take part, each with its configuration and a key of its own. -/
structure Roster (ν : Type) where
  crates : Crates
  options : ν → Options
  config : ν → Config
  accepted : ∀ node, configFrom crates (options node) = some (config node)
  peer : ν → PeerId
  since : ν → Instant
  key : ν → Key
  keyed : ∀ node, keyOf crates (peer node) = some (key node)
  distinct : Function.Injective key

/-- A stream on which a request of a node has reached another. -/
structure Stream (ν : Type) where
  caller : ν
  call : Nat
  request : OutboundRequestId
  callee : ν
  inbound : InboundRequestId
  frame : Bytes

structure Network (ν : Type) where
  nodes : ν → System
  streams : List (Stream ν)

inductive Move (ν : Type) where
  /-- Something a node does that brings it nothing from another node. -/
  | act (node : ν) (action : Action)
  /-- A request reaches the node it was sent to. -/
  | request (env : Env) (connection : ConnectionId) (stream : Stream ν)
  /-- A response comes back on the stream of its request. -/
  | response (env : Env) (stream : Stream ν) (frame : Bytes)
  /-- A publication reaches a node, through any peer. -/
  | gossip (env : Env) (publisher receiver : ν) (through : PeerId) (id : MessageId)
      (message : GossipMessage)

/-- In whose name an input comes. -/
def Input.speaker? : Input → Option PeerId
  | swarm (.rpc (.request peer _ _ _ _)) => some peer
  | swarm (.rpc (.response peer _ _)) => some peer
  | swarm (.gossipsub (.message _ _ message)) => message.source
  | _ => none

namespace Move

variable {ν : Type}

/-- The node that a move is an action of. -/
def node : Move ν → ν
  | act node _ => node
  | request _ _ stream => stream.callee
  | response _ stream _ => stream.caller
  | gossip _ _ receiver _ _ _ => receiver

def action (roster : Roster ν) : Move ν → Action
  | act _ action => action
  | request env connection stream =>
    .handle env (.swarm (.rpc (.request (roster.peer stream.caller) connection stream.inbound
      stream.frame ⟨stream.inbound⟩)))
  | response env stream frame =>
    .handle env (.swarm (.rpc (.response (roster.peer stream.callee) stream.request frame)))
  | gossip env _ _ through id message =>
    .handle env (.swarm (.gossipsub (.message through id message)))

/-- The stream that a move opens. -/
def opens : Move ν → List (Stream ν)
  | request _ _ stream => [stream]
  | _ => []

end Move

namespace Network

variable {ν : Type}

/-- What a node has heard and done. -/
def log (network : Network ν) (node : ν) : List Entry := (network.nodes node).state.log

/-- What a move brings was said before: by nobody on the roster, or by the node in
whose name it comes. -/
def Brings (roster : Roster ν) (network : Network ν) : Move ν → Prop
  | .act _ (.handle _ input) => ∀ speaker, input.speaker? = some speaker →
    ∀ node, keyOf roster.crates speaker ≠ some (roster.key node)
  | .act _ _ => True
  | .request _ _ stream =>
    .did (.sendRequest stream.call stream.request (roster.peer stream.callee) stream.frame) ∈
        network.log stream.caller ∧
      ∀ other ∈ network.streams, other.caller = stream.caller → other.request ≠ stream.request
  | .response _ stream frame => stream ∈ network.streams ∧
    .did (.sendResponse ⟨stream.inbound⟩ frame) ∈ network.log stream.callee
  | .gossip _ publisher _ _ _ message => message.source = some (roster.peer publisher) ∧
    ∃ result, .did (.publish message.topic message.data result) ∈ network.log publisher

def Enabled (roster : Roster ν) (network : Network ν) (move : Move ν) : Prop :=
  System.Enabled roster.crates (network.nodes move.node) (move.action roster) ∧
    network.Brings roster move

variable [DecidableEq ν]

def step (roster : Roster ν) (network : Network ν) (move : Move ν) : Network ν where
  nodes := Function.update network.nodes move.node
    ((network.nodes move.node).step (move.action roster))
  streams := network.streams ++ move.opens

def start (roster : Roster ν) : Network ν where
  nodes node := System.start (roster.config node) (roster.peer node) (roster.since node)
  streams := []

def after (roster : Roster ν) (moves : List (Move ν)) : Network ν :=
  moves.foldl (step roster) (start roster)

def Run (roster : Roster ν) (moves : List (Move ν)) : Prop :=
  Runs.Admissible (step roster) (start roster) (Enabled roster) moves

/-! Each node's part in a run is a run of the node. -/

theorem nodes_step (roster : Roster ν) (network : Network ν) (move : Move ν) (node : ν) :
    (network.step roster move).nodes node = if move.node = node then
      (network.nodes node).step (move.action roster) else network.nodes node := by
  by_cases own : move.node = node
  · subst own
    simp [step]
  · simp [step, own, Function.update_of_ne (Ne.symm own)]

theorem isLocal (roster : Roster ν) :
    Interleavings.Local (step roster) System.step (fun node network => network.nodes node)
      Move.node (Move.action roster) :=
  nodes_step roster

/-- What a node does in a run of the network. -/
def part (roster : Roster ν) (moves : List (Move ν)) (node : ν) : List Action :=
  Interleavings.own Move.node (Move.action roster) node moves

theorem nodes_after (roster : Roster ν) (moves : List (Move ν)) (node : ν) :
    (after roster moves).nodes node = System.after (roster.config node) (roster.peer node)
      (roster.since node) (part roster moves node) :=
  Interleavings.view_run (isLocal roster) (start roster) moves node

theorem Run.part {roster : Roster ν} {moves : List (Move ν)} (run : Run roster moves) (node : ν) :
    System.Run roster.crates (roster.config node) (roster.peer node) (roster.since node)
      (part roster moves node) :=
  Interleavings.admissible_own (isLocal roster) (fun _ => System.Enabled roster.crates)
    (fun _ _ enabled => enabled.1) run node

/-- The settings of a node. -/
def settings (roster : Roster ν) (node : ν) : Settings :=
  (System.start (roster.config node) (roster.peer node) (roster.since node)).state.settings

theorem vetted {roster : Roster ν} {moves : List (Move ν)} (run : Run roster moves) (node : ν) :
    Vetted roster.crates (roster.peer node) (settings roster node)
      ((after roster moves).nodes node) := by
  rw [nodes_after]
  exact (run.part node).invariant
    (vetted_start roster.crates (roster.config node) (roster.peer node) (roster.since node))
    fun system action isVetted enabled => vetted_step action isVetted enabled

/-! What was said. -/

/-- A log grows, and the one input it may gain is the one that is handled. -/
theorem log_step (system : System) (action : Action) :
    ∃ extra, (system.step action).state.log = system.state.log ++ extra ∧
      ∀ nowMs input, .heard nowMs input ∈ extra → ∃ env, action = .handle env input := by
  cases action with
  | handle env input =>
    obtain ⟨extra, grown, effects⟩ := (State.confined_handle env (system.state.deliver input)
      input).adds
    rw [(State.noted_heard system.state env.nowMs input).log, List.append_assoc] at grown
    refine ⟨_, grown, fun nowMs other member => ?_⟩
    rcases List.mem_cons.mp member with own | late
    · obtain ⟨-, rfl⟩ := Entry.heard.inj own
      exact ⟨env, rfl⟩
    · exact (effects _ late).elim
  | ready env =>
    obtain ⟨extra, grown, effects⟩ := (State.confined_ready env system.state).adds
    exact ⟨extra, grown, fun nowMs input member => (effects _ member).elim⟩
  | _ => exact ⟨[], (List.append_nil _).symm, by simp⟩

/-- An input that is handled is in the log. -/
theorem mem_log_handle (system : System) (env : Env) (input : Input) :
    .heard env.nowMs input ∈ (system.step (.handle env input)).state.log := by
  obtain ⟨extra, grown, -⟩ := (State.confined_handle env (system.state.deliver input) input).adds
  have noted := system.state.mem_noted env.nowMs input
  exact grown ▸ List.mem_append_left _ noted

/-- What a node heard in the name of another was said by it. -/
def Said (network : Network ν) (listener speaker : ν) : Input → Prop
  | .swarm (.rpc (.request _ _ request frame _)) => ∃ stream ∈ network.streams,
    stream.caller = speaker ∧ stream.callee = listener ∧ stream.inbound = request ∧
      stream.frame = frame
  | .swarm (.rpc (.response _ request frame)) => ∃ stream ∈ network.streams,
    stream.caller = listener ∧ stream.callee = speaker ∧ stream.request = request ∧
      .did (.sendResponse ⟨stream.inbound⟩ frame) ∈ network.log speaker
  | .swarm (.gossipsub (.message _ _ message)) =>
    ∃ result, .did (.publish message.topic message.data result) ∈ network.log speaker
  | _ => True

/-- Streams and logs agree. -/
structure Consistent (roster : Roster ν) (network : Network ν) : Prop where
  sent : ∀ stream ∈ network.streams,
    .did (.sendRequest stream.call stream.request (roster.peer stream.callee) stream.frame) ∈
      network.log stream.caller
  arrived : ∀ stream ∈ network.streams, ∃ nowMs connection,
    .heard nowMs (.swarm (.rpc (.request (roster.peer stream.caller) connection stream.inbound
      stream.frame ⟨stream.inbound⟩))) ∈ network.log stream.callee
  single : ∀ first ∈ network.streams, ∀ second ∈ network.streams,
    first.caller = second.caller → first.request = second.request → first = second
  apart : ∀ first ∈ network.streams, ∀ second ∈ network.streams,
    first.callee = second.callee → first.inbound = second.inbound → first = second
  said : ∀ listener nowMs input, .heard nowMs input ∈ network.log listener →
    ∀ name speaker, input.speaker? = some name →
      keyOf roster.crates name = some (roster.key speaker) → network.Said listener speaker input

theorem log_grows (roster : Roster ν) (network : Network ν) (move : Move ν) (node : ν) :
    network.log node <+: (network.step roster move).log node := by
  rw [log, log, nodes_step]
  split
  · obtain ⟨extra, grown, -⟩ := log_step (network.nodes node) (move.action roster)
    exact ⟨extra, grown.symm⟩
  · exact List.prefix_refl _

theorem Said.grows {network : Network ν} {listener speaker : ν} {input : Input}
    (said : network.Said listener speaker input) (roster : Roster ν) (move : Move ν) :
    (network.step roster move).Said listener speaker input := by
  have kept := log_grows roster network move
  have streams : ∀ stream ∈ network.streams, stream ∈ (network.step roster move).streams :=
    fun stream member => List.mem_append_left _ member
  unfold Said at said ⊢
  split
  · obtain ⟨stream, member, rest⟩ := said
    exact ⟨stream, streams stream member, rest⟩
  · obtain ⟨stream, member, caller, callee, request, answered⟩ := said
    exact ⟨stream, streams stream member, caller, callee, request, (kept speaker).subset answered⟩
  · obtain ⟨result, published⟩ := said
    exact ⟨result, (kept speaker).subset published⟩
  · trivial

/-- The lines a move adds that note an input note the one it brings. -/
theorem heard_step (roster : Roster ν) (network : Network ν) (move : Move ν) {node : ν}
    {nowMs : UInt64} {input : Input}
    (member : .heard nowMs input ∈ (network.step roster move).log node) :
    .heard nowMs input ∈ network.log node ∨
      move.node = node ∧ ∃ env, move.action roster = .handle env input := by
  rw [log, nodes_step] at member
  split at member
  · rename_i own
    obtain ⟨extra, grown, only⟩ := log_step (network.nodes node) (move.action roster)
    rw [grown] at member
    rcases List.mem_append.mp member with old | isNew
    · exact .inl old
    · exact .inr ⟨own, only nowMs input isNew⟩
  · exact .inl member

/-- What a move brings in the name of a node was said by it. -/
theorem said_of_brings {roster : Roster ν} {network : Network ν} {move : Move ν}
    (brings : network.Brings roster move) {env : Env} {input : Input}
    (isAction : move.action roster = .handle env input) {name : PeerId} {speaker : ν}
    (speaks : input.speaker? = some name)
    (inName : keyOf roster.crates name = some (roster.key speaker)) :
    (network.step roster move).Said move.node speaker input := by
  have same {node : ν} (ofNode : name = roster.peer node) : node = speaker := by
    rw [ofNode, roster.keyed] at inName
    exact roster.distinct (Option.some.inj inName)
  have kept := log_grows roster network move
  cases move with
  | act node action =>
    obtain rfl : action = .handle env input := isAction
    exact absurd inName (brings name speaks speaker)
  | request other connection stream =>
    obtain ⟨rfl, rfl⟩ := Action.handle.inj isAction
    obtain rfl := same (Option.some.inj speaks).symm
    exact ⟨stream, List.mem_append_right _ List.mem_cons_self, rfl, rfl, rfl, rfl⟩
  | response other stream frame =>
    obtain ⟨rfl, rfl⟩ := Action.handle.inj isAction
    obtain rfl := same (Option.some.inj speaks).symm
    exact ⟨stream, List.mem_append_left _ brings.1, rfl, rfl, rfl, (kept _).subset brings.2⟩
  | gossip other publisher receiver through id message =>
    obtain ⟨rfl, rfl⟩ := Action.handle.inj isAction
    obtain ⟨source, result, published⟩ := brings
    obtain rfl := same (Option.some.inj (source.symm.trans speaks)).symm
    exact ⟨result, (kept _).subset published⟩

omit [DecidableEq ν] in
/-- A request that arrived was handed over. -/
theorem Consistent.handed {roster : Roster ν} {network : Network ν}
    (consistent : Consistent roster network)
    (vetted : ∀ node, Vetted roster.crates (roster.peer node) (settings roster node)
      (network.nodes node))
    {stream : Stream ν} (member : stream ∈ network.streams) :
    stream.inbound ∈ (network.nodes stream.callee).state.swarm.inboundSeen := by
  obtain ⟨nowMs, connection, heard⟩ := consistent.arrived stream member
  exact (vetted stream.callee).evident.seen _ (List.mem_filterMap.mpr ⟨_, heard, rfl⟩)

theorem consistent_step {roster : Roster ν} {network : Network ν} {move : Move ν}
    (consistent : Consistent roster network)
    (vetted : ∀ node, Vetted roster.crates (roster.peer node) (settings roster node)
      (network.nodes node))
    (enabled : network.Enabled roster move) : Consistent roster (network.step roster move) := by
  obtain ⟨happens, brings⟩ := enabled
  have kept := log_grows roster network move
  have opened {stream : Stream ν} (member : stream ∈ (network.step roster move).streams) :
      stream ∈ network.streams ∨ ∃ env connection, move = .request env connection stream := by
    rcases List.mem_append.mp member with old | isNew
    · exact .inl old
    · cases move with
      | request env connection other =>
        rw [List.mem_singleton.mp isNew]
        exact .inr ⟨env, connection, rfl⟩
      | _ => cases isNew
  refine ⟨fun stream member => ?_, fun stream member => ?_, ?_, ?_, ?_⟩
  · rcases opened member with old | ⟨env, connection, rfl⟩
    · exact (kept _).subset (consistent.sent stream old)
    · exact (kept _).subset brings.1
  · rcases opened member with old | ⟨env, connection, rfl⟩
    · obtain ⟨nowMs, connection, heard⟩ := consistent.arrived stream old
      exact ⟨nowMs, connection, (kept _).subset heard⟩
    · refine ⟨env.nowMs, connection, ?_⟩
      have handled : (network.step roster (.request env connection stream)).nodes stream.callee =
          (network.nodes stream.callee).step (Move.action roster (.request env connection stream)) :=
        (nodes_step roster network _ _).trans (if_pos rfl)
      rw [log, handled]
      exact mem_log_handle _ env _
  · intro first isFirst second isSecond sameCaller sameRequest
    rcases opened isFirst with old | ⟨env, connection, rfl⟩
    · rcases opened isSecond with oldToo | ⟨env, connection, rfl⟩
      · exact consistent.single first old second oldToo sameCaller sameRequest
      · exact absurd sameRequest (brings.2 first old sameCaller)
    · rcases opened isSecond with oldToo | ⟨otherEnv, otherConnection, same⟩
      · exact absurd sameRequest.symm (brings.2 second oldToo sameCaller.symm)
      · exact (Move.request.inj same).2.2
  · intro first isFirst second isSecond sameCallee sameInbound
    rcases opened isFirst with old | ⟨env, connection, rfl⟩
    · rcases opened isSecond with oldToo | ⟨env, connection, rfl⟩
      · exact consistent.apart first old second oldToo sameCallee sameInbound
      · have seen := consistent.handed vetted old
        rw [sameCallee, sameInbound] at seen
        exact absurd seen happens.2.1
    · rcases opened isSecond with oldToo | ⟨otherEnv, otherConnection, same⟩
      · have seen := consistent.handed vetted oldToo
        rw [← sameCallee, ← sameInbound] at seen
        exact absurd seen happens.2.1
      · exact (Move.request.inj same).2.2
  · intro listener nowMs input member name speaker speaks inName
    rcases heard_step roster network move member with old | ⟨rfl, env, isAction⟩
    · exact (consistent.said listener nowMs input old name speaker speaks inName).grows roster move
    · exact said_of_brings brings isAction speaks inName

theorem consistent_after {roster : Roster ν} {moves : List (Move ν)} (run : Run roster moves) :
    Consistent roster (after roster moves) := by
  induction moves using List.reverseRecOn with
  | nil =>
    refine ⟨?_, ?_, ?_, ?_, ?_⟩
    · intro stream member
      cases member
    · intro stream member
      cases member
    · intro first member
      cases member
    · intro first member
      cases member
    · intro listener nowMs input member
      cases member
  | append_singleton moves move inductionHypothesis =>
    have earlier : Run roster moves := run.take _ _ (List.prefix_append moves [move])
    have stepped : after roster (moves ++ [move]) = (after roster moves).step roster move := by
      rw [after, List.foldl_append]
      rfl
    rw [stepped]
    exact consistent_step (inductionHypothesis earlier) (vetted earlier)
      (run moves move (List.prefix_refl _))

end Network

end Libp2pFfi
