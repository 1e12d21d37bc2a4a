import Libp2pFfi.EventLoop

/-!
# What the node remembers of others

Besides its calls and its own addresses the node keeps a few tables on others:
the topics by their names, the connections with the addresses peers were seen on,
and which peers failed or answered calls lately. Very few handlers write them.
`Memory` collects the tables, with the settings no handler changes, and what
follows says of every other handler that it leaves all of them as they are. The same
goes for where a routing sample starts, which `Background` adds.
-/

namespace Libp2pFfi

/-- The connections, and what they show of their peers. -/
structure Contacts where
  connections : Table ConnectionId Multiaddr
  peerIps : Table PeerId IpAddr
  dialed : Table PeerId Multiaddr

/-- How the peers that were asked have done. -/
structure Marks where
  failed : Table PeerId Instant
  lastSuccess : Table Key PeerId

/-- What is fixed when a node starts. -/
structure Settings where
  delegation : Bytes
  announceTopic : Option String
  topicMaxMessageBytes : Nat
  topicMaxSubscriptions : Nat
  rpcProtocols : List String

/-- The tables and the settings. -/
structure Memory where
  topicKeys : Table String Key
  contacts : Contacts
  marks : Marks
  settings : Settings

/-- What most handlers leave alone: the memory, and where the last routing sample
started. -/
structure Background where
  memory : Memory
  sampleOffset : Nat

/-- The tables of the memory that are written together. -/
inductive Written where
  | nothing
  | topicKeys
  | contacts
  | marks
deriving DecidableEq

/-- A memory with one of its tables put back. -/
def Memory.restore (before after : Memory) : Written → Memory
  | .nothing => after
  | .topicKeys => { after with topicKeys := before.topicKeys }
  | .contacts => { after with contacts := before.contacts }
  | .marks => { after with marks := before.marks }

/-- What is left alone, with one table of the memory put back. -/
def Background.restore (before after : Background) (written : Written) : Background :=
  { after with memory := before.memory.restore after.memory written }

namespace State

/-- The contacts of a state. -/
def contacts (state : State) : Contacts where
  connections := state.connections
  peerIps := state.peerIps
  dialed := state.dialed

/-- The marks of a state. -/
def marks (state : State) : Marks where
  failed := state.failed
  lastSuccess := state.lastSuccess

/-- The settings of a state. -/
def settings (state : State) : Settings where
  delegation := state.delegation
  announceTopic := state.announceTopic
  topicMaxMessageBytes := state.topicMaxMessageBytes
  topicMaxSubscriptions := state.topicMaxSubscriptions
  rpcProtocols := state.rpcProtocols

/-- The memory of a state. -/
def memory (state : State) : Memory where
  topicKeys := state.topicKeys
  contacts := state.contacts
  marks := state.marks
  settings := state.settings

/-- The background of a state. -/
def background (state : State) : Background where
  memory := state.memory
  sampleOffset := state.sampleOffset

/-! Parts of handlers. -/

/-- Providing a key is the swarm's. -/
theorem background_startProviding (env : Env) (state : State) (key : Bytes) :
    (state.startProviding env key).background = state.background := by
  unfold startProviding
  split <;> rfl

/-- That a call ends is no mark against a peer. -/
theorem background_failCall (state : State) (id reason : Nat) :
    (state.failCall id reason).background = state.background := by
  unfold failCall
  split <;> rfl

/-- Nor is a candidate marked when it is asked. Its answer marks it. -/
theorem background_advance (env : Env) (state : State) (id : Nat) :
    (state.advance env id).background = state.background := by
  have spec := advance_spec env state id
  generalize state.advance env id = after at spec ⊢
  cases spec <;> rfl

/-- Relays have a table of their own. -/
theorem background_reserve (env : Env) (state : State) :
    (state.reserve env).background = state.background := by
  have each (state : State) (candidate : PeerId × Multiaddr) :
      (state.reserveOn env candidate).background = state.background := by
    unfold reserveOn
    dsimp only
    split
    · rfl
    · split <;> rfl
  unfold reserve
  split
  · rfl
  · exact Runs.unchanged _ state background each _

/-- The announcement's topic is a setting. -/
theorem background_announce (env : Env) (state : State) :
    (state.announce env).background = state.background := by
  unfold announce
  split
  · split
    · rfl
    · dsimp only
      split <;> rfl
  · rfl

/-- A lookup notes its time in the topic, not among the names. -/
theorem background_topicLookup (env : Env) (state : State) (key : Key) :
    (state.topicLookup env key).background = state.background := by
  unfold topicLookup
  dsimp only
  split <;> rfl

/-- A refused request marks nobody. -/
theorem background_reportLimited (env : Env) (state : State) (record : Record) :
    (state.reportLimited env record).background = state.background := by
  unfold reportLimited
  dsimp only
  split <;> rfl

/-- The record's due time is not remembered here. -/
theorem background_provideAgain (env : Env) (state : State) :
    (state.provideAgain env).background = state.background := by
  unfold provideAgain
  split
  · exact background_startProviding env state (Wire.providerKey env.crates state.group)
  · rfl

/-- The limits have tables of their own. -/
theorem background_sweepLimits (env : Env) (state : State) :
    (state.sweepLimits env).background = state.background := by
  unfold sweepLimits
  split <;> rfl

/-- A tick remembers nothing of others. Penalties end by the clock alone. -/
theorem background_tick (env : Env) (state : State) :
    (state.tick env).background = state.background := by
  have timedOut (state : State) (id : Nat) :
      (state.failCall id failTimeout).background = state.background :=
    background_failCall state id failTimeout
  unfold tick
  dsimp only
  generalize expires : (state.expired env).foldl
    (fun state id => state.failCall id failTimeout) state = late
  have announced : ((late.reserve env).announce env).background = state.background := by
    rw [background_announce, background_reserve, ← expires]
    exact Runs.unchanged _ state background timedOut _
  generalize (late.reserve env).announce env = told at announced ⊢
  have lookedUp : ((told.lonely env).foldl (topicLookup env) told).background = told.background :=
    Runs.unchanged _ told background (fun state key => background_topicLookup env state key) _
  exact (background_provideAgain env _).trans
    ((background_sweepLimits env _).trans (lookedUp.trans announced))

/-! Handlers of swarm events. -/

/-- A new role drops reservations and no contact. -/
theorem background_switchReachability (env : Env) (state : State) (next : Reachability) :
    (state.switchReachability env next).background = state.background := by
  unfold switchReachability
  dsimp only
  split
  · exact background_reserve env _
  · split
    · exact Runs.unchanged (fun (state : State) (reservation : PeerId × ListenerId) =>
        state.did (.removeListener reservation.2)) _ background (fun _ _ => rfl) _
    · rfl

/-- AutoNAT's verdict is about this node. -/
theorem background_natStatus (env : Env) (state : State) (status : NatStatus) :
    (state.natStatus env status).background = state.background := by
  have turned (next : Reachability) :
      (natStatus.turnTo env state next).background = state.background := by
    unfold natStatus.turnTo
    split
    · rfl
    · exact background_switchReachability env state next
  unfold natStatus
  split
  · rfl
  · split
    · rfl
    · exact turned _
    · exact turned _

/-- A relay that is lost has failed as a relay only. -/
theorem background_relayLost (env : Env) (state : State) (listener : ListenerId) :
    (state.relayLost env listener).background = state.background := by
  unfold relayLost
  apply Runs.unchanged
  intro state peer
  rfl

/-- What a peer lists goes into the swarm's book. -/
theorem background_identified (env : Env) (state : State) (peer : PeerId) (info : IdentifyInfo) :
    (state.identified env peer info).background = state.background := by
  have offered : (state.offerRelay peer info).background = state.background := by
    unfold offerRelay
    split
    · split <;> rfl
    · rfl
  unfold identified
  dsimp only
  rw [background_reserve]
  split
  · refine Eq.trans (Runs.unchanged _ _ background ?_ _) offered
    intro state address
    rfl
  · exact offered

/-- A listen address is the node's own. -/
theorem background_newListenAddr (env : Env) (state : State) (address : Multiaddr) :
    (state.newListenAddr env address).background = state.background := by
  have noted : (state.noteListenAddr env address).background = state.background := by
    unfold noteListenAddr
    dsimp only
    split
    · rfl
    · split <;> rfl
  unfold newListenAddr
  dsimp only
  split
  · exact noted
  · exact noted

/-- The new connection was noted when it was established. -/
theorem background_holePunched (env : Env) (state : State) (peer : PeerId)
    (result : Except Bytes ConnectionId) :
    (state.holePunched env peer result).background = state.background := by
  cases result <;> rfl

/-- A dial becomes a contact when it succeeds. -/
theorem background_dialTopicMembers (env : Env) (state : State) (dialed : Nat)
    (peers : List PeerId) :
    (state.dialTopicMembers env dialed peers).background = state.background := by
  induction peers generalizing state dialed with
  | nil => rfl
  | cons peer rest inductionHypothesis =>
    unfold dialTopicMembers
    split
    · rfl
    · split
      · exact inductionHypothesis state dialed
      · exact inductionHypothesis _ _

/-- Members of a topic are dialed at most. -/
theorem background_topicProviders (env : Env) (state : State) (query : QueryId)
    (result : GetProvidersResult) (last : Bool) :
    (state.topicProviders env query result last).background = state.background := by
  unfold topicProviders
  dsimp only
  split
  · exact background_dialTopicMembers env state 0 (providersFound result)
  · exact background_dialTopicMembers env state 0 (providersFound result)

/-- The caller's results are not remembered. -/
theorem background_callerProviders (env : Env) (state : State) (query : QueryId) (id : Nat)
    (result : GetProvidersResult) (last : Bool) :
    (state.callerProviders env query id result last).background = state.background := by
  have reported : ((providersFound result).foldl (fun state provider =>
      state.emit (discovered env.crates id provider
        (state.swarm.addressBook.addressesOf provider))) state).background = state.background := by
    apply Runs.unchanged
    intro state provider
    rfl
  unfold callerProviders
  dsimp only
  split
  · exact reported
  · exact reported

/-- Nor are a walk's. -/
theorem background_walked (env : Env) (state : State) (query : QueryId) (id : Nat)
    (peers : List PeerInfo) : (state.walked env query id peers).background = state.background := by
  have reported : (peers.foldl (fun (state : State) info => state.emit
      (discovered env.crates id info.peer info.addrs))
      { state with walks := state.walks.erase query }).background = state.background := by
    apply Runs.unchanged
    intro state info
    rfl
  exact reported

/-- The addresses found are the swarm's. -/
theorem background_closestPeersReported (env : Env) (state : State) (query : QueryId)
    (peers : List PeerInfo) :
    (state.closestPeersReported env query peers).background = state.background := by
  have known : (peers.foldl (fun state info => state.addAddresses info.peer info.addrs)
      state).background = state.background := by
    apply Runs.unchanged
    intro state info
    rfl
  unfold closestPeersReported
  dsimp only
  split
  · exact (background_advance env _ _).trans known
  · split
    · exact (background_walked env _ _ _ _).trans known
    · exact known

/-- Kademlia marks nobody. -/
theorem background_kadEvent (env : Env) (state : State) (event : KadEvent) :
    (state.kadEvent env event).background = state.background := by
  unfold kadEvent
  split
  · dsimp only
    split <;> rfl
  · unfold providersReported
    split
    · exact background_topicProviders env state _ _ _
    · split
      · exact background_callerProviders env state _ _ _ _
      · split
        · exact background_advance env _ _
        · rfl
  · exact background_closestPeersReported env state _ _
  · unfold bootstrapReported
    split
    · dsimp only
      split <;> rfl
    · rfl
  · rfl
  · rfl

/-- Gossipsub's scores are not under `src/`, and the node keeps none. -/
theorem background_gossipsubEvent (env : Env) (state : State) (event : GossipEvent) :
    (state.gossipsubEvent env event).background = state.background := by
  have onTopic (propagationSource : PeerId) (message : GossipMessage) :
      (state.topicMessage env propagationSource message).1.background = state.background := by
    unfold topicMessage
    split
    · rfl
    · split
      · rfl
      · dsimp only
        split
        · rfl
        · split
          · exact background_reportLimited env _ _
          · rfl
  have other (message : GossipMessage) :
      (state.announcementMessage env message).1.background = state.background := by
    unfold announcementMessage
    split
    · rfl
    · dsimp only
      split
      · rfl
      · split <;> rfl
  cases event with
  | subscribed => exact background_announce env state
  | message propagationSource id message =>
    unfold gossipsubEvent
    dsimp only
    split
    · exact onTopic propagationSource message
    · exact other message
  | other => rfl

/-- Who asks leaves no mark. The limits charge the request. -/
theorem background_inboundRequest (env : Env) (state : State) (peer : PeerId)
    (connection : ConnectionId) (request : InboundRequestId) (frame : Bytes)
    (channel : ResponseChannel) :
    (state.inboundRequest env peer connection request frame channel).background =
      state.background := by
  unfold inboundRequest
  dsimp only
  split
  · rfl
  · split
    · exact background_reportLimited env _ _
    · rfl

/-- Nor does the end of a request. -/
theorem background_inboundEnded (state : State) (request : InboundRequestId) :
    (state.inboundEnded request).background = state.background := by
  unfold inboundEnded
  split <;> rfl

/-! The handlers that write. -/

/-- A connection writes the contacts and nothing else. -/
theorem background_connectionEstablished (env : Env) (state : State) (peer : PeerId)
    (connection : ConnectionId) (numEstablished : Nat) (endpoint : ConnectedPoint) :
    Background.restore state.background
      (state.connectionEstablished env peer connection numEstablished endpoint).background .contacts =
      state.background := by
  unfold connectionEstablished
  dsimp only
  split <;> split <;> split <;> (try split) <;> rfl

/-- So does its end. -/
theorem background_connectionClosed (env : Env) (state : State) (peer : PeerId)
    (connection : ConnectionId) (numEstablished : Nat) :
    Background.restore state.background
      (state.connectionClosed env peer connection numEstablished).background .contacts =
      state.background := by
  unfold connectionClosed
  dsimp only
  split <;> rfl

/-- A response marks its peer: with success if the check passes, with a failure if not. -/
theorem background_response (env : Env) (state : State) (peer : PeerId)
    (request : OutboundRequestId) (frame : Bytes) :
    Background.restore state.background (state.response env peer request frame).background .marks =
      state.background := by
  unfold response
  dsimp only
  split
  · rfl
  · split
    · rfl
    · split
      · rfl
      · rw [background_advance]
        rfl

/-- A failed request marks its peer. -/
theorem background_outboundFailed (env : Env) (state : State) (peer : PeerId)
    (request : OutboundRequestId) (error : OutboundFailure) :
    Background.restore state.background
      (state.outboundFailed env peer request error).background .marks =
      state.background := by
  unfold outboundFailed
  dsimp only
  split
  · rfl
  · rw [background_advance]
    rfl

/-- A topic that is followed gets its name. -/
theorem background_topicSubscribe (env : Env) (state : State) (key : Key) :
    Background.restore state.background (state.topicSubscribe env key).background .topicKeys =
      state.background := by
  unfold topicSubscribe
  dsimp only
  split
  · rfl
  · split
    · rfl
    · rw [background_topicLookup, background_startProviding]
      rfl

/-- A topic that is left loses its name. -/
theorem background_topicUnsubscribe (env : Env) (state : State) (key : Key) :
    Background.restore state.background (state.topicUnsubscribe env key).background .topicKeys =
      state.background := by
  unfold topicUnsubscribe
  split <;> rfl

end State

/-- What of the memory an input may write. -/
def Input.writes : Input → Written
  | command (.topicSubscribe _) => .topicKeys
  | command (.topicUnsubscribe _) => .topicKeys
  | swarm (.connectionEstablished _ _ _ _) => .contacts
  | swarm (.connectionClosed _ _ _) => .contacts
  | swarm (.rpc (.response _ _ _)) => .marks
  | swarm (.rpc (.outboundFailure _ _ _)) => .marks
  | _ => .nothing

/-- What of the memory an action may write. -/
def Action.writes : Action → Written
  | handle _ input => input.writes
  | _ => .nothing

namespace State

/-- A command writes what it may write and nothing else. -/
theorem background_command (env : Env) (state : State) (command : Command)
    (other : ∀ max, command ≠ .routingSample max) :
    Background.restore state.background (state.command env command).background
      (Input.command command).writes = state.background := by
  cases command with
  | rpc id group node protocol payload timeout =>
    have begun : (state.startCall env id group node protocol payload timeout).background =
        state.background := by
      unfold startCall
      dsimp only
      split
      · split <;> rfl
      · rfl
    exact (background_advance env _ id).trans begun
  | respond id payload =>
    show (state.respond id payload).background = state.background
    unfold respond
    split <;> rfl
  | addAddress node address =>
    show (state.addAddress env node address).background = state.background
    unfold addAddress
    split <;> rfl
  | bootstrap id =>
    show (state.bootstrap env id).background = state.background
    unfold bootstrap
    split <;> rfl
  | announceSetPayload payload => exact background_announce env _
  | topicSubscribe key => exact background_topicSubscribe env state key
  | topicUnsubscribe key => exact background_topicUnsubscribe env state key
  | topicPublish key payload =>
    show (state.topicPublish env key payload).background = state.background
    unfold topicPublish
    split
    · rfl
    · dsimp only
      split <;> rfl
  | provide key stop =>
    cases stop with
    | true => rfl
    | false => exact background_startProviding env state _
  | routingSample max => exact absurd rfl (other max)
  | _ => rfl

/-- A routing sample moves its start and leaves the memory alone. -/
theorem memory_command (env : Env) (state : State) (command : Command) :
    Memory.restore state.memory (state.command env command).memory (Input.command command).writes =
      state.memory := by
  by_cases samples : ∃ max, command = .routingSample max
  · obtain ⟨max, rfl⟩ := samples
    show (state.routingSample env max).1.memory = state.memory
    unfold routingSample
    dsimp only
    split <;> rfl
  · exact congrArg Background.memory
      (background_command env state command fun max same => samples ⟨max, same⟩)

/-- An event writes the table it is about and nothing else. -/
theorem background_swarmEvent (env : Env) (state : State) (event : SwarmEvent) :
    Background.restore state.background (state.swarmEvent env event).background
      (Input.swarm event).writes = state.background := by
  cases event with
  | newListenAddr listener address => exact background_newListenAddr env state address
  | listenerClosed listener => exact background_relayLost env state listener
  | listenerError listener => exact background_relayLost env state listener
  | connectionEstablished peer connection numEstablished endpoint =>
    exact background_connectionEstablished env state peer connection numEstablished endpoint
  | connectionClosed peer connection numEstablished =>
    exact background_connectionClosed env state peer connection numEstablished
  | kad event => exact background_kadEvent env state event
  | identified peer info => exact background_identified env state peer info
  | rpc event =>
    cases event with
    | request peer connection request frame channel =>
      exact background_inboundRequest env state peer connection request frame channel
    | response peer request frame => exact background_response env state peer request frame
    | outboundFailure peer request error =>
      exact background_outboundFailed env state peer request error
    | inboundFailure request => exact background_inboundEnded state request
    | responseSent request => exact background_inboundEnded state request
  | gossipsub event => exact background_gossipsubEvent env state event
  | dcutr peer result => exact background_holePunched env state peer result
  | autonat status => exact background_natStatus env state status
  | _ => rfl

/-- So does a round of the event loop. -/
theorem memory_handle (env : Env) (state : State) (input : Input) :
    Memory.restore state.memory (state.handle env input).memory input.writes = state.memory := by
  cases input with
  | command command => exact memory_command env (state.heard env.nowMs _) command
  | tick => exact congrArg Background.memory (background_tick env (state.heard env.nowMs _))
  | swarm event =>
    exact congrArg Background.memory (background_swarmEvent env (state.heard env.nowMs _) event)

/-- Only the caller's samples turn the offset. -/
theorem sampleOffset_handle (env : Env) (state : State) (input : Input)
    (other : ∀ max, input ≠ .command (.routingSample max)) :
    (state.handle env input).sampleOffset = state.sampleOffset := by
  cases input with
  | command command =>
    exact congrArg Background.sampleOffset
      (background_command env (state.heard env.nowMs _) command fun max same =>
        other max (congrArg Input.command same))
  | tick => exact congrArg Background.sampleOffset (background_tick env (state.heard env.nowMs _))
  | swarm event =>
    exact congrArg Background.sampleOffset
      (background_swarmEvent env (state.heard env.nowMs _) event)

/-- What libp2p forgets with an event is its own. -/
theorem background_deliver (state : State) (input : Input) :
    (state.deliver input).background = state.background := by
  unfold deliver
  split <;> rfl

end State

namespace System

/-- Every action writes at most one table of the memory. -/
theorem memory_step (system : System) (action : Action) :
    Memory.restore system.state.memory (system.step action).state.memory action.writes =
      system.state.memory := by
  cases action with
  | handle env input =>
    have delivered := congrArg Background.memory (State.background_deliver system.state input)
    have handled := State.memory_handle env (system.state.deliver input) input
    exact (congrArg (Memory.restore · _ input.writes) delivered.symm).trans
      (handled.trans delivered)
  | ready env =>
    exact congrArg Background.memory
      (State.background_startProviding env (system.state.emit _) _)
  | draw => rfl
  | poll => rfl
  | internalQuery => rfl
  | learn => rfl

/-- Only a routing sample moves where the next one starts. -/
theorem sampleOffset_step (system : System) (action : Action)
    (other : ∀ env max, action ≠ .handle env (.command (.routingSample max))) :
    (system.step action).state.sampleOffset = system.state.sampleOffset := by
  cases action with
  | handle env input =>
    have delivered := congrArg Background.sampleOffset (State.background_deliver system.state input)
    refine Eq.trans (State.sampleOffset_handle env (system.state.deliver input) input ?_) delivered
    intro max same
    exact other env max (congrArg (Action.handle env) same)
  | ready env =>
    exact congrArg Background.sampleOffset
      (State.background_startProviding env (system.state.emit _) _)
  | draw => rfl
  | poll => rfl
  | internalQuery => rfl
  | learn => rfl

/-- Only subscribing and leaving change which topics have a name. -/
theorem topicKeys_step (system : System) (action : Action) (other : action.writes ≠ .topicKeys) :
    (system.step action).state.topicKeys = system.state.topicKeys := by
  have kept := congrArg Memory.topicKeys (system.memory_step action)
  cases written : action.writes <;> rw [written] at kept other
  · exact kept
  · exact absurd rfl other
  · exact kept
  · exact kept

/-- Only connections that open and close change the contacts. -/
theorem contacts_step (system : System) (action : Action) (other : action.writes ≠ .contacts) :
    (system.step action).state.contacts = system.state.contacts := by
  have kept := congrArg Memory.contacts (system.memory_step action)
  cases written : action.writes <;> rw [written] at kept other
  · exact kept
  · exact kept
  · exact absurd rfl other
  · exact kept

/-- Only the ends of requests change how peers have done. -/
theorem marks_step (system : System) (action : Action) (other : action.writes ≠ .marks) :
    (system.step action).state.marks = system.state.marks := by
  have kept := congrArg Memory.marks (system.memory_step action)
  cases written : action.writes <;> rw [written] at kept other
  · exact kept
  · exact kept
  · exact kept
  · exact absurd rfl other

/-- No action changes the settings. -/
theorem settings_step (system : System) (action : Action) :
    (system.step action).state.settings = system.state.settings := by
  have kept := congrArg Memory.settings (system.memory_step action)
  cases written : action.writes <;> rw [written] at kept <;> exact kept

/-- The settings are those the node was started with. -/
theorem settings_after (config : Config) (localPeer : PeerId) (now : Instant)
    (actions : List Action) :
    (after config localPeer now actions).state.settings =
      (start config localPeer now).state.settings :=
  Runs.unchanged step (start config localPeer now) (fun system => system.state.settings)
    settings_step actions

end System

end Libp2pFfi
