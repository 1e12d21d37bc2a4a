import Libp2pFfi.Ledger

/-!
# What is counted and what is rationed

The node counts what passes through it, spends the limits it was given, and
remembers which payload it announced. Few handlers do any of this: those of
inbound requests, of gossip messages and of publications, the sweep of the
limits, and the commands that set them. All others are `Routine`: they leave the
`Meter` alone, and what they write into the log is none of what the meter is
about. Requests of calls are counted as they are numbered, wherever that happens.
-/

namespace Libp2pFfi

/-- What the node counts, spends and announces, and what it announces it with. -/
structure Meter where
  rpcIn : Nat
  rpcLimited : Nat
  topicIn : Nat
  topicOut : Nat
  topicBytesIn : Nat
  topicBytesOut : Nat
  topicLimited : Nat
  limits : Limits
  announceRate : SourceRate
  announcePayload : Option Bytes
  announcePublished : Option Bytes
  announceTopic : Option String
  delegation : Bytes

/-- The events that report what was let through or refused, and who is connected. -/
def EventKind.routine : EventKind → Bool
  | rpcRequest => false
  | announcement => false
  | topicMessage => false
  | limited => false
  | peerConnected => false
  | peerDisconnected => false
  | _ => true

/-- An effect the meter is not about. -/
def Effect.routine : Effect → Bool
  | emit record => record.header.kind.routine
  | sendResponse _ _ => false
  | publish _ _ _ => false
  | validate _ _ _ => false
  | _ => true

/-- A line the meter is not about. No input is one. -/
def Entry.Routine : Entry → Prop
  | heard _ _ => False
  | did effect => effect.routine = true

/-- The event that an effect is. -/
def Effect.emitted? : Effect → Option Record
  | emit record => some record
  | _ => none

/-- The event that an entry is, if it is one. -/
def Entry.emitted? : Entry → Option Record
  | heard _ _ => none
  | did effect => effect.emitted?

/-- The events that were emitted, the oldest first. -/
def emitted (log : List Entry) : List Record := log.filterMap Entry.emitted?

namespace State

/-- The meter of a state. -/
def meter (state : State) : Meter where
  rpcIn := state.shared.rpcIn
  rpcLimited := state.shared.rpcLimited
  topicIn := state.shared.topicIn
  topicOut := state.shared.topicOut
  topicBytesIn := state.shared.topicBytesIn
  topicBytesOut := state.shared.topicBytesOut
  topicLimited := state.shared.topicLimited
  limits := state.limits
  announceRate := state.announceRate
  announcePayload := state.announcePayload
  announcePublished := state.announcePublished
  announceTopic := state.announceTopic
  delegation := state.delegation

/-- Requests are counted as they are numbered. -/
def CountsAlike (before after : State) : Prop :=
  after.shared.rpcOut + before.swarm.nextRequest = before.shared.rpcOut + after.swarm.nextRequest

/-- The events that are emitted are put into the queue. -/
def Posts (before after : State) : Prop :=
  ∃ extra, after.log = before.log ++ extra ∧
    after.shared.events = (emitted extra).foldl EventQueue.push before.shared.events

/-- Doing nothing posts nothing. -/
theorem Posts.refl (state : State) : Posts state state := ⟨[], (List.append_nil _).symm, rfl⟩

/-- What two steps emit is queued in this order. -/
theorem Posts.trans {first second third : State} (left : Posts first second)
    (right : Posts second third) : Posts first third := by
  obtain ⟨earlier, grown, pushed⟩ := left
  obtain ⟨later, grownToo, pushedToo⟩ := right
  refine ⟨earlier ++ later, ?_, ?_⟩
  · rw [grownToo, grown, List.append_assoc]
  · rw [pushedToo, pushed, emitted, emitted, emitted, List.filterMap_append, List.foldl_append]

/-- A step that writes nothing. -/
theorem Posts.same {before after : State} (log : after.log = before.log)
    (events : after.shared.events = before.shared.events) : Posts before after :=
  ⟨[], log.trans (List.append_nil _).symm, events⟩

/-- A step of one effect, which is queued if it is an event. -/
theorem Posts.line {before after : State} {effect : Effect}
    (log : after.log = before.log ++ [.did effect])
    (events : after.shared.events =
      effect.emitted?.toList.foldl EventQueue.push before.shared.events) : Posts before after := by
  refine ⟨[.did effect], log, events.trans ?_⟩
  cases effect <;> rfl

/-- Nothing the meter is about happens. -/
structure Routine (before after : State) : Prop where
  meter : after.meter = before.meter
  counts : CountsAlike before after
  adds : Adds Entry.Routine before after
  posts : Posts before after

/-- Doing nothing is routine. -/
theorem Routine.refl (state : State) : Routine state state :=
  ⟨rfl, rfl, Adds.refl _ state, Posts.refl state⟩

/-- So are two routine steps. Requests numbered in the one and in the other add up. -/
theorem Routine.trans {first second third : State} (left : Routine first second)
    (right : Routine second third) : Routine first third := by
  refine ⟨right.meter.trans left.meter, ?_, left.adds.trans right.adds,
    left.posts.trans right.posts⟩
  have countsLeft := left.counts
  have countsRight := right.counts
  unfold CountsAlike at countsLeft countsRight ⊢
  omega

/-- A loop of routine steps. -/
theorem routine_foldl {α : Type} {step : State → α → State}
    (each : ∀ state item, Routine state (step state item)) (items : List α) (state : State) :
    Routine state (items.foldl step state) := by
  induction items generalizing state with
  | nil => exact Routine.refl state
  | cons item rest inductionHypothesis => exact (each state item).trans (inductionHypothesis _)

/-- A step that is off the meter and writes nothing. -/
theorem routine_of_same {before after : State} (meter : after.meter = before.meter)
    (counts : CountsAlike before after) (log : after.log = before.log)
    (events : after.shared.events = before.shared.events) : Routine before after :=
  ⟨meter, counts, ⟨[], log.trans (List.append_nil _).symm, by simp⟩, Posts.same log events⟩

/-- A step that is off the meter and has one routine effect. -/
theorem routine_of_line {before after : State} {effect : Effect}
    (meter : after.meter = before.meter) (counts : CountsAlike before after)
    (log : after.log = before.log ++ [.did effect]) (routine : effect.routine = true)
    (events : after.shared.events =
      effect.emitted?.toList.foldl EventQueue.push before.shared.events) : Routine before after :=
  ⟨meter, counts, Adds.one log routine, Posts.line log events⟩

/-! Parts of handlers. -/

/-- Records in the DHT are not counted. -/
theorem routine_startProviding (env : Env) (state : State) (key : Bytes) :
    Routine state (state.startProviding env key) := by
  unfold startProviding
  split
  · exact routine_of_line rfl rfl rfl rfl rfl
  · exact Routine.refl state

/-- Nor is their withdrawal. -/
theorem routine_stopProviding (state : State) (key : Bytes) :
    Routine state (state.stopProviding key) :=
  routine_of_line rfl rfl rfl rfl rfl

/-- Providing the group notes the time, which is not metered. -/
theorem routine_provide (env : Env) (state : State) : Routine state (state.provide env) :=
  (routine_startProviding env state _).trans (routine_of_same rfl rfl rfl rfl)

/-- A call that fails was counted when its requests were sent. -/
theorem routine_failCall (state : State) (id reason : Nat) :
    Routine state (state.failCall id reason) := by
  unfold failCall
  split
  · exact Routine.refl state
  · exact routine_of_line rfl rfl rfl rfl rfl

/-- A candidate that cannot be reached costs nothing. -/
theorem routine_passOver (state : State) (id : Nat) (peers : List PeerId) :
    Routine state (state.passOver id peers) := by
  refine ⟨rfl, rfl, ⟨_, rfl, fun entry member => ?_⟩, _, rfl, ?_⟩
  · obtain ⟨peer, -, rfl⟩ := List.mem_map.mp member
    rfl
  · rw [emitted, List.filterMap_eq_nil_iff.mpr]
    · rfl
    · intro entry member
      obtain ⟨peer, -, rfl⟩ := List.mem_map.mp member
      rfl

/-- The one place where requests are sent: each is numbered by libp2p and counted here. -/
theorem routine_advance (env : Env) (state : State) (id : Nat) :
    Routine state (state.advance env id) := by
  have looked (peers : List PeerId) (peer : PeerId) :
      Routine state ((state.passOver id peers).lookAt env id peer) :=
    (routine_passOver state id peers).trans (routine_of_line rfl rfl rfl rfl rfl)
  have spec := advance_spec env state id
  generalize state.advance env id = after at spec ⊢
  cases spec with
  | missing => exact Routine.refl state
  | busy => exact Routine.refl state
  | waits => exact (routine_passOver state id _).trans (routine_of_same rfl rfl rfl rfl)
  | fails => exact (routine_passOver state id _).trans (routine_of_line rfl rfl rfl rfl rfl)
  | sends call found idle skipped peer rest =>
    refine (looked skipped peer).trans ?_
    refine routine_of_line rfl ?_ rfl rfl rfl
    simp only [CountsAlike, sendCandidate, sendRequest, setCall, did]
    omega
  | resolves => exact (looked _ _).trans (routine_of_line rfl rfl rfl rfl rfl)

/-- A call that begins sends nothing yet. -/
theorem routine_startCall (env : Env) (state : State) (id : Nat) (group : Key) (node : Option Key)
    (protocol : Nat) (payload : Bytes) (timeout : Duration) :
    Routine state (state.startCall env id group node protocol payload timeout) := by
  unfold startCall
  dsimp only
  split
  · split <;> exact routine_of_same rfl rfl rfl rfl
  · exact routine_of_line rfl rfl rfl rfl rfl

/-- Dials are not counted. -/
theorem routine_dialTopicMembers (env : Env) (state : State) (dialed : Nat) (peers : List PeerId) :
    Routine state (state.dialTopicMembers env dialed peers) := by
  induction peers generalizing state dialed with
  | nil => exact Routine.refl state
  | cons peer rest inductionHypothesis =>
    unfold dialTopicMembers
    split
    · exact Routine.refl state
    · split
      · exact inductionHypothesis state dialed
      · refine Routine.trans ?_ (inductionHypothesis _ _)
        exact routine_of_line rfl rfl rfl rfl rfl

/-- Nor are reservations. -/
theorem routine_reserve (env : Env) (state : State) : Routine state (state.reserve env) := by
  have each (state : State) (candidate : PeerId × Multiaddr) :
      Routine state (state.reserveOn env candidate) := by
    unfold reserveOn
    dsimp only
    split
    · exact Routine.refl state
    · split <;> exact routine_of_line rfl rfl rfl rfl rfl
  unfold reserve
  split
  · exact Routine.refl state
  · exact routine_foldl each _ state

/-- Nor are lookups. -/
theorem routine_topicLookup (env : Env) (state : State) (key : Key) :
    Routine state (state.topicLookup env key) := by
  unfold topicLookup
  dsimp only
  split <;> exact routine_of_line rfl rfl rfl rfl rfl

/-- The record may be published again, uncounted. -/
theorem routine_provideAgain (env : Env) (state : State) :
    Routine state (state.provideAgain env) := by
  unfold provideAgain
  split
  · exact routine_provide env state
  · exact Routine.refl state

/-! Commands. -/

/-- Following a topic counts no message. Its counter of topics is not on the meter. -/
theorem routine_topicSubscribe (env : Env) (state : State) (key : Key) :
    Routine state (state.topicSubscribe env key) := by
  unfold topicSubscribe
  dsimp only
  split
  · exact Routine.refl state
  · split
    · exact Routine.refl state
    · refine Routine.trans ?_ (routine_topicLookup env _ key)
      refine Routine.trans ?_ (routine_startProviding env _ _)
      exact routine_of_line rfl rfl rfl rfl rfl

/-- Nor does leaving it. -/
theorem routine_topicUnsubscribe (env : Env) (state : State) (key : Key) :
    Routine state (state.topicUnsubscribe env key) := by
  unfold topicUnsubscribe
  dsimp only
  split
  · exact Routine.refl state
  · rename_i topic followed
    have left : Routine state ({ state with
        topics := state.topics.erase key
        topicKeys := state.topicKeys.erase topic.topic }.did (.unsubscribe topic.topic)) :=
      routine_of_line rfl rfl rfl rfl rfl
    exact left.trans (routine_of_line rfl rfl rfl rfl rfl)

/-- A bootstrap is a query of the DHT. -/
theorem routine_bootstrap (env : Env) (state : State) (id : Nat) :
    Routine state (state.bootstrap env id) := by
  unfold bootstrap
  split <;> exact routine_of_line rfl rfl rfl rfl rfl

/-- An address is given to the swarm. -/
theorem routine_addAddress (env : Env) (state : State) (node : Key) (address : Multiaddr) :
    Routine state (state.addAddress env node address) := by
  unfold addAddress
  split
  · exact Routine.refl state
  · exact routine_of_line rfl rfl rfl rfl rfl

/-- A sample of the routing table costs no token. -/
theorem routine_routingSample (env : Env) (state : State) (max : Nat) :
    Routine state (state.routingSample env max).1 := by
  unfold routingSample
  dsimp only
  split
  · exact Routine.refl state
  · exact routine_of_same rfl rfl rfl rfl

end State

/-- A command that neither answers, publishes nor sets a limit. -/
def Command.routine : Command → Bool
  | respond _ _ => false
  | setClass _ _ => false
  | announceSetPayload _ => false
  | setLimit _ _ => false
  | topicPublish _ _ => false
  | _ => true

namespace State

/-- All commands but those that answer, publish, announce, or set the limits. -/
theorem routine_command (env : Env) (state : State) (sent : Command)
    (routine : sent.routine = true) : Routine state (state.command env sent) := by
  cases sent with
  | rpc id group node protocol payload timeout =>
    exact (routine_startCall env state id group node protocol payload timeout).trans
      (routine_advance env _ id)
  | reject => exact routine_of_same rfl rfl rfl rfl
  | addAddress node address => exact routine_addAddress env state node address
  | bootstrap id => exact routine_bootstrap env state id
  | randomWalk => exact routine_of_line rfl rfl rfl rfl rfl
  | topicSubscribe key => exact routine_topicSubscribe env state key
  | topicUnsubscribe key => exact routine_topicUnsubscribe env state key
  | topicPeers => exact routine_of_line rfl rfl rfl rfl rfl
  | provide key stop =>
    unfold State.command
    dsimp only
    split
    · exact routine_stopProviding state _
    · exact routine_startProviding env state _
  | findProviders => exact routine_of_line rfl rfl rfl rfl rfl
  | routingSample max =>
    exact (routine_routingSample env state max).trans (routine_of_line rfl rfl rfl rfl rfl)
  | shutdown => exact Routine.refl state
  | _ => cases routine

/-! Events. -/

/-- A node that changes its role keeps its counters. -/
theorem routine_switchReachability (env : Env) (state : State) (next : Reachability) :
    Routine state (state.switchReachability env next) := by
  have released (items : List (PeerId × ListenerId)) (state : State) :
      Routine state
        (items.foldl (fun state reservation => state.did (.removeListener reservation.2)) state) := by
    apply routine_foldl
    exact fun state reservation => routine_of_line rfl rfl rfl rfl rfl
  unfold switchReachability
  dsimp only
  split
  · refine Routine.trans ?_ (routine_reserve env _)
    exact routine_of_same rfl rfl rfl rfl
  · split
    · have restored : Routine state (State.keepExternal { state with
          reachability := next
          swarm := { state.swarm with
            externalAddresses := state.swarm.externalAddresses ∪ state.listening.filter fun address =>
              !(state.listensOnWildcard && isLoopback address) } }
          fun address => !isRelayed address) := routine_of_same rfl rfl rfl rfl
      exact (restored.trans (released _ _)).trans (routine_of_same rfl rfl rfl rfl)
    · exact routine_of_same rfl rfl rfl rfl

/-- AutoNAT's verdict is not metered. -/
theorem routine_natStatus (env : Env) (state : State) (status : NatStatus) :
    Routine state (state.natStatus env status) := by
  have turned (next : Reachability) : Routine state (natStatus.turnTo env state next) := by
    unfold natStatus.turnTo
    split
    · exact Routine.refl state
    · have pushed : Routine state ((state.switchReachability env next).did
          (.identifyPush env.connectedPeers)) :=
        (routine_switchReachability env state next).trans (routine_of_line rfl rfl rfl rfl rfl)
      exact pushed.trans (routine_of_line rfl rfl rfl rfl rfl)
  unfold natStatus
  split
  · exact Routine.refl state
  · split
    · exact Routine.refl state
    · exact turned _
    · exact turned _

/-- Nor is the loss of a relay. -/
theorem routine_relayLost (env : Env) (state : State) (listener : ListenerId) :
    Routine state (state.relayLost env listener) := by
  apply routine_foldl
  exact fun state peer => routine_of_same rfl rfl rfl rfl

/-- Nor what a peer says of itself. -/
theorem routine_identified (env : Env) (state : State) (peer : PeerId) (info : IdentifyInfo) :
    Routine state (state.identified env peer info) := by
  have offered : Routine state (state.offerRelay peer info) := by
    unfold offerRelay
    split
    · split
      · exact routine_of_same rfl rfl rfl rfl
      · exact Routine.refl state
    · exact Routine.refl state
  have known : Routine state ((state.offerRelay peer info).addAddresses peer info.listenAddrs) :=
    offered.trans (routine_of_same rfl rfl rfl rfl)
  unfold identified
  dsimp only
  refine Routine.trans ?_ (routine_reserve env _)
  split
  · refine known.trans (routine_foldl ?_ _ _)
    exact fun state address => routine_of_line rfl rfl rfl rfl rfl
  · exact known

/-- Nor an address that comes up. -/
theorem routine_newListenAddr (env : Env) (state : State) (address : Multiaddr) :
    Routine state (state.newListenAddr env address) := by
  have noted : Routine state (state.noteListenAddr env address) := by
    unfold noteListenAddr
    dsimp only
    split
    · exact routine_of_line rfl rfl rfl rfl rfl
    · split
      · exact routine_of_same rfl rfl rfl rfl
      · exact Routine.refl state
  unfold newListenAddr
  dsimp only
  split
  · exact noted.trans (routine_of_line rfl rfl rfl rfl rfl)
  · exact noted.trans (routine_of_line rfl rfl rfl rfl rfl)

/-- A hole punched is reported, and counted nowhere. -/
theorem routine_holePunched (env : Env) (state : State) (peer : PeerId)
    (result : Except Bytes ConnectionId) : Routine state (state.holePunched env peer result) := by
  cases result with
  | ok connection => exact routine_of_line rfl rfl rfl rfl rfl
  | error text => exact routine_of_line rfl rfl rfl rfl rfl

/-- Providers of a topic are dialed. -/
theorem routine_topicProviders (env : Env) (state : State) (query : QueryId)
    (result : GetProvidersResult) (last : Bool) :
    Routine state (state.topicProviders env query result last) := by
  have dialed := routine_dialTopicMembers env state 0 (providersFound result)
  unfold topicProviders
  dsimp only
  split
  · exact dialed.trans (routine_of_same rfl rfl rfl rfl)
  · exact dialed

/-- The caller's results are not counted. -/
theorem routine_callerProviders (env : Env) (state : State) (query : QueryId) (id : Nat)
    (result : GetProvidersResult) (last : Bool) :
    Routine state (state.callerProviders env query id result last) := by
  have each (state : State) (provider : PeerId) : Routine state (state.emit
      (discovered env.crates id provider (state.swarm.addressBook.addressesOf provider))) :=
    routine_of_line rfl rfl rfl rfl rfl
  have reported := routine_foldl each (providersFound result) state
  unfold callerProviders
  dsimp only
  split
  · exact reported.trans (routine_of_line rfl rfl rfl rfl rfl)
  · exact reported

/-- Candidates of a call may make it send, which `routine_advance` counts. -/
theorem routine_providersReported (env : Env) (state : State) (query : QueryId)
    (result : GetProvidersResult) (last : Bool) :
    Routine state (state.providersReported env query result last) := by
  unfold providersReported
  split
  · exact routine_topicProviders env state query result last
  · split
    · exact routine_callerProviders env state query _ result last
    · split
      · refine Routine.trans ?_ (routine_advance env _ _)
        exact routine_of_same rfl rfl rfl rfl
      · exact Routine.refl state

/-- The peers of a walk are reported uncounted. -/
theorem routine_walked (env : Env) (state : State) (query : QueryId) (id : Nat)
    (peers : List PeerInfo) : Routine state (state.walked env query id peers) := by
  have dropped : Routine state { state with walks := state.walks.erase query } :=
    routine_of_same rfl rfl rfl rfl
  have each (state : State) (info : PeerInfo) :
      Routine state (state.emit (discovered env.crates id info.peer info.addrs)) :=
    routine_of_line rfl rfl rfl rfl rfl
  exact (dropped.trans (routine_foldl each peers _)).trans (routine_of_line rfl rfl rfl rfl rfl)

/-- Addresses found for a call may make it send too. -/
theorem routine_closestPeersReported (env : Env) (state : State) (query : QueryId)
    (peers : List PeerInfo) : Routine state (state.closestPeersReported env query peers) := by
  have known : Routine state
      (peers.foldl (fun state info => state.addAddresses info.peer info.addrs) state) := by
    apply routine_foldl
    exact fun state info => routine_of_same rfl rfl rfl rfl
  unfold closestPeersReported
  dsimp only
  split
  · refine known.trans (Routine.trans ?_ (routine_advance env _ _))
    exact routine_of_same rfl rfl rfl rfl
  · split
    · exact known.trans (routine_walked env _ query _ peers)
    · exact known

/-- The end of a bootstrap. -/
theorem routine_bootstrapReported (state : State) (query : QueryId) (ok last : Bool) :
    Routine state (state.bootstrapReported query ok last) := by
  unfold bootstrapReported
  dsimp only
  split
  · split
    · exact routine_of_same rfl rfl rfl rfl
    · exact routine_of_line rfl rfl rfl rfl rfl
  · exact Routine.refl state

/-- All of Kademlia's events. -/
theorem routine_kadEvent (env : Env) (state : State) (event : KadEvent) :
    Routine state (state.kadEvent env event) := by
  cases event with
  | routingUpdated peer addresses isNewPeer =>
    cases isNewPeer <;> exact routine_of_same rfl rfl rfl rfl
  | progressed query result last =>
    cases result with
    | getProviders result => exact routine_providersReported env state query result last
    | getClosestPeers peers => exact routine_closestPeersReported env state query peers
    | bootstrap ok => exact routine_bootstrapReported state query ok last
    | other => exact Routine.refl state
  | other => exact Routine.refl state

/-- A response is not counted, whether it answers the call or moves it on. -/
theorem routine_response (env : Env) (state : State) (peer : PeerId) (request : OutboundRequestId)
    (frame : Bytes) : Routine state (state.response env peer request frame) := by
  unfold response
  dsimp only
  split
  · exact Routine.refl state
  · split
    · exact routine_of_same rfl rfl rfl rfl
    · split
      · exact routine_of_line rfl rfl rfl rfl rfl
      · refine Routine.trans ?_ (routine_advance env _ _)
        exact routine_of_same rfl rfl rfl rfl

/-- A failed request moves its call on. -/
theorem routine_outboundFailed (env : Env) (state : State) (peer : PeerId)
    (request : OutboundRequestId) (error : OutboundFailure) :
    Routine state (state.outboundFailed env peer request error) := by
  unfold outboundFailed
  dsimp only
  split
  · exact routine_of_same rfl rfl rfl rfl
  · refine Routine.trans ?_ (routine_advance env _ _)
    exact routine_of_same rfl rfl rfl rfl

/-- A request was counted when it came, not when it ends. -/
theorem routine_inboundEnded (state : State) (request : InboundRequestId) :
    Routine state (state.inboundEnded request) := by
  unfold inboundEnded
  split
  · exact Routine.refl state
  · exact routine_of_same rfl rfl rfl rfl

end State

/-- An event that lets nobody in: no inbound request, no gossip and no change of
who is connected. -/
def SwarmEvent.routine : SwarmEvent → Bool
  | connectionEstablished _ _ _ _ => false
  | connectionClosed _ _ _ => false
  | rpc (.request _ _ _ _ _) => false
  | gossipsub .subscribed => false
  | gossipsub (.message _ _ _) => false
  | _ => true

namespace State

/-- All events but requests, messages, and connections that come and go. -/
theorem routine_swarmEvent (env : Env) (state : State) (event : SwarmEvent)
    (routine : event.routine = true) : Routine state (state.swarmEvent env event) := by
  cases event with
  | newListenAddr listener address => exact routine_newListenAddr env state address
  | expiredListenAddr => exact routine_of_same rfl rfl rfl rfl
  | listenerClosed listener => exact routine_relayLost env state listener
  | listenerError listener => exact routine_relayLost env state listener
  | kad event => exact routine_kadEvent env state event
  | identified peer info => exact routine_identified env state peer info
  | rpc event =>
    cases event with
    | response peer request frame => exact routine_response env state peer request frame
    | outboundFailure peer request error =>
      exact routine_outboundFailed env state peer request error
    | inboundFailure request => exact routine_inboundEnded state request
    | responseSent request => exact routine_inboundEnded state request
    | _ => cases routine
  | gossipsub event =>
    cases event with
    | other => exact Routine.refl state
    | _ => cases routine
  | dcutr peer result => exact routine_holePunched env state peer result
  | autonat status => exact routine_natStatus env state status
  | other => exact Routine.refl state
  | _ => cases routine

/-- The start of the node. -/
theorem routine_ready (env : Env) (state : State) : Routine state (state.ready env) := by
  have told : Routine state (state.emit (reachabilityRecord state.configured)) :=
    routine_of_line rfl rfl rfl rfl rfl
  exact told.trans (routine_provide env _)

/-- A connection is reported when it is the first of its peer. -/
theorem connectionEstablished_spec (env : Env) (state : State) (peer : PeerId)
    (connection : ConnectionId) (numEstablished : Nat) (endpoint : ConnectedPoint) :
    (state.connectionEstablished env peer connection numEstablished endpoint).meter = state.meter ∧
      CountsAlike state (state.connectionEstablished env peer connection numEstablished endpoint) ∧
      (state.connectionEstablished env peer connection numEstablished endpoint).log =
        state.log ++ if numEstablished = 1 then
          [.did (.emit (((EventBuilder.new .peerConnected).node (peerKey env.crates peer)).data
            (env.crates.display endpoint.remoteAddress)))] else [] := by
  unfold connectionEstablished
  dsimp only
  split
  · split <;> split <;> (try split) <;> exact ⟨rfl, rfl, rfl⟩
  · split <;> split <;> (try split) <;> exact ⟨rfl, rfl, (List.append_nil _).symm⟩

/-- Its end is reported when it is the last. -/
theorem connectionClosed_spec (env : Env) (state : State) (peer : PeerId)
    (connection : ConnectionId) (numEstablished : Nat) :
    (state.connectionClosed env peer connection numEstablished).meter = state.meter ∧
      CountsAlike state (state.connectionClosed env peer connection numEstablished) ∧
      (state.connectionClosed env peer connection numEstablished).log =
        state.log ++ if numEstablished = 0 then
          [.did (.emit ((EventBuilder.new .peerDisconnected).node (peerKey env.crates peer)).build)]
          else [] := by
  unfold connectionClosed
  dsimp only
  split
  · exact ⟨rfl, rfl, rfl⟩
  · exact ⟨rfl, rfl, (List.append_nil _).symm⟩

/-- A tick announces and sweeps, and the rest of it is routine. -/
theorem tick_spec (env : Env) (state : State) :
    ∃ reserved lookedUp, Routine state reserved ∧ Routine (reserved.announce env) lookedUp ∧
      Routine (lookedUp.sweepLimits env) (state.tick env) := by
  have timedOut : Routine state
      ((state.expired env).foldl (fun state id => state.failCall id failTimeout) state) :=
    routine_foldl (fun state id => routine_failCall state id failTimeout) _ state
  unfold tick
  dsimp only
  generalize (state.expired env).foldl (fun state id => state.failCall id failTimeout) state = late
    at timedOut ⊢
  refine ⟨late.reserve env, _, timedOut.trans (routine_reserve env late),
    routine_foldl (fun state key => routine_topicLookup env state key)
      (lonely env (announce env (reserve env late))) _, ?_⟩
  exact (routine_provideAgain env _).trans (routine_of_same rfl rfl rfl rfl)

end State

end Libp2pFfi
