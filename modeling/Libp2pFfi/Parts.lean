import Libp2pFfi.EventLoop

/-!
# The parts of the node

Four parts of the state have little to do with each other: where the node is
reached, the inbound requests, the followed topics, and the queries whose
results go to the caller. Each handler works on some of them and leaves the
others alone, both in the state and in the log. `Confined` says which, once for
every handler; a statement about one part then needs to look at the handlers of
that part only.
-/

namespace Libp2pFfi

/-- The parts that have little to do with each other. -/
inductive Part where
  /-- Addresses, relays and reservations. -/
  | network
  /-- The inbound requests. -/
  | inbox
  /-- The followed topics. -/
  | topics
  /-- The queries whose results go to the caller. -/
  | dht
deriving DecidableEq

/-- The part an event belongs to. -/
def EventKind.part? : EventKind → Option Part
  | reachability => some .network
  | rpcRequest => some .inbox
  | dhtResult => some .dht
  | peerDiscovered => some .dht
  | _ => none

/-- The part an effect belongs to. -/
def Effect.part? : Effect → Option Part
  | emit record => record.header.kind.part?
  | listenOn _ _ => some .network
  | removeListener _ => some .network
  | sendResponse _ _ => some .inbox
  | subscribe _ => some .topics
  | unsubscribe _ => some .topics
  | _ => none

/-- An effect that belongs to no other part than these. -/
def Entry.Within (touched : List Part) : Entry → Prop
  | heard _ _ => False
  | did effect => ∀ part, effect.part? = some part → part ∈ touched

/-- Where the node is reached. -/
structure NetworkPart where
  configured : Reachability
  reachability : Reachability
  listening : Finset Multiaddr
  listensOnWildcard : Bool
  externalAddresses : Finset Multiaddr
  relayClient : Bool
  relayCandidates : Table PeerId Multiaddr
  reservations : Table PeerId ListenerId
  relayFailed : Table PeerId Instant
  dialed : Table PeerId Multiaddr
  nextListener : ListenerId

/-- The inbound requests: what waits for an answer, under which ids. -/
structure InboxPart where
  inbound : Table Nat ResponseChannel
  inboundIds : Table InboundRequestId Nat
  inboundSeen : Finset InboundRequestId
  nextId : Nat

/-- The followed topics, with the counter that the callers' threads read. -/
structure TopicsPart where
  topics : Table Key TopicState
  topicMaxSubscriptions : Nat
  topicsSubscribed : Nat

/-- The queries whose results go to the caller, by libp2p's query id. -/
structure DhtPart where
  bootstraps : Table QueryId Nat
  walks : Table QueryId Nat
  providerQueries : Table QueryId Nat

namespace State

/-- What the node knows of where it is reached, the swarm's own share included. -/
def networkPart (state : State) : NetworkPart where
  configured := state.configured
  reachability := state.reachability
  listening := state.listening
  listensOnWildcard := state.listensOnWildcard
  externalAddresses := state.swarm.externalAddresses
  relayClient := state.relayClient
  relayCandidates := state.relayCandidates
  reservations := state.reservations
  relayFailed := state.relayFailed
  dialed := state.dialed
  nextListener := state.swarm.nextListener

/-- The inbound requests of a state. The counter of ids belongs to them, since a request
is reported under its next value. -/
def inboxPart (state : State) : InboxPart where
  inbound := state.inbound
  inboundIds := state.inboundIds
  inboundSeen := state.swarm.inboundSeen
  nextId := state.shared.nextId

/-- The topics of a state, their bound and their counter. -/
def topicsPart (state : State) : TopicsPart where
  topics := state.topics
  topicMaxSubscriptions := state.topicMaxSubscriptions
  topicsSubscribed := state.shared.topicsSubscribed

/-- The caller's queries of a state. -/
def dhtPart (state : State) : DhtPart where
  bootstraps := state.bootstraps
  walks := state.walks
  providerQueries := state.providerQueries

/-- What a handler leaves alone: every part that it does not touch. -/
structure Confined (touched : List Part) (before after : State) : Prop where
  network : .network ∉ touched → after.networkPart = before.networkPart
  inbox : .inbox ∉ touched → after.inboxPart = before.inboxPart
  topics : .topics ∉ touched → after.topicsPart = before.topicsPart
  dht : .dht ∉ touched → after.dhtPart = before.dhtPart
  adds : Adds (Entry.Within touched) before after

/-- The four parts together. -/
structure Parts where
  network : NetworkPart
  inbox : InboxPart
  topics : TopicsPart
  dht : DhtPart
  log : List Entry

/-- All that confinement speaks of. -/
def parts (state : State) : Parts where
  network := state.networkPart
  inbox := state.inboxPart
  topics := state.topicsPart
  dht := state.dhtPart
  log := state.log

/-! Confinement composes. -/

/-- Doing nothing touches nothing. -/
theorem Confined.refl (touched : List Part) (state : State) : Confined touched state state :=
  ⟨fun _ => rfl, fun _ => rfl, fun _ => rfl, fun _ => rfl, Adds.refl _ state⟩

/-- Two steps that touch the same parts, one after the other. -/
theorem Confined.trans {touched : List Part} {first second third : State}
    (left : Confined touched first second) (right : Confined touched second third) :
    Confined touched first third where
  network := fun free => (right.network free).trans (left.network free)
  inbox := fun free => (right.inbox free).trans (left.inbox free)
  topics := fun free => (right.topics free).trans (left.topics free)
  dht := fun free => (right.dht free).trans (left.dht free)
  adds := left.adds.trans right.adds

/-- An effect of some parts is one of more parts. -/
theorem Entry.Within.mono {touched more : List Part} (wider : touched ⊆ more) {entry : Entry}
    (within : entry.Within touched) : entry.Within more := by
  cases entry with
  | heard => exact within
  | did effect => exact fun part belongs => wider (within part belongs)

/-- A step may be said to touch more than it does. -/
theorem Confined.mono {touched more : List Part} (wider : touched ⊆ more) {before after : State}
    (confined : Confined touched before after) : Confined more before after where
  network := fun free => confined.network fun member => free (wider member)
  inbox := fun free => confined.inbox fun member => free (wider member)
  topics := fun free => confined.topics fun member => free (wider member)
  dht := fun free => confined.dht fun member => free (wider member)
  adds := confined.adds.mono fun _ => Entry.Within.mono wider

/-- What touches nothing is confined to anything. -/
theorem Confined.widen {touched : List Part} {before after : State}
    (confined : Confined [] before after) : Confined touched before after :=
  confined.mono (List.nil_subset touched)

/-- Neither does a loop touch more than its body. -/
theorem confined_foldl {α : Type} {touched : List Part} {step : State → α → State}
    (each : ∀ state item, Confined touched state (step state item)) (items : List α)
    (state : State) : Confined touched state (items.foldl step state) := by
  induction items generalizing state with
  | nil => exact Confined.refl touched state
  | cons item rest inductionHypothesis =>
    exact (each state item).trans (inductionHypothesis (step state item))

/-! The smallest confined steps. -/

/-- A step that leaves the four parts and the log as they were is confined to anything. -/
theorem confined_of_parts {touched : List Part} {before after : State}
    (same : after.parts = before.parts) : Confined touched before after := by
  obtain ⟨network, inbox, topics, dht, log⟩ := Parts.mk.inj same
  exact ⟨fun _ => network, fun _ => inbox, fun _ => topics, fun _ => dht, [],
    by rw [log, List.append_nil], by simp⟩

/-- An effect of one part. -/
theorem confined_did {touched : List Part} (state : State) (effect : Effect) {part : Part}
    (own : effect.part? = some part) (member : part ∈ touched) :
    Confined touched state (state.did effect) := by
  refine ⟨fun _ => rfl, fun _ => rfl, fun _ => rfl, fun _ => rfl, Adds.one rfl ?_⟩
  intro other belongs
  rwa [← Option.some.inj (own.symm.trans belongs)]

/-- An event of one part. -/
theorem confined_emit {touched : List Part} (state : State) (record : Record) {part : Part}
    (own : record.header.kind.part? = some part) (member : part ∈ touched) :
    Confined touched state (state.emit record) := by
  refine ⟨fun _ => rfl, fun _ => rfl, fun _ => rfl, fun _ => rfl, Adds.one rfl ?_⟩
  intro other belongs
  rwa [← Option.some.inj (own.symm.trans belongs)]

/-- An event of no part. -/
theorem confined_emit_none {touched : List Part} (state : State) (record : Record)
    (none : record.header.kind.part? = none) : Confined touched state (state.emit record) :=
  ⟨fun _ => rfl, fun _ => rfl, fun _ => rfl, fun _ => rfl,
    Adds.one rfl (by simp [Entry.Within, Effect.part?, none])⟩

/-- A step on where the node is reached. -/
theorem touches_network {before after : State} (inbox : after.inboxPart = before.inboxPart)
    (topics : after.topicsPart = before.topicsPart) (dht : after.dhtPart = before.dhtPart)
    (log : after.log = before.log) : Confined [.network] before after :=
  ⟨by simp, fun _ => inbox, fun _ => topics, fun _ => dht, [], by rw [log, List.append_nil], by simp⟩

/-- A step on the inbound requests. -/
theorem touches_inbox {before after : State} (network : after.networkPart = before.networkPart)
    (topics : after.topicsPart = before.topicsPart) (dht : after.dhtPart = before.dhtPart)
    (log : after.log = before.log) : Confined [.inbox] before after :=
  ⟨fun _ => network, by simp, fun _ => topics, fun _ => dht, [], by rw [log, List.append_nil],
    by simp⟩

/-- A step on the followed topics. -/
theorem touches_topics {before after : State} (network : after.networkPart = before.networkPart)
    (inbox : after.inboxPart = before.inboxPart) (dht : after.dhtPart = before.dhtPart)
    (log : after.log = before.log) : Confined [.topics] before after :=
  ⟨fun _ => network, fun _ => inbox, by simp, fun _ => dht, [], by rw [log, List.append_nil],
    by simp⟩

/-- A step on the caller's queries. -/
theorem touches_dht {before after : State} (network : after.networkPart = before.networkPart)
    (inbox : after.inboxPart = before.inboxPart) (topics : after.topicsPart = before.topicsPart)
    (log : after.log = before.log) : Confined [.dht] before after :=
  ⟨fun _ => network, fun _ => inbox, fun _ => topics, by simp, [], by rw [log, List.append_nil],
    by simp⟩

/-- A step that writes one line, of no part. -/
theorem confined_of_line {touched : List Part} {before after : State} {effect : Effect}
    (same : { after.parts with log := before.log } = before.parts)
    (log : after.log = before.log ++ [.did effect]) (none : effect.part? = none) :
    Confined touched before after := by
  obtain ⟨network, inbox, topics, dht, -⟩ := Parts.mk.inj same
  exact ⟨fun _ => network, fun _ => inbox, fun _ => topics, fun _ => dht,
    Adds.one log (by simp [Entry.Within, none])⟩

/-! Handlers that touch no part. -/

/-- A record put into the DHT is no result that a caller waits for. -/
theorem confined_startProviding (env : Env) (state : State) (key : Bytes) :
    Confined [] state (state.startProviding env key) := by
  unfold startProviding
  split
  · exact confined_of_line rfl rfl rfl
  · exact Confined.refl _ state

/-- Nor is one taken out. -/
theorem confined_stopProviding (state : State) (key : Bytes) :
    Confined [] state (state.stopProviding key) :=
  confined_of_line rfl rfl rfl

/-- Providing the group or a topic does not touch the topics themselves. -/
theorem confined_provide (env : Env) (state : State) : Confined [] state (state.provide env) :=
  (confined_startProviding env state _).trans (confined_of_parts rfl)

/-- The caller's own calls belong to no part. -/
theorem confined_failCall (state : State) (id reason : Nat) :
    Confined [] state (state.failCall id reason) := by
  unfold failCall
  split
  · exact Confined.refl _ state
  · exact confined_of_line rfl rfl rfl

/-- Candidates that cannot be reached are only looked at. -/
theorem confined_passOver (state : State) (id : Nat) (peers : List PeerId) :
    Confined [] state (state.passOver id peers) := by
  refine ⟨fun _ => rfl, fun _ => rfl, fun _ => rfl, fun _ => rfl, _, rfl, ?_⟩
  simp [Entry.Within, Effect.part?]

/-- A call that moves on sends a request, starts a lookup or fails, and none of the
three is a part's. -/
theorem confined_advance (env : Env) (state : State) (id : Nat) :
    Confined [] state (state.advance env id) := by
  have looked (peers : List PeerId) (peer : PeerId) :
      Confined [] state ((state.passOver id peers).lookAt env id peer) :=
    (confined_passOver state id peers).trans (confined_of_line rfl rfl rfl)
  have spec := advance_spec env state id
  generalize state.advance env id = after at spec ⊢
  cases spec with
  | missing => exact Confined.refl _ state
  | busy => exact Confined.refl _ state
  | waits => exact (confined_passOver state id _).trans (confined_of_parts rfl)
  | fails => exact (confined_passOver state id _).trans (confined_of_line rfl rfl rfl)
  | sends => exact (looked _ _).trans (confined_of_line rfl rfl rfl)
  | resolves => exact (looked _ _).trans (confined_of_line rfl rfl rfl)

/-- A call that begins has the peer it names for a candidate, or looks its group up. -/
theorem confined_startCall (env : Env) (state : State) (id : Nat) (group : Key)
    (node : Option Key) (protocol : Nat) (payload : Bytes) (timeout : Duration) :
    Confined [] state (state.startCall env id group node protocol payload timeout) := by
  unfold startCall
  dsimp only
  split
  · split <;> exact confined_of_parts rfl
  · exact confined_of_line rfl rfl rfl

/-- Announcing reads the payload and publishes. -/
theorem confined_announce (env : Env) (state : State) : Confined [] state (state.announce env) := by
  unfold announce
  split
  · split
    · exact Confined.refl _ state
    · dsimp only
      split <;> exact confined_of_line rfl rfl rfl
  · exact Confined.refl _ state

/-- Members of a topic are dialed without a word in the topic's entry. -/
theorem confined_dialTopicMembers (env : Env) (state : State) (dialed : Nat)
    (peers : List PeerId) : Confined [] state (state.dialTopicMembers env dialed peers) := by
  induction peers generalizing state dialed with
  | nil => exact Confined.refl _ state
  | cons peer rest inductionHypothesis =>
    unfold dialTopicMembers
    split
    · exact Confined.refl _ state
    · split
      · exact inductionHypothesis state dialed
      · refine Confined.trans ?_ (inductionHypothesis _ _)
        exact confined_of_line rfl rfl rfl

/-- Publishing on a topic changes neither the topic nor who follows it. -/
theorem confined_topicPublish (env : Env) (state : State) (key : Key) (payload : Bytes) :
    Confined [] state (state.topicPublish env key payload) := by
  unfold topicPublish
  split
  · exact Confined.refl _ state
  · dsimp only
    split <;> exact confined_of_line rfl rfl rfl

/-- A report of the limits belongs to no part. -/
theorem confined_reportLimited (env : Env) (state : State) (group node : Key)
    (protocol reason : Nat) :
    Confined [] state (state.reportLimited env (limitedRecord group node protocol reason)) := by
  unfold reportLimited
  dsimp only
  split
  · exact confined_of_line rfl rfl rfl
  · exact confined_of_parts rfl

/-- A message on a topic is judged and reported, and the topic stays as it is. -/
theorem confined_topicMessage (env : Env) (state : State) (propagationSource : PeerId)
    (message : GossipMessage) :
    Confined [] state (state.topicMessage env propagationSource message).1 := by
  unfold topicMessage
  split
  · exact Confined.refl _ state
  · split
    · exact Confined.refl _ state
    · dsimp only
      split
      · exact Confined.refl _ state
      · split
        · refine Confined.trans ?_ (confined_reportLimited env _ _ _ _ _)
          exact confined_of_parts rfl
        · exact confined_of_line rfl rfl rfl

/-- So is an announcement. -/
theorem confined_announcementMessage (env : Env) (state : State) (message : GossipMessage) :
    Confined [] state (state.announcementMessage env message).1 := by
  unfold announcementMessage
  split
  · exact Confined.refl _ state
  · dsimp only
    split
    · exact Confined.refl _ state
    · split
      · exact confined_of_line rfl rfl rfl
      · exact confined_of_parts rfl

/-- Whatever gossipsub says touches no part. -/
theorem confined_gossipsubEvent (env : Env) (state : State) (event : GossipEvent) :
    Confined [] state (state.gossipsubEvent env event) := by
  cases event with
  | subscribed => exact confined_announce env state
  | message propagationSource id message =>
    unfold gossipsubEvent
    dsimp only
    split
    · exact (confined_topicMessage env state propagationSource message).trans
        (confined_of_line rfl rfl rfl)
    · exact (confined_announcementMessage env state message).trans (confined_of_line rfl rfl rfl)
  | other => exact Confined.refl _ state

/-- A response ends the call it is for, or moves it on. -/
theorem confined_response (env : Env) (state : State) (peer : PeerId) (request : OutboundRequestId)
    (frame : Bytes) : Confined [] state (state.response env peer request frame) := by
  unfold response
  dsimp only
  split
  · exact Confined.refl _ state
  · split
    · exact confined_of_parts rfl
    · split
      · exact confined_of_line rfl rfl rfl
      · refine Confined.trans ?_ (confined_advance env _ _)
        exact confined_of_parts rfl

/-- A request that fails moves its call on to the next candidate. -/
theorem confined_outboundFailed (env : Env) (state : State) (peer : PeerId)
    (request : OutboundRequestId) (error : OutboundFailure) :
    Confined [] state (state.outboundFailed env peer request error) := by
  unfold outboundFailed
  dsimp only
  split
  · exact confined_of_parts rfl
  · refine Confined.trans ?_ (confined_advance env _ _)
    exact confined_of_parts rfl

/-- A sample of the routing table moves its own offset only. -/
theorem confined_routingSample (env : Env) (state : State) (max : Nat) :
    Confined [] state (state.routingSample env max).1 := by
  unfold routingSample
  dsimp only
  split
  · exact Confined.refl _ state
  · exact confined_of_parts rfl

/-- Whether a hole was punched is reported, and no more. -/
theorem confined_holePunched (env : Env) (state : State) (peer : PeerId)
    (result : Except Bytes ConnectionId) : Confined [] state (state.holePunched env peer result) := by
  cases result with
  | ok connection => exact confined_of_line rfl rfl rfl
  | error text => exact confined_of_line rfl rfl rfl

/-- An address the caller gives goes into the swarm's book. -/
theorem confined_addAddress (env : Env) (state : State) (node : Key) (address : Multiaddr) :
    Confined [] state (state.addAddress env node address) := by
  unfold addAddress
  split
  · exact Confined.refl _ state
  · exact confined_of_line rfl rfl rfl

/-- The limits belong to no part. -/
theorem confined_sweepLimits (env : Env) (state : State) :
    Confined [] state (state.sweepLimits env) := by
  unfold sweepLimits
  split
  · exact confined_of_parts rfl
  · exact Confined.refl _ state

/-- Records that have to be published again are the swarm's. -/
theorem confined_provideAgain (env : Env) (state : State) :
    Confined [] state (state.provideAgain env) := by
  unfold provideAgain
  split
  · exact confined_provide env state
  · exact Confined.refl _ state

/-! Where the node is reached. -/

/-- Reservations at relays are where the node is reached. -/
theorem confined_reserve (env : Env) (state : State) :
    Confined [.network] state (state.reserve env) := by
  have each (state : State) (candidate : PeerId × Multiaddr) :
      Confined [.network] state (state.reserveOn env candidate) := by
    unfold reserveOn
    dsimp only
    split
    · exact Confined.refl _ state
    · split
      · refine Confined.trans ?_ (confined_did _ (.listenOn _ _) rfl (by simp))
        exact touches_network rfl rfl rfl rfl
      · refine Confined.trans ?_ (confined_did _ (.listenOn _ _) rfl (by simp))
        exact touches_network rfl rfl rfl rfl
  unfold reserve
  split
  · exact Confined.refl _ state
  · exact confined_foldl each _ state

/-- A node that turns private stops announcing its direct addresses and reserves at
relays. One that turns public releases the relays. -/
theorem confined_switchReachability (env : Env) (state : State) (next : Reachability) :
    Confined [.network] state (state.switchReachability env next) := by
  have released (items : List (PeerId × ListenerId)) (state : State) :
      Confined [.network] state
        (items.foldl (fun state reservation => state.did (.removeListener reservation.2)) state) := by
    apply confined_foldl
    exact fun state reservation =>
      confined_did state (.removeListener reservation.2) rfl (by simp)
  unfold switchReachability
  dsimp only
  split
  · refine Confined.trans ?_ (confined_reserve env _)
    exact touches_network rfl rfl rfl rfl
  · split
    · have restored : Confined [.network] state (State.keepExternal { state with
          reachability := next
          swarm := { state.swarm with
            externalAddresses := state.swarm.externalAddresses ∪ state.listening.filter fun address =>
              !(state.listensOnWildcard && isLoopback address) } }
          fun address => !isRelayed address) := touches_network rfl rfl rfl rfl
      exact (restored.trans (released _ _)).trans (touches_network rfl rfl rfl rfl)
    · exact touches_network rfl rfl rfl rfl

/-- AutoNAT's verdict may switch the reachability. -/
theorem confined_natStatus (env : Env) (state : State) (status : NatStatus) :
    Confined [.network] state (state.natStatus env status) := by
  have turned (next : Reachability) :
      Confined [.network] state (natStatus.turnTo env state next) := by
    unfold natStatus.turnTo
    split
    · exact Confined.refl _ state
    · refine Confined.trans ?_ (confined_emit _ _ rfl (by simp))
      exact (confined_switchReachability env state next).trans (confined_of_line rfl rfl rfl)
  unfold natStatus
  split
  · exact Confined.refl _ state
  · split
    · exact Confined.refl _ state
    · exact turned _
    · exact turned _

/-- A listener that closes may have been a reservation. -/
theorem confined_relayLost (env : Env) (state : State) (listener : ListenerId) :
    Confined [.network] state (state.relayLost env listener) := by
  apply confined_foldl
  exact fun _ _ => touches_network rfl rfl rfl rfl

/-- What a peer says of itself may make it a relay to reserve at. -/
theorem confined_identified (env : Env) (state : State) (peer : PeerId) (info : IdentifyInfo) :
    Confined [.network] state (state.identified env peer info) := by
  have offered : Confined [.network] state (state.offerRelay peer info) := by
    unfold offerRelay
    split
    · split
      · exact touches_network rfl rfl rfl rfl
      · exact Confined.refl _ state
    · exact Confined.refl _ state
  have known : Confined [.network] state
      ((state.offerRelay peer info).addAddresses peer info.listenAddrs) :=
    offered.trans (confined_of_parts rfl)
  unfold identified
  dsimp only
  refine Confined.trans ?_ (confined_reserve env _)
  split
  · refine known.trans (confined_foldl ?_ _ _)
    exact fun state address => confined_of_line rfl rfl rfl
  · exact known

/-- A new address is listened on, and announced where the node is public. -/
theorem confined_newListenAddr (env : Env) (state : State) (address : Multiaddr) :
    Confined [.network] state (state.newListenAddr env address) := by
  have noted : Confined [.network] state (state.noteListenAddr env address) := by
    unfold noteListenAddr
    dsimp only
    split
    · have external : Confined [.network] state (state.addExternalAddress address) :=
        touches_network rfl rfl rfl rfl
      exact external.trans (confined_of_line rfl rfl rfl)
    · split
      · exact touches_network rfl rfl rfl rfl
      · exact Confined.refl _ state
  unfold newListenAddr
  dsimp only
  refine Confined.trans ?_ (confined_emit_none _ _ rfl)
  split
  · exact noted.trans (touches_network rfl rfl rfl rfl)
  · exact noted

/-- The address a peer was dialed on is kept for a reservation there. -/
theorem confined_connectionEstablished (env : Env) (state : State) (peer : PeerId)
    (connection : ConnectionId) (numEstablished : Nat) (endpoint : ConnectedPoint) :
    Confined [.network] state
      (state.connectionEstablished env peer connection numEstablished endpoint) := by
  unfold connectionEstablished
  dsimp only
  split
  · refine Confined.trans ?_ (confined_emit_none _ _ rfl)
    split <;> split <;> (try split) <;> exact touches_network rfl rfl rfl rfl
  · split <;> split <;> (try split) <;> exact touches_network rfl rfl rfl rfl

/-- The last connection of a peer takes that address with it. -/
theorem confined_connectionClosed (env : Env) (state : State) (peer : PeerId)
    (connection : ConnectionId) (numEstablished : Nat) :
    Confined [.network] state (state.connectionClosed env peer connection numEstablished) := by
  unfold connectionClosed
  dsimp only
  split
  · refine Confined.trans ?_ (confined_emit_none _ _ rfl)
    exact touches_network rfl rfl rfl rfl
  · exact confined_of_parts rfl

/-- The first event tells the configured reachability. -/
theorem confined_ready (env : Env) (state : State) : Confined [.network] state (state.ready env) :=
  (confined_emit state (reachabilityRecord state.configured) rfl (by simp)).trans
    (confined_provide env _).widen

/-! The inbound requests. -/

/-- A request that is admitted waits under a new id. One that is refused at most reports
the limits. -/
theorem confined_inboundRequest (env : Env) (state : State) (peer : PeerId)
    (connection : ConnectionId) (request : InboundRequestId) (frame : Bytes)
    (channel : ResponseChannel) :
    Confined [.inbox] state (state.inboundRequest env peer connection request frame channel) := by
  unfold inboundRequest
  dsimp only
  split
  · exact Confined.refl _ state
  · split
    · refine Confined.trans ?_ (confined_reportLimited env _ _ _ _ _).widen
      exact confined_of_parts rfl
    · rename_i node group protocol payload _ _ limits _
      have admitted : Confined [.inbox] state
          { state with
            limits
            shared :=
              { state.shared with
                nextId := state.shared.nextId + 1, rpcIn := state.shared.rpcIn + 1 } } :=
        touches_inbox rfl rfl rfl rfl
      have reported := admitted.trans (confined_emit _
        (rpcRequest state.shared.nextId group node protocol payload) rfl (by simp))
      exact reported.trans (touches_inbox rfl rfl rfl rfl)

/-- libp2p's word that a request is over takes it off the tables. -/
theorem confined_inboundEnded (state : State) (request : InboundRequestId) :
    Confined [.inbox] state (state.inboundEnded request) := by
  unfold inboundEnded
  split
  · exact Confined.refl _ state
  · exact touches_inbox rfl rfl rfl rfl

/-- An answer goes out on the channel its request waits with. -/
theorem confined_respond (state : State) (id : Nat) (payload : Bytes) :
    Confined [.inbox] state (state.respond id payload) := by
  unfold respond
  split
  · exact Confined.refl _ state
  · refine Confined.trans ?_ (confined_did _ (.sendResponse _ _) rfl (by simp))
    exact touches_inbox rfl rfl rfl rfl

/-! The followed topics. -/

/-- A lookup notes its time in the topic's entry. -/
theorem confined_topicLookup (env : Env) (state : State) (key : Key) :
    Confined [.topics] state (state.topicLookup env key) := by
  unfold topicLookup
  dsimp only
  split
  · exact confined_of_line rfl rfl rfl
  · have asked : Confined [.topics] state
        (state.getProviders (Wire.providerKey env.crates key) (.topic key)) :=
      confined_of_line rfl rfl rfl
    exact asked.trans (touches_topics rfl rfl rfl rfl)

/-- A new topic is subscribed to, provided and looked up. -/
theorem confined_topicSubscribe (env : Env) (state : State) (key : Key) :
    Confined [.topics] state (state.topicSubscribe env key) := by
  unfold topicSubscribe
  dsimp only
  split
  · exact Confined.refl _ state
  · split
    · exact Confined.refl _ state
    · refine Confined.trans ?_ (confined_topicLookup env _ key)
      refine Confined.trans ?_ (confined_startProviding env _ _).widen
      refine (confined_did state (.subscribe (Wire.topicName key)) rfl (by simp)).trans ?_
      exact touches_topics rfl rfl rfl rfl

/-- A topic that is left takes its entry along. -/
theorem confined_topicUnsubscribe (env : Env) (state : State) (key : Key) :
    Confined [.topics] state (state.topicUnsubscribe env key) := by
  unfold topicUnsubscribe
  dsimp only
  split
  · exact Confined.refl _ state
  · rename_i topic followed
    have left : Confined [.topics] state { state with
        topics := state.topics.erase key
        topicKeys := state.topicKeys.erase topic.topic } := touches_topics rfl rfl rfl rfl
    have stopped := (left.trans (confined_did _ (.unsubscribe topic.topic) rfl (by simp))).trans
      (confined_stopProviding _ (Wire.providerKey env.crates key)).widen
    exact stopped.trans (touches_topics rfl rfl rfl rfl)

/-- A tick reserves on relays and looks topics up. -/
theorem confined_tick (env : Env) (state : State) :
    Confined [.network, .topics] state (state.tick env) := by
  have timedOut : Confined [] state
      ((state.expired env).foldl (fun state id => state.failCall id failTimeout) state) := by
    apply confined_foldl
    exact fun state id => confined_failCall state id failTimeout
  unfold tick
  dsimp only
  generalize (state.expired env).foldl (fun state id => state.failCall id failTimeout) state = late
    at timedOut ⊢
  have reserved : Confined [.network, .topics] state (late.reserve env) :=
    timedOut.widen.trans ((confined_reserve env late).mono (by simp))
  have announced := reserved.trans (confined_announce env _).widen
  have each (state : State) (key : Key) :
      Confined [.network, .topics] state (state.topicLookup env key) :=
    (confined_topicLookup env state key).mono (by simp)
  have lookedUp := announced.trans
    (confined_foldl each (lonely env (announce env (reserve env late))) _)
  have swept := lookedUp.trans (confined_sweepLimits env _).widen
  exact (swept.trans (confined_provideAgain env _).widen).trans (confined_of_parts rfl)

/-! The caller's queries. -/

/-- A bootstrap that cannot start is reported at once. -/
theorem confined_bootstrap (env : Env) (state : State) (id : Nat) :
    Confined [.dht] state (state.bootstrap env id) := by
  unfold bootstrap
  split
  · have begun : Confined [.dht] state ((state.beginQuery (.bootstrap id)).did
        (.bootstrap state.swarm.nextQuery (.bootstrap id))) := confined_of_line rfl rfl rfl
    exact begun.trans (touches_dht rfl rfl rfl rfl)
  · exact confined_emit _ _ rfl (by simp)

/-- A walk asks for the peers closest to a random one. -/
theorem confined_randomWalk (env : Env) (state : State) (id : Nat) :
    Confined [.dht] state (state.randomWalk env id) := by
  have asked : Confined [.dht] state (state.getClosestPeers env.randomPeer (.walk id)) :=
    confined_of_line rfl rfl rfl
  exact asked.trans (touches_dht rfl rfl rfl rfl)

/-- Providers of a key are asked for under the caller's id. -/
theorem confined_findProviders (env : Env) (state : State) (id : Nat) (key : Key) :
    Confined [.dht] state (state.findProviders env id key) := by
  have asked : Confined [.dht] state
      (state.getProviders (Wire.providerKey env.crates key) (.find id)) :=
    confined_of_line rfl rfl rfl
  exact asked.trans (touches_dht rfl rfl rfl rfl)

/-- Providers found for a topic are dialed. They are no result of the caller's. -/
theorem confined_topicProviders (env : Env) (state : State) (query : QueryId)
    (result : GetProvidersResult) (last : Bool) :
    Confined [] state (state.topicProviders env query result last) := by
  have dialed := confined_dialTopicMembers env state 0 (providersFound result)
  unfold topicProviders
  dsimp only
  split
  · exact dialed.trans (confined_of_parts rfl)
  · exact dialed

/-- Providers found for the caller are reported one by one, and the last report ends the
query. -/
theorem confined_callerProviders (env : Env) (state : State) (query : QueryId) (id : Nat)
    (result : GetProvidersResult) (last : Bool) :
    Confined [.dht] state (state.callerProviders env query id result last) := by
  have each (state : State) (provider : PeerId) : Confined [.dht] state (state.emit
      (discovered env.crates id provider (state.swarm.addressBook.addressesOf provider))) :=
    confined_emit _ _ rfl (by simp)
  have reported := confined_foldl each (providersFound result) state
  unfold callerProviders
  dsimp only
  split
  · refine Confined.trans ?_ (confined_emit _ (dhtResult id 0) rfl (by simp))
    exact reported.trans (touches_dht rfl rfl rfl rfl)
  · exact reported

/-- Providers found for a call are its candidates. -/
theorem confined_callProviders (env : Env) (state : State) (query : QueryId) (id : Nat)
    (result : GetProvidersResult) (last : Bool) :
    Confined [] state (state.callProviders env query id result last) := by
  refine Confined.trans ?_ (confined_advance env _ id)
  exact confined_of_parts rfl

/-- A lookup of providers is a topic's, the caller's, or a call's. The handler asks in
this order. -/
theorem confined_providersReported (env : Env) (state : State) (query : QueryId)
    (result : GetProvidersResult) (last : Bool) :
    Confined [.dht] state (state.providersReported env query result last) := by
  unfold providersReported
  split
  · exact (confined_topicProviders env state query result last).widen
  · split
    · exact confined_callerProviders env state query _ result last
    · split
      · exact (confined_callProviders env state query _ result last).widen
      · exact Confined.refl _ state

/-- A walk reports each peer and ends. -/
theorem confined_walked (env : Env) (state : State) (query : QueryId) (id : Nat)
    (peers : List PeerInfo) : Confined [.dht] state (state.walked env query id peers) := by
  have each (state : State) (info : PeerInfo) :
      Confined [.dht] state (state.emit (discovered env.crates id info.peer info.addrs)) :=
    confined_emit _ _ rfl (by simp)
  have dropped : Confined [.dht] state { state with walks := state.walks.erase query } :=
    touches_dht rfl rfl rfl rfl
  exact (dropped.trans (confined_foldl each peers _)).trans (confined_emit _ _ rfl (by simp))

/-- A lookup of closest peers was made for a call or for a walk. Either way the
addresses are learnt. -/
theorem confined_closestPeersReported (env : Env) (state : State) (query : QueryId)
    (peers : List PeerInfo) :
    Confined [.dht] state (state.closestPeersReported env query peers) := by
  have each (state : State) (info : PeerInfo) :
      Confined [.dht] state (state.addAddresses info.peer info.addrs) :=
    confined_of_parts rfl
  have known := confined_foldl each peers state
  unfold closestPeersReported
  dsimp only
  split
  · refine known.trans (Confined.widen (Confined.trans ?_ (confined_advance env _ _)))
    exact confined_of_parts rfl
  · split
    · exact known.trans (confined_walked env _ query _ peers)
    · exact known

/-- Only the last report of a bootstrap counts. -/
theorem confined_bootstrapReported (state : State) (query : QueryId) (ok last : Bool) :
    Confined [.dht] state (state.bootstrapReported query ok last) := by
  unfold bootstrapReported
  dsimp only
  split
  · split
    · exact confined_of_parts rfl
    · rename_i id owned
      have dropped : Confined [.dht] state
          { state with bootstraps := state.bootstraps.erase query } :=
        touches_dht rfl rfl rfl rfl
      have reported := dropped.trans
        (confined_emit _ (dhtResult id (if ok then 0 else failTimeout)) rfl (by simp))
      exact reported.trans (confined_of_parts rfl)
  · exact Confined.refl _ state

end State

/-! What a whole round of the event loop touches. -/

/-- The part a command is for. -/
def Command.parts : Command → List Part
  | respond _ _ => [.inbox]
  | reject _ => [.inbox]
  | bootstrap _ => [.dht]
  | randomWalk _ => [.dht]
  | findProviders _ _ => [.dht]
  | topicSubscribe _ => [.topics]
  | topicUnsubscribe _ => [.topics]
  | _ => []

/-- The part an event of the swarm is for. -/
def SwarmEvent.parts : SwarmEvent → List Part
  | newListenAddr _ _ => [.network]
  | expiredListenAddr _ _ => [.network]
  | listenerClosed _ => [.network]
  | listenerError _ => [.network]
  | connectionEstablished _ _ _ _ => [.network]
  | connectionClosed _ _ _ => [.network]
  | identified _ _ => [.network]
  | autonat _ => [.network]
  | kad (.progressed _ _ _) => [.dht]
  | rpc (.request _ _ _ _ _) => [.inbox]
  | rpc (.inboundFailure _) => [.inbox]
  | rpc (.responseSent _) => [.inbox]
  | _ => []

/-- The parts an input is for. The tick alone is for two. -/
def Input.parts : Input → List Part
  | command sent => sent.parts
  | tick => [.network, .topics]
  | swarm event => event.parts

namespace State

/-- A command touches the part it is for. -/
theorem confined_command (env : Env) (state : State) (command : Command) :
    Confined command.parts state (state.command env command) := by
  cases command with
  | rpc id group node protocol payload timeout =>
    exact (confined_startCall env state id group node protocol payload timeout).trans
      (confined_advance env _ id)
  | respond id payload => exact confined_respond state id payload
  | reject => exact touches_inbox rfl rfl rfl rfl
  | addAddress node address => exact confined_addAddress env state node address
  | bootstrap id => exact confined_bootstrap env state id
  | randomWalk id => exact confined_randomWalk env state id
  | setClass => exact confined_of_parts rfl
  | announceSetPayload payload =>
    refine Confined.trans ?_ (confined_announce env _)
    exact confined_of_parts rfl
  | setLimit => exact confined_of_parts rfl
  | topicSubscribe key => exact confined_topicSubscribe env state key
  | topicUnsubscribe key => exact confined_topicUnsubscribe env state key
  | topicPublish key payload => exact confined_topicPublish env state key payload
  | topicPeers => exact confined_of_line rfl rfl rfl
  | provide key stop =>
    unfold State.command
    dsimp only
    split
    · exact confined_stopProviding state _
    · exact confined_startProviding env state _
  | findProviders id key => exact confined_findProviders env state id key
  | routingSample max =>
    exact (confined_routingSample env state max).trans (confined_of_line rfl rfl rfl)
  | shutdown => exact Confined.refl _ state

/-- So does an event of the swarm. -/
theorem confined_swarmEvent (env : Env) (state : State) (event : SwarmEvent) :
    Confined event.parts state (state.swarmEvent env event) := by
  cases event with
  | newListenAddr listener address => exact confined_newListenAddr env state address
  | expiredListenAddr => exact touches_network rfl rfl rfl rfl
  | listenerClosed listener => exact confined_relayLost env state listener
  | listenerError listener => exact confined_relayLost env state listener
  | connectionEstablished peer connection numEstablished endpoint =>
    exact confined_connectionEstablished env state peer connection numEstablished endpoint
  | connectionClosed peer connection numEstablished =>
    exact confined_connectionClosed env state peer connection numEstablished
  | kad event =>
    cases event with
    | routingUpdated peer addresses isNewPeer =>
      cases isNewPeer <;> exact confined_of_parts rfl
    | progressed query result last =>
      cases result with
      | getProviders result => exact confined_providersReported env state query result last
      | getClosestPeers peers => exact confined_closestPeersReported env state query peers
      | bootstrap ok => exact confined_bootstrapReported state query ok last
      | other => exact Confined.refl _ state
    | other => exact Confined.refl _ state
  | identified peer info => exact confined_identified env state peer info
  | rpc event =>
    cases event with
    | request peer connection request frame channel =>
      exact confined_inboundRequest env state peer connection request frame channel
    | response peer request frame => exact confined_response env state peer request frame
    | outboundFailure peer request error =>
      exact confined_outboundFailed env state peer request error
    | inboundFailure request => exact confined_inboundEnded state request
    | responseSent request => exact confined_inboundEnded state request
  | gossipsub event => exact confined_gossipsubEvent env state event
  | dcutr peer result => exact confined_holePunched env state peer result
  | autonat status => exact confined_natStatus env state status
  | other => exact Confined.refl _ state

/-- A round of the event loop touches the parts its input is for. -/
theorem confined_handle (env : Env) (state : State) (input : Input) :
    Confined input.parts (state.heard env.nowMs input) (state.handle env input) := by
  cases input with
  | command command => exact confined_command env _ command
  | tick => exact confined_tick env _
  | swarm event => exact confined_swarmEvent env _ event

end State

end Libp2pFfi
