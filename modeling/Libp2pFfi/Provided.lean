import Libp2pFfi.Outcomes

/-!
# What the node provides

A node is found in the DHT under its group, under every topic it follows, and
under every key its caller asked it to provide. These are three reasons to
provide a key, and libp2p's store keeps one record per key, not one per reason.
Leaving a topic and the caller's stop both drop the record, whoever else relies
on it.

Nothing but these two commands takes a record away, so a run keeps everything
findable exactly if none of them is given for a key that is still needed.
-/

namespace Libp2pFfi

/-- What decides which records are needed, and the records there are. -/
structure Offer where
  group : Key
  topics : Table Key TopicState
  provided : Finset Bytes

namespace State

/-- What a state offers. -/
def offer (state : State) : Offer := ⟨state.group, state.topics, state.swarm.provided⟩

/-! Most handlers have nothing to do with it. -/

/-- An effect alone offers nothing. -/
@[simp] theorem offer_did (state : State) (effect : Effect) : (state.did effect).offer = state.offer :=
  rfl

/-- Nor does an event. -/
@[simp] theorem offer_emit (state : State) (record : Record) :
    (state.emit record).offer = state.offer :=
  rfl

/-- A call is answered or fails, and what the node offers stays. -/
@[simp] theorem offer_failCall (state : State) (id reason : Nat) :
    (state.failCall id reason).offer = state.offer := by
  unfold failCall
  split <;> rfl

/-- Calls look records up and leave them. -/
@[simp] theorem offer_advance (env : Env) (state : State) (id : Nat) :
    (state.advance env id).offer = state.offer := by
  have spec := advance_spec env state id
  generalize state.advance env id = after at spec ⊢
  cases spec <;> rfl

/-- A call that begins looks its group's record up. -/
@[simp] theorem offer_startCall (env : Env) (state : State) (id : Nat) (group : Key)
    (node : Option Key) (protocol : Nat) (payload : Bytes) (timeout : Duration) :
    (state.startCall env id group node protocol payload timeout).offer = state.offer := by
  unfold startCall
  dsimp only
  split
  · split <;> rfl
  · rfl

/-- A reservation is announced as an address, not as a record. -/
@[simp] theorem offer_reserve (env : Env) (state : State) :
    (state.reserve env).offer = state.offer := by
  have each (state : State) (candidate : PeerId × Multiaddr) :
      (state.reserveOn env candidate).offer = state.offer := by
    unfold reserveOn
    dsimp only
    split
    · rfl
    · split <;> rfl
  unfold reserve
  split
  · rfl
  · exact Runs.unchanged _ state offer each _

/-- An announcement goes over gossipsub. -/
@[simp] theorem offer_announce (env : Env) (state : State) :
    (state.announce env).offer = state.offer := by
  unfold announce
  split
  · split
    · rfl
    · dsimp only
      split <;> rfl
  · rfl

/-- Members of a topic are dialed. -/
@[simp] theorem offer_dialTopicMembers (env : Env) (state : State) (dialed : Nat)
    (peers : List PeerId) : (state.dialTopicMembers env dialed peers).offer = state.offer := by
  induction peers generalizing state dialed with
  | nil => rfl
  | cons peer rest inductionHypothesis =>
    unfold dialTopicMembers
    split
    · rfl
    · split
      · exact inductionHypothesis state dialed
      · exact inductionHypothesis _ _

/-- A message on a topic is no record. -/
@[simp] theorem offer_topicPublish (env : Env) (state : State) (key : Key) (payload : Bytes) :
    (state.topicPublish env key payload).offer = state.offer := by
  unfold topicPublish
  split
  · rfl
  · dsimp only
    split <;> rfl

/-- Nor is a report. -/
@[simp] theorem offer_reportLimited (env : Env) (state : State) (record : Record) :
    (state.reportLimited env record).offer = state.offer := by
  unfold reportLimited
  dsimp only
  split <;> rfl

/-- What others publish changes nothing of what this node offers. -/
@[simp] theorem offer_topicMessage (env : Env) (state : State) (propagationSource : PeerId)
    (message : GossipMessage) :
    (state.topicMessage env propagationSource message).1.offer = state.offer := by
  unfold topicMessage
  split
  · rfl
  · split
    · rfl
    · dsimp only
      split
      · rfl
      · split
        · exact offer_reportLimited env _ _
        · rfl

/-- Nor does what they announce. -/
@[simp] theorem offer_announcementMessage (env : Env) (state : State) (message : GossipMessage) :
    (state.announcementMessage env message).1.offer = state.offer := by
  unfold announcementMessage
  split
  · rfl
  · dsimp only
    split
    · rfl
    · split <;> rfl

/-- All of gossipsub's events. -/
@[simp] theorem offer_gossipsubEvent (env : Env) (state : State) (event : GossipEvent) :
    (state.gossipsubEvent env event).offer = state.offer := by
  cases event with
  | subscribed => exact offer_announce env state
  | message propagationSource id message =>
    unfold gossipsubEvent
    dsimp only
    split <;> simp
  | other => rfl

/-- A private node keeps its records. What changes is the address in them, so that they
are due again. -/
@[simp] theorem offer_natStatus (env : Env) (state : State) (status : NatStatus) :
    (state.natStatus env status).offer = state.offer := by
  have released (items : List (PeerId × ListenerId)) (state : State) :
      (items.foldl (fun state reservation => state.did (.removeListener reservation.2)) state).offer =
        state.offer := by
    apply Runs.unchanged _ state offer
    exact fun _ _ => rfl
  have switched (next : Reachability) :
      (state.switchReachability env next).offer = state.offer := by
    unfold switchReachability
    dsimp only
    split
    · exact offer_reserve env _
    · split
      · exact released _ _
      · rfl
  have turned (next : Reachability) : (natStatus.turnTo env state next).offer = state.offer := by
    unfold natStatus.turnTo
    split
    · rfl
    · exact switched next
  unfold natStatus
  split
  · rfl
  · split
    · rfl
    · exact turned _
    · exact turned _

/-- So with a relay that is lost. -/
@[simp] theorem offer_relayLost (env : Env) (state : State) (listener : ListenerId) :
    (state.relayLost env listener).offer = state.offer := by
  apply Runs.unchanged _ state offer
  exact fun _ _ => rfl

/-- What a peer says of itself. -/
@[simp] theorem offer_identified (env : Env) (state : State) (peer : PeerId) (info : IdentifyInfo) :
    (state.identified env peer info).offer = state.offer := by
  have offered : (state.offerRelay peer info).offer = state.offer := by
    unfold offerRelay
    split
    · split <;> rfl
    · rfl
  unfold identified
  dsimp only
  rw [offer_reserve]
  split
  · rw [Runs.unchanged _ _ offer fun state address => offer_did state (.addAddress peer address)]
    exact offered
  · exact offered

/-- A new address makes the record due. -/
@[simp] theorem offer_newListenAddr (env : Env) (state : State) (address : Multiaddr) :
    (state.newListenAddr env address).offer = state.offer := by
  have noted : (state.noteListenAddr env address).offer = state.offer := by
    unfold noteListenAddr
    split
    · rfl
    · split <;> rfl
  unfold newListenAddr
  dsimp only
  rw [offer_emit]
  split
  · exact noted
  · exact noted

/-- Connections come without a word on records. -/
@[simp] theorem offer_connectionEstablished (env : Env) (state : State) (peer : PeerId)
    (connection : ConnectionId) (numEstablished : Nat) (endpoint : ConnectedPoint) :
    (state.connectionEstablished env peer connection numEstablished endpoint).offer =
      state.offer := by
  unfold connectionEstablished
  dsimp only
  split
  · rw [offer_emit]
    split <;> split <;> try rfl
    all_goals split <;> rfl
  · split <;> split <;> try rfl
    all_goals split <;> rfl

/-- And so they go. -/
@[simp] theorem offer_connectionClosed (env : Env) (state : State) (peer : PeerId)
    (connection : ConnectionId) (numEstablished : Nat) :
    (state.connectionClosed env peer connection numEstablished).offer = state.offer := by
  unfold connectionClosed
  dsimp only
  split <;> rfl

/-- Requests of others are answered or refused. -/
@[simp] theorem offer_inboundRequest (env : Env) (state : State) (peer : PeerId)
    (connection : ConnectionId) (request : InboundRequestId) (frame : Bytes)
    (channel : ResponseChannel) :
    (state.inboundRequest env peer connection request frame channel).offer = state.offer := by
  unfold inboundRequest
  dsimp only
  split
  · rfl
  · split
    · exact offer_reportLimited env _ _
    · rfl

/-- Providers that are found are others. -/
@[simp] theorem offer_callerProviders (env : Env) (state : State) (query : QueryId) (id : Nat)
    (result : GetProvidersResult) (last : Bool) :
    (state.callerProviders env query id result last).offer = state.offer := by
  have reported (providers : List PeerId) : (providers.foldl
      (fun state provider => state.emit
        (discovered env.crates id provider (state.swarm.addressBook.addressesOf provider)))
      state).offer = state.offer := by
    apply Runs.unchanged _ state offer
    exact fun _ _ => rfl
  unfold callerProviders
  dsimp only
  split
  · exact reported _
  · exact reported _

/-- All three kinds of lookup. -/
@[simp] theorem offer_providersReported (env : Env) (state : State) (query : QueryId)
    (result : GetProvidersResult) (last : Bool) :
    (state.providersReported env query result last).offer = state.offer := by
  unfold providersReported
  split
  · unfold topicProviders
    dsimp only
    split <;> exact offer_dialTopicMembers env state 0 _
  · split
    · exact offer_callerProviders env state query _ result last
    · split
      · exact offer_advance env _ _
      · rfl

/-- A walk meets peers, not records. -/
@[simp] theorem offer_walked (env : Env) (state : State) (query : QueryId) (id : Nat)
    (peers : List PeerInfo) : (state.walked env query id peers).offer = state.offer := by
  have dropped : { state with walks := state.walks.erase query }.offer = state.offer := rfl
  rw [walked, offer_emit, ← dropped]
  apply Runs.unchanged _ _ offer
  exact fun _ _ => rfl

/-- Nor does a lookup of peers. -/
@[simp] theorem offer_closestPeersReported (env : Env) (state : State) (query : QueryId)
    (peers : List PeerInfo) : (state.closestPeersReported env query peers).offer = state.offer := by
  have known : (peers.foldl (fun state info => state.addAddresses info.peer info.addrs)
      state).offer = state.offer := by
    apply Runs.unchanged _ state offer
    exact fun _ _ => rfl
  unfold closestPeersReported
  dsimp only
  split
  · exact (offer_advance env _ _).trans known
  · split
    · exact (offer_walked env _ query _ peers).trans known
    · exact known

/-- All of Kademlia's events. That a record is due is not yet that it is published. -/
@[simp] theorem offer_kadEvent (env : Env) (state : State) (event : KadEvent) :
    (state.kadEvent env event).offer = state.offer := by
  cases event with
  | routingUpdated peer addresses isNewPeer => cases isNewPeer <;> rfl
  | progressed query result last =>
    cases result with
    | getProviders found => exact offer_providersReported env state query found last
    | getClosestPeers peers => exact offer_closestPeersReported env state query peers
    | bootstrap ok =>
      unfold kadEvent bootstrapReported
      dsimp only
      split
      · split <;> rfl
      · rfl
    | other => rfl
  | other => rfl

/-- All events of the request-response behaviour. -/
@[simp] theorem offer_rpcEvent (env : Env) (state : State) (event : RpcEvent) :
    (state.rpcEvent env event).offer = state.offer := by
  have ended (request : InboundRequestId) : (state.inboundEnded request).offer = state.offer := by
    unfold inboundEnded
    split <;> rfl
  cases event with
  | request => exact offer_inboundRequest env state _ _ _ _ _
  | response =>
    unfold rpcEvent response
    dsimp only
    split
    · rfl
    · split
      · rfl
      · split
        · rfl
        · exact offer_advance env _ _
  | outboundFailure =>
    unfold rpcEvent outboundFailed
    dsimp only
    split
    · rfl
    · exact offer_advance env _ _
  | inboundFailure request => exact ended request
  | responseSent request => exact ended request

/-- No event adds a record or takes one away. -/
theorem offer_swarmEvent (env : Env) (state : State) (event : SwarmEvent) :
    (state.swarmEvent env event).offer = state.offer := by
  cases event with
  | newListenAddr listener address => exact offer_newListenAddr env state address
  | expiredListenAddr => rfl
  | listenerClosed listener => exact offer_relayLost env state listener
  | listenerError listener => exact offer_relayLost env state listener
  | connectionEstablished peer connection numEstablished endpoint =>
    exact offer_connectionEstablished env state peer connection numEstablished endpoint
  | connectionClosed peer connection numEstablished =>
    exact offer_connectionClosed env state peer connection numEstablished
  | kad event => exact offer_kadEvent env state event
  | identified peer info => exact offer_identified env state peer info
  | rpc event => exact offer_rpcEvent env state event
  | gossipsub event => exact offer_gossipsubEvent env state event
  | dcutr peer result => cases result <;> rfl
  | autonat status => exact offer_natStatus env state status
  | other => rfl

/-! The handlers that start to provide. -/

/-- Nothing that was provided is dropped, and the same keys are needed for the
group and the topics. -/
structure Offers (before after : State) : Prop where
  group : after.group = before.group
  topics : ∀ key, (after.topics.lookup key).isSome = (before.topics.lookup key).isSome
  provided : before.swarm.provided ⊆ after.swarm.provided

/-- A step that leaves the offer as it was. -/
theorem offers_of_offer {before after : State} (same : after.offer = before.offer) :
    Offers before after := by
  obtain ⟨group, topics, provided⟩ := Offer.mk.inj same
  exact ⟨group, fun key => by rw [topics], provided.ge⟩

/-- Two steps that drop nothing. -/
theorem Offers.trans {first second third : State} (left : Offers first second)
    (right : Offers second third) : Offers first third :=
  ⟨right.group.trans left.group, fun key => (right.topics key).trans (left.topics key),
    left.provided.trans right.provided⟩

/-- A record that the store takes is one more, and one that it refuses was there or is
not missed here. -/
theorem offers_startProviding (env : Env) (state : State) (key : Bytes) :
    Offers state (state.startProviding env key) := by
  unfold startProviding
  split
  · exact ⟨rfl, fun _ => rfl, Finset.subset_insert _ _⟩
  · exact offers_of_offer rfl

/-- The group's record. -/
theorem offers_provide (env : Env) (state : State) : Offers state (state.provide env) :=
  (offers_startProviding env state _).trans (offers_of_offer rfl)

/-- A lookup notes its time, and the topic stays followed. -/
theorem offers_topicLookup (env : Env) (state : State) (key : Key) :
    Offers state (state.topicLookup env key) := by
  unfold topicLookup
  dsimp only
  split
  · exact offers_of_offer rfl
  · rename_i topic found
    refine ⟨rfl, fun other => ?_, Finset.Subset.refl _⟩
    dsimp only
    rw [Table.lookup_insert_if]
    split
    · rename_i same
      have foundBefore : state.topics.lookup key = some topic := found
      rw [same, foundBefore, Option.isSome_some, Option.isSome_some]
    · rfl

/-- A tick may publish the group's record again. It withdraws none. -/
theorem offers_tick (env : Env) (state : State) : Offers state (state.tick env) := by
  have timedOut (ids : List Nat) : (ids.foldl (fun state id => state.failCall id failTimeout)
      state).offer = state.offer :=
    Runs.unchanged _ state offer (fun state id => offer_failCall state id failTimeout) ids
  have lookedUp (keys : List Key) (state : State) :
      Offers state (keys.foldl (topicLookup env) state) := by
    induction keys generalizing state with
    | nil => exact offers_of_offer rfl
    | cons key rest inductionHypothesis =>
      exact (offers_topicLookup env state key).trans (inductionHypothesis _)
  have swept (state : State) : Offers state (state.sweepLimits env) := by
    unfold sweepLimits
    split <;> exact offers_of_offer rfl
  have again (state : State) : Offers state (state.provideAgain env) := by
    unfold provideAgain
    split
    · exact offers_provide env state
    · exact offers_of_offer rfl
  have announced : Offers state ((((state.expired env).foldl
      (fun state id => state.failCall id failTimeout) state).reserve env).announce env) :=
    offers_of_offer (by rw [offer_announce, offer_reserve, timedOut])
  exact (((announced.trans (lookedUp _ _)).trans (swept _)).trans (again _)).trans
    (offers_of_offer rfl)

/-- Every command but those about topics and records leaves what is offered. -/
theorem offer_command (env : Env) (state : State) (sent : Command)
    (subscribes : ∀ key, sent ≠ .topicSubscribe key)
    (unsubscribes : ∀ key, sent ≠ .topicUnsubscribe key)
    (provides : ∀ key stop, sent ≠ .provide key stop) :
    (state.command env sent).offer = state.offer := by
  cases sent with
  | rpc => simp [command]
  | respond =>
    unfold command respond
    dsimp only
    split <;> rfl
  | reject => rfl
  | addAddress =>
    unfold command addAddress
    dsimp only
    split <;> rfl
  | bootstrap =>
    unfold command bootstrap
    dsimp only
    split <;> rfl
  | randomWalk => rfl
  | setClass => rfl
  | announceSetPayload => exact offer_announce env _
  | setLimit => rfl
  | topicSubscribe key => exact absurd rfl (subscribes key)
  | topicUnsubscribe key => exact absurd rfl (unsubscribes key)
  | topicPublish => exact offer_topicPublish env state _ _
  | topicPeers => rfl
  | provide key stop => exact absurd rfl (provides key stop)
  | findProviders => rfl
  | routingSample =>
    unfold command routingSample
    dsimp only
    split <;> rfl
  | shutdown => rfl

end State

/-! What should be findable. -/

/-- What an input asks of a key: to provide it, or to stop. -/
def Input.stops? (key : Key) : Input → Option Bool
  | command (.provide other stop) => if other = key then some stop else none
  | _ => none

/-- The caller's last word on a key was to provide it. -/
def Asked (key : Key) (handled : List Input) : Prop :=
  (handled.filterMap (Input.stops? key)).getLast? = some false

/-- The last word on a key is the new input's, if it has one. -/
theorem asked_append (key : Key) (handled : List Input) (input : Input) :
    Asked key (handled ++ [input]) ↔
      input.stops? key = some false ∨ input.stops? key = none ∧ Asked key handled := by
  unfold Asked
  rw [List.filterMap_append]
  cases said : input.stops? key with
  | none => simp [said]
  | some stop => simp [said]

/-- The node is found under its group, its topics and what the caller asked for. -/
structure Findable (crates : Crates) (state : State) : Prop where
  group : Wire.providerKey crates state.group ∈ state.swarm.provided
  topics : ∀ key, (state.topics.lookup key).isSome = true →
    Wire.providerKey crates key ∈ state.swarm.provided
  asked : ∀ key, Asked key (inputs state.log) → Wire.providerKey crates key ∈ state.swarm.provided

/-- No record is dropped that is still needed: leaving a topic is for a key that
is neither the group's nor asked for, and stopping is for one that is neither the
group's nor followed. -/
def Harmless (state : State) : Input → Prop
  | .command (.topicUnsubscribe key) =>
    (state.topics.lookup key).isSome = true → key ≠ state.group ∧ ¬ Asked key (inputs state.log)
  | .command (.provide key true) => key ≠ state.group ∧ state.topics.lookup key = none
  | _ => True

namespace State

variable {crates : Crates} {before after : State}

/-- A step that drops nothing, and after which no more is asked for, keeps the node
findable. -/
theorem findable_of_offers (findable : Findable crates before) (offers : Offers before after)
    (asked : ∀ key, Asked key (inputs after.log) → Asked key (inputs before.log)) :
    Findable crates after := by
  refine ⟨?_, fun key followed => ?_, fun key isAsked => ?_⟩
  · rw [offers.group]
    exact offers.provided findable.group
  · rw [offers.topics] at followed
    exact offers.provided (findable.topics key followed)
  · exact offers.provided (findable.asked key (asked key isAsked))

/-- That an input is heard changes no record. -/
theorem offer_noted (state : State) (nowMs : UInt64) (input : Input) :
    ((state.deliver input).heard nowMs input).offer = state.offer := by
  unfold deliver
  split <;> rfl

/-- What is offered once a topic is followed. -/
structure Follows (env : Env) (key : Key) (before after : State) : Prop where
  group : after.group = before.group
  topics : ∀ other, (after.topics.lookup other).isSome = true →
    other = key ∨ (before.topics.lookup other).isSome = true
  provided : insert (Wire.providerKey env.crates key) before.swarm.provided ⊆ after.swarm.provided

/-- A topic that is new in the table is provided and looked up. -/
theorem follows_of_topics {env : Env} (succeeds : ∀ key, env.startsProviding key = true) {key : Key}
    {topic : TopicState} {followed : State} (group : followed.group = before.group)
    (topics : followed.topics = before.topics.insert key topic)
    (provided : followed.swarm.provided = before.swarm.provided) :
    Follows env key before
      ((followed.startProviding env (Wire.providerKey env.crates key)).topicLookup env key) := by
  have started := offers_startProviding env followed (Wire.providerKey env.crates key)
  have lookedUp := offers_topicLookup env
    (followed.startProviding env (Wire.providerKey env.crates key)) key
  have recorded : (followed.startProviding env (Wire.providerKey env.crates key)).swarm.provided =
      insert (Wire.providerKey env.crates key) before.swarm.provided := by
    rw [← provided]
    simp only [startProviding, succeeds, if_true]
    rfl
  refine ⟨(lookedUp.group.trans started.group).trans group, fun other isFollowed => ?_, ?_⟩
  · rw [lookedUp.topics, started.topics, topics, Table.lookup_insert_if] at isFollowed
    split at isFollowed
    · rename_i own
      exact .inl own
    · exact .inr isFollowed
  · rw [← recorded]
    exact lookedUp.provided

/-- Following a topic provides it. -/
theorem findable_topicSubscribe {env : Env} (sameCrates : env.crates = crates)
    (succeeds : ∀ key, env.startsProviding key = true) (key : Key)
    (findable : Findable crates before) :
    Findable crates (before.topicSubscribe env key) := by
  have same := (passive_topicSubscribe env before key).conserves_of_plain.inputs
  have spec : before.topicSubscribe env key = before ∨
      Follows env key before (before.topicSubscribe env key) := by
    unfold topicSubscribe
    dsimp only
    split
    · exact .inl rfl
    · split
      · exact .inl rfl
      · exact .inr (follows_of_topics succeeds rfl rfl rfl)
  generalize before.topicSubscribe env key = after at same spec ⊢
  rcases spec with rfl | follows
  · exact findable
  · have provided := follows.provided
    rw [sameCrates] at provided
    refine ⟨?_, fun other isFollowed => ?_, fun other isAsked => ?_⟩
    · rw [follows.group]
      exact provided (Finset.mem_insert_of_mem findable.group)
    · rcases follows.topics other isFollowed with rfl | old
      · exact provided (Finset.mem_insert_self _ _)
      · exact provided (Finset.mem_insert_of_mem (findable.topics other old))
    · rw [same] at isAsked
      exact provided (Finset.mem_insert_of_mem (findable.asked other isAsked))

/-- A record is dropped without harm exactly if nobody else needs it. -/
theorem findable_drop_iff (injective : Function.Injective (Wire.providerKey crates)) (key : Key)
    (findable : Findable crates before) {left : Table Key TopicState}
    (dropped : after.offer =
      ⟨before.group, left, before.swarm.provided.erase (Wire.providerKey crates key)⟩)
    (others : ∀ other, other ≠ key → left.lookup other = before.topics.lookup other)
    (asked : ∀ other, other ≠ key →
      (Asked other (inputs after.log) ↔ Asked other (inputs before.log))) :
    Findable crates after ↔ key ≠ before.group ∧ left.lookup key = none ∧
      ¬ Asked key (inputs after.log) := by
  obtain ⟨group, topics, provided⟩ := Offer.mk.inj dropped
  have gone : Wire.providerKey crates key ∉ after.swarm.provided := by
    rw [provided]
    exact Finset.notMem_erase _ _
  have kept {other : Key} (different : other ≠ key)
      (there : Wire.providerKey crates other ∈ before.swarm.provided) :
      Wire.providerKey crates other ∈ after.swarm.provided := by
    rw [provided]
    exact Finset.mem_erase.mpr ⟨fun same => different (injective same), there⟩
  constructor
  · intro stillFindable
    refine ⟨?_, ?_, fun isAsked => gone (stillFindable.asked key isAsked)⟩
    · rintro rfl
      exact gone (group ▸ stillFindable.group)
    · refine Option.not_isSome_iff_eq_none.mp fun followed => ?_
      exact gone (stillFindable.topics key (topics ▸ followed))
  · rintro ⟨notGroup, notFollowed, notAsked⟩
    refine ⟨?_, fun other followed => ?_, fun other isAsked => ?_⟩
    · rw [group]
      exact kept (Ne.symm notGroup) findable.group
    · have different : other ≠ key := by
        rintro rfl
        rw [topics, notFollowed] at followed
        cases followed
      rw [topics, others other different] at followed
      exact kept different (findable.topics other followed)
    · have different : other ≠ key := by
        rintro rfl
        exact notAsked isAsked
      exact kept different (findable.asked other ((asked other different).mp isAsked))

/-- An input that is not about the caller's records changes none of its wishes. -/
theorem asked_handle (env : Env) (state : State) (input : Input)
    (silent : ∀ key, input.stops? key = none) (key : Key) :
    Asked key (inputs ((state.deliver input).handle env input).log) ↔
      Asked key (inputs state.log) := by
  rw [(handle_keeps env state input).1, asked_append, silent key]
  simp

/-- Leaving a topic drops its record. -/
theorem findable_topicUnsubscribe_iff {env : Env} (sameCrates : env.crates = crates)
    (injective : Function.Injective (Wire.providerKey crates)) (findable : Findable crates before)
    (key : Key) :
    Findable crates (before.handle env (.command (.topicUnsubscribe key))) ↔
      Harmless before (.command (.topicUnsubscribe key)) := by
  have asked (other : Key) :
      Asked other (inputs (before.handle env (.command (.topicUnsubscribe key))).log) ↔
        Asked other (inputs before.log) :=
    asked_handle env before (.command (.topicUnsubscribe key)) (fun _ => rfl) other
  have unsubscribed (state : State) (same : state.offer = before.offer) :
      (state.topicUnsubscribe env key).offer =
        (before.topics.lookup key).elim before.offer fun _ =>
          ⟨before.group, before.topics.erase key,
            before.swarm.provided.erase (Wire.providerKey crates key)⟩ := by
    obtain ⟨group, topics, provided⟩ := Offer.mk.inj same
    rw [← group, ← topics, ← provided, ← sameCrates]
    unfold topicUnsubscribe
    cases state.topics.lookup key with
    | none => exact same
    | some topic => rfl
  have outcome := unsubscribed (before.heard env.nowMs (.command (.topicUnsubscribe key))) rfl
  cases found : before.topics.lookup key with
  | none =>
    rw [found] at outcome
    refine iff_of_true ?_ ?_
    · exact findable_of_offers findable (offers_of_offer outcome) fun other => (asked other).mp
    · intro followed
      rw [found] at followed
      cases followed
  | some topic =>
    rw [found] at outcome
    have dropped := findable_drop_iff injective key findable outcome
      (fun other different => AList.lookup_erase_ne different) fun other _ => asked other
    have isFollowed : (before.topics.lookup key).isSome = true := by
      rw [found]
      rfl
    refine dropped.trans ⟨?_, fun harmless => ?_⟩
    · rintro ⟨notGroup, -, notAsked⟩
      exact fun _ => ⟨notGroup, fun isAsked => notAsked ((asked key).mpr isAsked)⟩
    · obtain ⟨notGroup, notAsked⟩ := harmless isFollowed
      exact ⟨notGroup, AList.lookup_erase _ _, fun isAsked => notAsked ((asked key).mp isAsked)⟩

/-- The caller's stop drops a record, its wish to provide adds one. -/
theorem findable_provide_iff {env : Env} (sameCrates : env.crates = crates)
    (injective : Function.Injective (Wire.providerKey crates))
    (succeeds : ∀ key, env.startsProviding key = true) (findable : Findable crates before)
    (key : Key) (stop : Bool) :
    Findable crates (before.handle env (.command (.provide key stop))) ↔
      Harmless before (.command (.provide key stop)) := by
  have asked (other : Key) :
      Asked other (inputs (before.handle env (.command (.provide key stop))).log) ↔
        (Input.command (.provide key stop)).stops? other = some false ∨
          (Input.command (.provide key stop)).stops? other = none ∧
            Asked other (inputs before.log) := by
    rw [← asked_append, ← (handle_keeps env before (.command (.provide key stop))).1]
    rfl
  have ofOthers {other : Key} (different : other ≠ key) :
      (Input.command (.provide key stop)).stops? other = none := by
    simp [Input.stops?, Ne.symm different]
  have own : (Input.command (.provide key stop)).stops? key = some stop := by simp [Input.stops?]
  cases stop with
  | true =>
    have outcome : (before.handle env (.command (.provide key true))).offer =
        ⟨before.group, before.topics,
          before.swarm.provided.erase (Wire.providerKey crates key)⟩ := by
      rw [← sameCrates]
      rfl
    have dropped := findable_drop_iff injective key findable outcome (fun _ _ => rfl)
      fun other different => by simp [asked, ofOthers different]
    have notAsked : ¬ Asked key (inputs (before.handle env (.command (.provide key true))).log) := by
      simp [asked, own]
    refine dropped.trans ⟨?_, ?_⟩
    · rintro ⟨notGroup, notFollowed, -⟩
      exact ⟨notGroup, notFollowed⟩
    · rintro ⟨notGroup, notFollowed⟩
      exact ⟨notGroup, notFollowed, notAsked⟩
  | false =>
    refine iff_of_true ?_ trivial
    have provided : (before.handle env (.command (.provide key false))).swarm.provided =
        insert (Wire.providerKey crates key) before.swarm.provided := by
      rw [← sameCrates]
      simp only [handle, command, startProviding, succeeds]
      rfl
    have offers := offers_startProviding env (before.heard env.nowMs (.command (.provide key false)))
      (Wire.providerKey env.crates key)
    refine ⟨?_, fun other followed => ?_, fun other isAsked => ?_⟩
    · exact offers.group ▸ offers.provided findable.group
    · refine offers.provided (findable.topics other ?_)
      exact (offers.topics other).symm.trans followed
    · rw [provided]
      by_cases same : other = key
      · rw [same]
        exact Finset.mem_insert_self _ _
      · refine Finset.mem_insert_of_mem (findable.asked other ?_)
        simpa [asked, ofOthers same] using isAsked

/-- One handler keeps everything findable exactly if it is harmless. -/
theorem findable_handle_iff {env : Env} (sameCrates : env.crates = crates)
    (injective : Function.Injective (Wire.providerKey crates))
    (succeeds : ∀ key, env.startsProviding key = true) (findable : Findable crates before)
    (input : Input) :
    Findable crates ((before.deliver input).handle env input) ↔ Harmless before input := by
  have noted := offers_of_offer (offer_noted before env.nowMs input)
  have always (silent : ∀ key, input.stops? key = none)
      (offers : Offers ((before.deliver input).heard env.nowMs input)
        ((before.deliver input).handle env input)) :
      Findable crates ((before.deliver input).handle env input) :=
    findable_of_offers findable (noted.trans offers) fun key =>
      (asked_handle env before input silent key).mp
  cases input with
  | tick => exact iff_of_true (always (fun _ => rfl) (offers_tick env _)) trivial
  | swarm event =>
    refine iff_of_true (always (fun _ => rfl) ?_) trivial
    exact offers_of_offer (offer_swarmEvent env _ event)
  | command sent =>
    by_cases unsubscribes : ∃ key, sent = .topicUnsubscribe key
    · obtain ⟨key, rfl⟩ := unsubscribes
      exact findable_topicUnsubscribe_iff sameCrates injective findable key
    by_cases provides : ∃ key stop, sent = .provide key stop
    · obtain ⟨key, stop, rfl⟩ := provides
      exact findable_provide_iff sameCrates injective succeeds findable key stop
    by_cases subscribes : ∃ key, sent = .topicSubscribe key
    · obtain ⟨key, rfl⟩ := subscribes
      refine iff_of_true (findable_topicSubscribe sameCrates succeeds key ?_) trivial
      refine findable_of_offers findable noted fun other isAsked => ?_
      have heardOnly : Asked other (inputs before.log ++ [.command (.topicSubscribe key)]) := by
        simpa [heard, inputs, Entry.input?, deliver] using isAsked
      simpa [asked_append, Input.stops?] using heardOnly
    push Not at subscribes unsubscribes provides
    have silent : ∀ key, (Input.command sent).stops? key = none := by
      intro key
      cases sent with
      | provide other stop => exact absurd rfl (provides other stop)
      | _ => rfl
    have harmless : Harmless before (.command sent) := by
      cases sent with
      | topicUnsubscribe key => exact absurd rfl (unsubscribes key)
      | provide key stop => exact absurd rfl (provides key stop)
      | _ => trivial
    refine iff_of_true (always silent (offers_of_offer ?_)) harmless
    exact offer_command env _ sent subscribes unsubscribes provides

end State

/-- libp2p's store takes every record it is given. -/
def Action.Provides : Action → Prop
  | ready env => ∀ key, env.startsProviding key = true
  | handle env _ => ∀ key, env.startsProviding key = true
  | _ => True

/-- What an action must not do for everything to stay findable. -/
def Action.Harmless (system : System) : Action → Prop
  | handle _ input => Libp2pFfi.Harmless system.state input
  | _ => True

/-- Before the node has started nothing is followed and nothing asked for. -/
structure Untouched (system : System) : Prop where
  topics : system.started = false → ∀ key, system.state.topics.lookup key = none
  asked : system.started = false → ∀ key, ¬ Asked key (inputs system.state.log)

/-- Until the node is ready it neither follows nor is asked for anything. -/
theorem untouched_step {crates : Crates} (system : System) (action : Action)
    (untouched : Untouched system) (enabled : System.Enabled crates system action) :
    Untouched (system.step action) := by
  cases action with
  | ready env =>
    refine ⟨fun early => ?_, fun early => ?_⟩ <;> cases early
  | handle env input =>
    -- Before the start only events of the swarm are handled.
    have isEvent (early : system.started = false) : ∃ event, input = .swarm event := by
      cases input with
      | command sent => cases enabled.2.1.symm.trans early
      | tick => cases enabled.2.symm.trans early
      | swarm event => exact ⟨event, rfl⟩
    refine ⟨fun early key => ?_, fun early key isAsked => ?_⟩
    · obtain ⟨event, rfl⟩ := isEvent early
      have same := (State.offer_swarmEvent env _ event).trans
        (State.offer_noted system.state env.nowMs (.swarm event))
      have topics := (Offer.mk.inj same).2.1
      exact topics ▸ untouched.topics early key
    · obtain ⟨event, rfl⟩ := isEvent early
      exact untouched.asked early key
        ((State.asked_handle env system.state (.swarm event) (fun _ => rfl) key).mp isAsked)
  | _ => exact ⟨untouched.topics, untouched.asked⟩

/-- Starting the node provides its group. -/
theorem findable_ready {crates : Crates} {system : System} {env : Env}
    (sameCrates : env.crates = crates) (succeeds : ∀ key, env.startsProviding key = true)
    (untouched : Untouched system) (early : system.started = false) :
    Findable crates (system.step (.ready env)).state := by
  have inputsSame := (State.passive_ready env system.state).conserves_of_plain.inputs
  have offers := (State.offers_of_offer
    (State.offer_emit system.state (reachabilityRecord system.state.configured))).trans
      (State.offers_provide env _)
  refine ⟨?_, fun key followed => ?_, fun key isAsked => ?_⟩
  · rw [← sameCrates]
    simp only [System.step, State.ready, State.provide, State.startProviding, succeeds]
    exact Finset.mem_insert_self _ _
  · have nothing := untouched.topics early key
    have followedBefore := (offers.topics key).symm.trans followed
    rw [nothing] at followedBefore
    cases followedBefore
  · exact absurd (inputsSame ▸ isAsked) (untouched.asked early key)

/-- Everything is findable, once the node has started. -/
def System.Findable (crates : Crates) (system : System) : Prop :=
  system.started = true → Libp2pFfi.Findable crates system.state

/-- One action keeps the node findable exactly if it is harmless. The keys differ in the
DHT too, so no other record stands in for a dropped one. -/
theorem findable_step_iff {crates : Crates} {system : System} {action : Action}
    (enabled : System.Enabled crates system action)
    (injective : Function.Injective (Wire.providerKey crates)) (provides : action.Provides)
    (untouched : Untouched system) (findable : system.Findable crates) :
    (system.step action).Findable crates ↔ action.Harmless system := by
  -- Outside the event loop nothing changes that matters here.
  have outside {after : State} (offer : after.offer = system.state.offer)
      (log : after.log = system.state.log) (started : system.started = true) :
      Libp2pFfi.Findable crates after := by
    refine State.findable_of_offers (findable started) (State.offers_of_offer offer) ?_
    rw [log]
    exact fun _ => id
  cases action with
  | draw => exact iff_of_true (outside rfl rfl) trivial
  | poll cap => exact iff_of_true (outside rfl rfl) trivial
  | internalQuery => exact iff_of_true (outside rfl rfl) trivial
  | learn peer address => exact iff_of_true (outside rfl rfl) trivial
  | ready env =>
    refine iff_of_true (fun _ => ?_) trivial
    exact findable_ready enabled.1 provides untouched enabled.2
  | handle env input =>
    cases started : system.started with
    | true =>
      have sameCrates : env.crates = crates := by
        cases input with
        | _ => exact enabled.1
      have exactly := State.findable_handle_iff sameCrates injective provides (findable started)
        input
      exact ⟨fun after => exactly.mp (after started), fun harmless _ => exactly.mpr harmless⟩
    | false =>
      cases input with
      | command sent => cases enabled.2.1.symm.trans started
      | tick => cases enabled.2.symm.trans started
      | swarm event => exact iff_of_true (fun later => by cases started.symm.trans later) trivial

/-- What should be findable stays provided exactly as long as no record is dropped
that is still needed: in every state of a run after the start the node provides
its group, every topic it follows and every key its caller last asked it to
provide, if and only if every handler of the run is harmless. -/
theorem findable_iff_harmless {crates : Crates} {config : Config} {localPeer : PeerId}
    {now : Instant} {actions : List Action} (run : System.Run crates config localPeer now actions)
    (injective : Function.Injective (Wire.providerKey crates))
    (succeeds : ∀ action ∈ actions, action.Provides) :
    (∀ before, before <+: actions →
        (System.after config localPeer now before).Findable crates) ↔
      ∀ before action, before ++ [action] <+: actions →
        action.Harmless (System.after config localPeer now before) := by
  refine Runs.all_states_iff_all_steps System.step (System.start config localPeer now) ?_ ?_
  · intro started
    cases started
  · intro before action inside findable
    have provides : action.Provides := succeeds action (inside.subset (by simp))
    have untouched : Untouched (System.after config localPeer now before) :=
      (run.take ((List.prefix_append before [action]).trans inside)).invariant
        ⟨fun _ _ => rfl, fun _ _ => by simp [Asked, System.start, State.new, inputs]⟩ untouched_step
    rw [List.foldl_append, List.foldl_cons, List.foldl_nil]
    exact findable_step_iff (run before action inside) injective provides untouched findable

/-! A topic that is followed and not provided. -/

/-- The sample's digest swaps keys in pairs, which can be undone. -/
theorem Sample.providerKey_injective : Function.Injective (Wire.providerKey Sample.crates) := by
  have involutive : Function.Involutive Sample.crates.sha256 := by
    have distinct : Sample.group ≠ Sample.groupDigest ∧ Sample.group ≠ Sample.topic ∧
        Sample.group ≠ Sample.topicDigest ∧ Sample.groupDigest ≠ Sample.topic ∧
        Sample.groupDigest ≠ Sample.topicDigest ∧ Sample.topic ≠ Sample.topicDigest := by
      decide +kernel
    intro key
    simp only [Sample.crates]
    split_ifs <;> simp_all
  intro left right same
  simp only [Wire.providerKey, List.cons.injEq, true_and] at same
  exact involutive.injective (List.Vector.eq _ _ same)

/-- The topic is followed. -/
def Sample.follow : List Action :=
  [.ready Sample.env, .handle Sample.env (.command (.topicSubscribe Sample.topic))]

/-- The topic is followed, and the caller stops providing its key. -/
def Sample.followAndStop : List Action :=
  Sample.follow ++ [.handle Sample.env (.command (.provide Sample.topic true))]

/-- The run can happen. -/
theorem Sample.followAndStop_run :
    System.Run Sample.crates Sample.config Sample.peer 0 Sample.followAndStop := by
  simp only [System.Run, Sample.followAndStop, Sample.follow, List.cons_append, List.nil_append,
    Runs.admissible_cons, Runs.admissible_nil, and_true]
  refine ⟨⟨rfl, rfl⟩, ⟨rfl, rfl, ?_, trivial⟩, rfl, rfl, ?_, trivial⟩ <;> simp [Command.ids]

/-- The store takes every record. -/
theorem Sample.followAndStop_provides : ∀ action ∈ Sample.followAndStop, action.Provides := by
  simp [Sample.followAndStop, Sample.follow, Action.Provides, Sample.env]

/-- Following the topic drops nothing. -/
theorem findable_iff_harmless_follow :
    (System.after Sample.config Sample.peer 0 Sample.follow).Findable Sample.crates := by
  have run := Sample.followAndStop_run.take (List.prefix_append Sample.follow _)
  have provides : ∀ action ∈ Sample.follow, action.Provides := by
    simp [Sample.follow, Action.Provides, Sample.env]
  refine (findable_iff_harmless run Sample.providerKey_injective provides).mpr ?_ _
    (List.prefix_refl _)
  intro before action inside
  have member : action ∈ Sample.follow := inside.subset (by simp)
  rcases List.mem_cons.mp member with rfl | second
  · trivial
  · obtain rfl := List.mem_singleton.mp second
    trivial

/-- The key of a followed topic is not provided. -/
theorem followed_topic_not_provided :
    System.Run Sample.crates Sample.config Sample.peer 0 Sample.followAndStop ∧
      Function.Injective (Wire.providerKey Sample.crates) ∧
      (∀ action ∈ Sample.followAndStop, action.Provides) ∧
      ((System.after Sample.config Sample.peer 0
        Sample.followAndStop).state.topics.lookup Sample.topic).isSome = true ∧
      ¬ (System.after Sample.config Sample.peer 0 Sample.followAndStop).Findable Sample.crates := by
  have followed : ((System.after Sample.config Sample.peer 0
      Sample.followAndStop).state.topics.lookup Sample.topic).isSome = true := by decide +kernel
  have gone : Wire.providerKey Sample.crates Sample.topic ∉
      (System.after Sample.config Sample.peer 0 Sample.followAndStop).state.swarm.provided := by
    decide +kernel
  refine ⟨Sample.followAndStop_run, Sample.providerKey_injective, Sample.followAndStop_provides,
    followed, fun findable => ?_⟩
  exact gone ((findable rfl).topics Sample.topic followed)

end Libp2pFfi
