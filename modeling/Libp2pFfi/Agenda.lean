import Libp2pFfi.BookRuns
import Libp2pFfi.EventLoop

/-!
# What the node learns, and what it takes to the DHT

Addresses come from everywhere: the caller, libp2p, peers that identify
themselves, and the results of queries. What the node does with the DHT on its
own account is scattered in the same way: a provider record is published when a
tick finds it due, and topics are looked up when they are followed and when they
are lonely. An `Agenda` is the part of the state this rests on. What a handler
does to it, and the lines it writes about it, are its notes: an agenda follows
its notes, and `notes` says for every action which they are.
-/

namespace Libp2pFfi

/-- What the node has learnt, when it last provided its group, and the topics it
follows. -/
structure Agenda where
  group : Key
  addressBook : AddressBook
  provideDue : Bool
  lastProvide : Option Instant
  topics : Table Key TopicState

/-- What becomes of an agenda. -/
inductive Note where
  | learn (peer : PeerId) (address : Multiaddr)
  /-- The group's record is to be published again. -/
  | ask
  /-- It has been taken to the DHT. -/
  | provide (now : Instant)
  | publish (key : Bytes)
  | follow (key : Key) (topic : String)
  | leave (key : Key)
  | lookUp (key : Key) (now : Instant)
  | report (record : Record)

/-- What the log says of it. -/
inductive Line where
  | published (key : Bytes)
  | lookedUp (key : Key)
  | discovered (record : Record)
deriving DecidableEq

/-- What an effect says of it. A lookup of a call's or the caller's own is no topic's. -/
def Effect.line? : Effect → Option Line
  | startProviding _ key => some (.published key)
  | getProviders _ _ (.topic key) => some (.lookedUp key)
  | emit record => if record.header.kind = .peerDiscovered then some (.discovered record) else none
  | _ => none

/-- An input says nothing, for it may come to nothing. -/
def Entry.line? : Entry → Option Line
  | heard _ _ => none
  | did effect => effect.line?

/-- All that a log says of it, in order. -/
def lines (log : List Entry) : List Line := log.filterMap Entry.line?

/-- The line that goes with a note. Addresses are learnt and topics left without one. -/
def Note.line? : Note → Option Line
  | publish key => some (.published key)
  | lookUp key _ => some (.lookedUp key)
  | report record => some (.discovered record)
  | _ => none

/-- What a note changes. A topic that is looked up without being followed stays unknown. -/
def Agenda.note (agenda : Agenda) : Note → Agenda
  | .learn peer address => { agenda with addressBook := agenda.addressBook.add peer address }
  | .ask => { agenda with provideDue := true }
  | .provide now => { agenda with provideDue := false, lastProvide := some now }
  | .publish _ => agenda
  | .follow key topic => { agenda with topics := agenda.topics.insert key { topic } }
  | .leave key => { agenda with topics := agenda.topics.erase key }
  | .lookUp key now =>
    match agenda.topics.lookup key with
    | none => agenda
    | some topic =>
      { agenda with topics := agenda.topics.insert key { topic with lastLookup := some now } }
  | .report _ => agenda

/-- What a note is about. -/
inductive Subject where
  | addresses
  | record
  | topics
  /-- Nothing but the log. -/
  | log
deriving DecidableEq

/-- Every note has one subject, so that each part of an agenda follows its own notes. -/
def Note.subject : Note → Subject
  | learn _ _ => .addresses
  | ask => .record
  | provide _ => .record
  | publish _ => .log
  | follow _ _ => .topics
  | leave _ => .topics
  | lookUp _ _ => .topics
  | report _ => .log

namespace Agenda

/-- Where the group's record stands. -/
structure Standing where
  group : Key
  provideDue : Bool
  lastProvide : Option Instant

/-- The record's share of an agenda. -/
def standing (agenda : Agenda) : Standing where
  group := agenda.group
  provideDue := agenda.provideDue
  lastProvide := agenda.lastProvide

/-- Notes on other subjects leave a part of the agenda alone. -/
theorem foldl_note_same {View : Type} {view : Agenda → View} {subject : Subject}
    (each : ∀ (agenda : Agenda) note, note.subject ≠ subject →
      view (agenda.note note) = view agenda)
    {notes : List Note} (others : ∀ note ∈ notes, note.subject ≠ subject) (agenda : Agenda) :
    view (notes.foldl Agenda.note agenda) = view agenda := by
  induction notes generalizing agenda with
  | nil => rfl
  | cons note rest inductionHypothesis =>
    obtain ⟨other, later⟩ := List.forall_mem_cons.mp others
    exact (inductionHypothesis later _).trans (each agenda note other)

/-- The book follows the addresses learnt and nothing else. -/
theorem addressBook_note (agenda : Agenda) {note : Note} (other : note.subject ≠ .addresses) :
    (agenda.note note).addressBook = agenda.addressBook := by
  cases note with
  | learn => exact absurd rfl other
  | lookUp key now =>
    unfold Agenda.note
    dsimp only
    split <;> rfl
  | _ => rfl

/-- The record's share follows what is noted of the record. -/
theorem standing_note (agenda : Agenda) {note : Note} (other : note.subject ≠ .record) :
    (agenda.note note).standing = agenda.standing := by
  cases note with
  | ask => exact absurd rfl other
  | provide => exact absurd rfl other
  | lookUp key now =>
    unfold Agenda.note
    dsimp only
    split <;> rfl
  | _ => rfl

end Agenda

namespace State

/-- The agenda of a state. The book is the swarm's. -/
def agenda (state : State) : Agenda where
  group := state.group
  addressBook := state.swarm.addressBook
  provideDue := state.provideDue
  lastProvide := state.lastProvide
  topics := state.topics

/-- These are the notes of what happens. -/
structure Writes (notes : List Note) (before after : State) : Prop where
  agenda : after.agenda = notes.foldl Agenda.note before.agenda
  lines : lines after.log = lines before.log ++ notes.filterMap Note.line?

/-- Doing nothing leaves nothing to note. -/
theorem Writes.refl (state : State) : Writes [] state state := ⟨rfl, (List.append_nil _).symm⟩

/-- Notes of two steps follow each other. -/
theorem Writes.trans {earlier later : List Note} {first second third : State}
    (left : Writes earlier first second) (right : Writes later second third) :
    Writes (earlier ++ later) first third := by
  refine ⟨?_, ?_⟩
  · rw [right.agenda, left.agenda, List.foldl_append]
  · rw [right.lines, left.lines, List.filterMap_append, List.append_assoc]

/-- Nothing to note comes first. -/
theorem Writes.after {notes : List Note} {first second third : State}
    (left : Writes [] first second) (right : Writes notes second third) :
    Writes notes first third :=
  left.trans right

/-- Nothing to note comes last. -/
theorem Writes.before {notes : List Note} {first second third : State}
    (left : Writes notes first second) (right : Writes [] second third) :
    Writes notes first third :=
  List.append_nil notes ▸ left.trans right

/-- A loop notes what its rounds note. -/
theorem writes_foldl {α : Type} {step : State → α → State} {notes : α → List Note}
    (each : ∀ state item, Writes (notes item) state (step state item)) (items : List α)
    (state : State) : Writes (items.flatMap notes) state (items.foldl step state) := by
  induction items generalizing state with
  | nil => exact Writes.refl state
  | cons item rest inductionHypothesis =>
    rw [List.flatMap_cons]
    exact (each state item).trans (inductionHypothesis _)

/-- A loop of which each round has one note. -/
theorem writes_map {α : Type} {step : State → α → State} {note : α → Note}
    (each : ∀ state item, Writes [note item] state (step state item)) (items : List α)
    (state : State) : Writes (items.map note) state (items.foldl step state) := by
  rw [List.map_eq_flatMap]
  exact writes_foldl each items state

/-- Nothing to note happens, however often. -/
theorem unnoted_foldl {α : Type} {step : State → α → State}
    (each : ∀ state item, Writes [] state (step state item)) (items : List α) (state : State) :
    Writes [] state (items.foldl step state) := by
  have none : (items.flatMap fun _ => ([] : List Note)) = [] :=
    List.flatMap_eq_nil_iff.mpr (by simp)
  exact none ▸ writes_foldl each items state

/-- What is noted without a line. -/
theorem writes_silent {notes : List Note} {before after : State}
    (agenda : after.agenda = notes.foldl Agenda.note before.agenda) (log : after.log = before.log)
    (silent : notes.filterMap Note.line? = []) : Writes notes before after :=
  ⟨agenda, by rw [log, silent, List.append_nil]⟩

/-- A step off the agenda and the log. -/
theorem unnoted {before after : State} (agenda : after.agenda = before.agenda)
    (log : after.log = before.log) : Writes [] before after :=
  writes_silent agenda log rfl

/-- One effect adds its own line, if it has one. -/
theorem lines_did {before after : State} {effect : Effect}
    (log : after.log = before.log ++ [.did effect]) :
    Libp2pFfi.lines after.log = Libp2pFfi.lines before.log ++ effect.line?.toList := by
  have one : [Entry.did effect].filterMap Entry.line? = effect.line?.toList := by
    cases said : effect.line? <;> simp [Entry.line?, said]
  rw [log, ← one]
  exact List.filterMap_append ..

/-- What is noted and the line that says so. -/
theorem writes_line {notes : List Note} {before after : State} {effect : Effect}
    (agenda : after.agenda = notes.foldl Agenda.note before.agenda)
    (log : after.log = before.log ++ [.did effect])
    (line : effect.line?.toList = notes.filterMap Note.line?) : Writes notes before after :=
  ⟨agenda, line ▸ lines_did log⟩

/-! Parts of handlers. -/

/-- A record is withdrawn without a line, since the log's lines are of what is
published. -/
theorem unnoted_stopProviding (state : State) (key : Bytes) :
    Writes [] state (state.stopProviding key) :=
  writes_line rfl rfl rfl

/-- The failure of a call is an event of another kind. -/
theorem unnoted_failCall (state : State) (id reason : Nat) :
    Writes [] state (state.failCall id reason) := by
  unfold failCall
  split
  · exact Writes.refl state
  · exact writes_line rfl rfl rfl

/-- Candidates are only looked at. -/
theorem unnoted_passOver (state : State) (id : Nat) (peers : List PeerId) :
    Writes [] state (state.passOver id peers) := by
  refine ⟨rfl, ?_⟩
  rw [passOver, lines, List.filterMap_append]
  congr 1
  refine List.filterMap_eq_nil_iff.mpr fun entry member => ?_
  obtain ⟨peer, -, rfl⟩ := List.mem_map.mp member
  rfl

/-- A call looks up addresses under a purpose of its own. -/
theorem unnoted_advance (env : Env) (state : State) (id : Nat) :
    Writes [] state (state.advance env id) := by
  have looked (peers : List PeerId) (peer : PeerId) :
      Writes [] state ((state.passOver id peers).lookAt env id peer) :=
    (unnoted_passOver state id peers).after (writes_line rfl rfl rfl)
  have spec := advance_spec env state id
  generalize state.advance env id = after at spec ⊢
  cases spec with
  | missing => exact Writes.refl state
  | busy => exact Writes.refl state
  | waits => exact (unnoted_passOver state id _).after (unnoted rfl rfl)
  | fails => exact (unnoted_passOver state id _).after (writes_line rfl rfl rfl)
  | sends => exact (looked _ _).after (writes_line rfl rfl rfl)
  | resolves => exact (looked _ _).after (writes_line rfl rfl rfl)

/-- So does it look up its group. -/
theorem unnoted_startCall (env : Env) (state : State) (id : Nat) (group : Key) (node : Option Key)
    (protocol : Nat) (payload : Bytes) (timeout : Duration) :
    Writes [] state (state.startCall env id group node protocol payload timeout) := by
  unfold startCall
  dsimp only
  split
  · split <;> exact unnoted rfl rfl
  · exact writes_line rfl rfl rfl

/-- Reserving at a relay asks nothing of the DHT. The record is asked for when the relay
accepts. -/
theorem unnoted_reserve (env : Env) (state : State) : Writes [] state (state.reserve env) := by
  have each (state : State) (candidate : PeerId × Multiaddr) :
      Writes [] state (state.reserveOn env candidate) := by
    unfold reserveOn
    dsimp only
    split
    · exact Writes.refl state
    · split <;> exact writes_line rfl rfl rfl
  unfold reserve
  split
  · exact Writes.refl state
  · exact unnoted_foldl each _ state

/-- An announcement is published on a topic, not in the DHT. -/
theorem unnoted_announce (env : Env) (state : State) : Writes [] state (state.announce env) := by
  unfold announce
  split
  · split
    · exact Writes.refl state
    · dsimp only
      split <;> exact writes_line rfl rfl rfl
  · exact Writes.refl state

/-- Dialing teaches the node nothing yet. -/
theorem unnoted_dialTopicMembers (env : Env) (state : State) (dialed : Nat)
    (peers : List PeerId) : Writes [] state (state.dialTopicMembers env dialed peers) := by
  induction peers generalizing state dialed with
  | nil => exact Writes.refl state
  | cons peer rest inductionHypothesis =>
    unfold dialTopicMembers
    split
    · exact Writes.refl state
    · split
      · exact inductionHypothesis state dialed
      · refine Writes.after ?_ (inductionHypothesis _ _)
        exact writes_line rfl rfl rfl

/-- A report of the limits is an event of another kind. -/
theorem unnoted_reportLimited (env : Env) (state : State) (group node : Key)
    (protocol reason : Nat) :
    Writes [] state (state.reportLimited env (limitedRecord group node protocol reason)) := by
  unfold reportLimited
  dsimp only
  split
  · exact writes_line rfl rfl rfl
  · exact unnoted rfl rfl

/-- Messages carry no addresses. -/
theorem unnoted_topicMessage (env : Env) (state : State) (propagationSource : PeerId)
    (message : GossipMessage) :
    Writes [] state (state.topicMessage env propagationSource message).1 := by
  unfold topicMessage
  split
  · exact Writes.refl state
  · split
    · exact Writes.refl state
    · dsimp only
      split
      · exact Writes.refl state
      · split
        · refine Writes.after ?_ (unnoted_reportLimited env _ _ _ _ _)
          exact unnoted rfl rfl
        · exact writes_line rfl rfl rfl

/-- Nor do announcements. -/
theorem unnoted_announcementMessage (env : Env) (state : State) (message : GossipMessage) :
    Writes [] state (state.announcementMessage env message).1 := by
  unfold announcementMessage
  split
  · exact Writes.refl state
  · dsimp only
    split
    · exact Writes.refl state
    · split
      · exact writes_line rfl rfl rfl
      · exact unnoted rfl rfl

/-- Nothing gossipsub says is to note. -/
theorem unnoted_gossipsubEvent (env : Env) (state : State) (event : GossipEvent) :
    Writes [] state (state.gossipsubEvent env event) := by
  cases event with
  | subscribed => exact unnoted_announce env state
  | message propagationSource id message =>
    unfold gossipsubEvent
    dsimp only
    split
    · exact (unnoted_topicMessage env state propagationSource message).after
        (writes_line rfl rfl rfl)
    · exact (unnoted_announcementMessage env state message).after (writes_line rfl rfl rfl)
  | other => exact Writes.refl state

/-- The limits are not on the agenda. -/
theorem unnoted_sweepLimits (env : Env) (state : State) :
    Writes [] state (state.sweepLimits env) := by
  unfold sweepLimits
  split
  · exact unnoted rfl rfl
  · exact Writes.refl state

/-- The switch alone notes nothing. That the record is asked for is `natStatus`'s doing. -/
theorem unnoted_switchReachability (env : Env) (state : State) (next : Reachability) :
    Writes [] state (state.switchReachability env next) := by
  have released (items : List (PeerId × ListenerId)) (state : State) : Writes [] state
      (items.foldl (fun state reservation => state.did (.removeListener reservation.2)) state) := by
    apply unnoted_foldl
    exact fun state reservation => writes_line rfl rfl rfl
  unfold switchReachability
  dsimp only
  split
  · refine Writes.after ?_ (unnoted_reserve env _)
    exact unnoted rfl rfl
  · split
    · have restored : Writes [] state (State.keepExternal { state with
          reachability := next
          swarm := { state.swarm with
            externalAddresses := state.swarm.externalAddresses ∪
              state.listening.filter fun address =>
                !(state.listensOnWildcard && isLoopback address) } }
          fun address => !isRelayed address) := unnoted rfl rfl
      exact (restored.after (released _ _)).after (unnoted rfl rfl)
    · exact unnoted rfl rfl

/-- A lost relay is retried later, and the record stands until then. -/
theorem unnoted_relayLost (env : Env) (state : State) (listener : ListenerId) :
    Writes [] state (state.relayLost env listener) := by
  apply unnoted_foldl
  exact fun state peer => unnoted rfl rfl

/-- The address of a connection is not added to the book. -/
theorem unnoted_connectionEstablished (env : Env) (state : State) (peer : PeerId)
    (connection : ConnectionId) (numEstablished : Nat) (endpoint : ConnectedPoint) :
    Writes [] state (state.connectionEstablished env peer connection numEstablished endpoint) := by
  unfold connectionEstablished
  dsimp only
  split
  · split <;> split <;> (try split) <;> exact writes_line rfl rfl rfl
  · split <;> split <;> (try split) <;> exact unnoted rfl rfl

/-- Nor is anything forgotten when it closes. -/
theorem unnoted_connectionClosed (env : Env) (state : State) (peer : PeerId)
    (connection : ConnectionId) (numEstablished : Nat) :
    Writes [] state (state.connectionClosed env peer connection numEstablished) := by
  unfold connectionClosed
  dsimp only
  split
  · exact writes_line rfl rfl rfl
  · exact unnoted rfl rfl

/-- A hole punched is reported and no more. -/
theorem unnoted_holePunched (env : Env) (state : State) (peer : PeerId)
    (result : Except Bytes ConnectionId) : Writes [] state (state.holePunched env peer result) := by
  cases result with
  | ok connection => exact writes_line rfl rfl rfl
  | error text => exact writes_line rfl rfl rfl

/-- A request teaches nothing of its sender's addresses. -/
theorem unnoted_inboundRequest (env : Env) (state : State) (peer : PeerId)
    (connection : ConnectionId) (request : InboundRequestId) (frame : Bytes)
    (channel : ResponseChannel) :
    Writes [] state (state.inboundRequest env peer connection request frame channel) := by
  unfold inboundRequest
  dsimp only
  split
  · exact Writes.refl state
  · split
    · refine Writes.after ?_ (unnoted_reportLimited env _ _ _ _ _)
      exact unnoted rfl rfl
    · exact writes_line rfl rfl rfl

/-- A response remembers who answered, which is not on the agenda. -/
theorem unnoted_response (env : Env) (state : State) (peer : PeerId) (request : OutboundRequestId)
    (frame : Bytes) : Writes [] state (state.response env peer request frame) := by
  unfold response
  dsimp only
  split
  · exact Writes.refl state
  · split
    · exact unnoted rfl rfl
    · split
      · exact writes_line rfl rfl rfl
      · refine Writes.after ?_ (unnoted_advance env _ _)
        exact unnoted rfl rfl

/-- A failure remembers who failed, which is not either. -/
theorem unnoted_outboundFailed (env : Env) (state : State) (peer : PeerId)
    (request : OutboundRequestId) (error : OutboundFailure) :
    Writes [] state (state.outboundFailed env peer request error) := by
  unfold outboundFailed
  dsimp only
  split
  · exact unnoted rfl rfl
  · refine Writes.after ?_ (unnoted_advance env _ _)
    exact unnoted rfl rfl

/-- The end of an inbound request. -/
theorem unnoted_inboundEnded (state : State) (request : InboundRequestId) :
    Writes [] state (state.inboundEnded request) := by
  unfold inboundEnded
  split
  · exact Writes.refl state
  · exact unnoted rfl rfl

/-- Nothing of the request-response behaviour is to note. -/
theorem unnoted_rpcEvent (env : Env) (state : State) (event : RpcEvent) :
    Writes [] state (state.rpcEvent env event) := by
  cases event with
  | request peer connection request frame channel =>
    exact unnoted_inboundRequest env state peer connection request frame channel
  | response peer request frame => exact unnoted_response env state peer request frame
  | outboundFailure peer request error => exact unnoted_outboundFailed env state peer request error
  | responseSent request => exact unnoted_inboundEnded state request
  | inboundFailure request => exact unnoted_inboundEnded state request

/-! What there is to note. -/

/-- What taking a record to the DHT notes, which the local store may refuse. -/
def publishNotes (env : Env) (key : Bytes) : List Note :=
  if env.startsProviding key then [.publish key] else []

/-- A record is published where the store takes it. -/
theorem writes_startProviding (env : Env) (state : State) (key : Bytes) :
    Writes (publishNotes env key) state (state.startProviding env key) := by
  unfold startProviding publishNotes
  split
  · exact writes_line rfl rfl rfl
  · exact Writes.refl state

/-- Providing the group notes the attempt too, whether or not the store took the record. -/
def provideNotes (env : Env) (group : Key) : List Note :=
  publishNotes env (Wire.providerKey env.crates group) ++ [.provide env.now]

/-- The group's record is put under the key of the node's own group. -/
theorem writes_provide (env : Env) (state : State) :
    Writes (provideNotes env state.group) state (state.provide env) :=
  (writes_startProviding env state _).trans (writes_silent rfl rfl rfl)

/-- Addresses are learnt one by one, in the order given. -/
theorem writes_addAddresses (state : State) (peer : PeerId) (addresses : List Multiaddr) :
    Writes (addresses.map (.learn peer)) state (state.addAddresses peer addresses) := by
  refine writes_silent ?_ rfl (by simp [List.filterMap_eq_nil_iff, Note.line?])
  rw [List.foldl_map]
  change _ = addresses.foldl (fun agenda address => agenda.note (.learn peer address)) state.agenda
  induction addresses generalizing state with
  | nil => rfl
  | cons address rest inductionHypothesis =>
    exact inductionHypothesis (state.addAddresses peer [address])

/-- A lookup is noted with its time, and is made also for a topic that is no longer
followed. -/
theorem writes_topicLookup (env : Env) (state : State) (key : Key) :
    Writes [.lookUp key env.now] state (state.topicLookup env key) := by
  have noted (same : state.agenda.topics.lookup key = state.topics.lookup key) :
      (state.topicLookup env key).agenda = state.agenda.note (.lookUp key env.now) := by
    unfold topicLookup Agenda.note
    dsimp only
    rw [same]
    change agenda (match state.topics.lookup key with
      | none => _
      | some topic => _) = _
    cases state.topics.lookup key <;> rfl
  have asked : (state.topicLookup env key).log = state.log ++ [.did (.getProviders
      state.swarm.nextQuery (Wire.providerKey env.crates key) (.topic key))] := by
    unfold topicLookup
    dsimp only
    split <;> rfl
  exact writes_line (noted rfl) asked rfl

/-- A new topic is followed, provided and looked up, unless the bound is reached or
gossipsub refuses. -/
def subscribeNotes (env : Env) (state : State) (key : Key) : List Note :=
  if (state.topics.lookup key).isSome || state.topics.len ≥ state.topicMaxSubscriptions then []
  else if !env.subscribes (Wire.topicName key) then []
  else
    .follow key (Wire.topicName key) :: publishNotes env (Wire.providerKey env.crates key) ++
      [.lookUp key env.now]

/-- `topic_subscribe` returns early for a known topic, at the bound, and when gossipsub
refuses. -/
theorem writes_topicSubscribe (env : Env) (state : State) (key : Key) :
    Writes (subscribeNotes env state key) state (state.topicSubscribe env key) := by
  unfold topicSubscribe subscribeNotes
  dsimp only
  split
  · exact Writes.refl state
  · split
    · exact Writes.refl state
    · refine Writes.trans ?_ (writes_topicLookup env _ key)
      refine Writes.trans (?_ : Writes [.follow key (Wire.topicName key)] state _)
        (writes_startProviding env _ _)
      exact writes_line rfl rfl rfl

/-- Only a followed topic can be left. -/
def unsubscribeNotes (state : State) (key : Key) : List Note :=
  if (state.topics.lookup key).isSome then [.leave key] else []

/-- `topic_unsubscribe` drops the entry before it withdraws the record. -/
theorem writes_topicUnsubscribe (env : Env) (state : State) (key : Key) :
    Writes (unsubscribeNotes state key) state (state.topicUnsubscribe env key) := by
  unfold topicUnsubscribe unsubscribeNotes
  cases followed : state.topics.lookup key with
  | none => exact Writes.refl state
  | some topic =>
    have left : Writes [.leave key] state ({ state with
        topics := state.topics.erase key
        topicKeys := state.topicKeys.erase topic.topic }.did (.unsubscribe topic.topic)) :=
      writes_line rfl rfl rfl
    exact left.before (writes_line rfl rfl rfl)

/-- The caller's address is learnt if the key is a peer's. -/
def addAddressNotes (env : Env) (node : Key) (address : Multiaddr) : List Note :=
  (peerId env.crates node).toList.map fun peer => .learn peer address

/-- `Command::AddAddress` gives the swarm one address. -/
theorem writes_addAddress (env : Env) (state : State) (node : Key) (address : Multiaddr) :
    Writes (addAddressNotes env node address) state (state.addAddress env node address) := by
  unfold addAddress addAddressNotes
  cases peerId env.crates node with
  | none => exact Writes.refl state
  | some peer => exact (writes_addAddresses state peer [address]).before (writes_line rfl rfl rfl)

/-- What identify lists is learnt, also of a peer that does not speak the DHT protocol. -/
theorem writes_identified (env : Env) (state : State) (peer : PeerId) (info : IdentifyInfo) :
    Writes (info.listenAddrs.map (.learn peer)) state (state.identified env peer info) := by
  have offered : Writes [] state (state.offerRelay peer info) := by
    unfold offerRelay
    split
    · split
      · exact unnoted rfl rfl
      · exact Writes.refl state
    · exact Writes.refl state
  have known := offered.after (writes_addAddresses _ peer info.listenAddrs)
  unfold identified
  dsimp only
  refine Writes.before ?_ (unnoted_reserve env _)
  split
  · refine known.before (unnoted_foldl ?_ _ _)
    exact fun state address => writes_line rfl rfl rfl
  · exact known

/-- A relayed listen address is a reservation that was accepted. -/
def listenNotes (address : Multiaddr) : List Note := if isRelayed address then [.ask] else []

/-- The record is asked for again when a relayed address comes up, for it is where peers
will look. -/
theorem writes_newListenAddr (env : Env) (state : State) (address : Multiaddr) :
    Writes (listenNotes address) state (state.newListenAddr env address) := by
  have noted : Writes (listenNotes address) state (state.noteListenAddr env address) := by
    unfold noteListenAddr listenNotes
    dsimp only
    split
    · exact writes_line rfl rfl rfl
    · split
      · exact unnoted rfl rfl
      · exact Writes.refl state
  unfold newListenAddr
  dsimp only
  split
  · exact noted.before (writes_line rfl rfl rfl)
  · exact noted.before (writes_line rfl rfl rfl)

/-- What the node acts as after a verdict. -/
def verdict (state : State) : NatStatus → Reachability
  | .unknown => state.reachability
  | .publicAt _ => .publicNode
  | .privateNode => .privateNode

/-- A verdict that changes what the node acts as. -/
def natNotes (state : State) (status : NatStatus) : List Note :=
  if state.configured = .unknown ∧ state.verdict status ≠ state.reachability then [.ask] else []

/-- Only a node that was configured unknown follows the verdict, and only a change is
noted. -/
theorem writes_natStatus (env : Env) (state : State) (status : NatStatus) :
    Writes (natNotes state status) state (state.natStatus env status) := by
  have turned (free : state.configured = .unknown) (next : Reachability)
      (isNext : state.verdict status = next) :
      Writes (natNotes state status) state (natStatus.turnTo env state next) := by
    unfold natStatus.turnTo natNotes
    by_cases same : next = state.reachability
    · rw [if_pos same, if_neg fun changes => changes.2 (isNext.trans same)]
      exact Writes.refl state
    · rw [if_neg same, if_pos ⟨free, fun unchanged => same (isNext.symm.trans unchanged)⟩]
      have pushed : Writes [] state ((state.switchReachability env next).did
          (.identifyPush env.connectedPeers)) :=
        (unnoted_switchReachability env state next).after (writes_line rfl rfl rfl)
      exact pushed.after (writes_line rfl rfl rfl)
  unfold natStatus
  split
  · rename_i settled
    rw [natNotes, if_neg (fun changes => settled changes.1)]
    exact Writes.refl state
  · rename_i free
    have free := not_not.mp free
    split
    · rw [natNotes, if_neg (fun changes => changes.2 rfl)]
      exact Writes.refl state
    · exact turned free _ rfl
    · exact turned free _ rfl

/-! Kademlia. -/

/-- The providers a step of a search found, with the addresses the book has of them. -/
def foundNotes (env : Env) (book : AddressBook) (id : Nat) (providers : List PeerId) : List Note :=
  providers.map fun provider =>
    .report (discovered env.crates id provider (book.addressesOf provider))

/-- Providers are reported in the order in which they were found. -/
theorem writes_found (env : Env) (state : State) (id : Nat) (providers : List PeerId) :
    Writes (foundNotes env state.swarm.addressBook id providers) state
      (providers.foldl
        (fun state provider => state.emit
          (discovered env.crates id provider (state.swarm.addressBook.addressesOf provider)))
        state) := by
  induction providers generalizing state with
  | nil => exact Writes.refl state
  | cons provider rest inductionHypothesis =>
    have first : Writes [.report (discovered env.crates id provider
        (state.swarm.addressBook.addressesOf provider))] state (state.emit (discovered env.crates id
          provider (state.swarm.addressBook.addressesOf provider))) := writes_line rfl rfl rfl
    exact first.trans (inductionHypothesis (state.emit _))

/-- Providers found are noted if they are a result of the caller's. -/
def providersNotes (env : Env) (state : State) (query : QueryId) (result : GetProvidersResult) :
    List Note :=
  if (state.topicLookups.lookup query).isSome then []
  else
    match state.providerQueries.lookup query with
    | some id => foundNotes env state.swarm.addressBook id (providersFound result)
    | none => []

/-- Those of a topic are dialed and those of a call queued, neither of which is noted. -/
theorem writes_providersReported (env : Env) (state : State) (query : QueryId)
    (result : GetProvidersResult) (last : Bool) :
    Writes (providersNotes env state query result) state
      (state.providersReported env query result last) := by
  unfold providersReported providersNotes
  by_cases ofTopic : (state.topicLookups.lookup query).isSome = true
  · rw [if_pos ofTopic, if_pos ofTopic]
    have dialed := unnoted_dialTopicMembers env state 0 (providersFound result)
    unfold topicProviders
    dsimp only
    split
    · exact dialed.after (unnoted rfl rfl)
    · exact dialed
  · rw [if_neg ofTopic, if_neg ofTopic]
    cases state.providerQueries.lookup query with
    | some id =>
      have found := writes_found env state id (providersFound result)
      dsimp only
      unfold callerProviders
      dsimp only
      split
      · exact found.before (writes_line rfl rfl rfl)
      · exact found
    | none =>
      dsimp only
      split
      · refine Writes.after ?_ (unnoted_advance env _ _)
        exact unnoted rfl rfl
      · exact Writes.refl state

/-- What a walk found, with the addresses it came with. -/
def walkedNotes (env : Env) (id : Nat) (peers : List PeerInfo) : List Note :=
  peers.map fun info => .report (discovered env.crates id info.peer info.addrs)

/-- A walk reports each peer with the addresses it came with. -/
theorem writes_walked (env : Env) (state : State) (query : QueryId) (id : Nat)
    (peers : List PeerInfo) :
    Writes (walkedNotes env id peers) state (state.walked env query id peers) := by
  have found (state : State) (info : PeerInfo) :
      Writes [.report (discovered env.crates id info.peer info.addrs)] state
        (state.emit (discovered env.crates id info.peer info.addrs)) := writes_line rfl rfl rfl
  have dropped : Writes [] state { state with walks := state.walks.erase query } := unnoted rfl rfl
  have reported := dropped.after (writes_map found peers _)
  unfold walked
  exact reported.before (writes_line rfl rfl rfl)

/-- Addresses are learnt first, whoever asked, and a walk's peers are then reported. -/
def closestNotes (env : Env) (state : State) (query : QueryId) (peers : List PeerInfo) :
    List Note :=
  (peers.flatMap fun info => info.addrs.map (.learn info.peer)) ++
    if (state.resolutions.lookup query).isSome then []
    else
      match state.walks.lookup query with
      | some id => walkedNotes env id peers
      | none => []

/-- A lookup that was made for a call takes precedence over a walk. -/
theorem writes_closestPeersReported (env : Env) (state : State) (query : QueryId)
    (peers : List PeerInfo) :
    Writes (closestNotes env state query peers) state
      (state.closestPeersReported env query peers) := by
  have each (state : State) (info : PeerInfo) : Writes (info.addrs.map (.learn info.peer)) state
      (state.addAddresses info.peer info.addrs) := writes_addAddresses state info.peer info.addrs
  have known := writes_foldl each peers state
  have same := Runs.unchanged
    (fun state (info : PeerInfo) => state.addAddresses info.peer info.addrs) state
    (fun state => (state.resolutions, state.walks)) (fun _ _ => rfl) peers
  obtain ⟨resolutions, walks⟩ := Prod.mk.inj same
  unfold closestPeersReported closestNotes
  dsimp only
  rw [resolutions, walks]
  refine known.trans ?_
  cases state.resolutions.lookup query with
  | some id =>
    refine Writes.after ?_ (unnoted_advance env _ _)
    exact unnoted rfl rfl
  | none =>
    cases state.walks.lookup query with
    | some id => exact writes_walked env _ query id peers
    | none => exact Writes.refl _

/-- A peer new to the routing table and the end of a bootstrap ask for the record again. -/
def kadNotes (env : Env) (state : State) : KadEvent → List Note
  | .routingUpdated peer addresses isNewPeer =>
    addresses.map (.learn peer) ++ if isNewPeer then [.ask] else []
  | .progressed query (.getProviders result) _ => state.providersNotes env query result
  | .progressed query (.getClosestPeers peers) _ => state.closestNotes env query peers
  | .progressed _ (.bootstrap _) last => if last then [.ask] else []
  | .progressed _ .other _ => []
  | .other => []

/-- The event is handled by its kind, a query's result by the query's purpose. -/
theorem writes_kadEvent (env : Env) (state : State) (event : KadEvent) :
    Writes (state.kadNotes env event) state (state.kadEvent env event) := by
  cases event with
  | routingUpdated peer addresses isNewPeer =>
    refine (writes_addAddresses state peer addresses).trans ?_
    unfold kadEvent
    cases isNewPeer with
    | false => exact Writes.refl _
    | true => exact writes_silent rfl rfl rfl
  | progressed query result last =>
    cases result with
    | getProviders result => exact writes_providersReported env state query result last
    | getClosestPeers peers => exact writes_closestPeersReported env state query peers
    | bootstrap ok =>
      unfold kadEvent kadNotes bootstrapReported
      dsimp only
      cases last with
      | false => exact Writes.refl state
      | true =>
        rw [if_pos rfl, if_pos rfl]
        split
        · exact writes_silent rfl rfl rfl
        · exact writes_line rfl rfl rfl
    | other => exact Writes.refl state
  | other => exact Writes.refl state

/-! A round of the event loop. -/

/-- Four kinds of event are to note. -/
def swarmNotes (env : Env) (state : State) : SwarmEvent → List Note
  | .newListenAddr _ address => listenNotes address
  | .kad event => state.kadNotes env event
  | .identified peer info => info.listenAddrs.map (.learn peer)
  | .autonat status => state.natNotes status
  | _ => []

/-- The others are on no agenda. -/
theorem writes_swarmEvent (env : Env) (state : State) (event : SwarmEvent) :
    Writes (state.swarmNotes env event) state (state.swarmEvent env event) := by
  cases event with
  | newListenAddr listener address => exact writes_newListenAddr env state address
  | expiredListenAddr => exact unnoted rfl rfl
  | listenerClosed listener => exact unnoted_relayLost env state listener
  | listenerError listener => exact unnoted_relayLost env state listener
  | connectionEstablished peer connection numEstablished endpoint =>
    exact unnoted_connectionEstablished env state peer connection numEstablished endpoint
  | connectionClosed peer connection numEstablished =>
    exact unnoted_connectionClosed env state peer connection numEstablished
  | kad event => exact writes_kadEvent env state event
  | identified peer info => exact writes_identified env state peer info
  | rpc event => exact unnoted_rpcEvent env state event
  | gossipsub event => exact unnoted_gossipsubEvent env state event
  | dcutr peer result => exact unnoted_holePunched env state peer result
  | autonat status => exact writes_natStatus env state status
  | other => exact Writes.refl state

/-- Four commands are to note. -/
def commandNotes (env : Env) (state : State) : Command → List Note
  | .addAddress node address => addAddressNotes env node address
  | .topicSubscribe key => state.subscribeNotes env key
  | .topicUnsubscribe key => state.unsubscribeNotes key
  | .provide key stop => if stop then [] else publishNotes env (Wire.providerKey env.crates key)
  | _ => []

/-- The others are on no agenda. -/
theorem writes_command (env : Env) (state : State) (sent : Command) :
    Writes (state.commandNotes env sent) state (state.command env sent) := by
  cases sent with
  | rpc id group node protocol payload timeout =>
    exact (unnoted_startCall env state id group node protocol payload timeout).after
      (unnoted_advance env _ id)
  | respond id payload =>
    unfold State.command respond
    dsimp only
    split
    · exact Writes.refl state
    · exact writes_line rfl rfl rfl
  | reject => exact unnoted rfl rfl
  | addAddress node address => exact writes_addAddress env state node address
  | bootstrap id =>
    unfold State.command bootstrap
    dsimp only
    split <;> exact writes_line rfl rfl rfl
  | randomWalk => exact writes_line rfl rfl rfl
  | setClass => exact unnoted rfl rfl
  | announceSetPayload payload =>
    refine Writes.after ?_ (unnoted_announce env { state with announcePayload := some payload })
    exact unnoted rfl rfl
  | setLimit => exact unnoted rfl rfl
  | topicSubscribe key => exact writes_topicSubscribe env state key
  | topicUnsubscribe key => exact writes_topicUnsubscribe env state key
  | topicPublish key payload =>
    unfold State.command topicPublish
    dsimp only
    split
    · exact Writes.refl state
    · split <;> exact writes_line rfl rfl rfl
  | topicPeers => exact writes_line rfl rfl rfl
  | provide key stop =>
    unfold State.command commandNotes
    dsimp only
    split
    · exact unnoted_stopProviding state _
    · exact writes_startProviding env state _
  | findProviders => exact writes_line rfl rfl rfl
  | routingSample max =>
    have sampled : Writes [] state (state.routingSample env max).1 := by
      unfold routingSample
      dsimp only
      split
      · exact Writes.refl state
      · exact unnoted rfl rfl
    exact sampled.after (writes_line rfl rfl rfl)
  | shutdown => exact Writes.refl state

/-- Whether a tick publishes the group's record again. -/
def republishes (env : Env) (state : State) : Bool :=
  state.provideDue && waited env.now provideDebounce state.lastProvide

/-- Lonely topics are looked up before the record is published. -/
def tickNotes (env : Env) (state : State) : List Note :=
  (state.lonely env).map (fun key => .lookUp key env.now) ++
    if state.republishes env then provideNotes env state.group else []

/-- The calls that end, the reservations and the announcement before them change nothing
of which topics are lonely or when the record is due. -/
theorem writes_tick (env : Env) (state : State) :
    Writes (state.tickNotes env) state (state.tick env) := by
  have timedOut : Writes [] state
      ((state.expired env).foldl (fun state id => state.failCall id failTimeout) state) :=
    unnoted_foldl (fun state id => unnoted_failCall state id failTimeout) _ state
  have announced := (timedOut.after (unnoted_reserve env _)).after (unnoted_announce env _)
  unfold tick tickNotes
  dsimp only
  generalize announce env (reserve env ((state.expired env).foldl
    (fun state id => state.failCall id failTimeout) state)) = rested at announced ⊢
  have same : rested.agenda = state.agenda := announced.agenda
  have lonely : rested.lonely env = state.lonely env := by
    unfold State.lonely
    rw [show rested.topics = state.topics from congrArg Agenda.topics same]
  rw [lonely]
  have lookedUp := announced.after
    (writes_map (fun state key => writes_topicLookup env state key) (state.lonely env) rested)
  generalize (state.lonely env).foldl (topicLookup env) rested = asked at lookedUp ⊢
  have kept : asked.agenda.standing = state.agenda.standing := by
    rw [lookedUp.agenda]
    refine Agenda.foldl_note_same (fun agenda note => agenda.standing_note)
      (fun note member => ?_) _
    obtain ⟨key, -, rfl⟩ := List.mem_map.mp member
    exact nofun
  have sweeps := unnoted_sweepLimits env asked
  generalize asked.sweepLimits env = swept at sweeps ⊢
  obtain ⟨group, provideDue, lastProvide⟩ := Agenda.Standing.mk.inj
    ((congrArg Agenda.standing sweeps.agenda).trans kept)
  refine (lookedUp.before sweeps).trans ?_
  unfold provideAgain republishes
  change swept.group = state.group at group
  change swept.provideDue = state.provideDue at provideDue
  change swept.lastProvide = state.lastProvide at lastProvide
  rw [provideDue, lastProvide]
  split
  · exact group ▸ (writes_provide env swept).before (unnoted rfl rfl)
  · exact unnoted rfl rfl

/-- What there is to note about an input. -/
def notes (env : Env) (state : State) : Input → List Note
  | .command sent => state.commandNotes env sent
  | .swarm event => state.swarmNotes env event
  | .tick => state.tickNotes env

/-- A round of the event loop notes what its input is worth. -/
theorem writes_handle (env : Env) (state : State) (input : Input) :
    Writes ((state.heard env.nowMs input).notes env input) state (state.handle env input) := by
  have noted : Writes [] state (state.heard env.nowMs input) := by
    refine ⟨rfl, ?_⟩
    rw [heard, lines, List.filterMap_append]
    rfl
  cases input with
  | command sent => exact noted.after (writes_command env _ sent)
  | swarm event => exact noted.after (writes_swarmEvent env _ event)
  | tick => exact noted.after (writes_tick env _)

end State

namespace System

/-- What there is to note about an action. -/
def notes (system : System) : Action → List Note
  | .draw => []
  | .poll _ => []
  | .internalQuery => []
  | .learn peer address => [.learn peer address]
  | .ready env => State.provideNotes env system.state.group
  | .handle env input => ((system.state.deliver input).heard env.nowMs input).notes env input

/-- What libp2p forgets with an event it hands over is on no agenda. -/
theorem unnoted_deliver (state : State) (input : Input) :
    State.Writes [] state (state.deliver input) := by
  unfold State.deliver
  split <;> exact State.unnoted rfl rfl

/-- Every action writes its notes, and nothing else on the agenda. -/
theorem writes_step (system : System) (action : Action) :
    State.Writes (system.notes action) system.state (system.step action).state := by
  cases action with
  | draw => exact State.unnoted rfl rfl
  | poll => exact State.unnoted rfl rfl
  | internalQuery => exact State.unnoted rfl rfl
  | learn peer address => exact State.writes_addAddresses system.state peer [address]
  | ready env =>
    have emitted : State.Writes [] system.state
        (system.state.emit (reachabilityRecord system.state.configured)) :=
      State.writes_line rfl rfl rfl
    exact emitted.after (State.writes_provide env (system.state.emit _))
  | handle env input =>
    exact (unnoted_deliver system.state input).after (State.writes_handle env _ input)

end System

end Libp2pFfi
