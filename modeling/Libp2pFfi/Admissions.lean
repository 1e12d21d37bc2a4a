import Libp2pFfi.Gossip
import Libp2pFfi.Routine

/-!
# What is let in

Three handlers decide whether something from outside reaches the caller: that of
an inbound request, that of a message on a followed topic, and that of an
announcement. Each checks the frame first, spends tokens next and reports last.
`Arrival` and `Hearing` list their outcomes with the state each leaves; what is
said about counters, limits or events splits on these.
-/

namespace Libp2pFfi

/-- The event of a message on a followed topic. -/
def topicRecord (key group node : Key) (payload : Bytes) : Record :=
  (((EventBuilder.new .topicMessage).group group).node node).data (key.toList ++ payload)

/-- The event of an announcement. -/
def announcementRecord (group node : Key) (payload : Bytes) : Record :=
  (((EventBuilder.new .announcement).group group).node node).data payload

namespace State

/-- What the limits are asked about an inbound request. -/
def asking (state : State) (peer : PeerId) (connection : ConnectionId) (group : Key)
    (protocol : Nat) : LimitRequest where
  group
  peer
  ip := ((state.connections.lookup connection).filter fun address => !isRelayed address).bind ipOf
  protocol

/-- A request that was refused for its limits. -/
def refuse (env : Env) (state : State) (limits : Limits) (group node : Key)
    (protocol reason : Nat) : State :=
  { state with
    limits
    shared := { state.shared with rpcLimited := state.shared.rpcLimited + 1 } }.reportLimited env
    (limitedRecord group node protocol reason)

/-- A request that was let in. -/
def receive (state : State) (limits : Limits) (request : InboundRequestId) (channel : ResponseChannel)
    (group node : Key) (protocol : Nat) (payload : Bytes) : State :=
  let admitted :=
    { state with
      limits
      shared :=
        { state.shared with
          nextId := state.shared.nextId + 1, rpcIn := state.shared.rpcIn + 1 } }
  let reported := admitted.emit (rpcRequest state.shared.nextId group node protocol payload)
  { reported with
    inbound := reported.inbound.insert state.shared.nextId channel
    inboundIds := reported.inboundIds.insert request state.shared.nextId }

/-- What becomes of an inbound request. -/
inductive Arrival (env : Env) (state : State) (peer : PeerId) (connection : ConnectionId)
    (request : InboundRequestId) (frame : Bytes) (channel : ResponseChannel) : State → Prop where
  | unproven (checked : checkRequest env.crates env.nowMs state.rpcProtocols peer frame = none) :
      Arrival env state peer connection request frame channel state
  | refused (node group : Key) (protocol : Nat) (payload : Bytes) (limits : Limits) (reason : Nat)
      (checked : checkRequest env.crates env.nowMs state.rpcProtocols peer frame =
        some (node, group, protocol, payload))
      (answer : state.limits.check (state.asking peer connection group protocol) frame.length
        env.now = (limits, .error reason)) :
      Arrival env state peer connection request frame channel
        (state.refuse env limits group node protocol reason)
  | admitted (node group : Key) (protocol : Nat) (payload : Bytes) (limits : Limits)
      (checked : checkRequest env.crates env.nowMs state.rpcProtocols peer frame =
        some (node, group, protocol, payload))
      (answer : state.limits.check (state.asking peer connection group protocol) frame.length
        env.now = (limits, .ok ())) :
      Arrival env state peer connection request frame channel
        (state.receive limits request channel group node protocol payload)

theorem arrival (env : Env) (state : State) (peer : PeerId) (connection : ConnectionId)
    (request : InboundRequestId) (frame : Bytes) (channel : ResponseChannel) :
    Arrival env state peer connection request frame channel
      (state.inboundRequest env peer connection request frame channel) := by
  unfold inboundRequest
  split
  · rename_i checked
    exact .unproven checked
  · rename_i node group protocol payload checked
    dsimp only
    split
    · rename_i limits reason answer
      exact .refused node group protocol payload limits reason checked answer
    · rename_i limits answer
      exact .admitted node group protocol payload limits checked answer

/-- A message on a followed topic that was refused for its limits. -/
def hush (env : Env) (state : State) (limits : Limits) (group node : Key) (reason : Nat) : State :=
  { state with
    limits
    shared := { state.shared with topicLimited := state.shared.topicLimited + 1 } }.reportLimited
    env (limitedRecord group node protocolTopics reason)

/-- A message on a followed topic that was let in. -/
def tell (state : State) (limits : Limits) (key group node : Key) (payload : Bytes)
    (bytes : Nat) : State :=
  { state with
    limits
    shared :=
      { state.shared with
        topicIn := state.shared.topicIn + 1
        topicBytesIn := state.shared.topicBytesIn + bytes } }.emit
    (topicRecord key group node payload)

/-- What becomes of a gossip message, and what gossipsub is told. -/
inductive Hearing (env : Env) (state : State) (propagationSource : PeerId)
    (message : GossipMessage) : State → MessageAcceptance → Prop where
  /-- It proves nothing, is too large, or its group is blocked. -/
  | unheard (acceptance : MessageAcceptance) (refused : acceptance ≠ .accept) :
      Hearing env state propagationSource message state acceptance
  | limited (key publisherNode group : Key) (publisher : PeerId) (payload : Bytes) (limits : Limits)
      (reason : Nat) (followed : state.topicKeys.lookup message.topic = some key)
      (checked : checkAnnouncement env.crates env.nowMs message =
        some (publisher, publisherNode, group, payload))
      (fits : payload.length ≤ state.topicMaxMessageBytes)
      (answer : state.limits.check (state.passedOn propagationSource group) message.data.length
        env.now = (limits, .error reason)) :
      Hearing env state propagationSource message
        (state.hush env limits group publisherNode reason) .ignore
  | told (key publisherNode group : Key) (publisher : PeerId) (payload : Bytes) (limits : Limits)
      (followed : state.topicKeys.lookup message.topic = some key)
      (checked : checkAnnouncement env.crates env.nowMs message =
        some (publisher, publisherNode, group, payload))
      (fits : payload.length ≤ state.topicMaxMessageBytes)
      (answer : state.limits.check (state.passedOn propagationSource group) message.data.length
        env.now = (limits, .ok ())) :
      Hearing env state propagationSource message
        (state.tell limits key group publisherNode payload message.data.length) .accept
  | throttled (node group : Key) (publisher : PeerId) (payload : Bytes)
      (strange : state.topicKeys.lookup message.topic = none)
      (checked : checkAnnouncement env.crates env.nowMs message =
        some (publisher, node, group, payload))
      (unblocked : state.limits.classOf group ≠ classBlocked)
      (answer : (state.announceRate.allow publisher env.now).2 = false) :
      Hearing env state propagationSource message
        { state with announceRate := (state.announceRate.allow publisher env.now).1 } .ignore
  | announced (node group : Key) (publisher : PeerId) (payload : Bytes)
      (strange : state.topicKeys.lookup message.topic = none)
      (checked : checkAnnouncement env.crates env.nowMs message =
        some (publisher, node, group, payload))
      (unblocked : state.limits.classOf group ≠ classBlocked)
      (answer : (state.announceRate.allow publisher env.now).2 = true) :
      Hearing env state propagationSource message
        ({ state with announceRate := (state.announceRate.allow publisher env.now).1 }.emit
          (announcementRecord group node payload)) .accept

theorem hearing_topicMessage (env : Env) (state : State) (propagationSource : PeerId)
    (message : GossipMessage) :
    Hearing env state propagationSource message
      (state.topicMessage env propagationSource message).1
      (state.topicMessage env propagationSource message).2 := by
  unfold topicMessage
  split
  · exact .unheard .ignore (by simp)
  · rename_i key followed
    split
    · exact .unheard .reject (by simp)
    · rename_i publisher node group payload checked
      dsimp only
      split
      · exact .unheard .reject (by simp)
      · rename_i fits
        split
        · rename_i limits reason answer
          exact .limited key node group publisher payload limits reason followed checked
            (not_lt.mp fits) answer
        · rename_i limits answer
          exact .told key node group publisher payload limits followed checked (not_lt.mp fits)
            answer

theorem hearing_announcementMessage (env : Env) (state : State) (propagationSource : PeerId)
    (message : GossipMessage) (strange : state.topicKeys.lookup message.topic = none) :
    Hearing env state propagationSource message (state.announcementMessage env message).1
      (state.announcementMessage env message).2 := by
  unfold announcementMessage
  split
  · exact .unheard .reject (by simp)
  · rename_i publisher node group payload checked
    dsimp only
    split
    · exact .unheard .reject (by simp)
    · rename_i unblocked
      split
      · rename_i answer
        exact .announced node group publisher payload strange checked unblocked answer
      · rename_i answer
        exact .throttled node group publisher payload strange checked unblocked
          (by simpa using answer)

/-- Gossipsub is told once about each message. -/
theorem hearing (env : Env) (state : State) (propagationSource : PeerId) (id : MessageId)
    (message : GossipMessage) :
    ∃ after acceptance, Hearing env state propagationSource message after acceptance ∧
      state.gossipsubEvent env (.message propagationSource id message) =
        after.did (.validate id propagationSource acceptance) := by
  unfold gossipsubEvent
  dsimp only
  split
  · exact ⟨_, _, hearing_topicMessage env state propagationSource message, rfl⟩
  · rename_i strange
    refine ⟨_, _, hearing_announcementMessage env state propagationSource message ?_, rfl⟩
    simpa using strange

end State

/-- The lines that an action writes into the log. -/
def System.fresh (system : System) (action : Action) : List Entry :=
  (system.step action).state.log.drop system.state.log.length

end Libp2pFfi
