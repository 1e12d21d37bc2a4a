import Libp2pFfi.NodeState

/-!
# The node's handlers

One definition for each function of `node.rs` that runs on the runtime thread,
under its name. A handler takes the environment it runs in and the state, and
answers the state it leaves; what it does on the way is appended to the log.
-/

namespace Libp2pFfi

/-- How long a new publication of the group's record waits for the last one. -/
def provideDebounce : Duration := Duration.fromSecs 2

/-- How long a node that failed a call is asked last. -/
def failurePenalty : Duration := Duration.fromSecs (5 * 60)

/-- How many failures are remembered. -/
def maxRemembered : Nat := 4096

/-- How many relays a private node reserves at. -/
def maxReservations : Nat := 2

/-- How long a relay that refused is left alone. -/
def relayRetry : Duration := Duration.fromSecs 60

/-- How many relays are remembered. -/
def maxRelayCandidates : Nat := 64

/-- How often a node's announcements are passed on. -/
def announceInterval : Duration := Duration.fromSecs 10

/-- How many of them in reserve. -/
def announceBurst : Nat := 3

/-- How often a topic without a peer is looked up. -/
def topicLookupInterval : Duration := Duration.fromSecs 30

/-- How many providers of a topic are dialed in one go. -/
def topicDials : Nat := 6

/-- How often the buckets are swept. -/
def sweepInterval : Duration := Duration.fromSecs 10

/-- `relay::HOP_PROTOCOL_NAME`. -/
def hopProtocolName : String := "/libp2p/circuit/relay/0.2.0/hop"

/-- `as u16`. -/
def asU16 (value : Nat) : Nat := value % 2 ^ 16

/-- A peer id without an ed25519 key is reported as zeros. -/
def peerKey (crates : Crates) (peer : PeerId) : Key := (keyOf crates peer).getD (Key.filled 0)

/-! Records. -/

/-- The event a call that found nobody ends with. -/
def rpcFailed (id : Nat) (call : Call) (reason : Nat) : Record :=
  (((((EventBuilder.new .rpcFailed).id id).group call.group).protocol call.protocol).reason
    reason).build

/-- The event that answers a call, with the node that answered. -/
def rpcResponse (id : Nat) (group node : Key) (protocol : Nat) (payload : Bytes) : Record :=
  (((((EventBuilder.new .rpcResponse).id id).group group).node node).protocol protocol).data payload

/-- The event that asks the caller for an answer. -/
def rpcRequest (id : Nat) (group node : Key) (protocol : Nat) (payload : Bytes) : Record :=
  (((((EventBuilder.new .rpcRequest).id id).group group).node node).protocol protocol).data payload

/-- The event that reports a refusal, with the scope that refused. -/
def limitedRecord (group node : Key) (protocol reason : Nat) : Record :=
  (((((EventBuilder.new .limited).group group).node node).protocol protocol).reason reason).build

/-- The event that ends a query. A reason of zero is success. -/
def dhtResult (id reason : Nat) : Record :=
  ((((EventBuilder.new .dhtResult).id id).flags evfLast).reason reason).build

/-- The event for a peer that a query found, with its addresses, each ended by a zero
byte. -/
def discovered (crates : Crates) (id : Nat) (peer : PeerId) (addresses : List Multiaddr) : Record :=
  (((EventBuilder.new .peerDiscovered).id id).node (peerKey crates peer)).data
    (addresses.flatMap fun address => crates.display address ++ [0])

/-- The event that tells what the node acts as. -/
def reachabilityRecord (reachability : Reachability) : Record :=
  ((EventBuilder.new .reachability).reason
    (match reachability with
      | .publicNode => reachPublic
      | .privateNode => reachPrivate
      | .unknown => reachUnknown)).build

/-- The reason a failed attempt leaves behind. -/
def OutboundFailure.reason : OutboundFailure → Nat
  | timeout => failTimeout
  | unsupportedProtocols => failRefused
  | dialFailure => failUnreachable
  | connectionClosed => failUnreachable
  | io => failUnreachable

/-- `is_none_or(|t| now.duration_since(t) >= wait)`. -/
def waited (now : Instant) (wait : Duration) (since : Option Instant) : Bool :=
  match since with
  | some time => now - time ≥ wait
  | none => true

/-! Candidates. -/

/-- Whether a peer failed a call recently enough to be asked last. -/
def penalized (now : Instant) (failed : Table PeerId Instant) (peer : PeerId) : Bool :=
  match failed.lookup peer with
  | some time => now - time < failurePenalty
  | none => false

/-- Queue a peer for a call: the group's last good node first, recently failed
nodes last, the rest in the order the DHT reported them. -/
def enqueue (now : Instant) (lastSuccess : Table Key PeerId) (failed : Table PeerId Instant)
    (call : Call) (peer : PeerId) : Call :=
  if peer ∈ call.seen then call
  else
    { call with
      seen := insert peer call.seen
      candidates :=
        if lastSuccess.lookup call.group = some peer ∧ penalized now failed peer = false then
          peer :: call.candidates
        else if penalized now failed peer then call.candidates ++ [peer]
        else call.candidates.insertIdx (call.candidates.findIdx (penalized now failed)) peer }

/-! Checks of what a remote peer sent. -/

/-- The responder's key and the payload of a response that may be reported. -/
def checkResponse (crates : Crates) (nowMs : UInt64) (group : Key) (peer : PeerId) (frame : Bytes) :
    Option (Key × Bytes) := do
  let response ← Wire.decodeResponse frame
  let node ← keyOf crates peer
  let delegation ← (Delegation.parse response.delegation).toOption
  (Delegation.verifyFor crates delegation node nowMs).toOption
  if delegation.group = group then some (node, response.payload) else none

/-- The publisher, its key, its group and the payload of a gossip message. -/
def checkAnnouncement (crates : Crates) (nowMs : UInt64) (message : GossipMessage) :
    Option (PeerId × Key × Key × Bytes) := do
  let source ← message.source
  let node ← keyOf crates source
  let frame ← Wire.decodeAnnouncement message.data
  let delegation ← (Delegation.parse frame.delegation).toOption
  (Delegation.verifyFor crates delegation node nowMs).toOption
  some (source, node, delegation.group, frame.payload)

/-- The requester's key and group, the index of the protocol, and the payload of
an inbound request, before any limit. -/
def checkRequest (crates : Crates) (nowMs : UInt64) (rpcProtocols : List String) (peer : PeerId)
    (frame : Bytes) : Option (Key × Key × Nat × Bytes) := do
  let request ← Wire.decodeRequest frame
  let node ← keyOf crates peer
  let delegation ← (Delegation.parse request.delegation).toOption
  (Delegation.verifyFor crates delegation node nowMs).toOption
  let protocol ← rpcProtocols.findIdx? (· == request.protocol)
  some (node, delegation.group, asU16 protocol, request.payload)

namespace State

/-! Calls into libp2p. -/

/-- Something is done, and logged. -/
def did (state : State) (effect : Effect) : State :=
  { state with log := state.log ++ [.did effect] }

/-- An event is put into the queue, and logged. -/
def emit (state : State) (record : Record) : State :=
  { state with
    shared := { state.shared with events := state.shared.events.push record }
    log := state.log ++ [.did (.emit record)] }

/-- A query begins under the next id. -/
def beginQuery (state : State) (purpose : Purpose) : State :=
  { state with
    swarm :=
      { state.swarm with
        queries := state.swarm.queries.insert state.swarm.nextQuery purpose
        nextQuery := state.swarm.nextQuery + 1 } }

/-- A query for the providers of a key. -/
def getProviders (state : State) (key : Bytes) (purpose : Purpose) : State :=
  (state.beginQuery purpose).did (.getProviders state.swarm.nextQuery key purpose)

/-- A query for the peers closest to one. -/
def getClosestPeers (state : State) (target : PeerId) (purpose : Purpose) : State :=
  (state.beginQuery purpose).did (.getClosestPeers state.swarm.nextQuery target purpose)

/-- Add a provider record and publish it. The local store may refuse. -/
def startProviding (env : Env) (state : State) (key : Bytes) : State :=
  if env.startsProviding key then
    let providing :=
      { state with swarm := { state.swarm with provided := insert key state.swarm.provided } }
    (providing.beginQuery .provide).did (.startProviding state.swarm.nextQuery key)
  else state

/-- The record of a key is dropped, whoever asked for it. -/
def stopProviding (state : State) (key : Bytes) : State :=
  { state with swarm := { state.swarm with provided := state.swarm.provided.erase key } }.did
    (.stopProviding key)

/-- A request goes out for a call. -/
def sendRequest (state : State) (call : Nat) (peer : PeerId) (frame : Bytes) : State :=
  { state with
    swarm :=
      { state.swarm with
        requests := state.swarm.requests.insert state.swarm.nextRequest (peer, call)
        nextRequest := state.swarm.nextRequest + 1 } }.did
    (.sendRequest call state.swarm.nextRequest peer frame)

/-- Addresses go into the swarm's book. -/
def addAddresses (state : State) (peer : PeerId) (addresses : List Multiaddr) : State :=
  { state with
    swarm := { state.swarm with addressBook := state.swarm.addressBook.addAll peer addresses } }

/-- An address is announced as the node's own. -/
def addExternalAddress (state : State) (address : Multiaddr) : State :=
  { state with
    swarm :=
      { state.swarm with externalAddresses := insert address state.swarm.externalAddresses } }

/-- Keep the external addresses that satisfy the predicate, remove the others. -/
def keepExternal (state : State) (keep : Multiaddr → Bool) : State :=
  { state with
    swarm :=
      { state.swarm with
        externalAddresses := state.swarm.externalAddresses.filter fun address => keep address } }

/-! Providing. -/

/-- Announce this node as a provider of its group. -/
def provide (env : Env) (state : State) : State :=
  let state := state.startProviding env (Wire.providerKey env.crates state.group)
  { state with provideDue := false, lastProvide := some env.now }

/-! Calls. -/

/-- A call's entry is written. -/
def setCall (state : State) (id : Nat) (call : Call) : State :=
  { state with calls := state.calls.insert id call }

/-- End a call and report why. -/
def failCall (state : State) (id reason : Nat) : State :=
  match state.calls.lookup id with
  | none => state
  | some call =>
    { state with calls := state.calls.erase id }.emit (rpcFailed id call reason)

/-- Look the addresses of a candidate up, which stays the next one. -/
def resolveCandidate (state : State) (id : Nat) (call : Call) (peer : PeerId)
    (rest : List PeerId) : State :=
  let asked := state.getClosestPeers peer (.resolve id peer)
  { asked with resolutions := asked.resolutions.insert state.swarm.nextQuery id }.setCall id
    { call with
      candidates := peer :: rest
      resolved := insert peer call.resolved
      resolving := true }

/-- Send the call's frame to a candidate. -/
def sendCandidate (state : State) (id : Nat) (call : Call) (peer : PeerId)
    (rest : List PeerId) : State :=
  let sent := state.sendRequest id peer call.frame
  { sent with
    outbound := sent.outbound.insert state.swarm.nextRequest id
    shared := { sent.shared with rpcOut := sent.shared.rpcOut + 1 } }.setCall id
    { call with candidates := rest, inFlight := true }

/-- The loop over the candidates of a call. The answer says whether it left with
something under way. -/
def tryCandidates (env : Env) (id : Nat) (call : Call) : State → List PeerId → State × Bool
  | state, [] => (state.setCall id { call with candidates := [] }, false)
  | state, peer :: rest =>
    let connected := env.isConnected peer
    let known := state.swarm.addressBook.knows peer
    let looked := state.did (.turn id peer connected known)
    if connected || known then (looked.sendCandidate id call peer rest, true)
    else if peer ∈ call.resolved then tryCandidates env id call looked rest
    else (looked.resolveCandidate id call peer rest, true)

/-- Send the call to its next candidate, look a candidate's addresses up first
when nothing is known about it, or fail the call when nobody is left. -/
def advance (env : Env) (state : State) (id : Nat) : State :=
  match state.calls.lookup id with
  | none => state
  | some call =>
    if call.inFlight || call.resolving then state
    else
      match tryCandidates env id call state call.candidates with
      | (after, true) => after
      | (after, false) => if call.lookupRunning then after else after.failCall id call.lastFailure

/-- Start a call: by node with that node as its candidate, by group with a lookup
of the group's providers. Only registered protocols get here, so the index is in
range. -/
def startCall (env : Env) (state : State) (id : Nat) (group : Key) (node : Option Key)
    (protocol : Nat) (payload : Bytes) (timeout : Duration) : State :=
  let name := state.rpcProtocols.getD protocol ""
  let call : Call :=
    { group
      protocol
      frame := Wire.encodeRequest state.delegation name payload
      deadline := env.now + timeout }
  match node with
  | some key =>
    match peerId env.crates key with
    | some peer => state.setCall id { call with seen := {peer}, candidates := [peer] }
    | none => state.setCall id call
  | none =>
    let asked := state.getProviders (Wire.providerKey env.crates group) (.lookup id)
    { asked with providerLookups := asked.providerLookups.insert state.swarm.nextQuery id }.setCall
      id { call with lookupRunning := true }

/-- A peer failed a call just now. A full table keeps the recent failures, or none if
all are recent. -/
def rememberFailure (env : Env) (state : State) (peer : PeerId) : State :=
  let failed :=
    if state.failed.len ≥ maxRemembered then
      let recent := state.failed.retain fun _ time => env.now - time < failurePenalty
      if recent.len ≥ maxRemembered then ∅ else recent
    else state.failed
  { state with failed := failed.insert peer env.now }

/-! Relays and announcements. -/

/-- Whether the node acts as one that cannot be dialed. -/
def isPrivate (state : State) : Bool := state.reachability == .privateNode

/-- One candidate of `reserve`. -/
def reserveOn (env : Env) (state : State) (candidate : PeerId × Multiaddr) : State :=
  if state.reservations.len ≥ maxReservations then state
  else
    let circuit := withoutPeer candidate.2 ++ [.p2p candidate.1, .p2pCircuit]
    if env.listens circuit then
      { state with
        swarm := { state.swarm with nextListener := state.swarm.nextListener + 1 }
        reservations := state.reservations.insert candidate.1 state.swarm.nextListener }.did
        (.listenOn circuit (some state.swarm.nextListener))
    else
      { state with relayFailed := state.relayFailed.insert candidate.1 env.now }.did
        (.listenOn circuit none)

/-- Keep a private node reachable: a reservation on a few of the relays that
offered, skipping relays that failed recently. -/
def reserve (env : Env) (state : State) : State :=
  if !state.isPrivate || !state.relayClient || state.reservations.len ≥ maxReservations then state
  else
    let candidates := state.relayCandidates.toList.filter fun candidate =>
      (state.reservations.lookup candidate.1).isNone &&
        waited env.now relayRetry (state.relayFailed.lookup candidate.1)
    (env.order candidates).foldl (reserveOn env) state

/-- Publish the payload when it differs from the one last published. -/
def announce (env : Env) (state : State) : State :=
  match state.announceTopic, state.announcePayload with
  | some topic, some payload =>
    if state.announcePublished = some payload then state
    else
      let frame := Wire.encodeAnnouncement state.delegation payload
      let result := env.publishes topic frame
      let tried := state.did (.publish topic frame result)
      match result with
      | .noPeersSubscribedToTopic => tried
      | .allQueuesFull => tried
      -- Too large or unsignable cannot get better by trying again.
      | .ok | .duplicate | .refused => { tried with announcePublished := some payload }
  | _, _ => state

/-! Topics. -/

/-- Ask the DHT who else follows this topic. -/
def topicLookup (env : Env) (state : State) (key : Key) : State :=
  let asked := state.getProviders (Wire.providerKey env.crates key) (.topic key)
  let noted := { asked with topicLookups := asked.topicLookups.insert state.swarm.nextQuery key }
  match noted.topics.lookup key with
  | none => noted
  | some topic =>
    { noted with topics := noted.topics.insert key { topic with lastLookup := some env.now } }

/-- Follow a topic: the subscription, a provider record, and a first lookup. -/
def topicSubscribe (env : Env) (state : State) (key : Key) : State :=
  if (state.topics.lookup key).isSome || state.topics.len ≥ state.topicMaxSubscriptions then state
  else
    let topic := Wire.topicName key
    if !env.subscribes topic then state
    else
      let subscribed := state.did (.subscribe topic)
      let topics := subscribed.topics.insert key { topic }
      let followed :=
        { subscribed with
          topicKeys := subscribed.topicKeys.insert topic key
          topics
          shared := { subscribed.shared with topicsSubscribed := Table.len topics } }
      (followed.startProviding env (Wire.providerKey env.crates key)).topicLookup env key

/-- The topic, its name, its subscription and its record go. A lookup under way goes on. -/
def topicUnsubscribe (env : Env) (state : State) (key : Key) : State :=
  match state.topics.lookup key with
  | none => state
  | some topic =>
    let topics := state.topics.erase key
    let left :=
      { state with topics, topicKeys := state.topicKeys.erase topic.topic }.did
        (.unsubscribe topic.topic)
    let stopped := left.stopProviding (Wire.providerKey env.crates key)
    { stopped with shared := { stopped.shared with topicsSubscribed := Table.len topics } }

/-- Dial a few members of a topic. -/
def dialTopicMembers (env : Env) (state : State) : Nat → List PeerId → State
  | _, [] => state
  | dialed, peer :: rest =>
    if dialed ≥ topicDials then state
    else if peer = state.localPeer ∨ env.isConnected peer = true then
      dialTopicMembers env state dialed rest
    else
      dialTopicMembers env (state.did (.dial peer (env.dials peer)))
        (if env.dials peer then dialed + 1 else dialed) rest

/-- A message on a topic that is followed; on any other it is dropped. Only what
gossipsub takes is counted. -/
def topicPublish (env : Env) (state : State) (key : Key) (payload : Bytes) : State :=
  match state.topics.lookup key with
  | none => state
  | some topic =>
    let frame := Wire.encodeAnnouncement state.delegation payload
    let tried := state.did (.publish topic.topic frame (env.publishes topic.topic frame))
    match env.publishes topic.topic frame with
    | .ok =>
      { tried with
        shared :=
          { tried.shared with
            topicOut := tried.shared.topicOut + 1
            topicBytesOut := tried.shared.topicBytesOut + frame.length } }
    | _ => tried

/-- Count a refused request or message, and report it unless too many of these
were reported just now. -/
def reportLimited (env : Env) (state : State) (record : Record) : State :=
  let reported := { state with limits := (state.limits.mayReport env.now).1 }
  if (state.limits.mayReport env.now).2 then reported.emit record else reported

/-- A message on one of the followed topics: the same frame as an announcement,
reported with the topic key in front of the payload. -/
def topicMessage (env : Env) (state : State) (propagationSource : PeerId)
    (message : GossipMessage) : State × MessageAcceptance :=
  match state.topicKeys.lookup message.topic with
  | none => (state, .ignore)
  | some key =>
    match checkAnnouncement env.crates env.nowMs message with
    | none => (state, .reject)
    | some (_, node, group, payload) =>
      if payload.length > state.topicMaxMessageBytes then (state, .reject)
      else
        -- Counted against the peer that passed the message on, in the class of the publisher.
        let request : LimitRequest :=
          { group
            peer := propagationSource
            ip := state.peerIps.lookup propagationSource
            protocol := protocolTopics }
        match state.limits.check request message.data.length env.now with
        | (limits, .error reason) =>
          let refused :=
            { state with
              limits
              shared := { state.shared with topicLimited := state.shared.topicLimited + 1 } }
          (refused.reportLimited env (limitedRecord group node protocolTopics reason), .ignore)
        | (limits, .ok ()) =>
          let admitted :=
            { state with
              limits
              shared :=
                { state.shared with
                  topicIn := state.shared.topicIn + 1
                  topicBytesIn := state.shared.topicBytesIn + message.data.length } }
          (admitted.emit
            ((((EventBuilder.new .topicMessage).group group).node node).data
              (key.toList ++ payload)), .accept)

/-- A message on any other topic. -/
def announcementMessage (env : Env) (state : State) (message : GossipMessage) :
    State × MessageAcceptance :=
  match checkAnnouncement env.crates env.nowMs message with
  | none => (state, .reject)
  | some (source, node, group, payload) =>
    if state.limits.classOf group = classBlocked then (state, .reject)
    else
      let counted := { state with announceRate := (state.announceRate.allow source env.now).1 }
      if (state.announceRate.allow source env.now).2 then
        (counted.emit ((((EventBuilder.new .announcement).group group).node node).data payload),
          .accept)
      else (counted, .ignore)

/-- A message on a followed topic is a topic message, and any other is taken for an
announcement. gossipsub is told the verdict either way. -/
def gossipsubEvent (env : Env) (state : State) : GossipEvent → State
  | .subscribed => state.announce env
  | .message propagationSource id message =>
    if (state.topicKeys.lookup message.topic).isSome then
      let (after, acceptance) := state.topicMessage env propagationSource message
      after.did (.validate id propagationSource acceptance)
    else
      let (after, acceptance) := state.announcementMessage env message
      after.did (.validate id propagationSource acceptance)
  | .other => state

/-! Reachability. -/

/-- What a verdict makes of the external addresses and the reservations. -/
def switchReachability (env : Env) (state : State) (next : Reachability) : State :=
  let switched := { state with reachability := next }
  if next = .privateNode then
    -- Nobody can dial the direct addresses: stop announcing them and reserve on relays.
    (switched.keepExternal isRelayed).reserve env
  else if state.isPrivate then
    -- Reachable after all: the direct addresses again, and the relays released.
    let direct := state.listening.filter fun address =>
      !(state.listensOnWildcard && isLoopback address)
    let restored :=
      { switched with
        swarm :=
          { switched.swarm with externalAddresses := switched.swarm.externalAddresses ∪ direct } }
    let released := (env.order state.reservations.toList).foldl
      (fun state reservation => state.did (.removeListener reservation.2))
      (restored.keepExternal fun address => !isRelayed address)
    { released with reservations := ∅ }
  else switched

/-- AutoNAT's verdict. It decides only for a node configured unknown, and an
unknown verdict changes nothing. -/
def natStatus (env : Env) (state : State) (status : NatStatus) : State :=
  if state.configured ≠ .unknown then state
  else
    match status with
    | .unknown => state
    | .publicAt _ => turnTo .publicNode
    | .privateNode => turnTo .privateNode
where
  turnTo (next : Reachability) : State :=
    if next = state.reachability then state
    else
      let switched := (state.switchReachability env next).did (.identifyPush env.connectedPeers)
      { switched with provideDue := true }.emit (reachabilityRecord next)

/-- Whatever relays the closed listener stood for have failed. -/
def relayLost (env : Env) (state : State) (listener : ListenerId) : State :=
  let lost := (state.reservations.toList.filter fun reservation => reservation.2 = listener).map
    Prod.fst
  (env.order lost).foldl
    (fun state peer =>
      { state with
        reservations := state.reservations.erase peer
        relayFailed := state.relayFailed.insert peer env.now })
    state

/-- Remember a peer that offers to relay. -/
def offerRelay (state : State) (peer : PeerId) (info : IdentifyInfo) : State :=
  if hopProtocolName ∈ info.protocols ∧ state.relayCandidates.len < maxRelayCandidates then
    -- The address this node dialed is known to work; a listen address is a guess.
    match (state.dialed.lookup peer).or
        (info.listenAddrs.find? fun address => !isRelayed address && !isUnspecified address) with
    | some address => { state with relayCandidates := state.relayCandidates.insert peer address }
    | none => state
  else state

/-- A peer told its protocols and addresses. -/
def identified (env : Env) (state : State) (peer : PeerId) (info : IdentifyInfo) : State :=
  let known := (state.offerRelay peer info).addAddresses peer info.listenAddrs
  let told :=
    if state.dhtProtocol ∈ info.protocols then
      info.listenAddrs.foldl (fun state address => state.did (.addAddress peer address)) known
    else known
  told.reserve env

/-- Entries of the routing table, each call from another one on. -/
def routingSample (env : Env) (state : State) (max : Nat) : State × List Record :=
  let entries := env.routingTable
  if entries.isEmpty then (state, [])
  else
    -- Starting somewhere else on every call hands out different entry points.
    let offset := (state.sampleOffset + 1) % entries.length
    let rotated := entries.drop offset ++ entries.take offset
    ({ state with sampleOffset := offset },
      (rotated.take (min max entries.length)).map fun entry =>
        discovered env.crates 0 entry.1 entry.2)

/-! Listeners and connections. -/

/-- What a new listen address changes besides the announced addresses. -/
def noteListenAddr (env : Env) (state : State) (address : Multiaddr) : State :=
  if isRelayed address then
    -- A reservation was accepted: this is how others reach this node now.
    let external := (state.addExternalAddress address).did (.identifyPush env.connectedPeers)
    { external with provideDue := true }
  else if !isUnspecified address then
    { state with listening := insert address state.listening }
  else state

/-- A public node announces the direct addresses that can be of use to others. -/
def newListenAddr (env : Env) (state : State) (address : Multiaddr) : State :=
  let noted := state.noteListenAddr env address
  let announced :=
    if !isRelayed address && !noted.isPrivate && !isUnspecified address &&
        !(noted.listensOnWildcard && isLoopback address) then
      -- A specific address a public node was told to listen on is taken as reachable.
      noted.addExternalAddress address
    else noted
  announced.emit ((EventBuilder.new .listening).data (env.crates.display address))

/-- What a connection shows of its peer is kept, and the first of a peer is reported. -/
def connectionEstablished (env : Env) (state : State) (peer : PeerId) (connection : ConnectionId)
    (numEstablished : Nat) (endpoint : ConnectedPoint) : State :=
  let remote := endpoint.remoteAddress
  let opened := { state with connections := state.connections.insert connection remote }
  let seen :=
    match ipOf remote with
    | some ip =>
      if isRelayed remote then opened else { opened with peerIps := opened.peerIps.insert peer ip }
    | none => opened
  let noted :=
    if endpoint.isDialer && !isRelayed remote then
      { seen with dialed := seen.dialed.insert peer remote }
    else seen
  if numEstablished = 1 then
    noted.emit (((EventBuilder.new .peerConnected).node (peerKey env.crates peer)).data
      (env.crates.display remote))
  else noted

/-- The end of a peer's last connection is reported, and what was kept of the peer goes. -/
def connectionClosed (env : Env) (state : State) (peer : PeerId) (connection : ConnectionId)
    (numEstablished : Nat) : State :=
  let closed := { state with connections := state.connections.erase connection }
  if numEstablished = 0 then
    { closed with dialed := closed.dialed.erase peer, peerIps := closed.peerIps.erase peer }.emit
      ((EventBuilder.new .peerDisconnected).node (peerKey env.crates peer)).build
  else closed

/-- A hole punch has worked, or has failed for a reason that is passed on as text. -/
def holePunched (env : Env) (state : State) (peer : PeerId) :
    Except Bytes ConnectionId → State
  | .ok connection =>
    let address := (state.connections.lookup connection).map env.crates.display
    state.emit (((EventBuilder.new .holePunch).node (peerKey env.crates peer)).data (address.getD []))
  | .error text =>
    state.emit ((((EventBuilder.new .holePunch).node (peerKey env.crates peer)).reason 1).data text)

/-! Kademlia. -/

/-- The providers one step of a lookup found. -/
def providersFound : GetProvidersResult → List PeerId
  | .found providers => providers
  | .finished => []
  | .timeout => []

/-- Queue what a step of a call's lookup found, except this node itself. -/
def queueProviders (env : Env) (state : State) (call : Call) (providers : List PeerId) : Call :=
  providers.foldl
    (fun call provider =>
      if provider ≠ state.localPeer then enqueue env.now state.lastSuccess state.failed call provider
      else call)
    call

/-- A step of a topic's lookup. -/
def topicProviders (env : Env) (state : State) (query : QueryId) (result : GetProvidersResult)
    (last : Bool) : State :=
  let dialed := state.dialTopicMembers env 0 (providersFound result)
  if last then { dialed with topicLookups := dialed.topicLookups.erase query } else dialed

/-- A step of a lookup the caller started. -/
def callerProviders (env : Env) (state : State) (query : QueryId) (id : Nat)
    (result : GetProvidersResult) (last : Bool) : State :=
  let reported := (providersFound result).foldl
    (fun state provider =>
      state.emit
        (discovered env.crates id provider (state.swarm.addressBook.addressesOf provider)))
    state
  if last then
    { reported with providerQueries := reported.providerQueries.erase query }.emit (dhtResult id 0)
  else reported

/-- What a step of a call's lookup changes. The call may have ended before its
lookup. -/
def queueLookup (env : Env) (state : State) (query : QueryId) (id : Nat)
    (result : GetProvidersResult) (last : Bool) : State :=
  { state with
    calls := state.calls.adjust id fun call =>
      let call := state.queueProviders env call (providersFound result)
      if last then { call with lookupRunning := false } else call
    providerLookups :=
      if last then state.providerLookups.erase query else state.providerLookups }

/-- A step of a call's lookup. -/
def callProviders (env : Env) (state : State) (query : QueryId) (id : Nat)
    (result : GetProvidersResult) (last : Bool) : State :=
  (state.queueLookup env query id result last).advance env id

/-- A step of any `get_providers` query, which belongs to a topic, to the caller
or to a call. -/
def providersReported (env : Env) (state : State) (query : QueryId) (result : GetProvidersResult)
    (last : Bool) : State :=
  if (state.topicLookups.lookup query).isSome then state.topicProviders env query result last
  else
    match state.providerQueries.lookup query with
    | some id => state.callerProviders env query id result last
    | none =>
      match state.providerLookups.lookup query with
      | some id => state.callProviders env query id result last
      | none => state

/-- What the end of a candidate's address lookup changes. -/
def resume (state : State) (query : QueryId) (id : Nat) : State :=
  { state with
    resolutions := state.resolutions.erase query
    calls := state.calls.adjust id fun call => { call with resolving := false } }

/-- The addresses of a call's candidate have been looked up. -/
def candidateResolved (env : Env) (state : State) (query : QueryId) (id : Nat) : State :=
  (state.resume query id).advance env id

/-- A random walk has ended. -/
def walked (env : Env) (state : State) (query : QueryId) (id : Nat) (peers : List PeerInfo) :
    State :=
  let reported := peers.foldl
    (fun state info => state.emit (discovered env.crates id info.peer info.addrs))
    { state with walks := state.walks.erase query }
  reported.emit (dhtResult id 0)

/-- A `get_closest_peers` query has ended, which belongs to a call or to a walk. -/
def closestPeersReported (env : Env) (state : State) (query : QueryId) (peers : List PeerInfo) :
    State :=
  let known := peers.foldl (fun state info => state.addAddresses info.peer info.addrs) state
  match known.resolutions.lookup query with
  | some id => known.candidateResolved env query id
  | none =>
    match known.walks.lookup query with
    | some id => known.walked env query id peers
    | none => known

/-- A step of a bootstrap; only its last one counts. -/
def bootstrapReported (state : State) (query : QueryId) (ok last : Bool) : State :=
  if last then
    let reported :=
      match state.bootstraps.lookup query with
      | none => state
      | some id =>
        { state with bootstraps := state.bootstraps.erase query }.emit
          (dhtResult id (if ok then 0 else failTimeout))
    { reported with provideDue := true }
  else state

/-- Kademlia's events. A new peer in the routing table makes the record due. -/
def kadEvent (env : Env) (state : State) : KadEvent → State
  | .routingUpdated peer addresses isNewPeer =>
    let known := state.addAddresses peer addresses
    if isNewPeer then { known with provideDue := true } else known
  | .progressed query (.getProviders result) last =>
    state.providersReported env query result last
  | .progressed query (.getClosestPeers peers) _ => state.closestPeersReported env query peers
  | .progressed query (.bootstrap ok) last => state.bootstrapReported query ok last
  | .progressed _ .other _ => state
  | .other => state

/-! Requests and responses. -/

/-- A request is checked, weighed by the limits, and reported. Otherwise its channel is
dropped. -/
def inboundRequest (env : Env) (state : State) (peer : PeerId) (connection : ConnectionId)
    (request : InboundRequestId) (frame : Bytes) (channel : ResponseChannel) : State :=
  match checkRequest env.crates env.nowMs state.rpcProtocols peer frame with
  -- Every early return drops the channel, which is a rejection.
  | none => state
  | some (node, group, protocol, payload) =>
    -- A relayed connection shows the relay's address, so it has no IP of its own.
    let ip := ((state.connections.lookup connection).filter fun address => !isRelayed address).bind
      ipOf
    match state.limits.check { group, peer, ip, protocol } frame.length env.now with
    | (limits, .error reason) =>
      let refused :=
        { state with
          limits
          shared := { state.shared with rpcLimited := state.shared.rpcLimited + 1 } }
      refused.reportLimited env (limitedRecord group node protocol reason)
    | (limits, .ok ()) =>
      let id := state.shared.nextId
      let admitted :=
        { state with
          limits
          shared :=
            { state.shared with nextId := id + 1, rpcIn := state.shared.rpcIn + 1 } }
      let reported := admitted.emit (rpcRequest id group node protocol payload)
      { reported with
        inbound := reported.inbound.insert id channel
        inboundIds := reported.inboundIds.insert request id }

/-- A call was answered. -/
def answered (state : State) (id : Nat) (call : Call) (peer : PeerId) (node : Key)
    (payload : Bytes) : State :=
  let lastSuccess := if state.lastSuccess.len ≥ maxRemembered then ∅ else state.lastSuccess
  { state with
    calls := state.calls.erase id
    failed := state.failed.erase peer
    lastSuccess := lastSuccess.insert call.group peer }.emit
    (rpcResponse id call.group node call.protocol payload)

/-- A response arrived. One that fails the check is a rejection: this node is
done and the next one is asked. -/
def response (env : Env) (state : State) (peer : PeerId) (request : OutboundRequestId)
    (frame : Bytes) : State :=
  match state.outbound.lookup request with
  | none => state
  | some id =>
    let ended := { state with outbound := state.outbound.erase request }
    match ended.calls.lookup id with
    | none => ended
    | some call =>
      match checkResponse env.crates env.nowMs call.group peer frame with
      | some (node, payload) => ended.answered id call peer node payload
      | none =>
        let refused := ended.setCall id { call with inFlight := false, lastFailure := failRefused }
        (refused.rememberFailure env peer).advance env id

/-- What the failure of a call's request changes. -/
def attemptFailed (state : State) (request : OutboundRequestId) (id reason : Nat) : State :=
  { state with
    outbound := state.outbound.erase request
    calls := state.calls.adjust id fun call =>
      { call with inFlight := false, lastFailure := reason } }

/-- A request failed. -/
def outboundFailed (env : Env) (state : State) (peer : PeerId) (request : OutboundRequestId)
    (error : OutboundFailure) : State :=
  let noted := state.rememberFailure env peer
  match noted.outbound.lookup request with
  | none => noted
  | some id => (noted.attemptFailed request id error.reason).advance env id

/-- An inbound request is over. -/
def inboundEnded (state : State) (request : InboundRequestId) : State :=
  match state.inboundIds.lookup request with
  | none => state
  | some id =>
    { state with
      inboundIds := state.inboundIds.erase request
      inbound := state.inbound.erase id }

/-- The request-response behaviour's events. -/
def rpcEvent (env : Env) (state : State) : RpcEvent → State
  | .request peer connection request frame channel =>
    state.inboundRequest env peer connection request frame channel
  | .response peer request frame => state.response env peer request frame
  | .outboundFailure peer request error => state.outboundFailed env peer request error
  | .inboundFailure request => state.inboundEnded request
  | .responseSent request => state.inboundEnded request

/-! The event loop's three handlers. -/

/-- The events of the swarm. -/
def swarmEvent (env : Env) (state : State) : SwarmEvent → State
  | .newListenAddr _ address => state.newListenAddr env address
  | .expiredListenAddr _ address => { state with listening := state.listening.erase address }
  | .listenerClosed listener => state.relayLost env listener
  | .listenerError listener => state.relayLost env listener
  | .connectionEstablished peer connection numEstablished endpoint =>
    state.connectionEstablished env peer connection numEstablished endpoint
  | .connectionClosed peer connection numEstablished =>
    state.connectionClosed env peer connection numEstablished
  | .kad event => state.kadEvent env event
  | .identified peer info => state.identified env peer info
  | .rpc event => state.rpcEvent env event
  | .gossipsub event => state.gossipsubEvent env event
  | .dcutr peer result => state.holePunched env peer result
  | .autonat status => state.natStatus env status
  | .other => state

/-- The caller's answer goes back on the channel of its request. An unknown id is
dropped. -/
def respond (state : State) (id : Nat) (payload : Bytes) : State :=
  match state.inbound.lookup id with
  | none => state
  | some channel =>
    { state with inbound := state.inbound.erase id }.did
      (.sendResponse channel (Wire.encodeResponse state.delegation payload))

/-- An address of the caller's, if the key is a peer's. -/
def addAddress (env : Env) (state : State) (node : Key) (address : Multiaddr) : State :=
  match peerId env.crates node with
  | none => state
  | some peer => (state.addAddresses peer [address]).did (.addAddress peer address)

/-- A bootstrap that cannot start has failed at once. -/
def bootstrap (env : Env) (state : State) (id : Nat) : State :=
  if env.bootstraps then
    let begun := (state.beginQuery (.bootstrap id)).did
      (.bootstrap state.swarm.nextQuery (.bootstrap id))
    { begun with bootstraps := begun.bootstraps.insert state.swarm.nextQuery id }
  else state.emit (dhtResult id failUnreachable)

/-- A walk is a lookup of the peers closest to a random one. -/
def randomWalk (env : Env) (state : State) (id : Nat) : State :=
  let asked := state.getClosestPeers env.randomPeer (.walk id)
  { asked with walks := asked.walks.insert state.swarm.nextQuery id }

/-- A search of the caller's. -/
def findProviders (env : Env) (state : State) (id : Nat) (key : Key) : State :=
  let asked := state.getProviders (Wire.providerKey env.crates key) (.find id)
  { asked with providerQueries := asked.providerQueries.insert state.swarm.nextQuery id }

/-- The number of mesh peers of a followed topic. -/
def topicPeers (env : Env) (state : State) (key : Key) : Nat :=
  match state.topics.lookup key with
  | none => 0
  | some topic => env.meshPeers topic.topic

/-- A command is handled by its kind. -/
def command (env : Env) (state : State) : Command → State
  | .rpc id group node protocol payload timeout =>
    (state.startCall env id group node protocol payload timeout).advance env id
  | .respond id payload => state.respond id payload
  -- Dropping the channel closes the stream without a response.
  | .reject id => { state with inbound := state.inbound.erase id }
  | .addAddress node address => state.addAddress env node address
  | .bootstrap id => state.bootstrap env id
  | .randomWalk id => state.randomWalk env id
  | .setClass group peerClass => { state with limits := state.limits.setClass group peerClass }
  | .announceSetPayload payload =>
    announce env { state with announcePayload := some payload }
  | .setLimit id rate => { state with limits := state.limits.setLimit id rate }
  | .topicSubscribe key => state.topicSubscribe env key
  | .topicUnsubscribe key => state.topicUnsubscribe env key
  | .topicPublish key payload => state.topicPublish env key payload
  | .topicPeers key => state.did (.replyPeers (state.topicPeers env key))
  | .provide key stop =>
    if stop then state.stopProviding (Wire.providerKey env.crates key)
    else state.startProviding env (Wire.providerKey env.crates key)
  | .findProviders id key => state.findProviders env id key
  | .routingSample max =>
    let (sampled, records) := state.routingSample env max
    sampled.did (.replySample records)
  | .shutdown => state

/-- The calls whose deadline has passed. -/
def expired (env : Env) (state : State) : List Nat :=
  env.order ((state.calls.toList.filter fun entry => entry.2.deadline ≤ env.now).map Prod.fst)

/-- The topics without a mesh peer whose last lookup is long ago. -/
def lonely (env : Env) (state : State) : List Key :=
  env.order ((state.topics.toList.filter fun entry =>
    waited env.now topicLookupInterval entry.2.lastLookup &&
      env.meshPeers entry.2.topic == 0).map Prod.fst)

/-- The part of a tick that sweeps the limits. -/
def sweepLimits (env : Env) (state : State) : State :=
  if env.now - state.lastSweep ≥ sweepInterval then
    { state with limits := state.limits.sweep env.now, lastSweep := env.now }
  else state

/-- The part of a tick that publishes the group's provider record again. -/
def provideAgain (env : Env) (state : State) : State :=
  if state.provideDue && waited env.now provideDebounce state.lastProvide then state.provide env
  else state

/-- A response that still arrives for an expired call finds no call and is
dropped. -/
def tick (env : Env) (state : State) : State :=
  let timedOut := (state.expired env).foldl (fun state id => state.failCall id failTimeout) state
  let announced := (timedOut.reserve env).announce env
  let lookedUp := (announced.lonely env).foldl (topicLookup env) announced
  let provided := (lookedUp.sweepLimits env).provideAgain env
  { provided with
    shared :=
      { provided.shared with
        routingTablePeers := env.routingTable.length
        connections := env.numPeers } }

/-- The state a node starts with. The listeners it was configured with have the
first listener ids. -/
def new (config : Config) (localPeer : PeerId) (now : Instant) : State where
  shared := { events := EventQueue.new config.eventQueueBytes }
  swarm := { nextListener := config.listen.length }
  log := []
  localPeer
  group := config.delegation.group
  delegation := config.delegation.toBytes
  dhtProtocol := config.dhtProtocol
  rpcProtocols := config.rpcProtocols
  calls := ∅
  outbound := ∅
  inbound := ∅
  inboundIds := ∅
  providerLookups := ∅
  resolutions := ∅
  bootstraps := ∅
  walks := ∅
  provideDue := false
  lastProvide := none
  sampleOffset := 0
  lastSuccess := ∅
  failed := ∅
  configured := config.reachability
  reachability := config.reachability
  listening := ∅
  listensOnWildcard := config.listen.any isUnspecified
  relayClient := config.relay.client
  relayCandidates := ∅
  reservations := ∅
  relayFailed := ∅
  dialed := ∅
  connections := ∅
  limits := {}
  lastSweep := now
  announceTopic := config.announce.map AnnounceConfig.topic
  announcePayload := none
  announcePublished := none
  announceRate := SourceRate.new announceInterval announceBurst
  topics := ∅
  topicKeys := ∅
  topicLookups := ∅
  topicMaxMessageBytes := config.topicMaxMessageBytes
  topicMaxSubscriptions := config.topicMaxSubscriptions
  providerQueries := ∅
  peerIps := ∅

/-- What the runtime thread does once its listeners are ready. -/
def ready (env : Env) (state : State) : State :=
  (state.emit (reachabilityRecord state.configured)).provide env

/-- An input is noted before it is handled. -/
def heard (state : State) (nowMs : UInt64) (input : Input) : State :=
  { state with log := state.log ++ [.heard nowMs input] }

/-- One round of the event loop. -/
def handle (env : Env) (state : State) (input : Input) : State :=
  match input with
  | .command command => (state.heard env.nowMs input).command env command
  | .tick => (state.heard env.nowMs input).tick env
  | .swarm event => (state.heard env.nowMs input).swarmEvent env event

end State

end Libp2pFfi
