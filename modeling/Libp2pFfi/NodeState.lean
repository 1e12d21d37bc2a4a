import Libp2pFfi.AddressBook
import Libp2pFfi.Limits
import Libp2pFfi.Options

/-!
# The node's state

What the runtime thread owns, what reaches it, and what it does to the outside.

The swarm is libp2p's. Of it the state holds what this repository computes or
relies on: the address book, the external addresses and provider records it
asked for, and which requests and queries libp2p has not finished. Ids come from
counters, so that every one is fresh. What a call into libp2p answers is chosen
by the environment of the handler that makes it.

Everything the node hears and does is written to a log. No handler reads the
log; it is what statements about whole runs speak of. For the same reason a
query and a request are remembered with the purpose they were started for, which
libp2p does not see.
-/

namespace Libp2pFfi

/-- A request this node sent, by libp2p's counter. -/
abbrev OutboundRequestId := Nat

/-- A request that was sent to this node. -/
abbrev InboundRequestId := Nat

/-- A query of the DHT. -/
abbrev QueryId := Nat

/-- A listener of the swarm. A reservation at a relay is one too. -/
abbrev ListenerId := Nat

/-- A connection, of which a peer may have several. -/
abbrev ConnectionId := Nat

/-- A gossipsub message, as its validation names it. -/
abbrev MessageId := Bytes

/-- The channel a response goes back on, which is that of one inbound request. -/
structure ResponseChannel where
  request : InboundRequestId
deriving DecidableEq

/-! What reaches the node. -/

/-- What a call of the interface sends to the runtime thread. -/
inductive Command where
  /-- A call to a group, or to one of its nodes. -/
  | rpc (id : Nat) (group : Key) (node : Option Key) (protocol : Nat) (payload : Bytes)
      (timeout : Duration)
  /-- The answer to a request that was reported under `id`. -/
  | respond (id : Nat) (payload : Bytes)
  /-- No answer: the request's stream is closed. -/
  | reject (id : Nat)
  | addAddress (node : Key) (address : Multiaddr)
  | bootstrap (id : Nat)
  | randomWalk (id : Nat)
  | setClass (group : Key) (peerClass : Nat)
  | announceSetPayload (payload : Bytes)
  | setLimit (id : RuleId) (rate : Rate)
  | topicSubscribe (key : Key)
  | topicUnsubscribe (key : Key)
  | topicPublish (key : Key) (payload : Bytes)
  /-- A thread waits for the count. -/
  | topicPeers (key : Key)
  /-- Puts the record of a key into the DHT, or takes it out. -/
  | provide (key : Key) (stop : Bool)
  | findProviders (id : Nat) (key : Key)
  /-- A thread waits for the sample. -/
  | routingSample (max : Nat)
  | shutdown

/-- What `get_providers` reports in one step. -/
inductive GetProvidersResult where
  | found (providers : List PeerId)
  | finished
  | timeout

/-- A peer and its addresses, as `get_closest_peers` reports them. -/
structure PeerInfo where
  peer : PeerId
  addrs : List Multiaddr

/-- What a query found in one step. -/
inductive QueryResult where
  | getProviders (result : GetProvidersResult)
  /-- The peers are the same whether the query ended well or in a timeout. -/
  | getClosestPeers (peers : List PeerInfo)
  | bootstrap (ok : Bool)
  | other

/-- Kademlia's events. All but two kinds are of no interest to the node. -/
inductive KadEvent where
  /-- The routing table has a peer, with these addresses. -/
  | routingUpdated (peer : PeerId) (addresses : List Multiaddr) (isNewPeer : Bool)
  /-- A query has a result, of which `last` is the end. -/
  | progressed (query : QueryId) (result : QueryResult) (last : Bool)
  | other

/-- Why a request failed. -/
inductive OutboundFailure where
  | dialFailure
  | timeout
  | connectionClosed
  | unsupportedProtocols
  | io
deriving DecidableEq

/-- The request-response behaviour's events. -/
inductive RpcEvent where
  | request (peer : PeerId) (connection : ConnectionId) (request : InboundRequestId)
      (frame : Bytes) (channel : ResponseChannel)
  | response (peer : PeerId) (request : OutboundRequestId) (frame : Bytes)
  | outboundFailure (peer : PeerId) (request : OutboundRequestId) (error : OutboundFailure)
  /-- The answer could not be sent, or was never given. -/
  | inboundFailure (request : InboundRequestId)
  | responseSent (request : InboundRequestId)

/-- A message as gossipsub hands it over. The source is who signed it, which anonymous
messages lack. -/
structure GossipMessage where
  source : Option PeerId
  data : Bytes
  topic : String

/-- Gossipsub's events. -/
inductive GossipEvent where
  | subscribed
  | message (propagationSource : PeerId) (id : MessageId) (message : GossipMessage)
  | other

/-- How a connection came about, with the remote address it shows. -/
inductive ConnectedPoint where
  | dialer (address : Multiaddr)
  | listener (sendBackAddr : Multiaddr)

/-- `get_remote_address`. -/
def ConnectedPoint.remoteAddress : ConnectedPoint → Multiaddr
  | dialer address => address
  | listener sendBackAddr => sendBackAddr

/-- Whether this node dialed the peer. -/
def ConnectedPoint.isDialer : ConnectedPoint → Bool
  | dialer _ => true
  | listener _ => false

/-- AutoNAT's verdicts. -/
inductive NatStatus where
  | publicAt (address : Multiaddr)
  | privateNode
  | unknown

/-- What a peer says of itself. -/
structure IdentifyInfo where
  protocols : List String
  listenAddrs : List Multiaddr

/-- The events of the swarm and of its behaviours that the event loop tells apart. -/
inductive SwarmEvent where
  /-- An address is listened on. A relayed one is a reservation that was accepted. -/
  | newListenAddr (listener : ListenerId) (address : Multiaddr)
  | expiredListenAddr (listener : ListenerId) (address : Multiaddr)
  | listenerClosed (listener : ListenerId)
  | listenerError (listener : ListenerId)
  /-- A connection has opened, so that there are `numEstablished` to the peer. -/
  | connectionEstablished (peer : PeerId) (connection : ConnectionId) (numEstablished : Nat)
      (endpoint : ConnectedPoint)
  /-- A connection has closed, and `numEstablished` are left. -/
  | connectionClosed (peer : PeerId) (connection : ConnectionId) (numEstablished : Nat)
  | kad (event : KadEvent)
  | identified (peer : PeerId) (info : IdentifyInfo)
  | rpc (event : RpcEvent)
  | gossipsub (event : GossipEvent)
  /-- A hole punch that made a connection, or the debug text of its error. -/
  | dcutr (peer : PeerId) (result : Except Bytes ConnectionId)
  | autonat (status : NatStatus)
  | other

/-- One invocation of a handler by the event loop. -/
inductive Input where
  | command (command : Command)
  | tick
  | swarm (event : SwarmEvent)

/-! What the node does. -/

/-- What gossipsub answers to a publication. The handlers tell the first four apart from
the other errors. -/
inductive PublishResult where
  | ok
  | duplicate
  | noPeersSubscribedToTopic
  | allQueuesFull
  | refused

/-- What gossipsub is told of a message: pass it on, or not, and whether its sender is
to blame. -/
inductive MessageAcceptance where
  | accept
  | reject
  | ignore
deriving DecidableEq

/-- What a query was started for. -/
inductive Purpose where
  /-- The providers of the group a call goes to. -/
  | lookup (call : Nat)
  /-- The addresses of a call's next candidate. -/
  | resolve (call : Nat) (peer : PeerId)
  /-- The members of a topic. -/
  | topic (key : Key)
  /-- The providers the caller asked for. -/
  | find (id : Nat)
  | walk (id : Nat)
  | bootstrap (id : Nat)
  /-- A provider record; nobody waits for it. -/
  | provide
  /-- A query libp2p starts on its own. -/
  | internal
deriving DecidableEq

/-- A call into libp2p, an event for the caller, or an answer to a thread that waits. -/
inductive Effect where
  /-- An event is put into the queue. -/
  | emit (record : Record)
  /-- A call's next candidate is looked at: is it connected, is an address known. -/
  | turn (call : Nat) (peer : PeerId) (connected known : Bool)
  | sendRequest (call : Nat) (request : OutboundRequestId) (peer : PeerId) (frame : Bytes)
  | getProviders (query : QueryId) (key : Bytes) (purpose : Purpose)
  | getClosestPeers (query : QueryId) (target : PeerId) (purpose : Purpose)
  | bootstrap (query : QueryId) (purpose : Purpose)
  | startProviding (query : QueryId) (key : Bytes)
  | stopProviding (key : Bytes)
  | sendResponse (channel : ResponseChannel) (frame : Bytes)
  | addAddress (peer : PeerId) (address : Multiaddr)
  /-- A dial that libp2p took or refused. -/
  | dial (peer : PeerId) (ok : Bool)
  /-- A listener, unless libp2p refused the address. -/
  | listenOn (address : Multiaddr) (listener : Option ListenerId)
  | removeListener (listener : ListenerId)
  | identifyPush (peers : List PeerId)
  | subscribe (topic : String)
  | unsubscribe (topic : String)
  | publish (topic : String) (frame : Bytes) (result : PublishResult)
  | validate (message : MessageId) (source : PeerId) (acceptance : MessageAcceptance)
  /-- The answer to a thread that waits for a count. -/
  | replyPeers (count : Nat)
  /-- The answer to a thread that waits for a sample. -/
  | replySample (records : List Record)

/-- One line of the log: an input with the wall clock at which it was handled,
or something done. -/
inductive Entry where
  | heard (nowMs : UInt64) (input : Input)
  | did (effect : Effect)

/-! The state. -/

/-- One call in progress: who is left to try, and what the last attempt said. -/
structure Call where
  group : Key
  protocol : Nat
  frame : Bytes
  candidates : List PeerId := []
  /-- Every peer ever queued, so a provider reported twice is tried once. -/
  seen : Finset PeerId := ∅
  /-- Peers whose addresses were looked up, so that this is not repeated. -/
  resolved : Finset PeerId := ∅
  inFlight : Bool := false
  resolving : Bool := false
  lookupRunning : Bool := false
  deadline : Instant
  lastFailure : Nat := failUnreachable

/-- A followed topic, under its gossipsub name. -/
structure TopicState where
  topic : String
  lastLookup : Option Instant := none

/-- What the caller's threads and the runtime thread both touch. -/
structure Shared where
  events : EventQueue
  /-- A 64-bit counter, taken as never wrapping. -/
  nextId : Nat := 1
  connections : Nat := 0
  routingTablePeers : Nat := 0
  rpcIn : Nat := 0
  rpcOut : Nat := 0
  rpcLimited : Nat := 0
  topicsSubscribed : Nat := 0
  /-- Messages reported to the caller. -/
  topicIn : Nat := 0
  /-- Messages this node published. -/
  topicOut : Nat := 0
  /-- On the wire, frame included. -/
  topicBytesIn : Nat := 0
  topicBytesOut : Nat := 0
  /-- Messages a limit or a blocked group stopped. -/
  topicLimited : Nat := 0

/-- libp2p, as far as this repository looks at it. -/
structure Swarm where
  addressBook : AddressBook := {}
  externalAddresses : Finset Multiaddr := ∅
  /-- The keys this node provides in the DHT. -/
  provided : Finset Bytes := ∅
  nextRequest : OutboundRequestId := 0
  nextQuery : QueryId := 0
  nextListener : ListenerId := 0
  /-- The requests that have not ended, with their peer and their call. -/
  requests : Table OutboundRequestId (PeerId × Nat) := ∅
  /-- The queries that have not delivered their last event. -/
  queries : Table QueryId Purpose := ∅
  /-- The inbound requests that were handed to the node. -/
  inboundSeen : Finset InboundRequestId := ∅

/-- `State` of `node.rs`, with the swarm beside it. -/
structure State where
  shared : Shared
  swarm : Swarm
  log : List Entry
  localPeer : PeerId
  group : Key
  delegation : Bytes
  dhtProtocol : String
  rpcProtocols : List String
  /-- The calls in progress, by the id the caller knows them under. -/
  calls : Table Nat Call
  /-- The call each request was sent for. -/
  outbound : Table OutboundRequestId Nat
  /-- The requests that wait for an answer of the caller's, by their event's id. -/
  inbound : Table Nat ResponseChannel
  /-- The same, by libp2p's id. -/
  inboundIds : Table InboundRequestId Nat
  /-- Lookups of a call's group. -/
  providerLookups : Table QueryId Nat
  /-- Lookups of the addresses of a call's candidate. -/
  resolutions : Table QueryId Nat
  bootstraps : Table QueryId Nat
  walks : Table QueryId Nat
  /-- Whether the group's record is to be published again. -/
  provideDue : Bool
  lastProvide : Option Instant
  /-- Where in the routing table the last sample started. -/
  sampleOffset : Nat
  /-- The node of each group that answered last; it is asked first next time. -/
  lastSuccess : Table Key PeerId
  /-- Nodes that failed a call, and when. -/
  failed : Table PeerId Instant
  /-- What the caller configured; only unknown lets AutoNAT decide. -/
  configured : Reachability
  /-- What the node currently acts as. -/
  reachability : Reachability
  /-- Direct listen addresses, to announce again when the node is found public. -/
  listening : Finset Multiaddr
  /-- A node listening on every interface learns loopback addresses too. -/
  listensOnWildcard : Bool
  relayClient : Bool
  /-- Peers that offered to relay, with the address they were reached on. -/
  relayCandidates : Table PeerId Multiaddr
  /-- Relays with a reservation held or requested, and its listener. -/
  reservations : Table PeerId ListenerId
  /-- Relays that refused or dropped a reservation, and when. -/
  relayFailed : Table PeerId Instant
  /-- The address each connected peer was dialed on, if this node dialed it. -/
  dialed : Table PeerId Multiaddr
  /-- The remote address of every open connection. -/
  connections : Table ConnectionId Multiaddr
  limits : Limits
  lastSweep : Instant
  announceTopic : Option String
  /-- The payload the caller set. -/
  announcePayload : Option Bytes
  /-- The one published last; they differ while a publication is pending. -/
  announcePublished : Option Bytes
  announceRate : SourceRate
  topics : Table Key TopicState
  /-- The key of each topic, by its gossipsub name. -/
  topicKeys : Table String Key
  /-- Lookups of a topic's members. -/
  topicLookups : Table QueryId Key
  topicMaxMessageBytes : Nat
  topicMaxSubscriptions : Nat
  /-- Lookups of providers the caller started. -/
  providerQueries : Table QueryId Nat
  /-- The IP each connected peer was seen on, other than through a relay. -/
  peerIps : Table PeerId IpAddr

/-- What the outside answers during one handler. A handler runs at one time: it
does not wait, and all its looks at a clock show the same. Tables are visited in
an order of the environment's choosing. -/
structure Env where
  crates : Crates
  /-- The monotonic clock. -/
  now : Instant
  /-- The wall clock, in milliseconds since 1970. -/
  nowMs : UInt64
  isConnected : PeerId → Bool
  connectedPeers : List PeerId
  /-- Whether the local store takes a record. -/
  startsProviding : Bytes → Bool
  /-- Whether a bootstrap can start: there has to be a peer to ask. -/
  bootstraps : Bool
  /-- The peer a random walk looks for. -/
  randomPeer : PeerId
  /-- Whether gossipsub subscribes to a topic. -/
  subscribes : String → Bool
  /-- What gossipsub answers to a publication. -/
  publishes : String → Bytes → PublishResult
  /-- To how many peers gossipsub forwards a topic. -/
  meshPeers : String → Nat
  /-- Whether libp2p takes a dial. -/
  dials : PeerId → Bool
  /-- Whether libp2p listens on an address. -/
  listens : Multiaddr → Bool
  /-- Kademlia's routing table, bucket by bucket. -/
  routingTable : List (PeerId × List Multiaddr)
  /-- How many peers are connected. -/
  numPeers : Nat
  /-- The order in which a table is visited. -/
  order : {α : Type} → List α → List α
  order_perm : ∀ {α : Type} (items : List α), (order items).Perm items

end Libp2pFfi
