import Libp2pFfi.Delegation
import Libp2pFfi.Wire

/-!
# What a node is started with

The caller's options, as they stand after the pointers in them have been read,
and the configuration `config_from` makes of them. A field that was read through
a pointer is `none` where reading it is an error: a null pointer with a length,
or text that is not UTF-8.
-/

namespace Libp2pFfi

/-- What a node is configured as, and what it acts as. -/
inductive Reachability where
  | publicNode
  | privateNode
  | unknown
deriving DecidableEq, Repr

/-- The announcement's topic and the bound on its payload. -/
structure AnnounceConfig where
  topic : String
  maxPayloadBytes : Nat

/-- libp2p's relay limiter: `burst` tokens, one more every `interval`. -/
structure RelayBucket where
  burst : Nat
  interval : Duration
deriving DecidableEq

/-- Both sides of the relay behaviour. -/
structure RelayConfig where
  server : Bool
  client : Bool
  maxReservations : Nat
  maxReservationsPerPeer : Nat
  reservationDuration : Duration
  maxCircuits : Nat
  maxCircuitsPerPeer : Nat
  maxCircuitDuration : Duration
  maxCircuitBytes : Nat
  circuitsPerPeer : Option RelayBucket
  circuitsPerIp : Option RelayBucket

/-- The options once they are taken. -/
structure Config where
  nodeSeed : Key
  delegation : Delegation
  listen : List Multiaddr
  dhtProtocol : String
  rpcProtocols : List String
  rpcMaxRequestBytes : UInt32
  rpcMaxResponseBytes : UInt32
  rpcTimeout : Duration
  quic : Bool
  dcutr : Bool
  autonat : Bool
  reachability : Reachability
  relay : RelayConfig
  maxConnections : Option Nat
  maxConnectionsPerPeer : Option Nat
  maxPendingIncoming : Option Nat
  announce : Option AnnounceConfig
  eventQueueBytes : Nat
  topicMaxMessageBytes : Nat
  topicMaxSubscriptions : Nat

/-- `lp2p_relay_options`. -/
structure RelayOptions where
  server : Nat
  client : Nat
  maxReservations : UInt32
  maxReservationsPerPeer : UInt32
  reservationDurationS : UInt32
  maxCircuits : UInt32
  maxCircuitsPerPeer : UInt32
  maxCircuitDurationS : UInt32
  maxCircuitBytes : UInt64
  circuitsPerPeer : Rate
  circuitsPerIp : Rate

/-- A null topic is `null`; one that is no text is `unreadable`. -/
inductive TopicOption where
  | null
  | unreadable
  | text (topic : String)

/-- `lp2p_announce_options`. -/
structure AnnounceOptions where
  enabled : Nat
  topic : TopicOption
  maxPayloadBytes : UInt32

/-- `lp2p_options`. -/
structure Options where
  nodeSeed : Key
  delegation : Option Bytes
  group : Key
  listenAddrs : Option (List String)
  dhtProtocol : Option String
  rpcProtocols : Option (List String)
  rpcMaxRequestBytes : UInt32
  rpcMaxResponseBytes : UInt32
  rpcTimeoutMs : UInt32
  quic : Nat
  dcutr : Nat
  autonat : Nat
  maxConnections : UInt32
  maxConnectionsPerPeer : UInt32
  maxPendingIncoming : UInt32
  relay : RelayOptions
  announce : AnnounceOptions
  eventQueueBytes : Nat
  reachability : Nat
  topicMaxMessageBytes : UInt32
  topicMaxSubscriptions : UInt32

/-- 0 in a limit field means no limit of the module's own. -/
def limit (value : UInt32) : Option Nat := if value ≠ 0 then some value.toNat else none

/-- A rate with any zero field switches the limiter off. The interval of a token is
rounded down to whole milliseconds, one at least. -/
def tokenBucket (rate : Rate) : Option RelayBucket :=
  if rate.burst = 0 ∨ rate.amount = 0 ∨ rate.intervalMs = 0 then none
  else some
    { burst := rate.burst
      interval := Duration.fromMillis (max (rate.intervalMs / rate.amount) 1) }

/-- None where announcements are off. A topic that is not UTF-8 refuses the options. -/
def announceConfig (options : AnnounceOptions) (dhtProtocol : String) :
    Option (Option AnnounceConfig) :=
  if options.enabled ≠ 0 then do
    let topic ← match options.topic with
      -- Derived from the DHT protocol, so two networks never share a topic.
      | .null => some (dhtProtocol ++ "/announce")
      | .unreadable => none
      | .text topic => some topic
    if topic.isEmpty then none
    else some (some { topic, maxPayloadBytes := options.maxPayloadBytes.toNat })
  else some none

/-- Any other number is refused. -/
def reachabilityFrom (value : Nat) : Option Reachability :=
  if value = reachPrivate then some .privateNode
  else if value = reachPublic then some .publicNode
  else if value = reachUnknown then some .unknown
  else none

/-- Flags are set by any nonzero byte. -/
def relayConfig (options : RelayOptions) : RelayConfig where
  server := options.server ≠ 0
  client := options.client ≠ 0
  maxReservations := options.maxReservations.toNat
  maxReservationsPerPeer := options.maxReservationsPerPeer.toNat
  reservationDuration := Duration.fromSecs options.reservationDurationS.toNat
  maxCircuits := options.maxCircuits.toNat
  maxCircuitsPerPeer := options.maxCircuitsPerPeer.toNat
  maxCircuitDuration := Duration.fromSecs options.maxCircuitDurationS.toNat
  maxCircuitBytes := options.maxCircuitBytes.toNat
  circuitsPerPeer := tokenBucket options.circuitsPerPeer
  circuitsPerIp := tokenBucket options.circuitsPerIp

/-- Whether a list of protocol names can be registered. -/
def protocolsFit (names : List String) : Bool :=
  names.length ≤ 65535 && names.all fun name =>
    (Wire.asBytes name).length ≠ 0 && (Wire.asBytes name).length ≤ 255

/-- The configuration, or none where the answer is an invalid argument. -/
def configFrom (crates : Crates) (options : Options) : Option Config := do
  let delegation ← (Delegation.parse (← options.delegation)).toOption
  if delegation.group ≠ options.group then none
  let listen ← (← options.listenAddrs).mapM crates.parse
  let dhtProtocol ← crates.streamProtocol (← options.dhtProtocol)
  let rpcProtocols ← options.rpcProtocols
  let announce ← announceConfig options.announce dhtProtocol
  if !protocolsFit rpcProtocols then none
  if options.rpcMaxRequestBytes = 0 ∨ options.rpcMaxResponseBytes = 0 ∨ options.rpcTimeoutMs = 0 then
    none
  let reachability ← reachabilityFrom options.reachability
  some
    { nodeSeed := options.nodeSeed
      delegation
      listen
      dhtProtocol
      rpcProtocols
      rpcMaxRequestBytes := options.rpcMaxRequestBytes
      rpcMaxResponseBytes := options.rpcMaxResponseBytes
      rpcTimeout := Duration.fromMillis options.rpcTimeoutMs.toNat
      quic := options.quic ≠ 0
      dcutr := options.dcutr ≠ 0
      autonat := options.autonat ≠ 0
      reachability
      relay := relayConfig options.relay
      maxConnections := limit options.maxConnections
      maxConnectionsPerPeer := limit options.maxConnectionsPerPeer
      maxPendingIncoming := limit options.maxPendingIncoming
      announce
      -- Below one megabyte-sized response a queue would drop the first large event it meets.
      eventQueueBytes := max options.eventQueueBytes (options.rpcMaxResponseBytes.toNat + 4096)
      topicMaxMessageBytes := options.topicMaxMessageBytes.toNat
      topicMaxSubscriptions := options.topicMaxSubscriptions.toNat }

/-- What an accepted configuration takes from the options. -/
structure Config.Takes (config : Config) (options : Options) : Prop where
  rpcProtocols : options.rpcProtocols = some config.rpcProtocols
  fit : protocolsFit config.rpcProtocols = true
  rpcMaxRequestBytes : config.rpcMaxRequestBytes = options.rpcMaxRequestBytes
  rpcMaxResponseBytes : config.rpcMaxResponseBytes = options.rpcMaxResponseBytes
  eventQueueBytes :
    config.eventQueueBytes = max options.eventQueueBytes (options.rpcMaxResponseBytes.toNat + 4096)
  topicMaxMessageBytes : config.topicMaxMessageBytes = options.topicMaxMessageBytes.toNat

/-- What can be relied on of options that are accepted. -/
theorem takes_of_accepted {crates : Crates} {options : Options} {config : Config}
    (accepted : configFrom crates options = some config) : config.Takes options := by
  unfold configFrom at accepted
  simp only [Option.bind_eq_bind, Option.bind_none, Option.bind_eq_some_iff, ite_eq_iff, reduceCtorEq,
    and_false, false_or] at accepted
  obtain ⟨_, -, _, -, -, _, -, _, -, _, -, _, -, rpcProtocols, named, _, -, fit, -, _, -, made⟩ :=
    accepted
  obtain rfl := Option.some.inj made
  exact ⟨named, by simpa using fit, rfl, rfl, rfl, rfl⟩

end Libp2pFfi
