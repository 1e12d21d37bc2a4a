import Libp2pFfi.DelegationFormat
import Libp2pFfi.Network
import Libp2pFfi.Protocols

/-!
# What arrives is what was sent

What a node reports in the name of another is what the other's caller asked for.
A request is reported with the payload, the protocol and the group of one call,
and no node reports one call twice. A response is reported for the call it
answers, with what the callee's caller answered to the event of that call. And a
message is reported for the topic its publisher named, with what it published
there.

Each follows the frame back: from the event to the frame that was heard, from
there to the line of the other node that wrote it, and from that to the command
of the other node's caller.
-/

namespace Libp2pFfi

/-! What the checks make of a frame that was written by a node. -/

section

variable {crates : Crates} {nowMs : UInt64} {delegation : Delegation} {payload : Bytes}

/-- A request frame is read as it was written. -/
theorem checkRequest_encoded {names : List String} {peer : PeerId} {name : String} {node group : Key}
    {protocol : Nat} {data : Bytes} (fit : names.length ≤ 65535)
    (named : 1 ≤ (Wire.asBytes name).length) (short : (Wire.asBytes name).length ≤ 255)
    (checked : checkRequest crates nowMs names peer
      (Wire.encodeRequest delegation.toBytes name payload) = some (node, group, protocol, data)) :
    group = delegation.group ∧ data = payload ∧ names[protocol]? = some name := by
  have decoded : Wire.decodeRequest (Wire.encodeRequest delegation.toBytes name payload) =
      some { delegation := delegation.toBytes, protocol := name, payload } :=
    Wire.decodeRequest_parts delegation.toBytes_length named short (Wire.fromUtf8_asBytes name)
  simp only [checkRequest, Option.bind_eq_bind, decoded, Option.bind_some, Option.bind_eq_some_iff,
    Delegation.parse_toBytes, Except.toOption, Option.some.injEq, Prod.mk.injEq] at checked
  obtain ⟨key, -, -, -, index, found, -, rfl, rfl, rfl⟩ := checked
  obtain ⟨inRange, same, -⟩ := List.findIdx?_eq_some_iff_getElem.mp found
  have small : asU16 index = index := Nat.mod_eq_of_lt (by omega)
  refine ⟨rfl, rfl, ?_⟩
  rw [small, List.getElem?_eq_getElem inRange]
  exact congrArg some (by simpa using same)

/-- A response frame is read as it was written. -/
theorem checkResponse_encoded {group node : Key} {peer : PeerId} {data : Bytes}
    (checked : checkResponse crates nowMs group peer
      (Wire.encodeResponse delegation.toBytes payload) = some (node, data)) :
    group = delegation.group ∧ data = payload := by
  have decoded : Wire.decodeResponse (Wire.encodeResponse delegation.toBytes payload) =
      some { delegation := delegation.toBytes, payload } :=
    Wire.decodeResponse_parts delegation.toBytes_length
  simp only [checkResponse, Option.bind_eq_bind, decoded, Option.bind_some, Option.bind_eq_some_iff,
    Delegation.parse_toBytes, Except.toOption] at checked
  obtain ⟨key, -, -, -, answer⟩ := checked
  split at answer
  · rename_i ofGroup
    obtain ⟨-, rfl⟩ := Prod.mk.inj (Option.some.inj answer)
    exact ⟨ofGroup.symm, rfl⟩
  · cases answer

/-- And so is a frame that was published. -/
theorem checkAnnouncement_encoded {message : GossipMessage} {publisher : PeerId} {node group : Key}
    {data : Bytes} (written : message.data = Wire.encodeAnnouncement delegation.toBytes payload)
    (checked : checkAnnouncement crates nowMs message = some (publisher, node, group, data)) :
    group = delegation.group ∧ data = payload := by
  have decoded : Wire.decodeAnnouncement message.data =
      some { delegation := delegation.toBytes, payload } := by
    rw [written]
    exact Wire.decodeResponse_parts delegation.toBytes_length
  simp only [checkAnnouncement, Option.bind_eq_bind, decoded, Option.bind_some,
    Option.bind_eq_some_iff, Delegation.parse_toBytes, Except.toOption, Option.some.injEq,
    Prod.mk.injEq] at checked
  obtain ⟨source, -, key, -, -, -, -, -, rfl, rfl⟩ := checked
  exact ⟨rfl, rfl⟩

end

/-! What a node's log says for sure. -/

/-- The id under which a line reports a request. -/
def Entry.reported? : Entry → Option Nat
  | did (.emit record) =>
    if record.header.kind = .rpcRequest then some record.header.id else none
  | _ => none

theorem Desk.events_noted (log : List Entry) (desk : Desk) :
    (log.foldl Desk.note desk).events.map Prod.fst =
      desk.events.map Prod.fst ++ log.filterMap Entry.reported? := by
  induction log generalizing desk with
  | nil => simp
  | cons entry rest inductionHypothesis =>
    rw [List.foldl_cons, inductionHypothesis]
    have noted : (desk.note entry).events.map Prod.fst =
        desk.events.map Prod.fst ++ entry.reported?.toList := by
      unfold Desk.note Entry.reported?
      split
      · unfold Desk.hear
        split <;> simp [Desk.turnAway, Desk.receive, Desk.finish, Desk.close]
      · split
        · rename_i isRequest
          simp [Desk.carry, isRequest]
        · rename_i isOther
          simp [isOther]
      · simp [Desk.answer]
      · rename_i effect notEmit notResponse
        split
        · rename_i record same
          exact absurd (Entry.did.inj same) (notEmit record)
        · simp
    rw [noted, List.append_assoc]
    cases reported : entry.reported? with
    | none => simp [reported]
    | some id => simp [reported]

namespace Vetted

variable {crates : Crates} {localPeer : PeerId} {settings : Settings} {system : System}

/-- An id stands for one request event. -/
theorem same_event (vetted : Vetted crates localPeer settings system) {first second : Record}
    (isFirst : .did (.emit first) ∈ system.state.log)
    (isSecond : .did (.emit second) ∈ system.state.log)
    (firstKind : first.header.kind = .rpcRequest) (secondKind : second.header.kind = .rpcRequest)
    (same : first.header.id = second.header.id) : first = second := by
  have distinct := vetted.attended.distinct
  have events := Desk.events_noted system.state.log {}
  rw [List.map_nil, List.nil_append] at events
  change ((system.state.log.foldl Desk.note {}).events.map Prod.fst).Nodup at distinct
  rw [events] at distinct
  have line := eq_of_nodup_filterMap distinct isFirst isSecond
    (show Entry.reported? (.did (.emit first)) = some second.header.id from
      (if_pos firstKind).trans (congrArg some same))
    (show Entry.reported? (.did (.emit second)) = some second.header.id from if_pos secondKind)
  exact Effect.emit.inj (Entry.did.inj line)

/-- A number stands for one request that went out. -/
theorem same_request (vetted : Vetted crates localPeer settings system) {first second : Nat}
    {request : OutboundRequestId} {peer other : PeerId} {frame otherFrame : Bytes}
    (isFirst : .did (.sendRequest first request peer frame) ∈ system.state.log)
    (isSecond : .did (.sendRequest second request other otherFrame) ∈ system.state.log) :
    first = second ∧ peer = other ∧ frame = otherFrame := by
  have numbered : requestNumbers system.state.log = _ := vetted.sourced.numbered
  have distinct : (system.state.log.filterMap Entry.request?).Nodup := by
    rw [requestNumbers] at numbered
    rw [numbered]
    exact List.nodup_range
  have line := eq_of_nodup_filterMap distinct isFirst isSecond rfl rfl
  obtain ⟨rfl, -, rfl, rfl⟩ := Effect.sendRequest.inj (Entry.did.inj line)
  exact ⟨rfl, rfl, rfl⟩

/-- A request arrived once. -/
theorem same_arrival (vetted : Vetted crates localPeer settings system) {nowMs otherMs : UInt64}
    {peer other : PeerId} {connection otherConnection : ConnectionId} {request : InboundRequestId}
    {frame otherFrame : Bytes} {channel otherChannel : ResponseChannel}
    (isFirst : .heard nowMs (.swarm (.rpc (.request peer connection request frame channel))) ∈
      system.state.log)
    (isSecond : .heard otherMs (.swarm (.rpc (.request other otherConnection request otherFrame
      otherChannel))) ∈ system.state.log) :
    peer = other ∧ frame = otherFrame := by
  have line := eq_of_nodup_filterMap vetted.evident.arrivals isFirst isSecond rfl rfl
  obtain ⟨-, same⟩ := Entry.heard.inj line
  obtain ⟨rfl, -, -, rfl, -⟩ := RpcEvent.request.inj (SwarmEvent.rpc.inj (Input.swarm.inj same))
  exact ⟨rfl, rfl⟩

/-- A call asks a peer once. -/
theorem same_attempt (vetted : Vetted crates localPeer settings system) {call : Nat}
    {first second : OutboundRequestId} {peer : PeerId} {frame otherFrame : Bytes}
    (isFirst : .did (.sendRequest call first peer frame) ∈ system.state.log)
    (isSecond : .did (.sendRequest call second peer otherFrame) ∈ system.state.log) :
    first = second := by
  have once := (vetted.chronicled.chronicle.once call).sent
  have sentIn {request : OutboundRequestId} {sent : Bytes}
      (member : .did (.sendRequest call request peer sent) ∈ system.state.log) :
      (request, peer) ∈ sends call system.state.log :=
    List.mem_filterMap.mpr ⟨_, member, by simp [Entry.sent?]⟩
  have same := List.inj_on_of_nodup_map once (sentIn isFirst) (sentIn isSecond) rfl
  exact (Prod.mk.inj same).1

end Vetted

/-! Two nodes of one group. -/

/-- The options of the remote node. -/
def Sample.remoteOptions : Options :=
  { Sample.tightOptions with
    nodeSeed := Key.filled 3
    delegation := some Sample.remoteDelegation.toBytes }

def Sample.remoteConfig : Config :=
  { Sample.tightConfig with nodeSeed := Key.filled 3, delegation := Sample.remoteDelegation }

theorem Sample.remoteConfig_accepted :
    configFrom Sample.crates Sample.remoteOptions = some Sample.remoteConfig := by
  have parsed : (Delegation.parse Sample.remoteDelegation.toBytes).toOption =
      some Sample.remoteDelegation := by
    decide +kernel
  have named : Sample.crates.streamProtocol "/lp2p/kad/1" = some "/lp2p/kad/1" := by decide +kernel
  have ofGroup : Sample.remoteDelegation.group = Sample.group := rfl
  simp [configFrom, Sample.remoteOptions, Sample.tightOptions, parsed, named, Sample.echo_fit,
    announceConfig, ofGroup, Sample.remoteConfig, Sample.tightConfig, Sample.config, relayConfig,
    limit, tokenBucket, reachabilityFrom]
  rfl

/-- The node and the remote node. -/
def Sample.roster : Roster Bool where
  crates := Sample.crates
  options isRemote := if isRemote then Sample.remoteOptions else Sample.tightOptions
  config isRemote := if isRemote then Sample.remoteConfig else Sample.tightConfig
  accepted isRemote := by
    cases isRemote
    · exact Sample.tightConfig_accepted
    · exact Sample.remoteConfig_accepted
  peer isRemote := if isRemote then Sample.remotePeer else Sample.peer
  since _ := 0
  key isRemote := if isRemote then Sample.remote else Sample.node
  keyed isRemote := by cases isRemote <;> decide +kernel
  distinct := by decide +kernel

/-- The stream of the node's first request. -/
def Sample.stream : Stream Bool where
  caller := false
  call := 1
  request := 0
  callee := true
  inbound := 0
  frame := Wire.encodeRequest Sample.delegation.toBytes "/echo/1" [5]

/-- The node calls the remote node and is answered, and hears what the remote node
publishes. -/
def Sample.exchange : List (Move Bool) :=
  [.act false .draw, .act false (.ready Sample.connectedEnv), .act true (.ready Sample.env),
    .act false (.handle Sample.connectedEnv (.command (.topicSubscribe Sample.topic))),
    .act true (.handle Sample.env (.command (.topicSubscribe Sample.topic))),
    .act false (.handle Sample.connectedEnv
      (.command (.rpc 1 Sample.group (some Sample.remote) 0 [5] (Duration.fromSecs 10)))),
    .request Sample.env 0 Sample.stream,
    .act true (.handle Sample.env (.command (.respond 1 [6]))),
    .response Sample.connectedEnv Sample.stream
      (Wire.encodeResponse Sample.remoteDelegation.toBytes [6]),
    .act true (.handle Sample.env (.command (.topicPublish Sample.topic [7]))),
    .gossip Sample.connectedEnv true false Sample.remotePeer []
      { source := some Sample.remotePeer
        data := Wire.encodeAnnouncement Sample.remoteDelegation.toBytes [7]
        topic := Wire.topicName Sample.topic }]

set_option maxRecDepth 8000 in
theorem Sample.exchange_run : Network.Run Sample.roster Sample.exchange := by
  have silent {input : Input} (nobody : input.speaker? = none) :
      ∀ speaker, input.speaker? = some speaker →
        ∀ node, keyOf Sample.crates speaker ≠ some (Sample.roster.key node) := by
    intro speaker speaks
    rw [nobody] at speaks
    cases speaks
  simp only [Network.Run, Sample.exchange, Runs.admissible_cons, Runs.admissible_nil, and_true]
  refine ⟨⟨trivial, trivial⟩, ⟨⟨rfl, rfl⟩, trivial⟩, ⟨⟨rfl, rfl⟩, trivial⟩,
    ⟨⟨rfl, rfl, by decide, trivial⟩, silent rfl⟩, ⟨⟨rfl, rfl, by decide, trivial⟩, silent rfl⟩,
    ⟨⟨rfl, rfl, ?_, Nat.zero_lt_one⟩, silent rfl⟩, ⟨⟨rfl, ?_, rfl⟩, ?_, ?_⟩,
    ⟨⟨rfl, rfl, by decide, trivial⟩, silent rfl⟩, ⟨⟨rfl, 1, ?_⟩, ?_, ?_⟩,
    ⟨⟨rfl, rfl, by decide, trivial⟩, silent rfl⟩, ⟨rfl, trivial⟩, rfl, .ok, ?_⟩
  · decide
  · decide +kernel
  · exact List.mem_iff_getElem?.mpr ⟨8, rfl⟩
  · simp [Network.step, Network.start, Move.opens]
  · decide +kernel
  · simp [Network.step, Network.start, Move.opens]
  · exact List.mem_iff_getElem?.mpr ⟨9, rfl⟩
  · exact List.mem_iff_getElem?.mpr ⟨11, rfl⟩

namespace Network

section

variable {ν : Type} {roster : Roster ν} {network : Network ν}

/-- A caller's call. -/
def Calls (network : Network ν) (node : ν) (call : Nat) (group : Key) (protocol : Nat)
    (payload : Bytes) : Prop :=
  ∃ nowMs pinned timeout,
    .heard nowMs (.command (.rpc call group pinned protocol payload timeout)) ∈ network.log node

/-- Two nodes have the same protocol under these indices. -/
def SameProtocol (roster : Roster ν) (caller callee : ν) (issued reported : Nat) : Prop :=
  ∃ name, (roster.config caller).rpcProtocols[issued]? = some name ∧
    (roster.config callee).rpcProtocols[reported]? = some name

/-- A call reached a node, which reported it with this event. -/
structure Delivers (roster : Roster ν) (network : Network ν) (caller callee : ν) (call : Nat)
    (record : Record) : Prop where
  reported : .did (.emit record) ∈ network.log callee
  kind : record.header.kind = .rpcRequest
  node : record.header.node = roster.key caller
  group : record.header.group = (roster.config caller).delegation.group
  placed : ∃ group protocol, network.Calls caller call group protocol record.data ∧
    SameProtocol roster caller callee protocol record.header.protocol
  carried : ∃ stream ∈ network.streams, stream.caller = caller ∧ stream.callee = callee ∧
    stream.call = call ∧ CarriedOn (network.log callee) record.header.id ⟨stream.inbound⟩

end

section

variable {ν : Type} [DecidableEq ν] {roster : Roster ν} {moves : List (Move ν)}

/-- A request that went out carries a call's payload, under the name of its
protocol. -/
theorem called_of_sent (run : Run roster moves) {caller : ν} {call : Nat}
    {request : OutboundRequestId} {peer : PeerId} {frame : Bytes}
    (went : .did (.sendRequest call request peer frame) ∈ (after roster moves).log caller) :
    ∃ group protocol name payload, (after roster moves).Calls caller call group protocol payload ∧
      (roster.config caller).rpcProtocols[protocol]? = some name ∧
      frame = Wire.encodeRequest (roster.config caller).delegation.toBytes name payload := by
  have sourced := (vetted run caller).sourced
  obtain ⟨group, protocol, payload, dispatched⟩ := sourced.sent call request peer frame went
  obtain ⟨nowMs, pinned, timeout, heard⟩ := dispatched.heard
  have inRange : protocol < (roster.config caller).rpcProtocols.length :=
    sourced.registered _ _ _ _ _ _ _ heard
  refine ⟨group, protocol, (roster.config caller).rpcProtocols[protocol], payload,
    ⟨nowMs, pinned, timeout, heard⟩, List.getElem?_eq_getElem inRange, ?_⟩
  rw [dispatched.frame, ← List.getD_eq_getElem _ "" inRange]
  rfl

/-- A request event on a stream reports the call whose request opened it. -/
theorem delivers_of_stream (run : Run roster moves) {stream : Stream ν}
    (member : stream ∈ (after roster moves).streams) {record : Record} {nowMs : UInt64}
    {peer : PeerId} (emitted : .did (.emit record) ∈ (after roster moves).log stream.callee)
    (kind : record.header.kind = .rpcRequest)
    (carried : CarriedOn ((after roster moves).log stream.callee) record.header.id
      ⟨stream.inbound⟩)
    (named : record.header.node = roster.key stream.caller)
    (checked : checkRequest roster.crates nowMs (roster.config stream.callee).rpcProtocols peer
      stream.frame =
        some (record.header.node, record.header.group, record.header.protocol, record.data)) :
    Delivers roster (after roster moves) stream.caller stream.callee stream.call record := by
  obtain ⟨group, protocol, name, payload, calls, isName, written⟩ :=
    called_of_sent run ((consistent_after run).sent stream member)
  have fit := (takes_of_accepted (roster.accepted stream.caller)).fit
  have fitToo := (takes_of_accepted (roster.accepted stream.callee)).fit
  obtain ⟨nonempty, short⟩ := name_sized fit (List.mem_of_getElem? isName)
  simp only [protocolsFit, Bool.and_eq_true, decide_eq_true_eq] at fitToo
  rw [written] at checked
  obtain ⟨ofGroup, sameData, sameName⟩ := checkRequest_encoded fitToo.1 nonempty short checked
  refine ⟨emitted, kind, named, ofGroup, ⟨group, protocol, ?_, name, isName, sameName⟩, stream,
    member, rfl, rfl, rfl, carried⟩
  rw [sameData]
  exact calls

/-- A node reports a call once. -/
theorem delivered_once (run : Run roster moves) {caller callee : ν} {call : Nat}
    {first second : Record}
    (isFirst : Delivers roster (after roster moves) caller callee call first)
    (isSecond : Delivers roster (after roster moves) caller callee call second) :
    first = second := by
  have consistent := consistent_after run
  have callees := vetted run callee
  obtain ⟨stream, member, rfl, rfl, rfl, carried⟩ := isFirst.carried
  obtain ⟨other, isOther, sameCaller, sameCallee, sameCall, carriedToo⟩ := isSecond.carried
  have went := consistent.sent stream member
  have wentToo := consistent.sent other isOther
  rw [sameCaller, sameCallee, sameCall] at wentToo
  have sameRequest := (vetted run stream.caller).same_attempt went wentToo
  obtain rfl := consistent.single other isOther stream member sameCaller sameRequest.symm
  exact callees.same_event isFirst.reported isSecond.reported isFirst.kind isSecond.kind
    (callees.attended.own _ _ _ _ carried carriedToo rfl)

/-- Every request that a node reports in the name of another is one call of the
other's caller: its payload, the name of its protocol and its node's group. The
node reports no call twice. -/
theorem requests_delivered (run : Run roster moves) (caller callee : ν) :
    (∀ record, .did (.emit record) ∈ (after roster moves).log callee →
      record.header.kind = .rpcRequest → record.header.node = roster.key caller →
        ∃! call, Delivers roster (after roster moves) caller callee call record) ∧
      ∀ call first second, Delivers roster (after roster moves) caller callee call first →
        Delivers roster (after roster moves) caller callee call second → first = second := by
  have consistent := consistent_after run
  have callees := vetted run callee
  constructor
  · intro record emitted kind named
    obtain ⟨peer, frame, channel, took⟩ := (callees.evident.backed _ emitted).request kind
    obtain ⟨nowMs, connection, heard, checked⟩ := took.heard
    obtain ⟨_, _, _, -, -, proven⟩ := checkRequest_proven checked
    obtain ⟨stream, member, rfl, rfl, onStream, rfl⟩ :=
      consistent.said callee nowMs _ heard peer caller rfl (named ▸ proven.key)
    have carried : CarriedOn ((after roster moves).log stream.callee) record.header.id
        ⟨stream.inbound⟩ := onStream ▸ took.carried
    refine ⟨stream.call, delivers_of_stream run member emitted kind carried named checked, ?_⟩
    rintro call ⟨-, -, -, -, -, other, isOther, -, sameCallee, rfl, carriedToo⟩
    have sameChannel := callees.attended.same_channel carried carriedToo
    rw [consistent.apart other isOther stream member sameCallee
      (ResponseChannel.mk.inj sameChannel).symm]
  · exact fun call first second isFirst isSecond => delivered_once run isFirst isSecond

set_option maxRecDepth 8000 in
theorem requests_delivered_exchange :
    ∃! call, Delivers Sample.roster (after Sample.roster Sample.exchange) false true call
      (rpcRequest 1 Sample.group Sample.node 0 [5]) := by
  refine (requests_delivered Sample.exchange_run false true).1 _ ?_ rfl rfl
  exact List.mem_iff_getElem?.mpr ⟨7, rfl⟩

/-- A call was answered with this response event: the callee reported the call, its
caller answered the report with the event's payload, and the event names the
callee's group and the call's group and protocol. -/
structure Answers (roster : Roster ν) (network : Network ν) (caller callee : ν)
    (asked record : Record) : Prop where
  delivers : Delivers roster network caller callee record.header.id asked
  answered : ∃ nowMs, .heard nowMs (.command (.respond asked.header.id record.data)) ∈
    network.log callee
  group : record.header.group = (roster.config callee).delegation.group
  calls : network.Calls caller record.header.id record.header.group record.header.protocol
    asked.data

/-- Every response that a node reports in the name of another is what the other's
caller answered to the event of that very call. -/
theorem responses_delivered (run : Run roster moves) (caller callee : ν) (record : Record)
    (emitted : .did (.emit record) ∈ (after roster moves).log caller)
    (kind : record.header.kind = .rpcResponse) (named : record.header.node = roster.key callee) :
    ∃! asked, Answers roster (after roster moves) caller callee asked record := by
  have consistent := consistent_after run
  have callees := vetted run callee
  have callers := vetted run caller
  obtain ⟨peer, request, frame, sent, payload, replied⟩ :=
    (callers.evident.backed _ emitted).response kind
  obtain ⟨nowMs, heard, checked⟩ := replied.heard
  obtain ⟨_, -, proven⟩ := checkResponse_proven checked
  obtain ⟨stream, member, rfl, rfl, rfl, answered⟩ :=
    consistent.said caller nowMs _ heard peer callee rfl (named ▸ proven.key)
  -- The response came on the stream of the call's own request.
  obtain ⟨isCall, -, sameFrame⟩ :=
    callers.same_request (consistent.sent stream member) replied.went
  obtain ⟨asked, answer, responded⟩ := callees.evident.backed _ answered
  obtain ⟨asker, arrivedFrame, took⟩ := responded.took
  obtain ⟨askedMs, connection, askedHeard, askedChecked⟩ := took.heard
  obtain ⟨arrivedMs, arrivedConnection, arrived⟩ := consistent.arrived stream member
  obtain ⟨rfl, rfl⟩ := callees.same_arrival askedHeard arrived
  have ofCaller : asked.header.node = roster.key stream.caller := by
    obtain ⟨_, _, _, -, -, askedProven⟩ := checkRequest_proven askedChecked
    exact Option.some.inj (askedProven.key.symm.trans (roster.keyed _))
  have delivers := delivers_of_stream run member took.emitted took.kind took.carried ofCaller
    askedChecked
  rw [isCall] at delivers
  have written : frame = Wire.encodeResponse (roster.config stream.callee).delegation.toBytes
      answer := responded.frame
  rw [written] at checked
  obtain ⟨ofGroup, sameData⟩ := checkResponse_encoded checked
  obtain ⟨commandMs, commanded⟩ := responded.commanded
  refine ⟨asked, ⟨delivers, ⟨commandMs, sameData ▸ commanded⟩, ofGroup, ?_⟩, ?_⟩
  · obtain ⟨group, protocol, ⟨callMs, pinned, timeout, called⟩, -⟩ := delivers.placed
    have line : Dispatched (settings roster stream.caller) _ record.header.id group protocol
        asked.data _ := ⟨⟨callMs, pinned, timeout, called⟩, rfl⟩
    obtain ⟨rfl, rfl, rfl, -⟩ := Dispatched.unique callers.sourced.once line replied.dispatched
    exact ⟨callMs, pinned, timeout, called⟩
  · exact fun other isAnswered => delivered_once run isAnswered.delivers delivers

set_option maxRecDepth 8000 in
theorem responses_delivered_exchange :
    ∃! asked, Answers Sample.roster (after Sample.roster Sample.exchange) false true asked
      (rpcResponse 1 Sample.group Sample.remote 0 [6]) := by
  refine responses_delivered Sample.exchange_run false true _ ?_ rfl rfl
  exact List.mem_iff_getElem?.mpr ⟨10, rfl⟩

/-- A node was told to say this on a topic: by a publication, or as the
announcement of a node that announces itself there. -/
def Says (roster : Roster ν) (network : Network ν) (node : ν) (topic : String) (payload : Bytes) :
    Prop :=
  (∃ nowMs key, .heard nowMs (.command (.topicPublish key payload)) ∈ network.log node ∧
      Wire.topicName key = topic) ∨
    ((roster.config node).announce.map AnnounceConfig.topic = some topic ∧
      ∃ nowMs, .heard nowMs (.command (.announceSetPayload payload)) ∈ network.log node)

/-- What is overheard in the name of a node was said by it. -/
theorem says_of_overheard (run : Run roster moves) {receiver publisher : ν} {record : Record}
    (named : record.header.node = roster.key publisher) {message : GossipMessage} {payload : Bytes}
    (overheard : Overheard roster.crates ((after roster moves).log receiver) record message
      payload) :
    record.header.group = (roster.config publisher).delegation.group ∧
      Says roster (after roster moves) publisher message.topic payload := by
  obtain ⟨nowMs, source, id, author, heard, checked⟩ := overheard
  obtain ⟨isAuthor, _, -, proven⟩ := checkAnnouncement_proven checked
  obtain ⟨result, line⟩ :=
    (consistent_after run).said receiver nowMs _ heard author publisher isAuthor
      (named ▸ proven.key)
  obtain ⟨written, isWritten, said⟩ := (vetted run publisher).evident.backed _ line
  have encoded : message.data =
      Wire.encodeAnnouncement (roster.config publisher).delegation.toBytes written := isWritten
  obtain ⟨ofGroup, rfl⟩ := checkAnnouncement_encoded encoded checked
  refine ⟨ofGroup, ?_⟩
  rcases said with ⟨saidMs, key, commanded, isTopic⟩ | ⟨announces, saidMs, commanded⟩
  · exact .inl ⟨saidMs, key, commanded, isTopic.symm⟩
  · exact .inr ⟨announces, saidMs, commanded⟩

/-- Every message that a node reports in the name of another is what the other was
told to say, with the other's group. The key that the event of a topic starts with
is the one of the publication. -/
theorem publications_delivered (run : Run roster moves) (receiver publisher : ν) (record : Record)
    (emitted : .did (.emit record) ∈ (after roster moves).log receiver)
    (named : record.header.node = roster.key publisher) :
    (record.header.kind = .topicMessage →
      record.header.group = (roster.config publisher).delegation.group ∧
        ∃ key payload, record.data = key.toList ++ payload ∧
          ((∃ nowMs, .heard nowMs (.command (.topicPublish key payload)) ∈
              (after roster moves).log publisher) ∨
            (roster.config publisher).announce.map AnnounceConfig.topic =
                some (Wire.topicName key) ∧
              ∃ nowMs, .heard nowMs (.command (.announceSetPayload payload)) ∈
                (after roster moves).log publisher)) ∧
      (record.header.kind = .announcement →
        record.header.group = (roster.config publisher).delegation.group ∧
          ∃ topic, Says roster (after roster moves) publisher topic record.data) := by
  have backed := (vetted run receiver).evident.backed _ emitted
  constructor
  · intro kind
    obtain ⟨key, message, payload, overheard, isTopic, told⟩ := backed.message kind
    obtain ⟨ofGroup, said⟩ := says_of_overheard run named overheard
    refine ⟨ofGroup, key, payload, told, ?_⟩
    rcases said with ⟨nowMs, published, commanded, same⟩ | ⟨announces, commanded⟩
    · obtain rfl := Wire.topicName_injective (same.trans isTopic)
      exact .inl ⟨nowMs, commanded⟩
    · exact .inr ⟨isTopic ▸ announces, commanded⟩
  · intro kind
    obtain ⟨message, overheard⟩ := backed.announcement kind
    obtain ⟨ofGroup, said⟩ := says_of_overheard run named overheard
    exact ⟨ofGroup, message.topic, said⟩

set_option maxRecDepth 8000 in
/-- The node hears the message on its topic. -/
theorem publications_delivered_exchange :
    ∃ key payload, Sample.topic.toList ++ [7] = key.toList ++ payload ∧
      ((∃ nowMs, .heard nowMs (.command (.topicPublish key payload)) ∈
          (after Sample.roster Sample.exchange).log true) ∨
        (Sample.roster.config true).announce.map AnnounceConfig.topic =
            some (Wire.topicName key) ∧
          ∃ nowMs, .heard nowMs (.command (.announceSetPayload payload)) ∈
            (after Sample.roster Sample.exchange).log true) := by
  refine ((publications_delivered Sample.exchange_run false true
    (topicRecord Sample.topic Sample.group Sample.remote [7]) ?_ rfl).1 rfl).2
  exact List.mem_iff_getElem?.mpr ⟨12, rfl⟩

end

end Network

end Libp2pFfi
