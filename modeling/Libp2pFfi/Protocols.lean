import Libp2pFfi.Decision
import Libp2pFfi.FrameFormat
import Libp2pFfi.Gossip
import Libp2pFfi.Memory
import Libp2pFfi.Outcomes
import Libp2pFfi.PollBuffer
import Mathlib.Data.List.GetD

/-!
# Names of protocols and their indices

The caller numbers its protocols by their position in a list. The number is what
a limit is set for, what a call is issued with and what an event reports; on the
wire stands the name. Two things follow from the list alone. The numbers share
sixteen bits with two values that mean no protocol of the list, and the list may
be so long that its last index is one of them. And a name is looked up by its
first position, so an index that repeats an earlier name is never reported.
-/

namespace Libp2pFfi

/-- What `set_limit` of the interface lets through to a node with so many
protocols. -/
def acceptsLimit (rpcProtocolCount : Nat) (id : RuleId) : Bool :=
  let named := id.protocol == protocolAny || id.protocol == protocolTopics ||
    decide (id.protocol < rpcProtocolCount)
  !(decide (id.scope > scopeGlobal) || id.peerClass == classBlocked || !named)

/-- A call that reaches the limiter of such a node. -/
def LimitOp.Accepted (rpcProtocolCount : Nat) : LimitOp → Prop
  | .setLimit id _ => acceptsLimit rpcProtocolCount id = true
  | _ => True

/-- What the limiter is asked for an inbound request that names a registered
protocol. -/
def IsRpc (names : List String) (request : LimitRequest) : Prop :=
  ∃ crates nowMs frame node payload,
    checkRequest crates nowMs names request.peer frame =
      some (node, request.group, request.protocol, payload)

/-- What the limiter is asked for a message on a topic. -/
def IsTopicMessage (request : LimitRequest) : Prop := request.protocol = protocolTopics

/-- A node with these protocols, whose limits were set through the interface. -/
structure State.Limited (names : List String) (state : State) (now : Instant) : Prop where
  registered : state.rpcProtocols = names
  reached : ∃ ops, Limits.NonDecreasing 0 ops ∧ (∀ op ∈ ops, op.Accepted names.length) ∧
    Limits.clock 0 ops ≤ now ∧ state.limits = Limits.run ops

/-- From `now` on, a limit has the same tokens before and after. -/
def Limits.Spares (before after : Limits) (now : Instant) (rule : Rule) : Prop :=
  ∀ key time, now ≤ time → after.available rule key time = before.available rule key time

/-- Limits for topics and limits for calls do not touch each other. -/
structure Separate (names : List String) : Prop where
  /-- A limit for topics is neither met nor charged by an inbound request. -/
  calls : ∀ (state : State) (env : Env), state.Limited names env.now →
    ∀ rule ∈ state.limits.rules, rule.id.protocol = protocolTopics →
      (∀ request, IsRpc names request → ∀ key, ¬ state.limits.Concerns request rule key) ∧
        ∀ peer connection request frame channel,
          state.limits.Spares
            (state.inboundRequest env peer connection request frame channel).limits env.now rule
  /-- A limit for a registered protocol is neither met nor charged by a message on
  a topic. -/
  topics : ∀ (state : State) (env : Env), state.Limited names env.now →
    ∀ rule ∈ state.limits.rules, rule.id.protocol < names.length →
      (∀ request, IsTopicMessage request → ∀ key, ¬ state.limits.Concerns request rule key) ∧
        ∀ source message,
          state.limits.Spares (state.topicMessage env source message).1.limits env.now rule
  /-- A limit met by requests of two protocols is one for all. -/
  any : ∀ (state : State) (env : Env), state.Limited names env.now →
    ∀ rule ∈ state.limits.rules, ∀ first second firstKey secondKey,
      state.limits.Concerns first rule firstKey → state.limits.Concerns second rule secondKey →
        first.protocol ≠ second.protocol → rule.id.protocol = protocolAny

theorem Limits.spares_refl (limits : Limits) (now : Instant) (rule : Rule) :
    limits.Spares limits now rule := fun _ _ _ => rfl

/-! What the handlers ask. -/

/-- The index of an inbound request is a position in the list. -/
theorem protocol_lt_of_isRpc {names : List String} {request : LimitRequest}
    (fit : names.length ≤ 65535) (isRpc : IsRpc names request) : request.protocol < names.length := by
  obtain ⟨crates, nowMs, frame, node, payload, checked⟩ := isRpc
  simp only [checkRequest, Option.bind_eq_bind, Option.bind_eq_some_iff, Option.some.injEq,
    Prod.mk.injEq] at checked
  obtain ⟨decoded, -, key, -, delegation, -, -, -, index, found, -, -, same, -⟩ := checked
  have inRange : index < names.length := (List.findIdx?_eq_some_iff_findIdx_eq.mp found).1
  rw [← same, asU16]
  omega

section

variable {names : List String} {state : State} {env : Env} {rule : Rule}

theorem State.Limited.sound (limited : state.Limited names env.now) :
    Limits.Sound state.limits env.now := by
  obtain ⟨ops, ordered, -, past, same⟩ := limited.reached
  rw [same]
  exact (Limits.sound_run ordered).later past

theorem Limits.available_of_buckets {before after : Limits} (same : after.buckets = before.buckets)
    (rule : Rule) (key : BucketKey) (time : Instant) :
    after.available rule key time = before.available rule key time := by
  unfold available
  rw [same]

/-- A check spares a limit that it does not meet. -/
theorem Limits.spares_check (sound : Limits.Sound state.limits env.now)
    (member : rule ∈ state.limits.rules) {request : LimitRequest} (bytes : Nat)
    (aside : ∀ key, ¬ state.limits.Concerns request rule key) :
    state.limits.Spares (state.limits.check request bytes env.now).1 env.now rule :=
  fun key _ later => available_check_aside sound member (aside key) later

/-- Reporting a refusal leaves the tokens as they are. -/
theorem State.spares_reportLimited {limits : Limits} {after : State} (record : Record)
    (spared : limits.Spares after.limits env.now rule) :
    limits.Spares (after.reportLimited env record).limits env.now rule := by
  intro key time later
  rw [Limits.available_of_buckets (reportLimited_keeps env _ _).1]
  exact spared key time later

/-- An inbound request asks the limiter once, if at all. -/
theorem State.spares_inboundRequest (limited : state.Limited names env.now)
    (member : rule ∈ state.limits.rules)
    (aside : ∀ request, IsRpc names request → ∀ key, ¬ state.limits.Concerns request rule key)
    (peer : PeerId) (connection : ConnectionId) (request : InboundRequestId) (frame : Bytes)
    (channel : ResponseChannel) :
    state.limits.Spares (state.inboundRequest env peer connection request frame channel).limits
      env.now rule := by
  unfold inboundRequest
  split
  · exact Limits.spares_refl _ _ _
  · rename_i node group protocol payload checked
    rw [limited.registered] at checked
    dsimp only
    generalize (Option.filter _ (state.connections.lookup connection)).bind ipOf = ip
    have spared := Limits.spares_check limited.sound member frame.length
      (aside { group, peer, ip, protocol } ⟨_, _, _, _, _, checked⟩)
    split
    · rename_i limits reason answer
      rw [answer] at spared
      exact spares_reportLimited _ spared
    · rename_i limits answer
      rw [answer] at spared
      exact spared

/-- A message on a topic asks the limiter once, if at all. -/
theorem State.spares_topicMessage (limited : state.Limited names env.now)
    (member : rule ∈ state.limits.rules)
    (aside : ∀ request, IsTopicMessage request → ∀ key,
      ¬ state.limits.Concerns request rule key)
    (source : PeerId) (message : GossipMessage) :
    state.limits.Spares (state.topicMessage env source message).1.limits env.now rule := by
  unfold topicMessage
  split
  · exact Limits.spares_refl _ _ _
  · split
    · exact Limits.spares_refl _ _ _
    · split
      · exact Limits.spares_refl _ _ _
      · rename_i publisher node group payload checked small
        have spared := Limits.spares_check limited.sound member message.data.length
          (aside
            { group, peer := source, ip := state.peerIps.lookup source, protocol := protocolTopics }
            rfl)
        dsimp only
        split
        · rename_i limits reason answer
          rw [answer] at spared
          exact spares_reportLimited _ spared
        · rename_i limits answer
          rw [answer] at spared
          exact spared

end

/-- Up to so many protocols no index is a value that names something else. -/
theorem indices_unreserved_iff {names : List String} (fit : names.length ≤ 65535) :
    (∀ index < names.length, index ≠ protocolTopics ∧ index ≠ protocolAny) ↔
      names.length ≤ protocolTopics := by
  simp only [protocolTopics, protocolAny]
  constructor
  · intro unreserved
    by_contra long
    exact (unreserved 65534 (by omega)).1 rfl
  · intro short index inRange
    omega

/-- With an index to spare, limits for topics and for calls are apart. -/
theorem separate_of_short {names : List String} (short : names.length ≤ protocolTopics) :
    Separate names := by
  have fit : names.length ≤ 65535 := short.trans (by decide)
  have unreserved := (indices_unreserved_iff fit).mpr short
  refine ⟨?_, ?_, ?_⟩
  · intro state env limited rule member ofTopics
    have aside : ∀ request, IsRpc names request → ∀ key,
        ¬ state.limits.Concerns request rule key := by
      intro request isRpc key concerns
      have inRange := protocol_lt_of_isRpc fit isRpc
      rcases concerns.ofProtocol with ofAll | same
      · cases ofTopics.symm.trans ofAll
      · exact (unreserved _ inRange).1 (same.symm.trans ofTopics)
    exact ⟨aside, State.spares_inboundRequest limited member aside⟩
  · intro state env limited rule member ofCalls
    have aside : ∀ request, IsTopicMessage request → ∀ key,
        ¬ state.limits.Concerns request rule key := by
      intro request ofTopic key concerns
      rcases concerns.ofProtocol with ofAll | same
      · exact (unreserved _ ofCalls).2 ofAll
      · exact (unreserved _ ofCalls).1 (same.trans ofTopic)
    exact ⟨aside, State.spares_topicMessage limited member aside⟩
  · intro state env limited rule member first second firstKey secondKey ofFirst ofSecond differ
    rcases ofFirst.ofProtocol with ofAll | same
    · exact ofAll
    · rcases ofSecond.ofProtocol with ofAll | sameToo
      · exact ofAll
      · exact absurd (same.symm.trans sameToo) differ

/-! A limit for topics that is also one for calls. -/

/-- One message per second from each peer, on topics. -/
def Sample.topicRule : Rule where
  id :=
    { peerClass := classUnknown
      scope := scopePeer
      protocol := protocolTopics
      unit := .messages }
  rate := { amount := 1, intervalMs := 1000, burst := 1 }

/-- A node with these protocols and that limit. -/
def Sample.limitedNode (names : List String) : State :=
  { State.new { Sample.tightConfig with rpcProtocols := names } Sample.peer 0 with
    limits := Limits.run [.setLimit Sample.topicRule.id Sample.topicRule.rate] }

theorem Sample.limitedNode_limited (names : List String) :
    (Sample.limitedNode names).Limited names 0 where
  registered := rfl
  reached := by
    refine ⟨[.setLimit Sample.topicRule.id Sample.topicRule.rate], ?_, ?_, le_refl 0, rfl⟩
    · exact ⟨le_refl 0, trivial⟩
    · intro op member
      obtain rfl := List.mem_singleton.mp member
      rfl

/-- Its limit is met by whatever asks under that number. -/
theorem Sample.limitedNode_concerns (names : List String) (request : LimitRequest)
    (asked : request.protocol = protocolTopics) :
    (Sample.limitedNode names).limits.Concerns request Sample.topicRule (.peer request.peer) where
  inForce := List.mem_singleton.mpr rfl
  ofClass := rfl
  ofProtocol := .inr asked.symm
  inScope := rfl

/-- What the limiter is asked for a message the remote node publishes. -/
def Sample.topicMessageRequest : LimitRequest where
  group := Sample.group
  peer := Sample.remotePeer
  ip := none
  protocol := protocolTopics

/-- Limits for topics and limits for calls are apart exactly if the list of
protocols leaves out the number that stands for topics, which is when no index is
one of the two reserved numbers. -/
theorem limits_separate_iff {crates : Crates} {options : Options} {config : Config}
    (accepted : configFrom crates options = some config) :
    (Separate config.rpcProtocols ↔ config.rpcProtocols.length ≤ protocolTopics) ∧
      ((∀ index < config.rpcProtocols.length, index ≠ protocolTopics ∧ index ≠ protocolAny) ↔
        config.rpcProtocols.length ≤ protocolTopics) := by
  have fit := (takes_of_accepted accepted).fit
  simp only [protocolsFit, Bool.and_eq_true, decide_eq_true_eq] at fit
  refine ⟨⟨fun separate => ?_, separate_of_short⟩, indices_unreserved_iff fit.1⟩
  by_contra long
  have limited := Sample.limitedNode_limited config.rpcProtocols
  have met := Sample.limitedNode_concerns config.rpcProtocols Sample.topicMessageRequest rfl
  have registered : Sample.topicRule.id.protocol < config.rpcProtocols.length := not_le.mp long
  have spared := separate.topics _ Sample.env limited Sample.topicRule met.inForce registered
  exact spared.1 Sample.topicMessageRequest rfl _ met

theorem limits_separate_iff_tight : Separate Sample.tightConfig.rpcProtocols :=
  (limits_separate_iff Sample.tightConfig_accepted).1.mpr (by decide)

theorem Sample.remote_keyed : keyOf Sample.crates Sample.remotePeer = some Sample.remote := by
  decide +kernel

theorem Sample.remote_parsed :
    (Delegation.parse Sample.remoteDelegation.toBytes).toOption = some Sample.remoteDelegation := by
  decide +kernel

theorem Sample.remote_verified :
    (Delegation.verifyFor Sample.crates Sample.remoteDelegation Sample.remote 1).toOption =
      some () := by
  decide +kernel

/-- A request of the remote node is looked up by its name. -/
theorem Sample.checkRequest_remote (names : List String) {name : String} (payload : Bytes)
    (named : 1 ≤ (Wire.asBytes name).length) (short : (Wire.asBytes name).length ≤ 255) :
    checkRequest Sample.crates 1 names Sample.remotePeer
        (Wire.encodeRequest Sample.remoteDelegation.toBytes name payload) =
      (names.findIdx? (· == name)).map fun index =>
        (Sample.remote, Sample.group, asU16 index, payload) := by
  have decoded : Wire.decodeRequest
      (Wire.encodeRequest Sample.remoteDelegation.toBytes name payload) =
        some { delegation := Sample.remoteDelegation.toBytes, protocol := name, payload } :=
    Wire.decodeRequest_parts Sample.remoteDelegation.toBytes_length named short
      (Wire.fromUtf8_asBytes name)
  simp only [checkRequest, decoded, Sample.remote_keyed, Sample.remote_parsed,
    Sample.remote_verified, Option.bind_eq_bind, Option.bind_some]
  cases names.findIdx? (· == name) <;> rfl

/-- A response of the remote node is taken whatever its payload. -/
theorem Sample.checkResponse_remote (payload : Bytes) :
    checkResponse Sample.crates 1 Sample.group Sample.remotePeer
        (Wire.encodeResponse Sample.remoteDelegation.toBytes payload) =
      some (Sample.remote, payload) := by
  have decoded : Wire.decodeResponse
      (Wire.encodeResponse Sample.remoteDelegation.toBytes payload) =
        some { delegation := Sample.remoteDelegation.toBytes, payload } :=
    Wire.decodeResponse_parts Sample.remoteDelegation.toBytes_length
  simp only [checkResponse, decoded, Sample.remote_keyed, Sample.remote_parsed,
    Sample.remote_verified, Option.bind_eq_bind, Option.bind_some]
  rfl

/-- Any list of protocols that fits is accepted. -/
theorem Sample.names_accepted {names : List String} (fit : protocolsFit names = true) :
    configFrom Sample.crates { Sample.tightOptions with rpcProtocols := some names } =
      some { Sample.tightConfig with rpcProtocols := names } :=
  Sample.options_accepted rfl fit (by decide) (by decide) (by decide) (by decide)

/-- As many protocols as are accepted, the last one under a name of its own. -/
def Sample.manyNames : List String := List.replicate 65534 "/echo/1" ++ ["/last/1"]

theorem Sample.manyNames_fit : protocolsFit Sample.manyNames = true := by
  have echo : ((Wire.asBytes "/echo/1").length ≠ 0 &&
      (Wire.asBytes "/echo/1").length ≤ 255) = true := by
    decide +kernel
  have last : ((Wire.asBytes "/last/1").length ≠ 0 &&
      (Wire.asBytes "/last/1").length ≤ 255) = true := by
    decide +kernel
  rw [protocolsFit, Bool.and_eq_true, Sample.manyNames, List.all_append, Bool.and_eq_true]
  refine ⟨?_, ?_, ?_⟩
  · simp [-List.reduceReplicate]
  · rw [List.all_replicate, echo]
    rfl
  · rw [List.all_cons, last]
    rfl

/-- A request on the last protocol and a message on a topic are one to the
limiter. -/
theorem Sample.isRpc_topicMessageRequest : IsRpc Sample.manyNames Sample.topicMessageRequest := by
  have found : Sample.manyNames.findIdx? (· == "/last/1") = some 65534 := by
    have other : (("/echo/1" : String) == "/last/1") = false := by decide
    rw [Sample.manyNames, List.findIdx?_append, List.findIdx?_replicate, List.length_replicate, other]
    simp
  refine ⟨Sample.crates, 1,
    Wire.encodeRequest Sample.remoteDelegation.toBytes "/last/1" [], Sample.remote, [], ?_⟩
  exact (Sample.checkRequest_remote Sample.manyNames [] (by decide +kernel) (by decide +kernel)).trans
    (by rw [found]; rfl)

/-- The options are accepted, and the limit for topics is met by requests. -/
theorem last_protocol_meets_topic_limit :
    configFrom Sample.crates { Sample.tightOptions with rpcProtocols := some Sample.manyNames } =
        some { Sample.tightConfig with rpcProtocols := Sample.manyNames } ∧
      (Sample.limitedNode Sample.manyNames).Limited Sample.manyNames Sample.env.now ∧
      Sample.topicRule.id.protocol = protocolTopics ∧
      IsRpc Sample.manyNames Sample.topicMessageRequest ∧
      (Sample.limitedNode Sample.manyNames).limits.Concerns Sample.topicMessageRequest
        Sample.topicRule (.peer Sample.remotePeer) ∧
      ¬ Separate Sample.manyNames := by
  have limited := Sample.limitedNode_limited Sample.manyNames
  have met := Sample.limitedNode_concerns Sample.manyNames Sample.topicMessageRequest rfl
  refine ⟨?_, limited, rfl, Sample.isRpc_topicMessageRequest, met, fun separate => ?_⟩
  · exact Sample.names_accepted Sample.manyNames_fit
  · have spared := separate.calls _ Sample.env limited Sample.topicRule met.inForce rfl
    exact spared.1 _ Sample.isRpc_topicMessageRequest _ met

/-! An index on both ends. -/

/-- The frame of a call that some node with these protocols issues under an index. -/
def Issued (crates : Crates) (names : List String) (protocol : Nat) (frame : Bytes) : Prop :=
  ∃ config localPeer now actions env id group node payload timeout call,
    config.rpcProtocols = names ∧ System.Run crates config localPeer now actions ∧
      env.crates = crates ∧
      ((System.after config localPeer now actions).state.startCall env id group node protocol payload
        timeout).calls.lookup id = some call ∧
      frame = call.frame

/-- Whichever node with these protocols admits such a frame, it reports the index
the call was issued under, and has asked its limits for that index. -/
def ReportedAs (names : List String) (protocol : Nat) : Prop :=
  ∀ crates frame, Issued crates names protocol frame →
    ∀ config localPeer now actions, config.rpcProtocols = names →
      System.Run crates config localPeer now actions →
      ∀ env peer connection request channel extra record, env.crates = crates →
        let receiver := (System.after config localPeer now actions).state
        let after := receiver.inboundRequest env peer connection request frame channel
        after.log = receiver.log ++ extra → .did (.emit record) ∈ extra →
          record.header.kind = .rpcRequest →
            record.header.protocol = protocol ∧
              after.limits =
                (receiver.limits.check
                  { group := record.header.group
                    peer
                    ip := ((receiver.connections.lookup connection).filter fun address =>
                      !isRelayed address).bind ipOf
                    protocol } frame.length env.now).1

/-- The frame of a call carries the name at its index. -/
theorem State.startCall_frame {env : Env} {state : State} {id : Nat} {group : Key}
    {node : Option Key} {protocol : Nat} {payload : Bytes} {timeout : Duration} {call : Call}
    (started : (state.startCall env id group node protocol payload timeout).calls.lookup id =
      some call) :
    call.frame =
      Wire.encodeRequest state.delegation (state.rpcProtocols.getD protocol "") payload := by
  unfold startCall at started
  dsimp only at started
  split at started
  · split at started
    · rw [setCall, AList.lookup_insert] at started
      exact (congrArg Call.frame (Option.some.inj started)).symm
    · rw [setCall, AList.lookup_insert] at started
      exact (congrArg Call.frame (Option.some.inj started)).symm
  · rw [setCall, AList.lookup_insert] at started
    exact (congrArg Call.frame (Option.some.inj started)).symm

theorem issued_eq {crates : Crates} {names : List String} {protocol : Nat} {frame : Bytes}
    (issued : Issued crates names protocol frame) :
    ∃ (delegation : Delegation) (payload : Bytes),
      frame = Wire.encodeRequest delegation.toBytes (names.getD protocol "") payload := by
  obtain ⟨config, localPeer, now, actions, env, id, group, node, payload, timeout, call, rfl, -, -,
    started, rfl⟩ := issued
  have settings := System.settings_after config localPeer now actions
  have delegation : (System.after config localPeer now actions).state.delegation =
      config.delegation.toBytes :=
    congrArg Settings.delegation settings
  have registered : (System.after config localPeer now actions).state.rpcProtocols =
      config.rpcProtocols :=
    congrArg Settings.rpcProtocols settings
  refine ⟨config.delegation, payload, ?_⟩
  rw [State.startCall_frame started, delegation, registered]

/-- A request that is reported has passed the check, and its limits were asked for
the index that is reported. -/
theorem State.inboundRequest_reported {env : Env} {state : State} {peer : PeerId}
    {connection : ConnectionId} {request : InboundRequestId} {frame : Bytes}
    {channel : ResponseChannel} {extra : List Entry} {record : Record}
    (grown : (state.inboundRequest env peer connection request frame channel).log =
      state.log ++ extra)
    (emitted : .did (.emit record) ∈ extra) (kind : record.header.kind = .rpcRequest) :
    (∃ node payload, checkRequest env.crates env.nowMs state.rpcProtocols peer frame =
        some (node, record.header.group, record.header.protocol, payload)) ∧
      (state.inboundRequest env peer connection request frame channel).limits =
        (state.limits.check
          { group := record.header.group
            peer
            ip := ((state.connections.lookup connection).filter fun address =>
              !isRelayed address).bind ipOf
            protocol := record.header.protocol } frame.length env.now).1 := by
  unfold inboundRequest at grown ⊢
  split at grown
  · obtain rfl : extra = [] := by simpa using grown
    cases emitted
  · rename_i node group protocol payload checked
    dsimp only at grown ⊢
    split at grown
    · rename_i limits reason answer
      -- A refusal is reported as one, if at all.
      obtain ⟨-, -, log⟩ := reportLimited_keeps env
        { state with
          limits
          shared := { state.shared with rpcLimited := state.shared.rpcLimited + 1 } }
        (limitedRecord group node protocol reason)
      rw [grown] at log
      rcases log with same | reported
      · obtain rfl : extra = [] := by simpa using same
        cases emitted
      · obtain rfl := List.append_cancel_left reported
        rw [List.mem_singleton] at emitted
        obtain rfl : record = limitedRecord group node protocol reason := by simpa using emitted
        cases kind
    · rename_i limits answer
      obtain rfl := List.append_cancel_left grown
      rw [List.mem_singleton] at emitted
      obtain rfl : record = rpcRequest state.shared.nextId group node protocol payload := by
        simpa using emitted
      exact ⟨⟨node, payload, checked⟩, (congrArg Prod.fst answer).symm⟩

/-- The name at an index is found there exactly if it stands nowhere before. -/
theorem findIdx?_name_eq_iff {names : List String} {index : Nat} (inRange : index < names.length) :
    names.findIdx? (· == names.getD index "") = some index ↔
      names.getD index "" ∉ names.take index := by
  have stands : names.getD index "" = names[index] := List.getD_eq_getElem _ _ inRange
  simp only [List.findIdx?_eq_some_iff_getElem, stands, beq_self_eq_true, true_and, beq_iff_eq,
    List.mem_take_iff_getElem, inRange, exists_true_left]
  constructor
  · rintro first ⟨earlier, before, same⟩
    exact first earlier (by omega) same
  · intro first earlier before same
    exact first ⟨earlier, by omega, same⟩

/-- What a receiver makes of the frame of a call. -/
theorem checkRequest_issued {crates : Crates} {nowMs : UInt64} {names : List String} {peer : PeerId}
    {delegation : Delegation} {name : String} {payload rest : Bytes} {node group : Key}
    {protocol : Nat} (named : 1 ≤ (Wire.asBytes name).length)
    (short : (Wire.asBytes name).length ≤ 255)
    (checked : checkRequest crates nowMs names peer
      (Wire.encodeRequest delegation.toBytes name payload) = some (node, group, protocol, rest)) :
    ∃ index, names.findIdx? (· == name) = some index ∧ protocol = asU16 index := by
  have decoded : Wire.decodeRequest (Wire.encodeRequest delegation.toBytes name payload) =
      some { delegation := delegation.toBytes, protocol := name, payload } :=
    Wire.decodeRequest_parts delegation.toBytes_length named short (Wire.fromUtf8_asBytes name)
  simp only [checkRequest, decoded, Option.bind_eq_bind, Option.bind_eq_some_iff, Option.some.injEq,
    Prod.mk.injEq] at checked
  obtain ⟨-, rfl, key, -, granted, -, -, -, index, found, -, -, same, -⟩ := checked
  exact ⟨index, found, same.symm⟩

theorem getD_mem_names {names : List String} {index : Nat} (inRange : index < names.length) :
    names.getD index "" ∈ names := by
  rw [List.getD_eq_getElem _ _ inRange]
  exact List.getElem_mem inRange

/-- Every name of a list that was accepted can be written into a frame. -/
theorem name_sized {names : List String} (fit : protocolsFit names = true) {name : String}
    (registered : name ∈ names) :
    1 ≤ (Wire.asBytes name).length ∧ (Wire.asBytes name).length ≤ 255 := by
  simp only [protocolsFit, Bool.and_eq_true, List.all_eq_true, decide_eq_true_eq] at fit
  have sized := fit.2 name registered
  omega

theorem name_fits {names : List String} (fit : protocolsFit names = true) {index : Nat}
    (inRange : index < names.length) :
    1 ≤ (Wire.asBytes (names.getD index "")).length ∧
      (Wire.asBytes (names.getD index "")).length ≤ 255 :=
  name_sized fit (getD_mem_names inRange)

theorem reportedAs_of_first {names : List String} (fit : protocolsFit names = true) {protocol : Nat}
    (inRange : protocol < names.length)
    (first : names.getD protocol "" ∉ names.take protocol) : ReportedAs names protocol := by
  intro crates frame issued config localPeer now actions registered run env peer connection request
    channel extra record ofCrates receiver after grown emitted kind
  obtain ⟨delegation, payload, rfl⟩ := issued_eq issued
  obtain ⟨⟨node, rest, checked⟩, limits⟩ := State.inboundRequest_reported grown emitted kind
  have settings := System.settings_after config localPeer now actions
  have known : receiver.rpcProtocols = names :=
    (congrArg Settings.rpcProtocols settings).trans registered
  obtain ⟨named, short⟩ := name_fits fit inRange
  rw [known] at checked
  obtain ⟨index, found, same⟩ := checkRequest_issued named short checked
  rw [(findIdx?_name_eq_iff inRange).mpr first] at found
  obtain rfl := Option.some.inj found
  simp only [protocolsFit, Bool.and_eq_true, decide_eq_true_eq] at fit
  have exact : record.header.protocol = protocol := by
    rw [same, asU16]
    omega
  rw [exact] at limits
  exact ⟨exact, limits⟩

/-- The remote node with these protocols. -/
def Sample.caller (names : List String) : Config :=
  { Sample.config with delegation := Sample.remoteDelegation, rpcProtocols := names }

/-- It calls the node under an index. -/
theorem Sample.issued (names : List String) (protocol : Nat) :
    Issued Sample.crates names protocol
      (Wire.encodeRequest Sample.remoteDelegation.toBytes (names.getD protocol "") []) := by
  obtain ⟨call, written, -⟩ := State.startCall_spec Sample.env
    (System.after (Sample.caller names) Sample.remotePeer 0 []).state 1 Sample.group
    (some Sample.node) protocol [] (Duration.fromSecs 10)
  have started := (congrArg (AList.lookup 1) written).trans (AList.lookup_insert _)
  exact ⟨Sample.caller names, Sample.remotePeer, 0, [], Sample.env, 1, Sample.group,
    some Sample.node, [], Duration.fromSecs 10, call, rfl, Runs.admissible_nil _ _ _, rfl, started,
    (State.startCall_frame started).symm⟩

/-- A node without limits admits everything. -/
theorem Limits.check_default (request : LimitRequest) (bytes : Nat) (now : Instant) :
    (({} : Limits).check request bytes now).2 = .ok () := by
  have decided := decides (sound_default.later (Nat.zero_le now)) nofun request bytes
  refine (decided.admits ?_).mpr ?_
  · exact (by decide : classUnknown ≠ classBlocked)
  · intro rule key concerns
    cases concerns.inForce

/-- The node, with these protocols, reports a request under the first index of its
name. -/
theorem Sample.reported (names : List String) {name : String} {index : Nat}
    (named : 1 ≤ (Wire.asBytes name).length) (short : (Wire.asBytes name).length ≤ 255)
    (found : names.findIdx? (· == name) = some index) :
    let receiver :=
      (System.after { Sample.config with rpcProtocols := names } Sample.peer 0 []).state
    (receiver.inboundRequest Sample.env Sample.remotePeer 0 0
        (Wire.encodeRequest Sample.remoteDelegation.toBytes name []) ⟨0⟩).log =
      receiver.log ++
        [.did (.emit
          (rpcRequest receiver.shared.nextId Sample.group Sample.remote (asU16 index) []))] := by
  intro receiver
  have checked : checkRequest Sample.env.crates Sample.env.nowMs receiver.rpcProtocols
      Sample.remotePeer (Wire.encodeRequest Sample.remoteDelegation.toBytes name []) =
        some (Sample.remote, Sample.group, asU16 index, []) := by
    refine (Sample.checkRequest_remote names [] named short).trans ?_
    rw [found]
    rfl
  unfold State.inboundRequest
  rw [checked]
  dsimp only
  split
  · rename_i limits reason answer
    have admitted := congrArg Prod.snd answer
    cases admitted.symm.trans (Limits.check_default _ _ _)
  · rfl

/-- So a call of the remote node tells where its name stands first. -/
theorem Sample.first_of_reportedAs {names : List String} {protocol index : Nat}
    (reportedAs : ReportedAs names protocol)
    (named : 1 ≤ (Wire.asBytes (names.getD protocol "")).length)
    (short : (Wire.asBytes (names.getD protocol "")).length ≤ 255)
    (found : names.findIdx? (· == names.getD protocol "") = some index) :
    asU16 index = protocol :=
  (reportedAs Sample.crates _ (Sample.issued names protocol)
    { Sample.config with rpcProtocols := names } Sample.peer 0 [] rfl (Runs.admissible_nil _ _ _)
    Sample.env Sample.remotePeer 0 0 ⟨0⟩ _ _ rfl (Sample.reported names named short found)
    (List.mem_singleton.mpr rfl) rfl).1

/-- An index is the same on both ends exactly if its name stands at no smaller one. -/
theorem reported_as_issued_iff {crates : Crates} {options : Options} {config : Config}
    (accepted : configFrom crates options = some config) {protocol : Nat}
    (inRange : protocol < config.rpcProtocols.length) :
    ReportedAs config.rpcProtocols protocol ↔
      config.rpcProtocols.getD protocol "" ∉ config.rpcProtocols.take protocol := by
  have fit := (takes_of_accepted accepted).fit
  refine ⟨fun reportedAs => ?_, reportedAs_of_first fit inRange⟩
  generalize config.rpcProtocols = names at fit inRange reportedAs ⊢
  obtain ⟨named, short⟩ := name_fits fit inRange
  rw [← findIdx?_name_eq_iff inRange]
  obtain ⟨index, found⟩ : ∃ index, names.findIdx? (· == names.getD protocol "") = some index := by
    apply Option.isSome_iff_exists.mp
    rw [List.findIdx?_isSome, List.any_eq_true]
    exact ⟨names.getD protocol "", getD_mem_names inRange, beq_self_eq_true _⟩
  have small : index < names.length := (List.findIdx?_eq_some_iff_findIdx_eq.mp found).1
  simp only [protocolsFit, Bool.and_eq_true, decide_eq_true_eq] at fit
  have same := Sample.first_of_reportedAs reportedAs named short found
  rw [asU16] at same
  obtain rfl : index = protocol := by omega
  exact found

/-- Three protocols, each under a name of its own. -/
def Sample.threeNamed : List String := ["/echo/1", "/other/1", "/last/1"]

theorem reported_as_issued_iff_last : ReportedAs Sample.threeNamed 2 := by
  have fit : protocolsFit Sample.threeNamed = true := by decide +kernel
  exact (reported_as_issued_iff (Sample.names_accepted fit) (by decide)).mpr (by decide)

/-- Two protocols under one name. -/
def Sample.twiceNamed : List String := ["/echo/1", "/echo/1"]

/-- The list is accepted, and a call under the second index is reported under the
first. -/
theorem repeated_name_reported_first :
    configFrom Sample.crates { Sample.tightOptions with rpcProtocols := some Sample.twiceNamed } =
        some { Sample.tightConfig with rpcProtocols := Sample.twiceNamed } ∧
      1 < Sample.twiceNamed.length ∧
      Issued Sample.crates Sample.twiceNamed 1
        (Wire.encodeRequest Sample.remoteDelegation.toBytes "/echo/1" []) ∧
      (∃ record,
        let receiver := (System.after { Sample.config with rpcProtocols := Sample.twiceNamed }
          Sample.peer 0 []).state
        (receiver.inboundRequest Sample.env Sample.remotePeer 0 0
            (Wire.encodeRequest Sample.remoteDelegation.toBytes "/echo/1" []) ⟨0⟩).log =
          receiver.log ++ [.did (.emit record)] ∧
        record.header.kind = .rpcRequest ∧ record.header.protocol = 0) ∧
      ¬ ReportedAs Sample.twiceNamed 1 := by
  have named : 1 ≤ (Wire.asBytes "/echo/1").length := by decide +kernel
  have short : (Wire.asBytes "/echo/1").length ≤ 255 := by decide +kernel
  have found : Sample.twiceNamed.findIdx? (· == "/echo/1") = some 0 := rfl
  refine ⟨Sample.names_accepted (by decide +kernel), by decide, Sample.issued Sample.twiceNamed 1,
    ⟨_, Sample.reported Sample.twiceNamed named short found, rfl, rfl⟩, fun reportedAs => ?_⟩
  have same := Sample.first_of_reportedAs reportedAs named short found
  exact absurd same (by decide)

end Libp2pFfi
