import Libp2pFfi.EventLoop

/-!
# Who a reported peer is

Requests, responses, announcements and topic messages are reported with the key
of the node they come from and of its group. Each of the four has a chain of
checks of its own, over a frame any stranger may have written. What all four
establish is `Proven`: the frame carries a delegation to the key of the very
peer libp2p authenticated, signed by the group, and not expired.

No other handler reports an identity, so the result holds of every handler, in
every state and for every input.
-/

namespace Libp2pFfi

/-- These bytes prove that `peer` has the key `node` and belongs to `group`. -/
structure Proven (crates : Crates) (nowMs : UInt64) (peer : PeerId) (bytes : Bytes)
    (group node : Key) : Prop where
  length : bytes.length = 136
  signed : ∃ expiresMs signature,
    Delegation.parse bytes = .ok { node, group, expiresMs, signature } ∧
      crates.verify group
        (Delegation.context ++ node.toList ++ group.toList ++ beBytes 8 expiresMs.toNat)
        signature = true ∧
      (expiresMs = 0 ∨ expiresMs > nowMs)
  key : keyOf crates peer = some node

/-- A record that reports an identity, with the input that proves it. -/
inductive Reported (env : Env) (state : State) : Input → Record → Prop where
  | request {peer : PeerId} {connection : ConnectionId} {request : InboundRequestId} {frame : Bytes}
      {channel : ResponseChannel} {record : Record} (delegation name : Bytes) (nameLen : UInt8)
      (kind : record.header.kind = .rpcRequest)
      (whole : frame = 1 :: (delegation ++ nameLen :: (name ++ record.data)))
      (named : name.length = nameLen.toNat)
      (proven : Proven env.crates env.nowMs peer delegation record.header.group
        record.header.node) :
      Reported env state (.swarm (.rpc (.request peer connection request frame channel))) record
  | response {peer : PeerId} {request : OutboundRequestId} {frame : Bytes} {record : Record}
      (delegation : Bytes) (call : Call) (kind : record.header.kind = .rpcResponse)
      (whole : frame = 1 :: (delegation ++ record.data))
      (proven : Proven env.crates env.nowMs peer delegation record.header.group record.header.node)
      (owner : state.outbound.lookup request = some record.header.id)
      (found : state.calls.lookup record.header.id = some call)
      (group : record.header.group = call.group) :
      Reported env state (.swarm (.rpc (.response peer request frame))) record
  | announcement {propagationSource source : PeerId} {id : MessageId} {message : GossipMessage}
      {record : Record} (delegation : Bytes) (kind : record.header.kind = .announcement)
      (published : message.source = some source)
      (whole : message.data = 1 :: (delegation ++ record.data))
      (proven : Proven env.crates env.nowMs source delegation record.header.group
        record.header.node) :
      Reported env state (.swarm (.gossipsub (.message propagationSource id message))) record
  | topicMessage {propagationSource source : PeerId} {id : MessageId} {message : GossipMessage}
      {record : Record} (delegation payload : Bytes) (key : Key)
      (kind : record.header.kind = .topicMessage) (published : message.source = some source)
      (followed : state.topicKeys.lookup message.topic = some key)
      (whole : message.data = 1 :: (delegation ++ payload))
      (reported : record.data = key.toList ++ payload)
      (proven : Proven env.crates env.nowMs source delegation record.header.group
        record.header.node) :
      Reported env state (.swarm (.gossipsub (.message propagationSource id message))) record

/-! The checks. -/

/-- What a check that succeeds has found out: the peer id is the node key's, and the
node's delegation is signed, current and its own. -/
theorem proven_of_verified {crates : Crates} {nowMs : UInt64} {peer : PeerId} {bytes : Bytes}
    {node : Key} {delegation : Delegation} (key : keyOf crates peer = some node)
    (parsed : (Delegation.parse bytes).toOption = some delegation)
    (verified : (Delegation.verifyFor crates delegation node nowMs).toOption = some ()) :
    Proven crates nowMs peer bytes delegation.group node := by
  have parsedOk : Delegation.parse bytes = .ok delegation := by
    cases answer : Delegation.parse bytes with
    | error invalid => rw [answer] at parsed; cases parsed
    | ok value =>
      rw [answer] at parsed
      exact congrArg Except.ok (Option.some.inj parsed)
  have verifiedOk : Delegation.verifyFor crates delegation node nowMs = .ok () := by
    cases answer : Delegation.verifyFor crates delegation node nowMs with
    | error invalid => rw [answer] at verified; cases verified
    | ok value => rfl
  obtain ⟨rfl, signed, unexpired⟩ := Delegation.verifyFor_ok verifiedOk
  refine ⟨?_, ⟨delegation.expiresMs, delegation.signature, parsedOk, signed, unexpired⟩, key⟩
  unfold Delegation.parse at parsedOk
  split at parsedOk
  · rename_i sized
    exact sized
  · cases parsedOk

/-- A request that passes is a version, the sender's delegation, a named protocol and
the payload. -/
theorem checkRequest_proven {crates : Crates} {nowMs : UInt64} {rpcProtocols : List String}
    {peer : PeerId} {frame payload : Bytes} {node group : Key} {protocol : Nat}
    (checked : checkRequest crates nowMs rpcProtocols peer frame =
      some (node, group, protocol, payload)) :
    ∃ delegation name nameLen, frame = 1 :: (delegation ++ nameLen :: (name ++ payload)) ∧
      name.length = nameLen.toNat ∧ Proven crates nowMs peer delegation group node := by
  simp only [checkRequest, Option.bind_eq_bind, Option.bind_eq_some_iff, Option.some.injEq,
    Prod.mk.injEq] at checked
  obtain ⟨request, decoded, key, ofPeer, delegation, parsed, ⟨⟩, verified, -, -, rfl, rfl, -, rfl⟩ :=
    checked
  obtain ⟨-, -, nameLen, named, whole⟩ := Wire.decodeRequest_some decoded
  exact ⟨request.delegation, Wire.asBytes request.protocol, nameLen, whole, named,
    proven_of_verified ofPeer parsed verified⟩

/-- A response that passes comes from the group that was called. -/
theorem checkResponse_proven {crates : Crates} {nowMs : UInt64} {peer : PeerId}
    {frame payload : Bytes} {node group : Key}
    (checked : checkResponse crates nowMs group peer frame = some (node, payload)) :
    ∃ delegation, frame = 1 :: (delegation ++ payload) ∧
      Proven crates nowMs peer delegation group node := by
  simp only [checkResponse, Option.bind_eq_bind, Option.bind_eq_some_iff] at checked
  obtain ⟨response, decoded, key, ofPeer, delegation, parsed, ⟨⟩, verified, same⟩ := checked
  split at same
  · rename_i ofGroup
    obtain ⟨rfl, rfl⟩ := Prod.mk.inj (Option.some.inj same)
    subst ofGroup
    exact ⟨response.delegation, (Wire.decodeResponse_some decoded).2,
      proven_of_verified ofPeer parsed verified⟩
  · cases same

/-- A message that passes is proven of who signed it, not of who passed it on. -/
theorem checkAnnouncement_proven {crates : Crates} {nowMs : UInt64} {message : GossipMessage}
    {source : PeerId} {payload : Bytes} {node group : Key}
    (checked : checkAnnouncement crates nowMs message = some (source, node, group, payload)) :
    message.source = some source ∧ ∃ delegation, message.data = 1 :: (delegation ++ payload) ∧
      Proven crates nowMs source delegation group node := by
  simp only [checkAnnouncement, Option.bind_eq_bind, Option.bind_eq_some_iff, Option.some.injEq,
    Prod.mk.injEq] at checked
  obtain ⟨publisher, published, key, ofPeer, response, decoded, delegation, parsed, ⟨⟩, verified,
    rfl, rfl, rfl, rfl⟩ := checked
  exact ⟨published, response.delegation, (Wire.decodeResponse_some decoded).2,
    proven_of_verified ofPeer parsed verified⟩

/-! What is reported. -/

/-- The record by which a line of the log reports an identity. -/
def Entry.named? : Entry → Option Record
  | did (.emit record) => if record.header.kind.namesPeer then some record else none
  | _ => none

/-- A line of the log that reports nobody's identity. -/
def Entry.Nameless (entry : Entry) : Prop := entry.named? = none

/-- A line of the log that reports an identity only with its proof. -/
def Entry.Vouched (env : Env) (state : State) (input : Input) (entry : Entry) : Prop :=
  ∀ record, entry.named? = some record → Reported env state input record

/-- A plain line reports nobody. -/
theorem Entry.Plain.nameless {entry : Entry} (plain : entry.Plain) : entry.Nameless := by
  cases entry with
  | heard => exact plain.elim
  | did effect =>
    cases effect with
    | emit record =>
      have anonymous : record.header.kind.namesPeer = false := plain.2
      simp [Entry.Nameless, Entry.named?, anonymous]
    | _ => rfl

/-- A line that reports nobody has nothing to prove. -/
theorem Entry.Nameless.vouched {env : Env} {state : State} {input : Input} {entry : Entry}
    (nameless : entry.Nameless) : entry.Vouched env state input := by
  intro record names
  cases nameless.symm.trans names

namespace State

/-- What a handler does without reporting an identity. -/
abbrev Anonymous : State → State → Prop := Adds Entry.Nameless

/-- Neither do the lines of a step that is plain. -/
theorem Aside.anonymous {ending : QueryId → Prop} {before after : State}
    (aside : Aside ending Entry.Plain before after) : Anonymous before after :=
  aside.adds.mono fun _ => Entry.Plain.nameless

/-- A step that writes nothing. -/
theorem anonymous_of_same {before after : State} (log : after.log = before.log) :
    Anonymous before after :=
  ⟨[], by rw [log, List.append_nil], by simp⟩

/-- A step of one effect that reports nobody. -/
theorem anonymous_did (state : State) (effect : Effect) (nameless : (Entry.did effect).Nameless) :
    Anonymous state (state.did effect) :=
  Adds.one rfl nameless

/-- Candidates that are passed over are not reported. -/
theorem anonymous_passOver (state : State) (id : Nat) (peers : List PeerId) :
    Anonymous state (state.passOver id peers) := by
  refine ⟨_, rfl, fun entry member => ?_⟩
  obtain ⟨peer, -, rfl⟩ := List.mem_map.mp member
  rfl

/-- A call that moves on names a peer to libp2p only, and when it fails it names none. -/
theorem anonymous_advance (env : Env) (state : State) (id : Nat) :
    Anonymous state (state.advance env id) := by
  have looked (skipped : List PeerId) (peer : PeerId) :
      Anonymous state ((state.passOver id skipped).lookAt env id peer) :=
    (anonymous_passOver state id skipped).trans (anonymous_did _ _ rfl)
  have spec := advance_spec env state id
  generalize state.advance env id = after at spec ⊢
  cases spec with
  | missing => exact Adds.refl _ state
  | busy => exact Adds.refl _ state
  | waits call => exact (anonymous_passOver state id call.candidates).trans (anonymous_of_same rfl)
  | fails call =>
    refine (anonymous_passOver state id call.candidates).trans ?_
    exact Adds.one rfl rfl
  | sends call found idle skipped peer rest =>
    refine (looked skipped peer).trans ?_
    exact Adds.one rfl rfl
  | resolves call found idle skipped peer rest =>
    refine (looked skipped peer).trans ?_
    exact Adds.one rfl rfl

/-- Calls that time out name none. -/
theorem anonymous_tick (env : Env) (state : State) : Anonymous state (state.tick env) := by
  have failed (state : State) (id : Nat) : Anonymous state (state.failCall id failTimeout) := by
    unfold failCall
    split
    · exact Adds.refl _ state
    · exact Adds.one rfl rfl
  have expired (ids : List Nat) (state : State) :
      Anonymous state (ids.foldl (fun state id => state.failCall id failTimeout) state) := by
    induction ids generalizing state with
    | nil => exact Adds.refl _ state
    | cons id rest inductionHypothesis => exact (failed state id).trans (inductionHypothesis _)
  exact (expired _ state).trans (passive_tick env state).anonymous

/-- A command reports nobody, whatever the caller says in it. -/
theorem anonymous_command (env : Env) (state : State) (sent : Command) :
    Anonymous state (state.command env sent) := by
  by_cases isCall : ∃ id group node protocol payload timeout,
      sent = .rpc id group node protocol payload timeout
  · obtain ⟨id, group, node, protocol, payload, timeout, rfl⟩ := isCall
    refine Adds.trans ?_ (anonymous_advance env _ id)
    unfold startCall
    dsimp only
    split
    · split <;> exact anonymous_of_same rfl
    · exact Adds.one rfl rfl
  · exact (passive_command env state sent (by simpa using isCall)).anonymous

/-- Providers and peers of the DHT are discovered, which is no word on who they are. -/
theorem anonymous_kadEvent (env : Env) (state : State) (event : KadEvent) :
    Anonymous state (state.kadEvent env event) := by
  unfold kadEvent
  split
  · dsimp only
    split <;> exact anonymous_of_same rfl
  · unfold providersReported
    split
    · exact (aside_topicProviders env state _ _ _).anonymous
    · split
      · exact (aside_callerProviders env state _ _ _ _).anonymous
      · split
        · refine Adds.trans ?_ (anonymous_advance env _ _)
          exact anonymous_of_same rfl
        · exact Adds.refl _ state
  · rename_i peers _
    have known := aside_foldl
      (fun state info => passive_addAddresses state info.peer info.addrs) peers state
    unfold closestPeersReported
    dsimp only
    refine Adds.trans known.anonymous ?_
    split
    · refine Adds.trans ?_ (anonymous_advance env _ _)
      exact anonymous_of_same rfl
    · split
      · exact (aside_walked env _ _ _ _).anonymous
      · exact Adds.refl _ _
  · exact (aside_bootstrapReported state _ _ _).anonymous
  · exact Adds.refl _ state
  · exact Adds.refl _ state

/-- A step that reports nobody has nothing to prove. -/
theorem Anonymous.vouched {env : Env} {state before after : State} {input : Input}
    (anonymous : Anonymous before after) : Adds (Entry.Vouched env state input) before after :=
  Adds.mono anonymous fun _ => Entry.Nameless.vouched

/-- A record that is emitted with its proof. -/
theorem vouched_emit {env : Env} {state before after : State} {input : Input} {record : Record}
    (log : after.log = before.log ++ [.did (.emit record)])
    (reported : Reported env state input record) :
    Adds (Entry.Vouched env state input) before after := by
  refine Adds.one log fun other names => ?_
  unfold Entry.named? at names
  dsimp only at names
  split at names
  · obtain rfl := Option.some.inj names
    exact reported
  · cases names

/-- A request is reported with the node and the group its own check has proven. -/
theorem vouched_inboundRequest (env : Env) (state : State) (peer : PeerId)
    (connection : ConnectionId) (request : InboundRequestId) (frame : Bytes)
    (channel : ResponseChannel) :
    Adds (Entry.Vouched env state (.swarm (.rpc (.request peer connection request frame channel))))
      state (state.inboundRequest env peer connection request frame channel) := by
  unfold inboundRequest
  dsimp only
  split
  · exact Adds.refl _ state
  · rename_i node group protocol payload checked
    obtain ⟨delegation, name, nameLen, whole, named, proven⟩ := checkRequest_proven checked
    split
    · refine Anonymous.vouched (Adds.trans ?_ (passive_reportLimited env _ _ _ _ _).anonymous)
      exact anonymous_of_same rfl
    · exact vouched_emit rfl (.request delegation name nameLen rfl whole named proven)

/-- A response is reported with the node that its check has proven, and the call's
group. -/
theorem vouched_response (env : Env) (state : State) (peer : PeerId) (request : OutboundRequestId)
    (frame : Bytes) :
    Adds (Entry.Vouched env state (.swarm (.rpc (.response peer request frame)))) state
      (state.response env peer request frame) := by
  unfold response
  dsimp only
  split
  · exact Adds.refl _ state
  · rename_i id owner
    split
    · exact Anonymous.vouched (anonymous_of_same rfl)
    · rename_i call found
      split
      · rename_i node payload checked
        obtain ⟨delegation, whole, proven⟩ := checkResponse_proven checked
        exact vouched_emit rfl (.response delegation call rfl whole proven owner found rfl)
      · refine Anonymous.vouched (Adds.trans ?_ (anonymous_advance env _ id))
        exact anonymous_of_same rfl

/-- A message on a topic is reported with its publisher. -/
theorem vouched_topicMessage (env : Env) (state : State) (propagationSource : PeerId)
    (id : MessageId) (message : GossipMessage) :
    Adds (Entry.Vouched env state (.swarm (.gossipsub (.message propagationSource id message))))
      state (state.topicMessage env propagationSource message).1 := by
  unfold topicMessage
  split
  · exact Adds.refl _ state
  · rename_i key followed
    split
    · exact Adds.refl _ state
    · rename_i source node group payload checked
      obtain ⟨published, delegation, whole, proven⟩ := checkAnnouncement_proven checked
      dsimp only
      split
      · exact Adds.refl _ state
      · split
        · refine Anonymous.vouched (Adds.trans ?_ (passive_reportLimited env _ _ _ _ _).anonymous)
          exact anonymous_of_same rfl
        · exact vouched_emit rfl
            (.topicMessage delegation payload key rfl published followed whole rfl proven)

/-- So is an announcement. -/
theorem vouched_announcementMessage (env : Env) (state : State) (propagationSource : PeerId)
    (id : MessageId) (message : GossipMessage) :
    Adds (Entry.Vouched env state (.swarm (.gossipsub (.message propagationSource id message))))
      state (state.announcementMessage env message).1 := by
  unfold announcementMessage
  split
  · exact Adds.refl _ state
  · rename_i source node group payload checked
    obtain ⟨published, delegation, whole, proven⟩ := checkAnnouncement_proven checked
    dsimp only
    split
    · exact Adds.refl _ state
    · split
      · exact vouched_emit rfl (.announcement delegation rfl published whole proven)
      · exact Anonymous.vouched (anonymous_of_same rfl)

/-- A subscription that is seen triggers an announcement and reports nobody. -/
theorem vouched_gossipsubEvent (env : Env) (state : State) (event : GossipEvent) :
    Adds (Entry.Vouched env state (.swarm (.gossipsub event))) state
      (state.gossipsubEvent env event) := by
  have validated (state after : State) (input : Input) (effect : Effect)
      (nameless : (Entry.did effect).Nameless) :
      Adds (Entry.Vouched env state input) after (after.did effect) :=
    Anonymous.vouched (anonymous_did after effect nameless)
  cases event with
  | subscribed => exact (passive_announce env state).anonymous.vouched
  | message propagationSource id message =>
    unfold gossipsubEvent
    dsimp only
    split
    · exact (vouched_topicMessage env state propagationSource id message).trans
        (validated _ _ _ _ rfl)
    · exact (vouched_announcementMessage env state propagationSource id message).trans
        (validated _ _ _ _ rfl)
  | other => exact Adds.refl _ state

/-- Requests, responses and messages are all that reports an identity. -/
theorem vouched_swarmEvent (env : Env) (state : State) (event : SwarmEvent) :
    Adds (Entry.Vouched env state (.swarm event)) state (state.swarmEvent env event) := by
  cases event with
  | newListenAddr => exact (passive_newListenAddr env state _).anonymous.vouched
  | expiredListenAddr => exact Anonymous.vouched (anonymous_of_same rfl)
  | listenerClosed => exact (passive_relayLost env state _).anonymous.vouched
  | listenerError => exact (passive_relayLost env state _).anonymous.vouched
  | connectionEstablished =>
    exact (passive_connectionEstablished env state _ _ _ _).anonymous.vouched
  | connectionClosed => exact (passive_connectionClosed env state _ _ _).anonymous.vouched
  | kad event => exact (anonymous_kadEvent env state event).vouched
  | identified => exact (passive_identified env state _ _).anonymous.vouched
  | rpc event =>
    cases event with
    | request => exact vouched_inboundRequest env state _ _ _ _ _
    | response => exact vouched_response env state _ _ _
    | outboundFailure peer request error =>
      have noted := (passive_rememberFailure env state peer).anonymous
      refine Anonymous.vouched (noted.trans ?_)
      unfold swarmEvent rpcEvent outboundFailed
      dsimp only
      split
      · exact Adds.refl _ _
      · refine Adds.trans ?_ (anonymous_advance env _ _)
        exact anonymous_of_same rfl
    | inboundFailure => exact (passive_inboundEnded state _).anonymous.vouched
    | responseSent => exact (passive_inboundEnded state _).anonymous.vouched
  | gossipsub event => exact vouched_gossipsubEvent env state event
  | dcutr => exact (passive_holePunched env state _ _).anonymous.vouched
  | autonat => exact (passive_natStatus env state _).anonymous.vouched
  | other => exact Adds.refl _ state

/-- Noting an input changes nothing a proof of an identity refers to. -/
theorem reported_of_heard {env : Env} {state : State} {input : Input} {record : Record}
    (reported : Reported env (state.heard env.nowMs input) input record) :
    Reported env state input record := by
  cases reported with
  | request delegation name nameLen kind whole named proven =>
    exact .request delegation name nameLen kind whole named proven
  | response delegation call kind whole proven owner found group =>
    exact .response delegation call kind whole proven owner found group
  | announcement delegation kind published whole proven =>
    exact .announcement delegation kind published whole proven
  | topicMessage delegation payload key kind published followed whole data proven =>
    exact .topicMessage delegation payload key kind published followed whole data proven

/-- Every line that one round of the event loop adds is vouched for. -/
theorem vouched_handle (env : Env) (state : State) (input : Input) :
    Adds (Entry.Vouched env state input) (state.heard env.nowMs input) (state.handle env input) := by
  cases input with
  | command sent => exact (anonymous_command env _ sent).vouched
  | tick => exact (anonymous_tick env _).vouched
  | swarm event =>
    refine (vouched_swarmEvent env (state.heard env.nowMs (.swarm event)) event).mono ?_
    exact fun entry vouched record names => reported_of_heard (vouched record names)

/-- What a handler reports, it reports with its proof. -/
theorem reported_of_emitted {env : Env} {state : State} {input : Input} {extra : List Entry}
    (grown : (state.handle env input).log = state.log ++ extra) {record : Record}
    (emitted : .did (.emit record) ∈ extra) (names : record.header.kind.namesPeer = true) :
    Reported env state input record := by
  obtain ⟨more, later, vouched⟩ := vouched_handle env state input
  have split : extra = .heard env.nowMs input :: more := by
    rw [grown, heard, List.append_assoc] at later
    exact List.append_cancel_left later
  have inMore : Entry.did (.emit record) ∈ more := by
    rw [split] at emitted
    simpa using emitted
  refine vouched _ inMore record ?_
  rw [Entry.named?, if_pos names]

end State

/-- Authenticity of every reported identity. In every state and for every input,
a request, response, announcement or topic message is reported only with the
group and node of a delegation that the frame carries, that the group signed and
that has not expired, for the key of the authenticated sender; a response only
with the group of its call; and with exactly the rest of the frame. -/
theorem reported_identity_proven (env : Env) (state : State) (input : Input) {extra : List Entry}
    (grown : (state.handle env input).log = state.log ++ extra) {record : Record}
    (emitted : .did (.emit record) ∈ extra)
    (kind : record.header.kind = .rpcRequest ∨ record.header.kind = .rpcResponse ∨
      record.header.kind = .announcement ∨ record.header.kind = .topicMessage) :
    Reported env state input record := by
  refine State.reported_of_emitted grown emitted ?_
  rcases kind with kind | kind | kind | kind <;> simp [kind, EventKind.namesPeer]

/-- A node whose first request is out for its first call. -/
def Sample.asking : State :=
  { State.new Sample.config Sample.peer 0 with
    calls := AList.insert 1
      { group := Sample.group, protocol := 0, frame := [], inFlight := true, deadline := 10000 } ∅
    outbound := AList.insert 0 1 ∅ }

/-- The response of the remote node, with two bytes of payload. -/
def Sample.answer : Input :=
  .swarm (.rpc (.response Sample.remotePeer 0
    (Wire.encodeResponse Sample.remoteDelegation.toBytes [5, 6])))

/-- An answer to a call is reported with the node that gave it. -/
theorem reported_identity_proven_answer :
    Reported Sample.env Sample.asking Sample.answer
      (rpcResponse 1 Sample.group Sample.remote 0 [5, 6]) := by
  have checked : checkResponse Sample.crates 1 Sample.group Sample.remotePeer
      (Wire.encodeResponse Sample.remoteDelegation.toBytes [5, 6]) = some (Sample.remote, [5, 6]) := by
    decide +kernel
  have grown : (Sample.asking.handle Sample.env Sample.answer).log =
      Sample.asking.log ++ [.heard 1 Sample.answer,
        .did (.emit (rpcResponse 1 Sample.group Sample.remote 0 [5, 6]))] := by
    simp [-AList.insert_empty, State.handle, Sample.answer, State.swarmEvent, State.rpcEvent,
      State.response, State.heard, Sample.asking, Sample.env, checked, State.answered, State.emit]
  exact reported_identity_proven Sample.env Sample.asking Sample.answer grown
    (List.mem_cons_of_mem _ List.mem_cons_self) (.inr (.inl rfl))

end Libp2pFfi
