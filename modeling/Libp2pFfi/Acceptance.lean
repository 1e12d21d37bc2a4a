import Libp2pFfi.DelegationFormat
import Libp2pFfi.Interface
import Libp2pFfi.Protocols
import Libp2pFfi.Provenance

/-!
# A node that starts is believed

`Node::start` refuses a delegation that nobody would accept, so that its caller
learns why. What passes there is what every other node checks on every frame: what
a node that has started sends passes this check, whichever of its three kinds of
frames it is, with everyone who knows the protocol, as long as the delegation lasts
and no longer. It is taken for what the node's caller had it send. The limits of the
other node come after the check and are not asked here.
-/

namespace Libp2pFfi

/-- `Node::start` up to its thread: the peer the node will be, and its handle. -/
def Handle.start (crates : Crates) (config : Config) (nowMs : UInt64) :
    Except Int (PeerId × Handle) :=
  match crates.publicFromSeed config.nodeSeed with
  | none => .error errInvalidArgument
  | some nodeKey =>
    match Delegation.verifyFor crates config.delegation nodeKey nowMs with
    | .error _ => .error errInvalidArgument
    | .ok () => .ok (crates.toPeerId nodeKey, Handle.new config)

/-- What is relied on of libp2p: the key of a node can be read off its peer id. -/
def Crates.KeysRead (crates : Crates) : Prop :=
  ∀ seed key, crates.publicFromSeed seed = some key → keyOf crates (crates.toPeerId key) = some key

namespace Delegation

/-- The delegation has not expired. -/
def Current (delegation : Delegation) (nowMs : UInt64) : Prop :=
  delegation.expiresMs = 0 ∨ nowMs < delegation.expiresMs

instance (delegation : Delegation) (nowMs : UInt64) : Decidable (delegation.Current nowMs) :=
  inferInstanceAs (Decidable (_ ∨ _))

/-- A delegation that was accepted once is accepted until it expires. -/
theorem verifyFor_again {crates : Crates} {delegation : Delegation} {node : Key} {startMs : UInt64}
    (accepted : verifyFor crates delegation node startMs = .ok ()) (nowMs : UInt64) :
    verifyFor crates delegation node nowMs = .ok () ↔ delegation.Current nowMs := by
  obtain ⟨named, signed, -⟩ := verifyFor_ok accepted
  have isKey : crates.isPublicKey delegation.group = true := by
    by_contra unknown
    have noKey : crates.isPublicKey delegation.group = false := by simpa using unknown
    simp [verifyFor, verify, noKey] at accepted
  rw [verifyFor_iff delegation isKey signed]
  exact and_iff_right named.symm

/-- What a check makes of it. -/
theorem toOption_verifyFor {crates : Crates} {delegation : Delegation} {node : Key}
    {startMs : UInt64} (accepted : verifyFor crates delegation node startMs = .ok ())
    (nowMs : UInt64) :
    (verifyFor crates delegation node nowMs).toOption =
      if delegation.Current nowMs then some () else none := by
  have again := verifyFor_again accepted nowMs
  cases answer : verifyFor crates delegation node nowMs with
  | error invalid => rw [if_neg fun current => by cases (again.mpr current).symm.trans answer]; rfl
  | ok => rw [if_pos (again.mp answer)]; rfl

end Delegation

section

variable {crates : Crates} {delegation : Delegation} {peer : PeerId} {startMs nowMs : UInt64}
variable (keyed : keyOf crates peer = some delegation.node)
variable (accepted : Delegation.verifyFor crates delegation delegation.node startMs = .ok ())

include keyed accepted

/-- A request of a node that was accepted once. -/
theorem checkRequest_accepted {name : String} (nonempty : 1 ≤ (Wire.asBytes name).length)
    (short : (Wire.asBytes name).length ≤ 255) (payload : Bytes) (names : List String) :
    checkRequest crates nowMs names peer (Wire.encodeRequest delegation.toBytes name payload) =
      if delegation.Current nowMs then
        (names.findIdx? (· == name)).map fun index =>
          (delegation.node, delegation.group, asU16 index, payload)
      else none := by
  have decoded : Wire.decodeRequest (Wire.encodeRequest delegation.toBytes name payload) =
      some { delegation := delegation.toBytes, protocol := name, payload } :=
    Wire.decodeRequest_parts delegation.toBytes_length nonempty short (Wire.fromUtf8_asBytes name)
  have verified := Delegation.toOption_verifyFor accepted nowMs
  simp only [checkRequest, decoded, keyed, Option.bind_eq_bind, Option.bind_some,
    Delegation.parse_toBytes, Except.toOption] at verified ⊢
  rw [verified]
  split
  · cases names.findIdx? (· == name) <;> rfl
  · rfl

/-- A response of it. -/
theorem checkResponse_accepted (payload : Bytes) (group : Key) :
    checkResponse crates nowMs group peer (Wire.encodeResponse delegation.toBytes payload) =
      if delegation.Current nowMs ∧ delegation.group = group then some (delegation.node, payload)
      else none := by
  have decoded : Wire.decodeResponse (Wire.encodeResponse delegation.toBytes payload) =
      some { delegation := delegation.toBytes, payload } :=
    Wire.decodeResponse_parts delegation.toBytes_length
  have verified := Delegation.toOption_verifyFor accepted nowMs
  simp only [checkResponse, decoded, keyed, Option.bind_eq_bind, Option.bind_some,
    Delegation.parse_toBytes, Except.toOption] at verified ⊢
  rw [verified]
  by_cases current : delegation.Current nowMs <;> simp [current]

/-- A message that it published. -/
theorem checkAnnouncement_accepted (payload : Bytes) {message : GossipMessage}
    (source : message.source = some peer)
    (written : message.data = Wire.encodeAnnouncement delegation.toBytes payload) :
    checkAnnouncement crates nowMs message =
      if delegation.Current nowMs then some (peer, delegation.node, delegation.group, payload)
      else none := by
  have decoded : Wire.decodeAnnouncement message.data =
      some { delegation := delegation.toBytes, payload } := by
    rw [written]
    exact Wire.decodeResponse_parts delegation.toBytes_length
  have verified := Delegation.toOption_verifyFor accepted nowMs
  simp only [checkAnnouncement, source, decoded, keyed, Option.bind_eq_bind, Option.bind_some,
    Delegation.parse_toBytes, Except.toOption] at verified ⊢
  rw [verified]
  by_cases current : delegation.Current nowMs <;> simp [current]

end

/-- A node that starts has a delegation that was accepted for its own key. -/
theorem Handle.start_ok {crates : Crates} {config : Config} {startMs : UInt64} {peer : PeerId}
    {handle : Handle} (started : Handle.start crates config startMs = .ok (peer, handle)) :
    ∃ key, crates.publicFromSeed config.nodeSeed = some key ∧ peer = crates.toPeerId key ∧
      config.delegation.node = key ∧
      Delegation.verifyFor crates config.delegation key startMs = .ok () := by
  unfold start at started
  split at started
  · cases started
  · rename_i key isKey
    split at started
    · cases started
    · rename_i accepted
      obtain ⟨rfl, -⟩ := Prod.mk.inj (Except.ok.inj started)
      exact ⟨key, isKey, rfl, (Delegation.verifyFor_ok accepted).1, accepted⟩

/-- Whatever a node that has started sends in any run passes the check of others
exactly as long as its delegation lasts: a request, if they know the protocol, with
the index it has for them; a response, if it was asked of the node's group; and a
message that it published. Each is taken for the node's own key, its group and the
payload that the caller gave with the command: the call of that id, for the protocol
it names; the answer to the request that was reported for this channel; the publication
on this topic, or the announcement. -/
theorem frames_accepted_until_expiry {crates : Crates} (keysRead : crates.KeysRead)
    {options : Options} {config : Config} (taken : configFrom crates options = some config)
    {startMs : UInt64} {localPeer : PeerId} {handle : Handle}
    (started : Handle.start crates config startMs = .ok (localPeer, handle)) {now : Instant}
    {actions : List Action} (run : System.Run crates config localPeer now actions) :
    let log := (System.after config localPeer now actions).state.log
    (∀ id request peer frame, .did (.sendRequest id request peer frame) ∈ log →
      ∃ heardMs group node protocol payload timeout name,
        .heard heardMs (.command (.rpc id group node protocol payload timeout)) ∈ log ∧
        config.rpcProtocols[protocol]? = some name ∧
        ∀ names nowMs, checkRequest crates nowMs names localPeer frame =
          if config.delegation.Current nowMs then
            (names.findIdx? (· == name)).map fun index =>
              (config.delegation.node, config.delegation.group, asU16 index, payload)
          else none) ∧
      (∀ channel frame, .did (.sendResponse channel frame) ∈ log →
        ∃ heardMs record payload,
          .heard heardMs (.command (.respond record.header.id payload)) ∈ log ∧
          .did (.emit record) ∈ log ∧ record.header.kind = .rpcRequest ∧
          CarriedOn log record.header.id channel ∧
          ∀ group nowMs, checkResponse crates nowMs group localPeer frame =
            if config.delegation.Current nowMs ∧ config.delegation.group = group then
              some (config.delegation.node, payload)
            else none) ∧
      ∀ topic frame result, .did (.publish topic frame result) ∈ log →
        ∃ heardMs payload,
          ((∃ key, .heard heardMs (.command (.topicPublish key payload)) ∈ log ∧
              topic = Wire.topicName key) ∨
            config.announce.map AnnounceConfig.topic = some topic ∧
              .heard heardMs (.command (.announceSetPayload payload)) ∈ log) ∧
          ∀ message nowMs, message.source = some localPeer → message.data = frame →
            checkAnnouncement crates nowMs message =
              if config.delegation.Current nowMs then
                some (localPeer, config.delegation.node, config.delegation.group, payload)
              else none := by
  obtain ⟨key, isKey, rfl, rfl, accepted⟩ := Handle.start_ok started
  have keyed := keysRead _ _ isKey
  have vetted : Vetted crates (crates.toPeerId config.delegation.node)
      (System.start config (crates.toPeerId config.delegation.node) now).state.settings
      (System.after config (crates.toPeerId config.delegation.node) now actions) :=
    run.invariant (vetted_start crates config _ now)
      fun system action vetted enabled => vetted_step action vetted enabled
  refine ⟨?_, ?_, ?_⟩
  · intro id request peer frame went
    obtain ⟨group, protocol, payload, dispatched⟩ := vetted.sourced.sent id request peer frame went
    obtain ⟨nowMs, pinned, timeout, heard⟩ := dispatched.heard
    have inRange : protocol < config.rpcProtocols.length :=
      vetted.sourced.registered _ _ _ _ _ _ _ heard
    have written : frame = Wire.encodeRequest config.delegation.toBytes
        (config.rpcProtocols.getD protocol "") payload := dispatched.frame
    rw [List.getD_eq_getElem _ "" inRange] at written
    obtain ⟨nonempty, short⟩ := name_sized (takes_of_accepted taken).fit (List.getElem_mem inRange)
    refine ⟨nowMs, group, pinned, protocol, payload, timeout, config.rpcProtocols[protocol], heard,
      List.getElem?_eq_getElem inRange, fun names nowMs => ?_⟩
    rw [written]
    exact checkRequest_accepted keyed accepted nonempty short payload names
  · intro channel frame went
    obtain ⟨record, payload, responded⟩ := vetted.evident.backed _ went
    have written : frame = Wire.encodeResponse config.delegation.toBytes payload := responded.frame
    obtain ⟨nowMs, heard⟩ := responded.commanded
    obtain ⟨peer, sent, took⟩ := responded.took
    refine ⟨nowMs, record, payload, heard, took.emitted, took.kind, took.carried,
      fun group nowMs => ?_⟩
    rw [written]
    exact checkResponse_accepted keyed accepted payload group
  · intro topic frame result went
    obtain ⟨payload, written, commanded⟩ := vetted.evident.backed _ went
    have believed (message : GossipMessage) (nowMs : UInt64)
        (source : message.source = some (crates.toPeerId config.delegation.node))
        (data : message.data = frame) :
        checkAnnouncement crates nowMs message =
          if config.delegation.Current nowMs then
            some (crates.toPeerId config.delegation.node, config.delegation.node,
              config.delegation.group, payload)
          else none :=
      checkAnnouncement_accepted keyed accepted payload source (data.trans written)
    rcases commanded with ⟨nowMs, key, heard, named⟩ | ⟨named, nowMs, heard⟩
    · exact ⟨nowMs, payload, .inl ⟨key, heard, named⟩, believed⟩
    · exact ⟨nowMs, payload, .inr ⟨named, heard⟩, believed⟩

/-- Keys that can be read off every peer id there is. -/
def Sample.readable : Crates :=
  { Sample.crates with
    decodeEd25519 := fun digest =>
      if digest = Sample.encoded Sample.group then some Sample.group
      else Sample.crates.decodeEd25519 digest }

theorem Sample.readable_keysRead : Sample.readable.KeysRead := by
  intro seed key ofSeed
  simp only [Sample.readable, Sample.crates] at ofSeed
  split at ofSeed
  · obtain rfl := Option.some.inj ofSeed
    decide +kernel
  · split at ofSeed
    · obtain rfl := Option.some.inj ofSeed
      decide +kernel
    · split at ofSeed
      · obtain rfl := Option.some.inj ofSeed
        decide +kernel
      · cases ofSeed

def Sample.readableEnv : Env := { Sample.connectedEnv with crates := Sample.readable }

/-- A node that has started calls the remote node. -/
def Sample.startedCall : List Action :=
  [.draw, .ready Sample.readableEnv,
    .handle Sample.readableEnv
      (.command (.rpc 1 Sample.group (some Sample.remote) 0 [5, 6] (Duration.fromSecs 10)))]

/-- The request that it sends passes the check, with the payload of the command. -/
theorem frames_accepted_until_expiry_call :
    ∃ id request peer frame,
      .did (.sendRequest id request peer frame) ∈
          (System.after Sample.tightConfig Sample.peer 0 Sample.startedCall).state.log ∧
        checkRequest Sample.readable 5 ["/other/1", "/echo/1"] Sample.peer frame =
          some (Sample.node, Sample.group, 1, [5, 6]) := by
  have started : Handle.start Sample.readable Sample.tightConfig 1 =
      .ok (Sample.peer, Handle.new Sample.tightConfig) := by
    have own : Sample.readable.publicFromSeed Sample.tightConfig.nodeSeed = some Sample.node := by
      decide +kernel
    have accepted : Delegation.verifyFor Sample.readable Sample.tightConfig.delegation Sample.node 1 =
        .ok () := by
      refine (Delegation.verifyFor_iff _ ?_ ?_ _ _).mpr ⟨rfl, .inl rfl⟩
      · decide +kernel
      · decide +kernel
    rw [Handle.start, own]
    dsimp only
    rw [accepted]
    rfl
  have run : System.Run Sample.readable Sample.tightConfig Sample.peer 0 Sample.startedCall := by
    simp only [System.Run, Sample.startedCall, Runs.admissible_cons, Runs.admissible_nil, and_true]
    exact ⟨trivial, ⟨rfl, rfl⟩, rfl, rfl, by decide, Nat.zero_lt_one⟩
  have taken : configFrom Sample.readable Sample.tightOptions = some Sample.tightConfig :=
    Sample.tightConfig_accepted
  have went : ∃ frame, .did (.sendRequest 1 0 Sample.remotePeer frame) ∈
      (System.after Sample.tightConfig Sample.peer 0 Sample.startedCall).state.log :=
    ⟨_, List.mem_iff_getElem?.mpr ⟨4, rfl⟩⟩
  obtain ⟨frame, went⟩ := went
  obtain ⟨nowMs, group, node, protocol, payload, timeout, name, heard, named, believed⟩ :=
    (frames_accepted_until_expiry Sample.readable_keysRead taken started run).1 1 0 _ frame went
  -- The log notes one call of this id.
  have placed :
      ((System.after Sample.tightConfig Sample.peer 0 Sample.startedCall).state.log.filterMap
        Entry.placed?).Nodup := List.nodup_singleton 1
  have noted :
      .heard Sample.readableEnv.nowMs
          (.command (.rpc 1 Sample.group (some Sample.remote) 0 [5, 6] (Duration.fromSecs 10))) ∈
        (System.after Sample.tightConfig Sample.peer 0 Sample.startedCall).state.log :=
    List.mem_iff_getElem?.mpr ⟨2, rfl⟩
  have line := eq_of_nodup_filterMap placed heard noted rfl rfl
  obtain ⟨-, -, -, rfl, rfl, -⟩ := Command.rpc.inj (Input.command.inj (Entry.heard.inj line).2)
  obtain rfl : "/echo/1" = name := Option.some.inj named
  exact ⟨1, 0, _, frame, went, (believed ["/other/1", "/echo/1"] 5).trans rfl⟩

end Libp2pFfi
