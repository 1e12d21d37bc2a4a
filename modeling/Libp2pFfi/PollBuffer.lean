import Libp2pFfi.Authenticity

/-!
# The documented size of a poll buffer

The caller is told to size its poll buffer for the largest payload it allows,
plus the event header and eight bytes. The codec that bounds what a remote peer
may send adds one overhead to both of the caller's limits, large enough for a
request under the longest protocol name. A response has no protocol name and a
request usually has a shorter one; what is left of the overhead is payload, and
nothing looks at its length again. So a payload may exceed its limit by up to
256 bytes, and the record then does not fit the documented buffer and stays at
the head of the queue.
-/

namespace Libp2pFfi

/-- The frame around a payload: version, delegation, and at most 256 bytes of
protocol name. -/
def rpcOverhead : Nat := 2 + delegationBytes + 255

/-- The codec `make_behaviour` sets up. -/
def rawCodec (config : Config) : Wire.RawCodec where
  maxRequest := config.rpcMaxRequestBytes.toNat + rpcOverhead
  maxResponse := config.rpcMaxResponseBytes.toNat + rpcOverhead

/-- The buffer the documentation of `lp2p_poll` asks for. -/
def pollBuffer (config : Config) : Nat :=
  max config.rpcMaxRequestBytes.toNat config.rpcMaxResponseBytes.toNat + eventHeaderBytes + 8

namespace RpcEvent

/-- The codec reads the event's frame from what the remote peer wrote. -/
def ReadFrom (codec : Wire.RawCodec) (stream : Bytes) : RpcEvent → Prop
  | request _ _ _ frame _ => codec.readRequest stream = some frame
  | response _ _ frame => codec.readResponse stream = some frame
  | _ => False

/-- The caller's limit for the payload of an event. -/
def payloadLimit (config : Config) : RpcEvent → Nat
  | response _ _ _ => config.rpcMaxResponseBytes.toNat
  | _ => config.rpcMaxRequestBytes.toNat

/-- The bytes of a stream that are not payload. The name of a request has its
length in the byte after the delegation. -/
def framing (stream : Bytes) : RpcEvent → Nat
  | response _ _ _ => 1 + delegationBytes
  | _ => 2 + delegationBytes + (stream.getD (1 + delegationBytes) 0).toNat

end RpcEvent

/-- What a caller that follows the documentation relies on for a record. -/
structure FitsPoll (config : Config) (limit : Nat) (record : Record) : Prop where
  payload : record.data.length ≤ limit
  size : record.bytes.length ≤ pollBuffer config
  /-- It never makes a poll fail when it is the next one. -/
  polled : ∀ queue : EventQueue, ∀ rest, queue.inner.records = record :: rest →
    (queue.poll (pollBuffer config)).2.status ≠ errBufferTooSmall

/-! Polls. -/

/-- Records are padded, so the number of bytes written is a multiple of eight. -/
theorem drain_written_mod (cap written : Nat) (bytes : Int) (records : List Record)
    (aligned : written % 8 = 0) : (EventQueue.drain cap written bytes records).written % 8 = 0 := by
  induction records generalizing written bytes with
  | nil => exact aligned
  | cons front rest inductionHypothesis =>
    have padded : front.bytes.length % 8 = 0 := by
      rw [Record.bytes_length, paddedSize]
      omega
    unfold EventQueue.drain
    split
    · exact aligned
    · exact inductionHypothesis _ _ (by omega)

/-- No number of bytes written reads as the error. -/
theorem asI32_ne_tooSmall {written : Nat} (aligned : written % 8 = 0) :
    asI32 written ≠ errBufferTooSmall := by
  intro same
  rw [asI32, BitVec.toInt_eq_toNat_cond, BitVec.toNat_ofNat, errBufferTooSmall] at same
  split at same <;> omega

/-- Once something is written, the loop over the records is no error. -/
theorem drain_after_written (cap written : Nat) (bytes : Int) (records : List Record)
    (some : 0 < written) :
    (EventQueue.drain cap written bytes records).tooSmall = false ∧
      0 < (EventQueue.drain cap written bytes records).written := by
  induction records generalizing written bytes with
  | nil => exact ⟨rfl, some⟩
  | cons front rest inductionHypothesis =>
    unfold EventQueue.drain
    split
    · exact ⟨by simpa using some.ne', some⟩
    · exact inductionHypothesis _ _ (by omega)

theorem status_ne_tooSmall {drained : EventQueue.Drained} (closed : Option Int)
    (fits : drained.tooSmall = false) (written : 0 < drained.written)
    (aligned : drained.written % 8 = 0) : drained.status closed ≠ errBufferTooSmall := by
  have notEmpty : (drained.written == 0) = false := by simpa using written.ne'
  have plain : drained.status closed = asI32 drained.written := by
    simp [EventQueue.Drained.status, fits, notEmpty]
  rw [plain]
  exact asI32_ne_tooSmall aligned

/-- A record that fits the buffer makes no poll fail. -/
theorem poll_fits {queue : EventQueue} {record : Record} {rest : List Record} {cap : Nat}
    (front : queue.inner.records = record :: rest) (fits : record.bytes.length ≤ cap) :
    (queue.poll cap).2.status ≠ errBufferTooSmall := by
  have header : paddedSize 0 ≤ record.bytes.length := by
    rw [Record.bytes_length, paddedSize, paddedSize]
    omega
  have length (dropped : Nat) : (EventQueue.overflowRecord dropped).bytes.length = paddedSize 0 :=
    Record.bytes_length _
  unfold EventQueue.poll
  rw [front, List.isEmpty_cons, Bool.false_and, Bool.false_and, if_neg Bool.false_ne_true]
  dsimp only
  split
  · rw [if_neg (by rw [length]; omega)]
    obtain ⟨noError, written⟩ := drain_after_written cap (paddedSize 0) queue.inner.bytes
      queue.inner.records (by decide)
    have aligned := drain_written_mod cap (paddedSize 0) queue.inner.bytes queue.inner.records
      (by decide)
    rw [length]
    exact status_ne_tooSmall queue.inner.closed noError written aligned
  · have positive := Record.bytes_length_pos record
    have taken : EventQueue.drain cap 0 queue.inner.bytes (record :: rest) =
        { EventQueue.drain cap record.bytes.length (queue.inner.bytes - record.bytes.length) rest with
          copied := record :: (EventQueue.drain cap record.bytes.length
            (queue.inner.bytes - record.bytes.length) rest).copied } := by
      rw [EventQueue.drain, if_neg (by omega), Nat.zero_add]
    obtain ⟨noError, written⟩ := drain_after_written cap record.bytes.length
      (queue.inner.bytes - record.bytes.length) rest positive
    have aligned := drain_written_mod cap 0 queue.inner.bytes queue.inner.records rfl
    unfold EventQueue.pollRecords
    rw [front] at aligned ⊢
    rw [taken] at aligned ⊢
    exact status_ne_tooSmall queue.inner.closed noError written aligned

/-- What the documentation promises comes down to the length of the payload. -/
theorem fitsPoll_iff {config : Config} {limit : Nat} {record : Record}
    (bounded : limit ≤ max config.rpcMaxRequestBytes.toNat config.rpcMaxResponseBytes.toNat) :
    FitsPoll config limit record ↔ record.data.length ≤ limit := by
  refine ⟨FitsPoll.payload, fun payload => ?_⟩
  have size : record.bytes.length ≤ pollBuffer config := by
    rw [Record.bytes_length, paddedSize, pollBuffer]
    omega
  exact ⟨payload, size, fun queue rest front => poll_fits front size⟩

/-- A poll buffer of the documented size is enough for the record of a request or
response exactly if the stream it was read from is no longer than the caller's
limit and the framing the stream itself needs. -/
theorem rpc_record_fits_iff (config : Config) (env : Env) (state : State) {event : RpcEvent}
    {stream : Bytes} (read : event.ReadFrom (rawCodec config) stream) {extra : List Entry}
    (grown : (state.handle env (.swarm (.rpc event))).log = state.log ++ extra) {record : Record}
    (emitted : .did (.emit record) ∈ extra)
    (kind : record.header.kind = .rpcRequest ∨ record.header.kind = .rpcResponse) :
    FitsPoll config (event.payloadLimit config) record ↔
      stream.length ≤ event.payloadLimit config + event.framing stream := by
  have reported : Reported env state (.swarm (.rpc event)) record := by
    refine State.reported_of_emitted grown emitted ?_
    rcases kind with kind | kind <;> simp [kind, EventKind.namesPeer]
  cases reported with
  | request delegation name nameLen kind whole named proven =>
    obtain ⟨same, -⟩ := Wire.readBounded_eq_some.mp read
    rw [same] at whole
    have marked : stream.getD (1 + delegationBytes) 0 = nameLen := by
      rw [whole, delegationBytes, ← proven.length, Nat.add_comm, List.getD_cons_succ,
        List.getD_eq_getElem?_getD, List.getElem?_append_right (le_refl _), Nat.sub_self]
      rfl
    have length : stream.length = record.data.length + (2 + delegationBytes + nameLen.toNat) := by
      rw [whole, ← named]
      simp only [List.length_cons, List.length_append, proven.length, delegationBytes]
      omega
    refine (fitsPoll_iff (le_max_left _ _)).trans ?_
    simp only [RpcEvent.framing, marked, length]
    exact Nat.add_le_add_iff_right.symm
  | response delegation call kind whole proven owner found group =>
    obtain ⟨same, -⟩ := Wire.readBounded_eq_some.mp read
    rw [same] at whole
    have length : stream.length = record.data.length + (1 + delegationBytes) := by
      rw [whole]
      simp only [List.length_cons, List.length_append, proven.length, delegationBytes]
      omega
    refine (fitsPoll_iff (le_max_right _ _)).trans ?_
    simp only [RpcEvent.framing, length]
    exact Nat.add_le_add_iff_right.symm

/-! A response that blocks the caller. -/

/-- Options with the smallest limits. -/
def Sample.tightOptions : Options where
  nodeSeed := Key.filled 7
  delegation := some Sample.delegation.toBytes
  group := Sample.group
  listenAddrs := some []
  dhtProtocol := some "/lp2p/kad/1"
  rpcProtocols := some ["/echo/1"]
  rpcMaxRequestBytes := 1
  rpcMaxResponseBytes := 1
  rpcTimeoutMs := 10000
  quic := 1
  dcutr := 1
  autonat := 1
  maxConnections := 0
  maxConnectionsPerPeer := 0
  maxPendingIncoming := 0
  relay :=
    { server := 1
      client := 1
      maxReservations := 128
      maxReservationsPerPeer := 4
      reservationDurationS := 3600
      maxCircuits := 16
      maxCircuitsPerPeer := 4
      maxCircuitDurationS := 120
      maxCircuitBytes := 131072
      circuitsPerPeer := { amount := 0, intervalMs := 0, burst := 0 }
      circuitsPerIp := { amount := 0, intervalMs := 0, burst := 0 } }
  announce := { enabled := 0, topic := .null, maxPayloadBytes := 0 }
  eventQueueBytes := 1048576
  reachability := reachPublic
  topicMaxMessageBytes := 65536
  topicMaxSubscriptions := 256

/-- The configuration made of them. -/
def Sample.tightConfig : Config :=
  { Sample.config with rpcMaxRequestBytes := 1, rpcMaxResponseBytes := 1 }

/-- `config_from` accepts them, whichever reachability, protocols and sizes they
ask for. -/
theorem Sample.options_accepted {value : Nat} {reachability : Reachability}
    (known : reachabilityFrom value = some reachability) {names : List String}
    (fit : protocolsFit names = true) {request response topic : UInt32} (requests : request ≠ 0)
    (responses : response ≠ 0) {queue bound message : Nat}
    (bounded : max queue (response.toNat + 4096) = bound) (sized : topic.toNat = message) :
    configFrom Sample.crates
        { Sample.tightOptions with
          reachability := value
          rpcProtocols := some names
          rpcMaxRequestBytes := request
          rpcMaxResponseBytes := response
          eventQueueBytes := queue
          topicMaxMessageBytes := topic } =
      some
        { Sample.tightConfig with
          reachability
          rpcProtocols := names
          rpcMaxRequestBytes := request
          rpcMaxResponseBytes := response
          eventQueueBytes := bound
          topicMaxMessageBytes := message } := by
  have parsed : (Delegation.parse Sample.delegation.toBytes).toOption = some Sample.delegation := by
    decide +kernel
  have named : Sample.crates.streamProtocol "/lp2p/kad/1" = some "/lp2p/kad/1" := by decide +kernel
  have ofGroup : Sample.delegation.group = Sample.group := rfl
  simp [configFrom, Sample.tightOptions, parsed, named, fit, known, announceConfig, ofGroup,
    requests, responses, bounded, sized, Sample.tightConfig, Sample.config, relayConfig, limit,
    tokenBucket]
  rfl

theorem Sample.echo_fit : protocolsFit ["/echo/1"] = true := by decide +kernel

theorem Sample.tightConfig_accepted :
    configFrom Sample.crates Sample.tightOptions = some Sample.tightConfig :=
  Sample.options_accepted rfl Sample.echo_fit (by decide) (by decide) (by decide) (by decide)

/-- What the remote node writes: its delegation and 257 bytes, where one is
allowed. -/
def Sample.oversized : Bytes :=
  Wire.encodeResponse Sample.remoteDelegation.toBytes (List.replicate 257 5)

/-- The remote node is called, and answers with the oversized frame; the caller
polls once. -/
def Sample.oversizedAnswer : List Action :=
  [.draw, .ready Sample.connectedEnv,
    .handle Sample.connectedEnv
      (.command (.rpc 1 Sample.group (some Sample.remote) 0 [] (Duration.fromSecs 10))),
    .handle Sample.connectedEnv (.swarm (.rpc (.response Sample.remotePeer 0 Sample.oversized))),
    .poll (pollBuffer Sample.tightConfig)]

theorem Sample.oversizedAnswer_run :
    System.Run Sample.crates Sample.tightConfig Sample.peer 0 Sample.oversizedAnswer := by
  simp only [System.Run, Sample.oversizedAnswer, Runs.admissible_cons, Runs.admissible_nil,
    and_true]
  refine ⟨trivial, ⟨rfl, rfl⟩, ⟨rfl, rfl, ?_, Nat.zero_lt_one⟩, ⟨rfl, 1, ?_⟩, trivial⟩ <;>
    decide +kernel

theorem rpc_record_fits_iff_oversized :
    ¬ FitsPoll Sample.tightConfig 1
      (rpcResponse 1 Sample.group Sample.remote 0 (List.replicate 257 5)) := by
  have checked : checkResponse Sample.crates 1 Sample.group Sample.remotePeer Sample.oversized =
      some (Sample.remote, List.replicate 257 5) := by
    decide +kernel
  have grown : (Sample.asking.handle Sample.env
      (.swarm (.rpc (.response Sample.remotePeer 0 Sample.oversized)))).log =
      Sample.asking.log ++
        [.heard 1 (.swarm (.rpc (.response Sample.remotePeer 0 Sample.oversized))),
        .did (.emit (rpcResponse 1 Sample.group Sample.remote 0 (List.replicate 257 5)))] := by
    simp [-AList.insert_empty, -List.reduceReplicate, State.handle, State.swarmEvent,
      State.rpcEvent, State.response, State.heard, Sample.asking, Sample.env, checked,
      State.answered, State.emit]
  have read : RpcEvent.ReadFrom (rawCodec Sample.tightConfig) Sample.oversized
      (.response Sample.remotePeer 0 Sample.oversized) :=
    Wire.readBounded_eq_some.mpr ⟨rfl, by decide +kernel⟩
  have fits := rpc_record_fits_iff Sample.tightConfig Sample.env Sample.asking read grown
    (List.mem_cons_of_mem _ List.mem_cons_self) (.inr rfl)
  have long : ¬ Sample.oversized.length ≤ 1 + (1 + delegationBytes) := by decide +kernel
  exact fun promised => long (fits.mp promised)

/-- The codec lets the frame through and the caller, with the documented buffer,
cannot get past the record. -/
theorem oversized_response_blocks_poll :
    configFrom Sample.crates Sample.tightOptions = some Sample.tightConfig ∧
      (rawCodec Sample.tightConfig).readResponse Sample.oversized = some Sample.oversized ∧
      System.Run Sample.crates Sample.tightConfig Sample.peer 0 Sample.oversizedAnswer ∧
      (System.after Sample.tightConfig Sample.peer 0
          Sample.oversizedAnswer).state.shared.events.inner.records =
        [rpcResponse 1 Sample.group Sample.remote 0 (List.replicate 257 5)] ∧
      ((System.after Sample.tightConfig Sample.peer 0
          Sample.oversizedAnswer).state.shared.events.poll
        (pollBuffer Sample.tightConfig)).2.status = errBufferTooSmall := by
  refine ⟨Sample.tightConfig_accepted, ?_, Sample.oversizedAnswer_run, ?_, ?_⟩
  · decide +kernel
  · decide +kernel
  · decide +kernel

end Libp2pFfi
