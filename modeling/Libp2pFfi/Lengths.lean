import Libp2pFfi.PollAnswers
import Libp2pFfi.Protocols
import Libp2pFfi.QueueBound

/-!
# Lengths that are narrowed

The lengths of a record are computed as `usize` and stored as `u32`, and the bytes a
poll or a routing sample writes are counted as `usize` and answered as `i32`. None of
the three is checked. What bounds them are options of the caller: the limits of the
payloads, each an arbitrary `u32`, the bound of the queue and the lengths of buffers,
each an arbitrary `usize`.

A frame has a header, so the largest payload of an RPC is longer than the limit by what
the frame around it leaves of the codec's overhead. A record has a header too, and ends
at a multiple of eight. Close to the ends of the types these additions wrap.
-/

namespace Libp2pFfi

open Fitting
open QueueRuns (Op History)

/-- A record of a payload that is let in under these options. -/
inductive Config.Admits (config : Config) : Record → Prop where
  | request {crates : Crates} {nowMs : UInt64} {peer : PeerId} {stream frame payload : Bytes}
      {node group : Key} {protocol : Nat} (id : Nat)
      (read : (rawCodec config).readRequest stream = some frame)
      (checked : checkRequest crates nowMs config.rpcProtocols peer frame =
        some (node, group, protocol, payload)) :
      config.Admits (rpcRequest id group node protocol payload)
  | response {crates : Crates} {nowMs : UInt64} {peer : PeerId} {stream frame payload : Bytes}
      {node group : Key} (id protocol : Nat)
      (read : (rawCodec config).readResponse stream = some frame)
      (checked : checkResponse crates nowMs group peer frame = some (node, payload)) :
      config.Admits (rpcResponse id group node protocol payload)
  | topicMessage {crates : Crates} {nowMs : UInt64} {message : GossipMessage} {source : PeerId}
      {node group : Key} {payload : Bytes} (key : Key)
      (checked : checkAnnouncement crates nowMs message = some (source, node, group, payload))
      (within : payload.length ≤ config.topicMaxMessageBytes) :
      config.Admits
        ((((EventBuilder.new .topicMessage).group group).node node).data (key.toList ++ payload))

/-- Both lengths in the header are those of the record. -/
structure Record.Measured (record : Record) : Prop where
  size : record.header.size = record.bytes.length
  dataLen : record.header.dataLen = record.data.length

/-- The lengths of a record are narrowed without a loss exactly up to this many bytes of
data. -/
theorem measured_data_iff (builder : EventBuilder) (data : Bytes) :
    (builder.data data).Measured ↔ data.length ≤ 4294967200 := by
  have size : (builder.data data).header.size = (builder.data data).bytes.length ↔
      paddedSize data.length < 2 ^ 32 := by
    rw [Record.bytes_length]
    exact Nat.mod_eq_iff_lt (by decide)
  have dataLen : (builder.data data).header.dataLen = (builder.data data).data.length ↔
      data.length < 2 ^ 32 :=
    Nat.mod_eq_iff_lt (by decide)
  have padded : paddedSize data.length < 2 ^ 32 ↔ data.length ≤ 4294967200 := by
    unfold paddedSize eventHeaderBytes
    omega
  constructor
  · intro measured
    exact padded.mp (size.mp measured.size)
  · intro small
    exact ⟨size.mpr (padded.mpr small), dataLen.mpr (by omega)⟩

/-! The largest payloads. -/

/-- The payload of a request is what its codec lets through less the frame, which has the
name of one of the protocols. -/
theorem request_payload_le {config : Config} {crates : Crates} {nowMs : UInt64} {peer : PeerId}
    {stream frame payload : Bytes} {node group : Key} {protocol : Nat}
    (read : (rawCodec config).readRequest stream = some frame)
    (checked : checkRequest crates nowMs config.rpcProtocols peer frame =
      some (node, group, protocol, payload)) :
    ∃ name ∈ config.rpcProtocols,
      payload.length + (Wire.asBytes name).length ≤ config.rpcMaxRequestBytes.toNat + 255 := by
  obtain ⟨rfl, within⟩ := Wire.readBounded_eq_some.mp read
  simp only [checkRequest, Option.bind_eq_bind, Option.bind_eq_some_iff, Option.some.injEq,
    Prod.mk.injEq] at checked
  obtain ⟨request, decoded, -, -, -, -, -, -, index, found, -, -, -, rfl⟩ := checked
  obtain ⟨delegated, -, nameLen, named, whole⟩ := Wire.decodeRequest_some decoded
  obtain ⟨inRange, same, -⟩ := List.findIdx?_eq_some_iff_getElem.mp found
  refine ⟨request.protocol, ?_, ?_⟩
  · rw [← eq_of_beq same]
    exact List.getElem_mem inRange
  · have length := congrArg List.length whole
    have limit : (rawCodec config).maxRequest = config.rpcMaxRequestBytes.toNat + 393 := rfl
    simp only [List.length_cons, List.length_append, delegated, delegationBytes] at length
    rw [limit, length] at within
    omega

theorem response_payload_le {config : Config} {crates : Crates} {nowMs : UInt64} {peer : PeerId}
    {stream frame payload : Bytes} {node group : Key}
    (read : (rawCodec config).readResponse stream = some frame)
    (checked : checkResponse crates nowMs group peer frame = some (node, payload)) :
    payload.length ≤ config.rpcMaxResponseBytes.toNat + 256 := by
  obtain ⟨rfl, within⟩ := Wire.readBounded_eq_some.mp read
  obtain ⟨delegation, whole, proven⟩ := checkResponse_proven checked
  have length := congrArg List.length whole
  have limit : (rawCodec config).maxResponse = config.rpcMaxResponseBytes.toNat + 393 := rfl
  simp only [List.length_cons, List.length_append, proven.length] at length
  rw [limit, length] at within
  omega

/-- A request within what the codec leaves for it is let in. -/
theorem admits_request {config : Config} (fit : protocolsFit config.rpcProtocols = true)
    {name : String} (registered : name ∈ config.rpcProtocols) {payload : Bytes}
    (within : payload.length + (Wire.asBytes name).length ≤
      config.rpcMaxRequestBytes.toNat + 255) :
    ∃ protocol, config.Admits (rpcRequest 0 Sample.group Sample.remote protocol payload) := by
  obtain ⟨named, short⟩ := name_sized fit registered
  have checked := Sample.checkRequest_remote config.rpcProtocols payload named short
  obtain ⟨index, found⟩ : ∃ index, config.rpcProtocols.findIdx? (· == name) = some index := by
    rw [← Option.isSome_iff_exists, List.findIdx?_isSome, List.any_eq_true]
    exact ⟨name, registered, beq_self_eq_true name⟩
  rw [found] at checked
  refine ⟨asU16 index, .request 0 (Wire.readBounded_eq_some.mpr ⟨rfl, ?_⟩) checked⟩
  have limit : (rawCodec config).maxRequest = config.rpcMaxRequestBytes.toNat + 393 := rfl
  simp only [limit, Wire.encodeRequest, List.length_cons, List.length_append,
    Delegation.toBytes_length]
  omega

/-- And so is a response. -/
theorem admits_response {config : Config} {payload : Bytes} (id : Nat)
    (within : payload.length ≤ config.rpcMaxResponseBytes.toNat + 256) :
    config.Admits (rpcResponse id Sample.group Sample.remote 0 payload) := by
  refine .response id 0 (Wire.readBounded_eq_some.mpr ⟨rfl, ?_⟩) (Sample.checkResponse_remote payload)
  have limit : (rawCodec config).maxResponse = config.rpcMaxResponseBytes.toNat + 393 := rfl
  simp only [limit, Wire.encodeResponse, List.length_cons, List.length_append,
    Delegation.toBytes_length]
  omega

theorem admits_topicMessage {config : Config} {payload : Bytes}
    (within : payload.length ≤ config.topicMaxMessageBytes) :
    config.Admits ((((EventBuilder.new .topicMessage).group Sample.group).node Sample.remote).data
      ((Key.filled 0).toList ++ payload)) := by
  have decoded : Wire.decodeAnnouncement
      (Wire.encodeResponse Sample.remoteDelegation.toBytes payload) =
        some { delegation := Sample.remoteDelegation.toBytes, payload } :=
    Wire.decodeResponse_parts Sample.remoteDelegation.toBytes_length
  have genuine : Genuine Sample.crates 1
      { source := some Sample.remotePeer
        data := Wire.encodeResponse Sample.remoteDelegation.toBytes payload
        topic := "" } Sample.remotePeer Sample.remote Sample.group payload :=
    ⟨rfl, Sample.remote_keyed, _, Sample.remoteDelegation, decoded,
      toOption_eq_some.mp Sample.remote_parsed, toOption_eq_some.mp Sample.remote_verified, rfl, rfl⟩
  exact .topicMessage (Key.filled 0) (checkAnnouncement_eq_some.mpr genuine) within

/-- The largest payload of each kind leaves the lengths of its record within 32 bits. -/
structure Config.Fits (config : Config) : Prop where
  requests : ∀ name ∈ config.rpcProtocols,
    config.rpcMaxRequestBytes.toNat + 255 ≤ 4294967200 + (Wire.asBytes name).length
  responses : config.rpcMaxResponseBytes.toNat + 256 ≤ 4294967200
  messages : config.topicMaxMessageBytes + 32 ≤ 4294967200

theorem exists_bytes (length : Nat) : ∃ bytes : Bytes, bytes.length = length :=
  ⟨List.replicate length 0, List.length_replicate⟩

/-- Every record has its own lengths exactly if the largest ones do. -/
theorem measured_iff {config : Config} (fit : protocolsFit config.rpcProtocols = true) :
    (∀ record, config.Admits record → record.Measured) ↔ config.Fits := by
  constructor
  · intro measured
    constructor
    · intro name registered
      have short := (name_sized fit registered).2
      obtain ⟨payload, length⟩ := exists_bytes
        (config.rpcMaxRequestBytes.toNat + 255 - (Wire.asBytes name).length)
      obtain ⟨protocol, admitted⟩ : ∃ protocol,
          config.Admits (rpcRequest 0 Sample.group Sample.remote protocol payload) :=
        admits_request fit registered (by omega)
      have small := (measured_data_iff _ _).mp (measured _ admitted)
      omega
    · obtain ⟨payload, length⟩ := exists_bytes (config.rpcMaxResponseBytes.toNat + 256)
      have small := (measured_data_iff _ _).mp (measured _ (admits_response 0 length.le))
      omega
    · obtain ⟨payload, length⟩ := exists_bytes config.topicMaxMessageBytes
      have small := (measured_data_iff _ _).mp (measured _ (admits_topicMessage length.le))
      rw [List.length_append, List.Vector.toList_length] at small
      omega
  · rintro fits record admitted
    cases admitted with
    | request id read checked =>
      obtain ⟨name, registered, within⟩ := request_payload_le read checked
      have room := fits.requests name registered
      exact (measured_data_iff _ _).mpr (by omega)
    | response id protocol read checked =>
      exact (measured_data_iff _ _).mpr ((response_payload_le read checked).trans fits.responses)
    | topicMessage key checked within =>
      have room := fits.messages
      refine (measured_data_iff _ _).mpr ?_
      rw [List.length_append, List.Vector.toList_length]
      omega

/-! What is answered. -/

/-- Narrowing to `i32` keeps exactly the numbers up to `i32::MAX`. -/
theorem asI32_eq_iff {value : Nat} : asI32 value = value ↔ value < 2 ^ 31 := by
  constructor
  · intro exact
    have below : (BitVec.ofNat 32 value).toInt < 2 ^ 31 := BitVec.toInt_lt
    rw [asI32] at exact
    omega
  · intro small
    exact asI32_of_le (by omega)

/-- The loop of `lp2p_routing_sample`: the bytes written and the records copied. -/
def copySample (cap : Nat) : Nat → List Record → Nat × List Record
  | written, [] => (written, [])
  | written, record :: rest =>
    if written + record.bytes.length > cap then (written, [])
    else
      let later := copySample cap (written + record.bytes.length) rest
      (later.1, record :: later.2)

/-- What `lp2p_routing_sample` makes of the node's reply: its answer, and the records in
the caller's buffer. -/
def lp2pRoutingSample (cap : Nat) (records : List Record) : Int × List Record :=
  let (written, copied) := copySample cap 0 records
  (asI32 written, copied)

/-- The loop fills what is left of the buffer. -/
theorem copySample_fill {cap written : Nat} (within : written ≤ cap) (records : List Record) :
    copySample cap written records =
      (written + total Record.length (fill Record.length (cap - written) records),
        fill Record.length (cap - written) records) := by
  induction records generalizing written with
  | nil => rfl
  | cons record rest inductionHypothesis =>
    rw [copySample, fill]
    by_cases full : written + record.bytes.length > cap
    · rw [if_pos full, if_neg (by unfold Record.length; omega)]
      rfl
    · rw [if_neg full, if_pos (by unfold Record.length; omega)]
      rw [inductionHypothesis (by omega), ← Nat.sub_sub, total_cons, Record.length,
        Nat.add_assoc]

/-- No part of these records from the front fits the buffer and is too long for an `i32`. -/
def Countable (cap : Nat) (records : List Record) : Prop :=
  ∀ taken, taken <+: records → total Record.length taken ≤ cap →
    total Record.length taken < 2 ^ 31

theorem countable_iff {cap : Nat} {records : List Record} :
    Countable cap records ↔ total Record.length (fill Record.length cap records) < 2 ^ 31 := by
  have longest : Longest Record.length cap records (fill Record.length cap records) :=
    fill_longest cap records
  constructor
  · intro countable
    exact countable _ longest.initial longest.fits
  · intro small taken initial fits
    exact (total_le_of_initial (longest.longest taken initial fits)).trans_lt small

theorem sample_exact_iff (cap : Nat) (records : List Record) :
    (lp2pRoutingSample cap records).1 =
        ((lp2pRoutingSample cap records).2.flatMap Record.bytes).length ↔
      Countable cap records := by
  rw [countable_iff, ← asI32_eq_iff, ← total_length, lp2pRoutingSample,
    copySample_fill (Nat.zero_le cap), Nat.zero_add, Nat.sub_zero]

/-- A buffer for everything that is due gets everything. -/
theorem EventQueue.poll_all {queue : EventQueue} {cap : Nat}
    (some : 0 < total Record.length queue.due) (fits : total Record.length queue.due ≤ cap) :
    (queue.poll cap).2.buffer.length = total Record.length queue.due ∧
      (queue.poll cap).2.status = asI32 (total Record.length queue.due) := by
  rcases queue.poll_cases cap with ⟨nothing, -⟩ | ⟨next, first, large, -⟩ |
    ⟨next, first, -, delivered, status, -⟩
  · rw [nothing] at some
    exact absurd some (lt_irrefl 0)
  · obtain ⟨rest, front⟩ : ∃ rest, queue.due = next :: rest := List.head?_eq_some_iff.mp first
    rw [front, total_cons] at fits
    omega
  · rw [fill_of_total_le fits] at delivered
    rw [status, Polled.buffer, ← total_length, delivered]
    exact ⟨rfl, rfl⟩

/-- What a poll of this queue hands out is answered exactly if it can be counted. -/
theorem poll_exact_iff (queue : EventQueue) (cap : Nat) :
    ((queue.poll cap).2.delivered ≠ [] →
        (queue.poll cap).2.status = (queue.poll cap).2.buffer.length) ↔
      Countable cap queue.due := by
  rw [countable_iff]
  rcases queue.poll_cases cap with ⟨nothing, shape⟩ | ⟨next, first, large, shape⟩ |
    ⟨next, first, fits, delivered, status, -⟩
  · rw [shape, nothing]
    simp [EventQueue.Polled.delivered, fill]
  · obtain ⟨rest, front⟩ : ∃ rest, queue.due = next :: rest := List.head?_eq_some_iff.mp first
    rw [shape, front, fill, if_neg (not_le.mpr large)]
    simp [EventQueue.Polled.delivered]
  · obtain ⟨rest, front⟩ : ∃ rest, queue.due = next :: rest := List.head?_eq_some_iff.mp first
    have some : (queue.poll cap).2.delivered ≠ [] := by
      rw [delivered, front, fill, if_pos fits]
      exact List.cons_ne_nil _ _
    rw [← delivered, ← asI32_eq_iff, status, EventQueue.Polled.buffer, ← total_length]
    exact ⟨fun exact => exact some, fun exact _ => exact⟩

/-! Over the runs of a queue. -/

theorem total_eq_cast (records : List Record) :
    QueueRuns.total records = (total Record.length records : Int) := by
  induction records with
  | nil => rfl
  | cons record rest inductionHypothesis =>
    rw [QueueRuns.total_cons, total_cons, inductionHypothesis, Record.length, Nat.cast_add]

/-- What is due never takes more than the bound of the queue and an overflow record. -/
theorem total_due_le (maxBytes : Nat) (ops : List Op) :
    total Record.length (History.run maxBytes ops).queue.due ≤ maxBytes + eventHeaderBytes := by
  obtain ⟨-, -, -, bytes, within⟩ := QueueRuns.conserved_run maxBytes ops
  rw [bytes, total_eq_cast] at within
  rw [EventQueue.due, total_append]
  split
  · rw [total_cons, total_nil, overflowRecord_length]
    omega
  · rw [total_nil]
    omega

/-- Records that fit a new queue together are all queued. -/
theorem run_pushes {maxBytes : Nat} {records : List Record}
    (fits : total Record.length records ≤ maxBytes) :
    (History.run maxBytes (records.map .push)).queue =
      { inner := { records, bytes := total Record.length records, dropped := 0, closed := none }
        maxBytes } := by
  induction records using List.reverseRecOn with
  | nil => rfl
  | append_singleton records record inductionHypothesis =>
    rw [total_append, total_cons, total_nil, Record.length] at fits
    have queued := inductionHypothesis (by omega)
    have room : (History.run maxBytes (records.map .push)).queue.accepts record = true := by
      rw [EventQueue.accepts, queued, Bool.not_eq_true', decide_eq_false_iff_not]
      simp only
      omega
    rw [List.map_append, List.map_singleton, QueueRuns.run_concat, History.step, EventQueue.push,
      if_pos room, queued]
    simp only [total_append, total_cons, total_nil, Record.length, Nat.add_zero, Nat.cast_add]

/-- One more event after records that are 2^31 bytes with it brings what is due to that
length, whether the queue has room for it or reports that it was dropped. -/
theorem total_due_last {maxBytes : Nat} {records : List Record} {last : Record}
    (header : last.length = eventHeaderBytes)
    (almost : total Record.length records + eventHeaderBytes = 2 ^ 31)
    (large : 2 ^ 31 ≤ maxBytes + eventHeaderBytes) :
    total Record.length (History.run maxBytes ((records ++ [last]).map .push)).queue.due =
      2 ^ 31 := by
  have all : total Record.length (records ++ [last]) = 2 ^ 31 := by
    rw [total_append, total_cons, total_nil, header]
    exact almost
  by_cases room : 2 ^ 31 ≤ maxBytes
  · rw [run_pushes (all.le.trans room), EventQueue.due]
    simpa using all
  · have queued : (History.run maxBytes (records.map .push)).queue = _ := run_pushes (by omega)
    have refused : (History.run maxBytes (records.map .push)).queue.accepts last = false := by
      rw [Record.length] at header
      rw [EventQueue.accepts, queued, Bool.not_eq_false', decide_eq_true_iff, header]
      simp only
      omega
    rw [List.map_append, List.map_singleton, QueueRuns.run_concat, History.step, EventQueue.push,
      refused, queued, EventQueue.due]
    simp only [Bool.false_eq_true, if_false, Nat.zero_add, Nat.zero_lt_one, if_true,
      List.singleton_append, total_cons, overflowRecord_length]
    omega

/-- Responses with no payload and with one of eight bytes. -/
def wrapping : List Record :=
  List.replicate 7 (rpcResponse 0 Sample.group Sample.remote 0 []) ++
    List.replicate 22369614 (rpcResponse 0 Sample.group Sample.remote 0 (List.replicate 8 0))

theorem total_wrapping : total Record.length wrapping + eventHeaderBytes = 2 ^ 31 := by
  have short : (rpcResponse 0 Sample.group Sample.remote 0 []).length = 88 := Record.bytes_length _
  have longer : (rpcResponse 0 Sample.group Sample.remote 0 (List.replicate 8 0)).length = 96 :=
    Record.bytes_length _
  rw [wrapping, total_append, total_replicate, total_replicate, short, longer]
  decide

/-- Polls with a buffer of this length are answered with what they write after every
run exactly if the buffer or the queue is too short for a number that wraps. -/
theorem polls_exact_iff (maxBytes cap : Nat) :
    (∀ ops, Countable cap (History.run maxBytes ops).queue.due) ↔
      cap < 2 ^ 31 ∨ maxBytes + eventHeaderBytes < 2 ^ 31 := by
  constructor
  · intro countable
    by_contra! large
    have due := total_due_last (Record.bytes_length (rpcResponse 0 Sample.group Sample.remote 0 []))
      total_wrapping large.2
    have wraps := countable _ _ List.prefix_rfl (due.le.trans large.1)
    omega
  · rintro (short | short) ops taken initial fits
    · exact fits.trans_lt short
    · exact ((total_le_of_initial initial).trans (total_due_le maxBytes ops)).trans_lt short

/-- Under these options no length loses a bit: records have their own lengths in their
headers, and whatever polls with a buffer of `cap` bytes and a routing sample of these
records write is answered. -/
structure Config.KeepsLengths (config : Config) (cap : Nat) (sampled : List Record)
    (sampleCap : Nat) : Prop where
  records : ∀ record, config.Admits record → record.Measured
  polls : ∀ ops, let polled := ((History.run config.eventQueueBytes ops).queue.poll cap).2
    polled.delivered ≠ [] → polled.status = polled.buffer.length
  sample : let answer := lp2pRoutingSample sampleCap sampled
    answer.1 = (answer.2.flatMap Record.bytes).length

/-- Lengths are kept exactly if the largest payload of each kind leaves the lengths of
its record within 32 bits, a poll cannot write 2^31 bytes because its buffer or the queue
is smaller, and no part of the sampled records that fits the buffer has that length. -/
theorem lengths_kept_iff {crates : Crates} {options : Options} {config : Config}
    (accepted : configFrom crates options = some config) (cap : Nat) (env : Env) (state : State)
    (max sampleCap : Nat) :
    config.KeepsLengths cap (state.routingSample env max).2 sampleCap ↔
      config.Fits ∧ (cap < 2 ^ 31 ∨ config.eventQueueBytes + eventHeaderBytes < 2 ^ 31) ∧
        Countable sampleCap (state.routingSample env max).2 := by
  have fit : protocolsFit config.rpcProtocols = true := (takes_of_accepted accepted).fit
  rw [← measured_iff fit, ← polls_exact_iff, ← sample_exact_iff]
  constructor
  · intro kept
    exact ⟨kept.records, fun ops => (poll_exact_iff _ cap).mp (kept.polls ops), kept.sample⟩
  · rintro ⟨records, polls, sample⟩
    exact ⟨records, fun ops => (poll_exact_iff _ cap).mpr (polls ops), sample⟩

theorem lengths_kept_iff_tight :
    Sample.tightConfig.KeepsLengths 4096 (Sample.asking.routingSample Sample.env 8).2 4096 := by
  refine (lengths_kept_iff Sample.tightConfig_accepted 4096 Sample.env Sample.asking 8 4096).mpr
    ⟨⟨?_, ?_, ?_⟩, .inl (by decide), ?_⟩
  · decide +kernel
  · decide
  · decide
  · intro taken _ fits
    exact fits.trans_lt (by decide)

/-- Options with the largest limit for responses. -/
def Sample.hugeOptions : Options :=
  { Sample.tightOptions with rpcMaxResponseBytes := 4294967295 }

def Sample.hugeConfig : Config :=
  { Sample.tightConfig with
    rpcMaxResponseBytes := 4294967295
    eventQueueBytes := 4294971391 }

/-- A response with one byte more than a record can measure. -/
def Sample.huge : Record := rpcResponse 0 Sample.group Sample.remote 0 (List.replicate 4294967201 0)

theorem size_rpcResponse (payload : Bytes) :
    (rpcResponse 0 Sample.group Sample.remote 0 payload).header.size =
      paddedSize payload.length % 2 ^ 32 :=
  rfl

theorem length_rpcResponse (payload : Bytes) :
    (rpcResponse 0 Sample.group Sample.remote 0 payload).bytes.length =
      paddedSize payload.length :=
  Record.bytes_length _

/-- The options are accepted and so is the response, but its record says that it is empty;
and a poll that writes 2^31 bytes of other responses answers a negative number. -/
theorem response_size_wraps :
    configFrom Sample.crates Sample.hugeOptions = some Sample.hugeConfig ∧
      Sample.hugeConfig.Admits Sample.huge ∧
      Sample.huge.header.size = 0 ∧ Sample.huge.bytes.length = 4294967296 ∧
      ∃ ops, (∀ op ∈ ops, ∃ record, op = .push record ∧ Sample.hugeConfig.Admits record) ∧
        ((History.run Sample.hugeConfig.eventQueueBytes ops).queue.poll (2 ^ 31)).2.buffer.length =
          2 ^ 31 ∧
        ((History.run Sample.hugeConfig.eventQueueBytes ops).queue.poll (2 ^ 31)).2.status =
          -2 ^ 31 := by
  have length : (List.replicate 4294967201 (0 : UInt8)).length = 4294967201 :=
    List.length_replicate
  have admitted (id : Nat) {payload : Bytes} (small : payload.length ≤ 4294967551) :
      Sample.hugeConfig.Admits (rpcResponse id Sample.group Sample.remote 0 payload) :=
    admits_response id small
  have due := total_due_last
    (Record.bytes_length (rpcResponse 0 Sample.group Sample.remote 0 [])) total_wrapping
    (show 2 ^ 31 ≤ Sample.hugeConfig.eventQueueBytes + eventHeaderBytes by decide)
  obtain ⟨written, status⟩ := EventQueue.poll_all (by omega) due.le
  refine ⟨Sample.options_accepted rfl Sample.echo_fit (by decide) (by decide) (by decide) (by decide),
    admitted 0 (by rw [length]; decide), ?_, ?_, _, ?_, written.trans due, ?_⟩
  · rw [Sample.huge, size_rpcResponse, length]
    decide
  · rw [Sample.huge, length_rpcResponse, length]
    decide
  · intro op pushed
    obtain ⟨record, member, rfl⟩ := List.mem_map.mp pushed
    refine ⟨record, rfl, ?_⟩
    rw [wrapping, List.append_assoc, List.mem_append, List.mem_append] at member
    rcases member with short | longer | last
    · rw [List.eq_of_mem_replicate short]
      exact admitted 0 (by decide)
    · rw [List.eq_of_mem_replicate longer]
      exact admitted 0 (by decide)
    · rw [List.mem_singleton.mp last]
      exact admitted 0 (by decide)
  · rw [status, due]
    decide

end Libp2pFfi
