import Libp2pFfi.PollBuffer
import Libp2pFfi.QueueRuns

/-!
# A bound that holds the largest event

A record that is longer than the bound of the queue is refused however empty the
queue is. `config_from` raises the bound so that a response of the largest size
fits with room to spare, whatever the caller asked for. The largest request and
the largest message on a topic have limits of their own, and nothing relates the
bound to these.
-/

namespace Libp2pFfi

/-- A record with a payload within the caller's limits. -/
inductive Config.Carries (config : Config) : Record → Prop where
  | request (id : Nat) (group node : Key) (protocol : Nat) (payload : Bytes)
      (within : payload.length ≤ config.rpcMaxRequestBytes.toNat) :
      config.Carries (rpcRequest id group node protocol payload)
  | response (id : Nat) (group node : Key) (protocol : Nat) (payload : Bytes)
      (within : payload.length ≤ config.rpcMaxResponseBytes.toNat) :
      config.Carries (rpcResponse id group node protocol payload)
  | topicMessage (group node key : Key) (payload : Bytes)
      (within : payload.length ≤ config.topicMaxMessageBytes) :
      config.Carries
        ((((EventBuilder.new .topicMessage).group group).node node).data (key.toList ++ payload))

/-- Whatever happened before, an empty queue takes every such record and counts
none of them as dropped. -/
def Config.Delivers (config : Config) : Prop :=
  ∀ ops record, config.Carries record →
    let queue := (QueueRuns.History.run config.eventQueueBytes ops).queue
    queue.inner.records = [] →
      (queue.push record).inner.records = [record] ∧
        (queue.push record).inner.dropped = queue.inner.dropped

/-- An empty queue takes a record exactly if the record is within the bound. -/
theorem push_empty_iff {maxBytes : Nat} {ops : List QueueRuns.Op} {record : Record}
    (empty : (QueueRuns.History.run maxBytes ops).queue.inner.records = []) :
    let queue := (QueueRuns.History.run maxBytes ops).queue
    (queue.push record).inner.records = [record] ∧
        (queue.push record).inner.dropped = queue.inner.dropped ↔
      paddedSize record.data.length ≤ maxBytes := by
  intro queue
  obtain ⟨bound, -, -, bytes, -⟩ := QueueRuns.conserved_run maxBytes ops
  have none : queue.inner.bytes = 0 := by rw [bytes, empty, QueueRuns.total_nil]
  have room : queue.accepts record = true ↔ paddedSize record.data.length ≤ maxBytes := by
    rw [EventQueue.accepts, none, Record.bytes_length, Bool.not_eq_true', decide_eq_false_iff_not,
      bound]
    omega
  rw [← room, EventQueue.push]
  cases queue.accepts record with
  | true =>
    refine iff_of_true ⟨?_, rfl⟩ rfl
    show queue.inner.records ++ [record] = [record]
    rw [empty, List.nil_append]
  | false =>
    refine iff_of_false ?_ Bool.false_ne_true
    rintro ⟨taken, -⟩
    cases empty.symm.trans taken

theorem paddedSize_mono {less more : Nat} (le : less ≤ more) : paddedSize less ≤ paddedSize more := by
  unfold paddedSize
  omega

/-- An empty queue takes every event within the caller's limits exactly if its
bound holds the largest request and the largest message on a topic. -/
theorem queue_delivers_iff {crates : Crates} {options : Options} {config : Config}
    (accepted : configFrom crates options = some config) :
    config.Delivers ↔
      paddedSize options.rpcMaxRequestBytes.toNat ≤
          max options.eventQueueBytes (options.rpcMaxResponseBytes.toNat + 4096) ∧
        paddedSize (32 + options.topicMaxMessageBytes.toNat) ≤
          max options.eventQueueBytes (options.rpcMaxResponseBytes.toNat + 4096) := by
  have takes := takes_of_accepted accepted
  rw [← takes.eventQueueBytes, ← takes.rpcMaxRequestBytes, ← takes.topicMaxMessageBytes]
  constructor
  · intro delivers
    constructor
    · have largest : config.Carries (rpcRequest 0 (Key.filled 0) (Key.filled 0) 0
          (List.replicate config.rpcMaxRequestBytes.toNat 0)) :=
        .request _ _ _ _ _ List.length_replicate.le
      have fits := (push_empty_iff rfl).mp (delivers [] _ largest rfl)
      simpa [rpcRequest, EventBuilder.data] using fits
    · have largest : config.Carries
          ((((EventBuilder.new .topicMessage).group (Key.filled 0)).node (Key.filled 0)).data
            ((Key.filled 0).toList ++ List.replicate config.topicMaxMessageBytes 0)) :=
        .topicMessage _ _ _ _ List.length_replicate.le
      have fits := (push_empty_iff rfl).mp (delivers [] _ largest rfl)
      simpa [EventBuilder.data] using fits
  · rintro ⟨requests, messages⟩ ops record carries queue empty
    refine (push_empty_iff empty).mpr ?_
    cases carries with
    | request id group node protocol payload within =>
      exact (paddedSize_mono within).trans requests
    | response id group node protocol payload within =>
      -- The bound was raised for these.
      have raised : config.rpcMaxResponseBytes.toNat + 4096 ≤ config.eventQueueBytes := by
        rw [takes.eventQueueBytes, takes.rpcMaxResponseBytes]
        exact le_max_right _ _
      refine (paddedSize_mono within).trans (le_trans ?_ raised)
      unfold paddedSize eventHeaderBytes
      omega
    | topicMessage group node key payload within =>
      refine (paddedSize_mono ?_).trans messages
      show (key.toList ++ payload).length ≤ 32 + config.topicMaxMessageBytes
      rw [List.length_append, key.toList_length]
      omega

theorem queue_delivers_iff_tight : Sample.tightConfig.Delivers :=
  (queue_delivers_iff Sample.tightConfig_accepted).mpr (by decide)

/-- Options that allow requests of 64 KiB and responses of 1 KiB, and leave the
bound of the queue to the module. -/
def Sample.uploadOptions : Options :=
  { Sample.tightOptions with
    rpcMaxRequestBytes := 65536
    rpcMaxResponseBytes := 1024
    eventQueueBytes := 0 }

/-- The configuration made of them. -/
def Sample.uploadConfig : Config :=
  { Sample.tightConfig with
    rpcMaxRequestBytes := 65536
    rpcMaxResponseBytes := 1024
    eventQueueBytes := 5120 }

/-- The record of a request as large as is allowed. -/
def Sample.upload : Record :=
  rpcRequest 1 Sample.group Sample.remote 0 (List.replicate 65536 0)

/-- The options are accepted, the request is within its limit, and the new queue
drops its event. -/
theorem largest_request_dropped :
    configFrom Sample.crates Sample.uploadOptions = some Sample.uploadConfig ∧
      Sample.uploadConfig.Carries Sample.upload ∧
      ((EventQueue.new Sample.uploadConfig.eventQueueBytes).push Sample.upload).inner.records = [] ∧
      ((EventQueue.new Sample.uploadConfig.eventQueueBytes).push Sample.upload).inner.dropped = 1 ∧
      ¬ Sample.uploadConfig.Delivers := by
  have accepted : configFrom Sample.crates Sample.uploadOptions = some Sample.uploadConfig :=
    Sample.options_accepted rfl Sample.echo_fit (by decide) (by decide) (by decide) (by decide)
  have carries : Sample.uploadConfig.Carries Sample.upload :=
    .request _ _ _ _ _ List.length_replicate.le
  have size : Sample.upload.bytes.length = paddedSize 65536 := by
    rw [Record.bytes_length, Sample.upload, rpcRequest, EventBuilder.data, List.length_replicate]
  have refused :
      (EventQueue.new Sample.uploadConfig.eventQueueBytes).accepts Sample.upload = false := by
    rw [EventQueue.accepts, size]
    decide
  have pushed : (EventQueue.new Sample.uploadConfig.eventQueueBytes).push Sample.upload =
      { EventQueue.new Sample.uploadConfig.eventQueueBytes with
        inner := { records := [], bytes := 0, dropped := 1, closed := none } } := by
    rw [EventQueue.push, refused]
    rfl
  refine ⟨accepted, carries, by rw [pushed], by rw [pushed], fun delivers => ?_⟩
  have taken := (delivers [] Sample.upload carries rfl).1
  rw [show (QueueRuns.History.run Sample.uploadConfig.eventQueueBytes []).queue =
    EventQueue.new Sample.uploadConfig.eventQueueBytes from rfl, pushed] at taken
  cases taken

end Libp2pFfi
