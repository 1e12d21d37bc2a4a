import Libp2pFfi.Abi

/-!
# Records and the event queue

A record is an `lp2p_event` header followed by its data, padded with zeros to a
multiple of eight. The queue between the node and its pollers is bounded in
bytes; what does not fit is counted, and the count leaves the queue as one
overflow record ahead of the next events.

Every operation holds the mutex from its first look at the queue to its last
change, so it is one step here. A poll that waits gives the mutex up only while
there is nothing to report, and takes its decision in the step modeled: a poll
that times out answers zero and has changed nothing.
-/

namespace Libp2pFfi

/-- The `width` bytes of a number in native order, little endian on every
target the module is built for. -/
def leBytes : Nat → Nat → Bytes
  | 0, _ => []
  | width + 1, value => UInt8.ofNat value :: leBytes width (value / 256)

@[simp] theorem leBytes_length (width value : Nat) : (leBytes width value).length = width := by
  induction width generalizing value with
  | zero => rfl
  | succ width inductionHypothesis => simp [leBytes, inductionHypothesis]

/-- Different numbers have different bytes, as far as they fit. -/
theorem leBytes_injective {width left right : Nat} (leftFits : left < 256 ^ width)
    (rightFits : right < 256 ^ width) (same : leBytes width left = leBytes width right) :
    left = right := by
  induction width generalizing left right with
  | zero =>
    rw [Nat.pow_zero] at leftFits rightFits
    omega
  | succ width inductionHypothesis =>
    simp only [leBytes, List.cons.injEq] at same
    have low : left % 256 = right % 256 := by simpa using congrArg UInt8.toNat same.1
    rw [Nat.pow_succ] at leftFits rightFits
    have high : left / 256 = right / 256 :=
      inductionHypothesis (Nat.div_lt_of_lt_mul (by omega)) (Nat.div_lt_of_lt_mul (by omega)) same.2
    omega

/-- A finished record: its header, sizes filled in, and its data. -/
structure Record where
  header : Event
  data : Bytes
deriving DecidableEq

structure EventBuilder where
  header : Event

namespace EventBuilder

def new (kind : EventKind) : EventBuilder := ⟨{ kind }⟩

protected def id (builder : EventBuilder) (id : Nat) : EventBuilder :=
  ⟨{ builder.header with id }⟩

def flags (builder : EventBuilder) (flags : Nat) : EventBuilder :=
  ⟨{ builder.header with flags }⟩

def group (builder : EventBuilder) (group : Key) : EventBuilder :=
  ⟨{ builder.header with group }⟩

def node (builder : EventBuilder) (node : Key) : EventBuilder :=
  ⟨{ builder.header with node }⟩

def protocol (builder : EventBuilder) (protocol : Nat) : EventBuilder :=
  ⟨{ builder.header with protocol }⟩

def reason (builder : EventBuilder) (reason : Nat) : EventBuilder :=
  ⟨{ builder.header with reason }⟩

end EventBuilder

/-- The length of a record over `dataLen` bytes of data: the header and the
data, rounded up to a multiple of eight. -/
def paddedSize (dataLen : Nat) : Nat := (eventHeaderBytes + dataLen + 7) / 8 * 8

namespace EventBuilder

/-- Finish the record. Both lengths are narrowed to `u32` in the header. -/
def data (builder : EventBuilder) (data : Bytes) : Record where
  header :=
    { builder.header with
      size := paddedSize data.length % 2 ^ 32
      dataLen := data.length % 2 ^ 32 }
  data

def build (builder : EventBuilder) : Record := builder.data []

end EventBuilder

/-- The header as it lies in memory. -/
def Event.bytes (header : Event) : Bytes :=
  leBytes 2 header.kind.code ++ leBytes 2 header.flags ++ leBytes 4 header.size ++
    leBytes 8 header.id ++ header.group.toList ++ header.node.toList ++
    leBytes 2 header.protocol ++ leBytes 2 header.reason ++ leBytes 4 header.dataLen

/-- The bytes a poll copies: header, data, and zeros up to the padded size. -/
def Record.bytes (record : Record) : Bytes :=
  record.header.bytes ++ record.data ++
    List.replicate (paddedSize record.data.length - (eventHeaderBytes + record.data.length)) 0

@[simp] theorem Event.bytes_length (header : Event) : header.bytes.length = eventHeaderBytes := by
  simp [Event.bytes, eventHeaderBytes]

theorem Record.bytes_length (record : Record) :
    record.bytes.length = paddedSize record.data.length := by
  simp only [Record.bytes, List.length_append, Event.bytes_length, List.length_replicate,
    paddedSize]
  omega

/-- No record is empty: every one carries at least its header. -/
theorem Record.bytes_length_pos (record : Record) : 0 < record.bytes.length := by
  simp only [Record.bytes_length, paddedSize, eventHeaderBytes]
  omega

/-- What the mutex guards. `bytes` is an integer so that a subtraction that
would underflow leaves a visible negative value instead of a clipped one. -/
structure Inner where
  records : List Record
  bytes : Int
  dropped : Nat
  closed : Option Int
deriving DecidableEq

structure EventQueue where
  inner : Inner
  maxBytes : Nat
deriving DecidableEq

namespace EventQueue

def new (maxBytes : Nat) : EventQueue where
  inner := { records := [], bytes := 0, dropped := 0, closed := none }
  maxBytes

/-- Whether the bound has room for one more record. -/
def accepts (queue : EventQueue) (record : Record) : Bool :=
  !decide (queue.inner.bytes + record.bytes.length > queue.maxBytes)

def push (queue : EventQueue) (record : Record) : EventQueue :=
  if queue.accepts record then
    { queue with inner :=
      { queue.inner with
        bytes := queue.inner.bytes + record.bytes.length
        records := queue.inner.records ++ [record] } }
  else
    { queue with inner := { queue.inner with dropped := queue.inner.dropped + 1 } }

/-- The first status given stays. -/
def close (queue : EventQueue) (status : Int) : EventQueue :=
  { queue with inner := { queue.inner with closed := some (queue.inner.closed.getD status) } }

def dropped (queue : EventQueue) : Nat := queue.inner.dropped

/-- Where the loop over the queued records stands when it leaves: what is still
queued, the byte count, how much of the buffer is written, the records copied,
and whether it left because its first record does not fit an empty buffer. -/
structure Drained where
  records : List Record
  bytes : Int
  written : Nat
  copied : List Record
  tooSmall : Bool

/-- Copy records from the front while they fit into `cap` bytes. -/
def drain (cap : Nat) : Nat → Int → List Record → Drained
  | written, bytes, [] => { records := [], bytes, written, copied := [], tooSmall := false }
  | written, bytes, front :: rest =>
    if written + front.bytes.length > cap then
      -- With nothing written the poll answers an error and the record stays queued.
      { records := front :: rest, bytes, written, copied := [], tooSmall := written == 0 }
    else
      let later := drain cap (written + front.bytes.length) (bytes - front.bytes.length) rest
      { later with copied := front :: later.copied }

/-- What one poll hands out: its answer, the overflow record if one went first,
and the queued records copied after it. -/
structure Polled where
  status : Int
  overflow : Option Record := none
  records : List Record := []

/-- Everything copied into the buffer, in order. -/
def Polled.delivered (polled : Polled) : List Record := polled.overflow.toList ++ polled.records

/-- The bytes written to the front of the caller's buffer. -/
def Polled.buffer (polled : Polled) : Bytes := polled.delivered.flatMap Record.bytes

/-- The record that reports the count of dropped events. -/
def overflowRecord (dropped : Nat) : Record := ((EventBuilder.new .overflow).id dropped).build

/-- The answer of a poll whose loop has left: the error of a buffer its first
record does not fit, the status of a closed queue once nothing is left to hand
out, or the number of bytes written. -/
def Drained.status (drained : Drained) (closed : Option Int) : Int :=
  if drained.tooSmall then errBufferTooSmall
  else
    match drained.written == 0, closed with
    | true, some status => status
    | _, _ => asI32 drained.written

/-- The part of a poll after the overflow record: `written` bytes are in the
buffer already, and `overflow` is the record they hold. -/
def pollRecords (queue : EventQueue) (cap written : Nat) (overflow : Option Record) :
    EventQueue × Polled :=
  let drained := drain cap written queue.inner.bytes queue.inner.records
  ({ queue with inner :=
      { queue.inner with records := drained.records, bytes := drained.bytes } },
    { status := drained.status queue.inner.closed, overflow, records := drained.copied })

/-- One poll with a buffer of `cap` bytes, from its last look at the queue on. -/
def poll (queue : EventQueue) (cap : Nat) : EventQueue × Polled :=
  if queue.inner.records.isEmpty && queue.inner.dropped == 0 && queue.inner.closed.isNone then
    (queue, { status := 0 })
  else if queue.inner.dropped > 0 then
    let overflow := overflowRecord queue.inner.dropped
    if overflow.bytes.length > cap then
      (queue, { status := errBufferTooSmall })
    else
      pollRecords { queue with inner := { queue.inner with dropped := 0 } } cap
        overflow.bytes.length (some overflow)
  else
    pollRecords queue cap 0 none

end EventQueue

end Libp2pFfi
