import Libp2pFfi.QueueRuns

/-!
# Reading polled records back

The reader is the one of the tests: it takes a header from the buffer, as many
bytes of data as the header says, and goes on where the header's size says the
next record starts, as long as another header fits. It can go wrong in two ways,
which are one answer here: data that would lie past the end of the buffer, and a
size that never moves it on.

Fields have the widths of `lp2p_event`. A number of the model is read back as
the machine number it was narrowed to.
-/

namespace Libp2pFfi

/-- `lp2p_event` as it lies in a buffer. -/
structure RawEvent where
  kind : UInt16
  flags : UInt16
  size : UInt32
  id : UInt64
  group : Key
  node : Key
  protocol : UInt16
  reason : UInt16
  dataLen : UInt32
deriving DecidableEq

/-- What the reader makes of one record. -/
structure ReadEvent where
  header : RawEvent
  data : Bytes
deriving DecidableEq

/-- A record together with the place where the reader found it. -/
structure Found where
  offset : Nat
  event : ReadEvent
deriving DecidableEq

/-! Reading a header. -/

/-- The number of bytes in native order. -/
def leNat : Bytes → Nat
  | [] => 0
  | byte :: rest => byte.toNat + 256 * leNat rest

/-- The next field of a struct, and what lies behind it. -/
def readField (width : Nat) (bytes : Bytes) : Option (Bytes × Bytes) :=
  if bytes.length < width then none else some (bytes.take width, bytes.drop width)

def readKey (bytes : Bytes) : Option (Key × Bytes) :=
  if long : 32 ≤ bytes.length then
    some (⟨bytes.take 32, List.length_take_of_le long⟩, bytes.drop 32)
  else none

/-- `read_unaligned` of an `lp2p_event`: its fields in order, without gaps. -/
def readHeader (bytes : Bytes) : Option RawEvent := do
  let (kind, bytes) ← readField 2 bytes
  let (flags, bytes) ← readField 2 bytes
  let (size, bytes) ← readField 4 bytes
  let (id, bytes) ← readField 8 bytes
  let (group, bytes) ← readKey bytes
  let (node, bytes) ← readKey bytes
  let (protocol, bytes) ← readField 2 bytes
  let (reason, bytes) ← readField 2 bytes
  let (dataLen, _) ← readField 4 bytes
  some
    { kind := .ofNat (leNat kind)
      flags := .ofNat (leNat flags)
      size := .ofNat (leNat size)
      id := .ofNat (leNat id)
      group
      node
      protocol := .ofNat (leNat protocol)
      reason := .ofNat (leNat reason)
      dataLen := .ofNat (leNat dataLen) }

/-- The loop of `parse`, with the offset it has reached. -/
def parseFrom (buf : Bytes) : Nat → Nat → Option (List Found × Nat)
  | 0, _ => none
  | fuel + 1, offset =>
    if offset + eventHeaderBytes ≤ buf.length then do
      let header ← readHeader (buf.drop offset)
      let start := offset + eventHeaderBytes
      if start + header.dataLen.toNat ≤ buf.length then
        let data := (buf.drop start).take header.dataLen.toNat
        let (later, stop) ← parseFrom buf fuel (offset + header.size.toNat)
        some ({ offset, event := { header, data } } :: later, stop)
      else none
    else some ([], offset)

/-- The records of a buffer with their offsets, and where the reader stopped. A
reader that moves on has left the buffer after as many steps as it has bytes. -/
def parse (buf : Bytes) : Option (List Found × Nat) := parseFrom buf (buf.length + 1) 0

theorem leNat_leBytes (width value : Nat) : leNat (leBytes width value) = value % 256 ^ width := by
  induction width generalizing value with
  | zero =>
    rw [Nat.pow_zero, Nat.mod_one]
    rfl
  | succ width inductionHypothesis =>
    have low : (UInt8.ofNat value).toNat = value % 256 := UInt8.toNat_ofNat'
    rw [leBytes, leNat, inductionHypothesis, low, Nat.pow_succ, Nat.mul_comm (256 ^ width),
      Nat.mod_mul]

theorem readField_append {field : Bytes} {width : Nat} (length : field.length = width)
    (rest : Bytes) : readField width (field ++ rest) = some (field, rest) := by
  have long : ¬ (field ++ rest).length < width := by
    rw [List.length_append]
    omega
  rw [readField, if_neg long, List.take_left' length, List.drop_left' length]

theorem readKey_append (key : Key) (rest : Bytes) :
    readKey (key.toList ++ rest) = some (key, rest) := by
  have length : key.toList.length = 32 := key.toList_length
  have long : 32 ≤ (key.toList ++ rest).length := by
    rw [List.length_append]
    omega
  rw [readKey, dif_pos long, List.drop_left' length]
  congr 2
  exact Subtype.ext (List.take_left' length)

/-- The header as the reader sees it. -/
def Event.raw (header : Event) : RawEvent where
  kind := .ofNat header.kind.code
  flags := .ofNat header.flags
  size := .ofNat header.size
  id := .ofNat header.id
  group := header.group
  node := header.node
  protocol := .ofNat header.protocol
  reason := .ofNat header.reason
  dataLen := .ofNat header.dataLen

theorem readHeader_bytes (header : Event) (rest : Bytes) :
    readHeader (header.bytes ++ rest) = some header.raw := by
  have field (width value : Nat) (after : Bytes) :
      readField width (leBytes width value ++ after) = some (leBytes width value, after) :=
    readField_append (leBytes_length width value) after
  simp only [readHeader, Event.bytes, List.append_assoc, field, readKey_append, leNat_leBytes,
    Option.bind_eq_bind, Option.bind_some, Event.raw]
  have u16 (value : Nat) : UInt16.ofNat (value % 256 ^ 2) = UInt16.ofNat value :=
    UInt16.ofNat_mod_size
  have u32 (value : Nat) : UInt32.ofNat (value % 256 ^ 4) = UInt32.ofNat value :=
    UInt32.ofNat_mod_size
  have u64 (value : Nat) : UInt64.ofNat (value % 256 ^ 8) = UInt64.ofNat value :=
    UInt64.ofNat_mod_size
  simp only [u16, u32, u64]

/-! Walking over the records. -/

/-- The record as the reader sees it. -/
def Record.read (record : Record) : ReadEvent := { header := record.header.raw, data := record.data }

/-- The header's lengths are those of the record, and a size that is read is the
size that was meant. -/
structure Record.Sized (record : Record) : Prop where
  size : record.header.size = paddedSize record.data.length
  dataLen : record.header.dataLen = record.data.length
  small : paddedSize record.data.length < 2 ^ 31

/-- Where records that follow each other start. -/
def placed : Nat → List Record → List Found
  | _, [] => []
  | offset, record :: rest =>
    { offset, event := record.read } :: placed (offset + record.bytes.length) rest

theorem data_le_paddedSize (length : Nat) : eventHeaderBytes + length ≤ paddedSize length := by
  unfold paddedSize
  omega

theorem Record.Sized.rawSize {record : Record} (sized : record.Sized) :
    record.header.raw.size.toNat = record.bytes.length := by
  have narrow : record.header.raw.size.toNat = record.header.size % 2 ^ 32 := UInt32.toNat_ofNat'
  have small := sized.small
  rw [narrow, sized.size, record.bytes_length]
  omega

theorem Record.Sized.rawDataLen {record : Record} (sized : record.Sized) :
    record.header.raw.dataLen.toNat = record.data.length := by
  have narrow : record.header.raw.dataLen.toNat = record.header.dataLen % 2 ^ 32 :=
    UInt32.toNat_ofNat'
  have padded := data_le_paddedSize record.data.length
  have small := sized.small
  rw [narrow, sized.dataLen]
  omega

/-- Behind a header lie the data, the zeros and the next record. -/
theorem drop_header (record : Record) (before later : Bytes) :
    (before ++ (record.bytes ++ later)).drop (before.length + eventHeaderBytes) =
      record.data ++ (List.replicate
        (paddedSize record.data.length - (eventHeaderBytes + record.data.length)) 0 ++ later) := by
  rw [← List.drop_drop, List.drop_left, Record.bytes, List.append_assoc, List.append_assoc]
  exact List.drop_left' record.header.bytes_length

/-- One turn of the loop. -/
theorem parseFrom_record {record : Record} (sized : record.Sized) (before later : Bytes) (fuel : Nat) :
    parseFrom (before ++ (record.bytes ++ later)) (fuel + 1) before.length =
      (parseFrom (before ++ (record.bytes ++ later)) fuel (before.length + record.bytes.length)).map
        fun rest => ({ offset := before.length, event := record.read } :: rest.1, rest.2) := by
  have padded := data_le_paddedSize record.data.length
  have length := record.bytes_length
  have fits : before.length + eventHeaderBytes ≤ (before ++ (record.bytes ++ later)).length := by
    simp only [List.length_append]
    omega
  have dataFits : before.length + eventHeaderBytes + record.data.length ≤
      (before ++ (record.bytes ++ later)).length := by
    simp only [List.length_append]
    omega
  have header : readHeader ((before ++ (record.bytes ++ later)).drop before.length) =
      some record.header.raw := by
    rw [List.drop_left, Record.bytes, List.append_assoc, List.append_assoc]
    exact readHeader_bytes _ _
  have data : ((before ++ (record.bytes ++ later)).drop (before.length + eventHeaderBytes)).take
      record.data.length = record.data := by
    rw [drop_header, List.take_left]
  rw [parseFrom, if_pos fits, header]
  simp only [Option.bind_eq_bind, Option.bind_some, sized.rawSize, sized.rawDataLen,
    if_pos dataFits, data]
  cases parseFrom (before ++ (record.bytes ++ later)) fuel (before.length + record.bytes.length) with
  | none => rfl
  | some rest => rfl

/-- The reader finds every record at its place and stops at the end. -/
theorem parseFrom_records {records : List Record} (sized : ∀ record ∈ records, record.Sized)
    (before : Bytes) {fuel : Nat} (enough : records.length < fuel) :
    parseFrom (before ++ records.flatMap Record.bytes) fuel before.length =
      some (placed before.length records, (before ++ records.flatMap Record.bytes).length) := by
  induction records generalizing before fuel with
  | nil =>
    obtain ⟨fuel, rfl⟩ : ∃ less, fuel = less + 1 := ⟨fuel - 1, by simp at enough; omega⟩
    simp [parseFrom, placed, eventHeaderBytes]
  | cons record rest inductionHypothesis =>
    obtain ⟨fuel, rfl⟩ : ∃ less, fuel = less + 1 := ⟨fuel - 1, by simp at enough; omega⟩
    have more := inductionHypothesis (fun other member => sized other (List.mem_cons_of_mem _ member))
      (before ++ record.bytes) (Nat.lt_of_succ_lt_succ enough)
    rw [List.append_assoc, List.length_append] at more
    rw [List.flatMap_cons, parseFrom_record (sized record List.mem_cons_self), more]
    rfl

/-- A buffer of whole records is read to its end. -/
theorem parse_records {records : List Record} (sized : ∀ record ∈ records, record.Sized) :
    parse (records.flatMap Record.bytes) =
      some (placed 0 records, (records.flatMap Record.bytes).length) := by
  have enough : records.length < (records.flatMap Record.bytes).length + 1 := by
    induction records with
    | nil => simp
    | cons record rest inductionHypothesis =>
      have rest := inductionHypothesis fun other member => sized other (List.mem_cons_of_mem _ member)
      have positive := record.bytes_length_pos
      rw [List.flatMap_cons, List.length_append, List.length_cons]
      omega
  exact parseFrom_records sized [] enough

theorem events_placed (offset : Nat) (records : List Record) :
    (placed offset records).map Found.event = records.map Record.read := by
  induction records generalizing offset with
  | nil => rfl
  | cons record rest inductionHypothesis =>
    rw [placed, List.map_cons, List.map_cons, inductionHypothesis]

/-- The bytes behind a record's data, up to where the next record starts. -/
def Found.padding (buf : Bytes) (found : Found) : Bytes :=
  (buf.drop (found.offset + eventHeaderBytes + found.event.header.dataLen.toNat)).take
    (found.event.header.size.toNat - (eventHeaderBytes + found.event.header.dataLen.toNat))

/-- A record starts at a multiple of eight and is filled up with zeros. -/
structure Found.Aligned (buf : Bytes) (found : Found) : Prop where
  offset : found.offset % 8 = 0
  padding : ∀ byte ∈ found.padding buf, byte = 0

theorem aligned_record {record : Record} (sized : record.Sized) (before later : Bytes)
    (multiple : before.length % 8 = 0) :
    Found.Aligned (before ++ (record.bytes ++ later))
      { offset := before.length, event := record.read } := by
  have padding : Found.padding (before ++ (record.bytes ++ later))
      { offset := before.length, event := record.read } = List.replicate
        (paddedSize record.data.length - (eventHeaderBytes + record.data.length)) 0 := by
    have size : record.read.header.size.toNat = record.bytes.length := sized.rawSize
    have dataLen : record.read.header.dataLen.toNat = record.data.length := sized.rawDataLen
    rw [Found.padding, size, dataLen, ← List.drop_drop, drop_header, List.drop_left,
      record.bytes_length, List.take_left' List.length_replicate]
  refine ⟨multiple, fun byte member => ?_⟩
  rw [padding] at member
  exact List.eq_of_mem_replicate member

theorem aligned_placed {records : List Record} (sized : ∀ record ∈ records, record.Sized)
    (before : Bytes) (multiple : before.length % 8 = 0) :
    ∀ found ∈ placed before.length records,
      found.Aligned (before ++ records.flatMap Record.bytes) := by
  induction records generalizing before with
  | nil => simp [placed]
  | cons record rest inductionHypothesis =>
    intro found member
    rw [List.flatMap_cons]
    rcases List.mem_cons.mp member with rfl | later
    · exact aligned_record (sized record List.mem_cons_self) before _ multiple
    · have next : (before ++ record.bytes).length % 8 = 0 := by
        rw [List.length_append, record.bytes_length, paddedSize]
        omega
      have more := inductionHypothesis
        (fun other member => sized other (List.mem_cons_of_mem _ member)) (before ++ record.bytes) next
      rw [List.append_assoc, List.length_append] at more
      exact more found later

/-! Events as the node pushes them. -/

/-- What an event is built from. -/
structure Pushed where
  kind : EventKind
  flags : UInt16
  id : UInt64
  group : Key
  node : Key
  protocol : UInt16
  reason : UInt16
  data : Bytes

namespace Pushed

def record (event : Pushed) : Record :=
  (((((((EventBuilder.new event.kind).flags event.flags.toNat).id event.id.toNat).group
    event.group).node event.node).protocol event.protocol.toNat).reason event.reason.toNat).data
    event.data

/-- The event as a reader should see it. -/
def read (event : Pushed) : ReadEvent where
  header :=
    { kind := .ofNat event.kind.code
      flags := event.flags
      size := .ofNat (paddedSize event.data.length)
      id := event.id
      group := event.group
      node := event.node
      protocol := event.protocol
      reason := event.reason
      dataLen := .ofNat event.data.length }
  data := event.data

end Pushed

/-- Every finished record of moderate size has its lengths in its header. -/
theorem sized_data (builder : EventBuilder) {data : Bytes} (small : paddedSize data.length < 2 ^ 31) :
    (builder.data data).Sized := by
  have padded := data_le_paddedSize data.length
  refine ⟨?_, ?_, small⟩
  · exact Nat.mod_eq_of_lt (by omega)
  · exact Nat.mod_eq_of_lt (by omega)

theorem read_record {event : Pushed} (small : paddedSize event.data.length < 2 ^ 31) :
    event.record.read = event.read := by
  have size : event.record.header.size = paddedSize event.data.length :=
    (sized_data _ small).size
  have dataLen : event.record.header.dataLen = event.data.length := (sized_data _ small).dataLen
  simp only [Record.read, Event.raw, size, dataLen, Pushed.read]
  simp [Pushed.record, EventBuilder.data, EventBuilder.flags, EventBuilder.id, EventBuilder.group,
    EventBuilder.node, EventBuilder.protocol, EventBuilder.reason, EventBuilder.new]

/-- An event that carries some data. -/
def Sample.pushed (data : Bytes) : Pushed where
  kind := .announcement
  flags := 0
  id := 7
  group := Key.filled 1
  node := Key.filled 2
  protocol := 3
  reason := 4
  data

namespace QueueRuns

open EventQueue

/-! What a poll reports as written. -/

/-- The loop counts what it copies, within the buffer. -/
theorem drain_written (cap written : Nat) (bytes : Int) (records : List Record) :
    (drain cap written bytes records).written =
        written + ((drain cap written bytes records).copied.flatMap Record.bytes).length ∧
      (written ≤ cap → (drain cap written bytes records).written ≤ cap) ∧
      ((drain cap written bytes records).tooSmall = true →
        (drain cap written bytes records).written = 0) := by
  induction records generalizing written bytes with
  | nil => simp [drain]
  | cons front rest inductionHypothesis =>
    by_cases full : written + front.bytes.length > cap
    · simp [drain, full]
    · obtain ⟨counted, within, small⟩ :=
        inductionHypothesis (written + front.bytes.length) (bytes - front.bytes.length)
      simp only [drain, full, if_false, List.flatMap_cons, List.length_append]
      exact ⟨by omega, fun _ => within (by omega), small⟩

/-- An answer that is no error is the number of bytes written. -/
theorem status_eq_written {drained : Drained} {closed : Option Int}
    (small : drained.written < 2 ^ 31) (negative : ∀ status, closed = some status → status < 0)
    (reports : 0 ≤ drained.status closed) : drained.status closed = drained.written := by
  have exact : asI32 drained.written = drained.written := asI32_of_le (by omega)
  unfold Drained.status at reports ⊢
  by_cases tooSmall : drained.tooSmall = true
  · rw [if_pos tooSmall] at reports
    exact absurd reports (by decide)
  · rw [if_neg tooSmall] at reports ⊢
    cases nothing : drained.written == 0 with
    | false => exact exact
    | true =>
      cases closed with
      | none => exact exact
      | some status =>
        rw [nothing] at reports
        exact absurd (negative status rfl) (not_lt.mpr reports)

/-- A poll that answers no error has written as many bytes as it says. -/
theorem poll_reports (queue : EventQueue) {cap : Nat} (small : cap < 2 ^ 31)
    (negative : ∀ status, queue.inner.closed = some status → status < 0)
    (reports : 0 ≤ (queue.poll cap).2.status) :
    (queue.poll cap).2.status = (queue.poll cap).2.buffer.length := by
  unfold poll at reports ⊢
  split at reports
  · rename_i idle
    rw [if_pos idle]
    rfl
  · rename_i busy
    rw [if_neg busy]
    split at reports
    · rename_i missing
      rw [if_pos missing]
      dsimp only at reports ⊢
      split at reports
      · exact absurd reports (show ¬ (0 ≤ errBufferTooSmall) by decide)
      · rename_i fits
        rw [if_neg fits]
        obtain ⟨counted, within, -⟩ := drain_written cap
          (overflowRecord queue.inner.dropped).bytes.length queue.inner.bytes queue.inner.records
        have written := status_eq_written ((within (not_lt.mp fits)).trans_lt small) negative reports
        refine written.trans ?_
        rw [counted]
        simp [pollRecords, Polled.buffer, Polled.delivered]
    · rename_i nothing
      rw [if_neg nothing]
      obtain ⟨counted, within, -⟩ := drain_written cap 0 queue.inner.bytes queue.inner.records
      have written := status_eq_written ((within (Nat.zero_le cap)).trans_lt small) negative reports
      refine written.trans ?_
      rw [counted]
      simp [pollRecords, Polled.buffer, Polled.delivered]

/-! Over a whole run. -/

theorem run_concat (maxBytes : Nat) (ops : List Op) (op : Op) :
    History.run maxBytes (ops ++ [op]) = (History.run maxBytes ops).step op :=
  List.foldl_append

/-- What holds of every record that is pushed holds of every record accepted. -/
theorem accepted_pushed {maxBytes : Nat} {ops : List Op} {Holds : Record → Prop}
    (pushes : ∀ record, .push record ∈ ops → Holds record) :
    ∀ record ∈ (History.run maxBytes ops).accepted, Holds record := by
  induction ops using List.reverseRecOn with
  | nil => simp [History.run]
  | append_singleton ops op inductionHypothesis =>
    have earlier := inductionHypothesis fun record member =>
      pushes record (List.mem_append_left _ member)
    rw [run_concat]
    cases op with
    | push pushed =>
      intro record member
      rcases List.mem_append.mp member with old | isNew
      · exact earlier record old
      · split at isNew
        · rw [List.mem_singleton.mp isNew]
          exact pushes pushed (List.mem_append_right _ List.mem_cons_self)
        · cases isNew
    | close status => exact earlier
    | poll cap => exact earlier

/-- A poll does not open or close the queue. -/
theorem poll_closed (queue : EventQueue) (cap : Nat) :
    (queue.poll cap).1.inner.closed = queue.inner.closed := by
  unfold poll
  split
  · rfl
  · split
    · dsimp only
      split <;> rfl
    · rfl

theorem push_closed (queue : EventQueue) (record : Record) :
    (queue.push record).inner.closed = queue.inner.closed := by
  unfold EventQueue.push
  split <;> rfl

/-- The first status a run of calls closes the queue with. -/
def firstClose : List Op → Option Int
  | [] => none
  | .close status :: _ => some status
  | _ :: later => firstClose later

theorem firstClose_mem {ops : List Op} {status : Int} (first : firstClose ops = some status) :
    .close status ∈ ops := by
  induction ops with
  | nil => simp [firstClose] at first
  | cons op later inductionHypothesis =>
    cases op with
    | push record => exact List.mem_cons_of_mem _ (inductionHypothesis first)
    | close given =>
      obtain rfl := Option.some.inj first
      exact List.mem_cons_self
    | poll cap => exact List.mem_cons_of_mem _ (inductionHypothesis first)

/-- A queue is closed with the first status it is given. -/
theorem closed_run (history : History) (ops : List Op) :
    (ops.foldl History.step history).queue.inner.closed =
      history.queue.inner.closed.or (firstClose ops) := by
  induction ops generalizing history with
  | nil => simp [firstClose]
  | cons op later inductionHypothesis =>
    rw [List.foldl_cons, inductionHypothesis]
    cases op with
    | push record => simp [History.step, push_closed, firstClose]
    | close status =>
      cases before : history.queue.inner.closed with
      | none => simp [History.step, EventQueue.close, before, firstClose]
      | some first => simp [History.step, EventQueue.close, before]
    | poll cap => simp [History.step, poll_closed, firstClose]

/-- A queue that is only closed with errors answers no number when it is closed. -/
theorem closed_negative {maxBytes : Nat} {ops : List Op}
    (closes : ∀ status, .close status ∈ ops → status < 0) :
    ∀ status, (History.run maxBytes ops).queue.inner.closed = some status → status < 0 := by
  intro status isClosed
  rw [History.run, closed_run] at isClosed
  exact closes status (firstClose_mem isClosed)

theorem events_of_records {records : List Record}
    (each : ∀ record ∈ records,
      ∃ event : Pushed, paddedSize event.data.length < 2 ^ 31 ∧ record = event.record) :
    ∃ events : List Pushed, records = events.map Pushed.record ∧
      ∀ event ∈ events, paddedSize event.data.length < 2 ^ 31 := by
  induction records with
  | nil => exact ⟨[], rfl, by simp⟩
  | cons record rest inductionHypothesis =>
    obtain ⟨event, small, rfl⟩ := each record List.mem_cons_self
    obtain ⟨events, rfl, others⟩ :=
      inductionHypothesis fun other member => each other (List.mem_cons_of_mem _ member)
    exact ⟨event :: events, rfl, List.forall_mem_cons.mpr ⟨small, others⟩⟩

/-- What a poll hands out, as a reader finds it in the caller's buffer. -/
structure ReadsBack (history : History) (polled : Polled) (events : List Pushed)
    (found : List Found) : Prop where
  /-- The answer is the number of bytes written. -/
  reported : polled.status = polled.buffer.length
  /-- The events are the next of those that were accepted. -/
  next : history.delivered ++ events.map Pushed.record <+: history.accepted
  delivered : polled.records = events.map Pushed.record
  /-- An overflow record tells how many are missing. -/
  missing : ∀ record, polled.overflow = some record → record = overflowRecord history.queue.dropped
  /-- The reader stops where the bytes end. -/
  consumed : parse polled.buffer = some (found, polled.buffer.length)
  same : found.map Found.event =
    polled.overflow.toList.map Record.read ++ events.map Pushed.read
  aligned : ∀ record ∈ found, record.Aligned polled.buffer

/-- The polled bytes parse back to the events, after any run of the queue, for
every bound and every length of the buffer. The queue is closed with errors only,
so that an answer that is not negative counts bytes. -/
theorem polled_bytes_read_back (maxBytes : Nat) {ops : List Op}
    (pushes : ∀ record, .push record ∈ ops →
      ∃ event : Pushed, paddedSize event.data.length < 2 ^ 31 ∧ record = event.record)
    (closes : ∀ status, .close status ∈ ops → status < 0) {cap : Nat} (small : cap < 2 ^ 31)
    (reports : 0 ≤ ((History.run maxBytes ops).queue.poll cap).2.status) :
    ∃ events found, ReadsBack (History.run maxBytes ops)
      ((History.run maxBytes ops).queue.poll cap).2 events found := by
  obtain ⟨-, accepted, -⟩ := conserved_run maxBytes ops
  obtain ⟨split, -, -, overflow⟩ := poll_exact (History.run maxBytes ops).queue cap
  have ahead : (History.run maxBytes ops).delivered ++
      ((History.run maxBytes ops).queue.poll cap).2.records <+:
        (History.run maxBytes ops).accepted := by
    rw [← accepted, ← split, ← List.append_assoc]
    exact List.prefix_append _ _
  obtain ⟨events, delivered, moderate⟩ := events_of_records fun record member =>
    accepted_pushed pushes record (ahead.subset (List.mem_append_right _ member))
  have missing : ∀ record, ((History.run maxBytes ops).queue.poll cap).2.overflow = some record →
      record = overflowRecord (History.run maxBytes ops).queue.dropped := by
    intro record isFirst
    rcases overflow with ⟨none, -⟩ | ⟨some, -⟩
    · cases none.symm.trans isFirst
    · exact Option.some.inj (isFirst.symm.trans some)
  have sized : ∀ record ∈ ((History.run maxBytes ops).queue.poll cap).2.delivered,
      record.Sized := by
    intro record member
    rcases List.mem_append.mp member with first | later
    · rw [missing record (Option.mem_toList.mp first)]
      exact sized_data _ (by decide)
    · rw [delivered] at later
      obtain ⟨event, inEvents, rfl⟩ := List.mem_map.mp later
      exact sized_data _ (moderate event inEvents)
  refine ⟨events, placed 0 ((History.run maxBytes ops).queue.poll cap).2.delivered,
    poll_reports _ small (closed_negative closes) reports, delivered ▸ ahead, delivered, missing,
    parse_records sized, ?_, ?_⟩
  · rw [events_placed, Polled.delivered, List.map_append, delivered, List.map_map]
    congr 1
    exact List.map_congr_left fun event member => read_record (moderate event member)
  · exact aligned_placed sized [] rfl

/-- Two events are pushed. A buffer that holds one of them is given one, and the
reader finds it. -/
theorem polled_bytes_read_back_first :
    ∃ events found, ReadsBack (History.run 1000 [.push (Sample.pushed [1, 2, 3]).record,
        .push (Sample.pushed [4]).record]) ((History.run 1000 [.push (Sample.pushed [1, 2, 3]).record,
        .push (Sample.pushed [4]).record]).queue.poll 100).2 events found ∧
      events.length = 1 := by
  have pushes : ∀ record, .push record ∈ [Op.push (Sample.pushed [1, 2, 3]).record,
      .push (Sample.pushed [4]).record] →
      ∃ event : Pushed, paddedSize event.data.length < 2 ^ 31 ∧ record = event.record := by
    intro record member
    simp only [List.mem_cons, Op.push.injEq, List.not_mem_nil, or_false] at member
    rcases member with rfl | rfl
    · exact ⟨Sample.pushed [1, 2, 3], by decide, rfl⟩
    · exact ⟨Sample.pushed [4], by decide, rfl⟩
  have reports : 0 ≤ ((History.run 1000 [.push (Sample.pushed [1, 2, 3]).record,
      .push (Sample.pushed [4]).record]).queue.poll 100).2.status := by decide +kernel
  obtain ⟨events, found, readsBack⟩ :=
    polled_bytes_read_back 1000 pushes (by simp) (by decide : 100 < 2 ^ 31) reports
  refine ⟨events, found, readsBack, ?_⟩
  have count := congrArg List.length readsBack.delivered
  rw [List.length_map] at count
  rw [← count]
  decide +kernel

end QueueRuns

end Libp2pFfi
