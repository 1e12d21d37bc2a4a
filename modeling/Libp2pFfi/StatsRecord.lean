import Libp2pFfi.Reader
import Libp2pFfi.Statistics

/-!
# Statistics in a struct of any size

A caller passes an `lp2p_stats` with the size that its header gave it, which may
be older or newer than this module. The node fills as much of it as both know and
touches nothing behind. A field is an unsigned integer in native order, and the
fields follow one another without gaps, so whatever size the caller's struct has,
every field that lies in it is the node's counter.
-/

namespace Libp2pFfi

/-- A field of a struct without gaps: its width in bytes, and its value. -/
structure Field where
  width : Nat
  value : Nat

namespace Field

def bytes (fields : List Field) : Bytes := fields.flatMap fun field => leBytes field.width field.value

/-- How many bytes some fields take. -/
def size (fields : List Field) : Nat := (fields.map Field.width).sum

/-- An unsigned integer in memory. -/
def read (memory : Bytes) (offset width : Nat) : Nat := leNat ((memory.drop offset).take width)

theorem bytes_length (fields : List Field) : (bytes fields).length = size fields := by
  induction fields with
  | nil => rfl
  | cons field rest inductionHypothesis =>
    rw [bytes, List.flatMap_cons, List.length_append, leBytes_length, ← bytes, inductionHypothesis]
    rfl

/-- A field that was copied whole reads as its value. -/
theorem read_copied (before : List Field) (field : Field) (later : List Field) (rest : Bytes)
    {known : Nat} (whole : size before + field.width ≤ known) :
    read ((bytes (before ++ field :: later)).take known ++ rest) (size before) field.width =
      field.value % 256 ^ field.width := by
  have split : bytes (before ++ field :: later) =
      bytes before ++ (leBytes field.width field.value ++ bytes later) := by
    rw [bytes, List.flatMap_append, List.flatMap_cons]
    rfl
  have copied : (bytes (before ++ field :: later)).take known =
      bytes before ++ (leBytes field.width field.value ++
        (bytes later).take (known - size before - field.width)) := by
    rw [split, List.take_append, List.take_append, bytes_length, leBytes_length,
      List.take_of_length_le (by rw [bytes_length]; omega),
      List.take_of_length_le (by rw [leBytes_length]; omega)]
  rw [read, copied, List.append_assoc, List.drop_left' (bytes_length before), List.append_assoc,
    List.take_left' (leBytes_length _ _), leNat_leBytes]

end Field

/-- `lp2p_stats`, as it lies in memory. -/
def statsFields (shared : Shared) (size : Nat) : List Field :=
  [⟨4, size⟩, ⟨4, shared.connections⟩, ⟨4, shared.routingTablePeers⟩,
    ⟨4, shared.topicsSubscribed⟩, ⟨8, shared.rpcIn⟩, ⟨8, shared.rpcOut⟩, ⟨8, shared.rpcLimited⟩,
    ⟨8, shared.events.dropped⟩, ⟨8, shared.topicIn⟩, ⟨8, shared.topicOut⟩,
    ⟨8, shared.topicBytesIn⟩, ⟨8, shared.topicBytesOut⟩, ⟨8, shared.topicLimited⟩]

/-- `size_of::<lp2p_stats>()`. -/
def statsBytes : Nat := 88

/-- What becomes of the caller's memory, which starts with the size of its struct. -/
def lp2pStatsGet (shared : Shared) (memory : Bytes) : Int × Bytes :=
  let size := Field.read memory 0 4
  if size < 4 then (errInvalidArgument, memory)
  else
    let known := min size statsBytes
    (statusOk, (Field.bytes (statsFields shared size)).take known ++ memory.drop known)

theorem statsFields_size (shared : Shared) (size : Nat) :
    Field.size (statsFields shared size) = statsBytes := rfl

section

variable {shared : Shared} {memory : Bytes} (sized : 4 ≤ Field.read memory 0 4)

include sized

/-- Every field that lies in the caller's struct is the node's. -/
theorem read_statsGet (before : List Field) {field : Field} {later : List Field}
    (fields : statsFields shared (Field.read memory 0 4) = before ++ field :: later)
    (inside : Field.size before + field.width ≤ Field.read memory 0 4) :
    Field.read (lp2pStatsGet shared memory).2 (Field.size before) field.width =
      field.value % 256 ^ field.width := by
  have whole : Field.size before + field.width ≤ statsBytes := by
    rw [← statsFields_size shared (Field.read memory 0 4), fields]
    simp only [Field.size, List.map_append, List.map_cons, List.sum_append, List.sum_cons]
    omega
  rw [lp2pStatsGet, if_neg (not_lt.mpr sized), fields]
  exact Field.read_copied before field later _ (le_min inside whole)

/-- Nothing is written behind the caller's struct, or behind the node's. -/
theorem drop_statsGet (readable : Field.read memory 0 4 ≤ memory.length) :
    (lp2pStatsGet shared memory).1 = statusOk ∧
      (lp2pStatsGet shared memory).2.length = memory.length ∧
      (lp2pStatsGet shared memory).2.drop (min (Field.read memory 0 4) statsBytes) =
        memory.drop (min (Field.read memory 0 4) statsBytes) := by
  have length : (Field.bytes (statsFields shared (Field.read memory 0 4))).length = statsBytes :=
    (Field.bytes_length _).trans (statsFields_size _ _)
  have copied : ((Field.bytes (statsFields shared (Field.read memory 0 4))).take
      (min (Field.read memory 0 4) statsBytes)).length = min (Field.read memory 0 4) statsBytes := by
    rw [List.length_take, length]
    omega
  rw [lp2pStatsGet, if_neg (not_lt.mpr sized)]
  refine ⟨rfl, ?_, List.drop_left' copied⟩
  rw [List.length_append, copied, List.length_drop]
  omega

end

/-- Whatever size the caller's struct has, after any run the caller reads the node's
counters in it, as far as they fit: the requests and topic messages that were
reported, the calls that were sent. What lies behind the struct stays as it was, and
without room for a size nothing is written. -/
theorem System.stats_read {crates : Crates} {config : Config} {localPeer : PeerId} {now : Instant}
    {actions : List Action} (run : Run crates config localPeer now actions) (memory : Bytes)
    (readable : Field.read memory 0 4 ≤ memory.length) :
    let state := (after config localPeer now actions).state
    let size := Field.read memory 0 4
    let answer := lp2pStatsGet state.shared memory
    (size < 4 → answer = (errInvalidArgument, memory)) ∧
      (4 ≤ size →
        answer.1 = statusOk ∧ answer.2.length = memory.length ∧
          answer.2.drop (min size statsBytes) = memory.drop (min size statsBytes) ∧
          (∀ before field later, statsFields state.shared size = before ++ field :: later →
            Field.size before + field.width ≤ size →
              Field.read answer.2 (Field.size before) field.width =
                field.value % 256 ^ field.width) ∧
          (24 ≤ size → Field.read answer.2 16 8 = eventsOf .rpcRequest state.log % 2 ^ 64) ∧
          (32 ≤ size →
            Field.read answer.2 24 8 = (requestNumbers state.log).length % 2 ^ 64) ∧
          (56 ≤ size → Field.read answer.2 48 8 = eventsOf .topicMessage state.log % 2 ^ 64) ∧
          (72 ≤ size → Field.read answer.2 64 8 = wireBytesOf state.log % 2 ^ 64)) := by
  intro state size answer
  have accurate := accurate_after run
  have vetted : Vetted crates localPeer (start config localPeer now).state.settings
      (after config localPeer now actions) :=
    run.invariant (vetted_start crates config localPeer now)
      fun system action vetted enabled => vetted_step action vetted enabled
  have sent : state.shared.rpcOut = (requestNumbers state.log).length := by
    rw [vetted.sourced.numbered, List.length_range]
    exact accurate.rpcOut
  refine ⟨fun small => if_pos small, fun sized => ?_⟩
  obtain ⟨ok, length, behind⟩ := @drop_statsGet state.shared memory sized readable
  refine ⟨ok, length, behind, fun before field later fields inside =>
    read_statsGet sized before fields inside, ?_, ?_, ?_, ?_⟩
  · intro inside
    rw [← accurate.rpcIn]
    exact read_statsGet sized ((statsFields state.shared size).take 4) rfl inside
  · intro inside
    rw [← sent]
    exact read_statsGet sized ((statsFields state.shared size).take 5) rfl inside
  · intro inside
    rw [← accurate.topicIn]
    exact read_statsGet sized ((statsFields state.shared size).take 8) rfl inside
  · intro inside
    rw [← accurate.topicBytesIn]
    exact read_statsGet sized ((statsFields state.shared size).take 10) rfl inside

/-- A struct of an older header, which ends behind `rpc_in`, and what lies behind
it. -/
def Sample.olderStats : Bytes := leBytes 4 24 ++ List.replicate 20 0 ++ [255, 255]

/-- One request was reported. -/
theorem System.stats_read_older :
    Field.read (lp2pStatsGet (System.after Sample.config Sample.peer 0
      Sample.answeredRequest).state.shared Sample.olderStats).2 16 8 = 1 := by
  obtain ⟨-, sized⟩ := System.stats_read Sample.answeredRequest_run Sample.olderStats
    (by decide +kernel)
  obtain ⟨-, -, -, -, requests, -⟩ := sized (by decide +kernel)
  rw [requests (by decide +kernel)]
  decide +kernel

end Libp2pFfi
