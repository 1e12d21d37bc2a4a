import Libp2pFfi.Lengths
import Libp2pFfi.Memory
import Libp2pFfi.Rotation

/-!
# Routing samples

The routing table is handed out a few entries at a time. A sample starts one entry
further than the sample before it, and goes on at the front where the table ends: the
table is a circle, and a sample is a window on it. Only a sample moves the start of the
next one, so it does not matter what the node does in between. Where the table has
shrunk, the start may lie behind its end and is taken around the circle.
-/

namespace Libp2pFfi

open Fitting Rotation

/-- A routing sample: how many entries were asked for, and the records handed out. -/
structure RoutingSample where
  env : Env
  max : Nat
  records : List Record

/-- The routing samples among these actions. -/
def System.samples : System → List Action → List RoutingSample
  | _, [] => []
  | system, action :: later =>
    let rest := samples (system.step action) later
    match action with
    | .handle env (.command (.routingSample max)) =>
      ⟨env, max, (system.state.routingSample env max).2⟩ :: rest
    | _ => rest

/-- The record of the entry at a place of the table. -/
def recordAt (crates : Crates) (entries : List (PeerId × List Multiaddr)) (place : Nat) :
    Option Record :=
  entries[place]?.map fun entry => discovered crates 0 entry.1 entry.2

/-- The entries of the sample are those at these places of the table. There are as many
as were asked for, or all; none is there twice, and each is the next one around the table. -/
structure RoutingSample.Shows (entries : List (PeerId × List Multiaddr)) (sample : RoutingSample)
    (places : List Nat) : Prop where
  records : sample.records.map some = places.map (recordAt sample.env.crates entries)
  count : places.length = min sample.max entries.length
  distinct : places.Nodup
  consecutive : places.IsChain fun earlier later => later = (earlier + 1) % entries.length

namespace State

theorem routingSample_rotate {env : Env} (present : env.routingTable ≠ []) (state : State)
    (max : Nat) :
    state.routingSample env max =
      ({ state with sampleOffset := (state.sampleOffset + 1) % env.routingTable.length },
        ((env.routingTable.rotate (state.sampleOffset + 1)).take
          (min max env.routingTable.length)).map fun entry =>
            discovered env.crates 0 entry.1 entry.2) := by
  unfold routingSample
  dsimp only
  rw [if_neg (by simpa using present), List.rotate_eq_drop_append_take_mod]

/-- A sample is a window from one place behind the start of the last one. -/
theorem shows_routingSample {env : Env} (present : env.routingTable ≠ []) (state : State)
    (max : Nat) :
    RoutingSample.Shows env.routingTable ⟨env, max, (state.routingSample env max).2⟩
      (window env.routingTable.length (state.sampleOffset + 1)
        (min max env.routingTable.length)) := by
  have fits : min max env.routingTable.length ≤ env.routingTable.length := Nat.min_le_right _ _
  constructor
  · have turned := map_some_take_rotate fits (state.sampleOffset + 1)
    have recorded := congrArg
      (List.map (Option.map fun entry => discovered env.crates 0 entry.1 entry.2)) turned
    rw [List.map_map, List.map_map] at recorded
    rw [routingSample_rotate present]
    dsimp only
    rw [List.map_map]
    exact recorded
  · exact length_window _ _ _
  · exact nodup_window fits
  · exact isChain_window _ _ _

end State

namespace System

theorem samples_of_other (system : System) {action : Action}
    (other : ∀ env max, action ≠ .handle env (.command (.routingSample max)))
    (later : List Action) :
    system.samples (action :: later) = (system.step action).samples later := by
  rw [samples]
  exact other

/-- However many samples are taken and whatever happens in between, each is a window one
place further than the one before. -/
theorem shows_samples {entries : List (PeerId × List Multiaddr)} (present : entries ≠ [])
    (system : System) {actions : List Action}
    (unchanged : ∀ sample ∈ system.samples actions, sample.env.routingTable = entries) :
    List.Forall₂ (RoutingSample.Shows entries) (system.samples actions)
      (windows entries.length (system.state.sampleOffset + 1)
        ((system.samples actions).map fun sample => min sample.max entries.length)) := by
  induction actions generalizing system with
  | nil => exact .nil
  | cons action later inductionHypothesis =>
    by_cases samples : ∃ env max, action = .handle env (.command (.routingSample max))
    · obtain ⟨env, max, rfl⟩ := samples
      have table : env.routingTable = entries := unchanged _ List.mem_cons_self
      subst table
      have rest := inductionHypothesis _ fun sample member =>
        unchanged sample (List.mem_cons_of_mem _ member)
      have moved : (system.step (.handle env (.command (.routingSample max)))).state.sampleOffset =
          (system.state.sampleOffset + 1) % env.routingTable.length :=
        congrArg (fun sampled => sampled.1.sampleOffset)
          (State.routingSample_rotate present (system.state.heard env.nowMs _) max)
      rw [moved, ← windows_mod, Nat.mod_add_mod, windows_mod] at rest
      exact .cons (State.shows_routingSample present system.state max) rest
    · have other : ∀ env max, action ≠ .handle env (.command (.routingSample max)) :=
        fun env max same => samples ⟨env, max, same⟩
      rw [samples_of_other system other] at unchanged ⊢
      rw [← sampleOffset_step system action other]
      exact inductionHypothesis _ unchanged

end System

/-- What is copied of a sample is the longest part from its front that fits. -/
theorem longest_lp2pRoutingSample (cap : Nat) (records : List Record) :
    Longest Record.length cap records (lp2pRoutingSample cap records).2 := by
  rw [lp2pRoutingSample, copySample_fill (Nat.zero_le cap), Nat.sub_zero]
  exact fill_longest cap records

/-- Samples go around a table: with a sample for each entry, every entry is the first of
one of them, unless one was asked for nothing, and if all were asked for the same number,
every entry is in that many of them, or in all. -/
structure Around (entries : List (PeerId × List Multiaddr)) (samples : List RoutingSample)
    (places : List (List Nat)) : Prop where
  shows : List.Forall₂ (RoutingSample.Shows entries) samples places
  first : samples.length = entries.length → (∀ sample ∈ samples, 0 < sample.max) →
    ∀ place < entries.length, ∃! call : Nat, places[call]?.bind List.head? = some place
  often : samples.length = entries.length → ∀ max, (∀ sample ∈ samples, sample.max = max) →
    ∀ place < entries.length, places.countP (place ∈ ·) = min max entries.length

/-- From any state on, the samples of a table that stays the same go around it, and the
longest part of each that fits the caller's buffer is copied there. -/
theorem samples_go_around {entries : List (PeerId × List Multiaddr)} (present : entries ≠ [])
    (system : System) {actions : List Action}
    (unchanged : ∀ sample ∈ system.samples actions, sample.env.routingTable = entries) :
    (∃ places, Around entries (system.samples actions) places) ∧
      ∀ sample ∈ system.samples actions, ∀ cap,
        Longest Record.length cap sample.records (lp2pRoutingSample cap sample.records).2 := by
  refine ⟨⟨_, System.shows_samples present system unchanged, ?_, ?_⟩,
    fun sample _ cap => longest_lp2pRoutingSample cap sample.records⟩
  · intro around asked place inside
    refine first_once ((List.length_map _).trans around) ?_ _ inside
    intro count member
    obtain ⟨sample, isSample, rfl⟩ := List.mem_map.mp member
    exact Nat.lt_min.mpr ⟨asked sample isSample, List.length_pos_of_ne_nil present⟩
  · intro around max same place inside
    have counts : ((system.samples actions).map fun sample => min sample.max entries.length) =
        List.replicate entries.length (min max entries.length) := by
      refine List.eq_replicate_iff.mpr ⟨(List.length_map _).trans around, ?_⟩
      intro count member
      obtain ⟨sample, isSample, rfl⟩ := List.mem_map.mp member
      rw [same sample isSample]
    rw [counts]
    exact countP_windows (Nat.min_le_right _ _) _ inside

/-- Two peers are in the routing table. -/
def Sample.tableEnv : Env :=
  { Sample.env with routingTable := [(Sample.peer, []), (Sample.remotePeer, [])] }

/-- The last sample was of a larger table. -/
def Sample.shrunk : System where
  state := { State.new Sample.config Sample.peer 0 with sampleOffset := 6 }
  started := true

def Sample.twoSamples : List Action :=
  [.handle Sample.tableEnv (.command (.routingSample 1)), .handle Sample.tableEnv .tick,
    .handle Sample.tableEnv (.command (.routingSample 1))]

theorem samples_go_around_shrunk :
    (Sample.shrunk.samples Sample.twoSamples).map RoutingSample.records =
        [[discovered Sample.crates 0 Sample.remotePeer []],
          [discovered Sample.crates 0 Sample.peer []]] ∧
      ∃ places,
        Around Sample.tableEnv.routingTable (Sample.shrunk.samples Sample.twoSamples) places := by
  refine ⟨by decide +kernel, (samples_go_around (by decide) Sample.shrunk ?_).1⟩
  intro sample member
  simp only [Sample.twoSamples, System.samples, List.mem_cons, List.not_mem_nil, or_false] at member
  rcases member with rfl | rfl
  · rfl
  · rfl

/-- Samples of nothing. -/
def Sample.emptySamples : List Action :=
  List.replicate 2 (.handle Sample.tableEnv (.command (.routingSample 0)))

/-- Where samples are asked for nothing, no entry is the first of one. -/
theorem none_first_of_empty :
    let samples := Sample.shrunk.samples Sample.emptySamples
    samples.length = Sample.tableEnv.routingTable.length ∧
      (∀ sample ∈ samples, sample.env.routingTable = Sample.tableEnv.routingTable) ∧
      ¬∃ places, List.Forall₂ (RoutingSample.Shows Sample.tableEnv.routingTable) samples places ∧
        ∀ place < Sample.tableEnv.routingTable.length,
          ∃! call : Nat, places[call]?.bind List.head? = some place := by
  refine ⟨rfl, ?_, ?_⟩
  · intro sample member
    simp only [Sample.emptySamples, List.replicate, System.samples, List.mem_cons,
      List.not_mem_nil, or_false] at member
    rcases member with rfl | rfl
    · rfl
    · rfl
  · rintro ⟨places, shows, first⟩
    obtain ⟨one, rest, oneShows, restShows, rfl⟩ := List.forall₂_cons_left_iff.mp shows
    obtain ⟨other, last, otherShows, lastShows, rfl⟩ := List.forall₂_cons_left_iff.mp restShows
    obtain rfl := List.forall₂_nil_left_iff.mp lastShows
    obtain rfl := List.eq_nil_of_length_eq_zero oneShows.count
    obtain rfl := List.eq_nil_of_length_eq_zero otherShows.count
    obtain ⟨call, isFirst, -⟩ := first 0 (by decide)
    rcases call with _ | _ | call
    · cases isFirst
    · cases isFirst
    · cases isFirst

end Libp2pFfi
