import Libp2pFfi.Arrivals
import Libp2pFfi.Node

/-!
# The order of a call's candidates

A lookup reports the nodes of a group in batches, and some of them more than once. Each
is queued as it is reported: the group's last good node at the front, a node that failed
lately at the end, every other before the first that failed. As long as nothing changes
about who failed and who answered last, what comes of it does not depend on the batches:
the candidates are the nodes reported so far, put in order once.
-/

namespace Libp2pFfi

open Arrivals

/-- A peer is reported, and queued at this time. -/
structure Report where
  now : Instant
  peer : PeerId

/-- Queue what one batch reports. -/
def enqueueBatch (lastSuccess : Table Key PeerId) (failed : Table PeerId Instant) (call : Call)
    (batch : List Report) : Call :=
  batch.foldl (fun call report => enqueue report.now lastSuccess failed call report.peer) call

/-- A step of a call's lookup is a batch without this node itself. -/
theorem State.queueProviders_eq (env : Env) (state : State) (call : Call)
    (providers : List PeerId) :
    state.queueProviders env call providers =
      enqueueBatch state.lastSuccess state.failed call
        ((providers.filter (· ≠ state.localPeer)).map (Report.mk env.now)) := by
  induction providers generalizing call with
  | nil => rfl
  | cons provider rest inductionHypothesis =>
    rw [queueProviders, List.foldl_cons]
    by_cases other : provider ≠ state.localPeer
    · rw [if_pos other, List.filter_cons_of_pos (by simpa using other)]
      exact inductionHypothesis _
    · rw [if_neg other, List.filter_cons_of_neg (by simpa using other)]
      exact inductionHypothesis call

/-- A call to `called` has queued these peers: each once, in the order of their first
reports within each of three parts. -/
structure Call.Queues (lastSuccess : Table Key PeerId) (isPenalized : PeerId → Bool)
    (called : Key) (peers : List PeerId) (call : Call) : Prop where
  group : call.group = called
  candidates : call.candidates = arranged (lastSuccess.lookup called) isPenalized peers
  seen : ∀ peer, peer ∈ call.seen ↔ peer ∈ peers

section

variable {lastSuccess : Table Key PeerId} {failed : Table PeerId Instant}
  {isPenalized : PeerId → Bool} {group : Key} {peers : List PeerId} {call : Call}

/-- A peer is queued once, where the order wants it. -/
theorem Call.Queues.enqueue {now : Instant} (queues : call.Queues lastSuccess isPenalized group peers)
    (same : penalized now failed = isPenalized) (peer : PeerId) :
    (enqueue now lastSuccess failed call peer).Queues lastSuccess isPenalized group
      (peers ++ [peer]) := by
  unfold Libp2pFfi.enqueue
  by_cases again : peer ∈ call.seen
  · have reported := (queues.seen peer).mp again
    rw [if_pos again]
    constructor
    · exact queues.group
    · rw [queues.candidates, arranged_concat_of_mem reported]
    · intro other
      rw [queues.seen, List.mem_append, List.mem_singleton]
      constructor
      · exact .inl
      · rintro (earlier | rfl)
        · exact earlier
        · exact reported
  · have first : peer ∉ peers := fun reported => again ((queues.seen peer).mpr reported)
    rw [if_neg again]
    constructor
    · exact queues.group
    · rw [← place_arranged first, ← queues.candidates, ← same, ← queues.group]
      rfl
    · intro other
      rw [Finset.mem_insert, queues.seen, List.mem_append, List.mem_singleton, or_comm]

theorem Call.Queues.enqueueBatch (queues : call.Queues lastSuccess isPenalized group peers)
    {batch : List Report} (same : ∀ report ∈ batch, penalized report.now failed = isPenalized) :
    (enqueueBatch lastSuccess failed call batch).Queues lastSuccess isPenalized group
      (peers ++ batch.map Report.peer) := by
  induction batch generalizing call peers with
  | nil =>
    rw [List.map_nil, List.append_nil]
    exact queues
  | cons report rest inductionHypothesis =>
    have queued := queues.enqueue (same report List.mem_cons_self) report.peer
    have later := inductionHypothesis queued fun other member =>
      same other (List.mem_cons_of_mem _ member)
    rwa [List.append_assoc] at later

/-- However the reports are split into batches, they are queued as one. -/
theorem Call.Queues.enqueueBatches (queues : call.Queues lastSuccess isPenalized group peers)
    {batches : List (List Report)}
    (same : ∀ batch ∈ batches, ∀ report ∈ batch, penalized report.now failed = isPenalized) :
    (batches.foldl (Libp2pFfi.enqueueBatch lastSuccess failed) call).Queues lastSuccess isPenalized
      group (peers ++ batches.flatten.map Report.peer) := by
  have one : batches.foldl (Libp2pFfi.enqueueBatch lastSuccess failed) call =
      Libp2pFfi.enqueueBatch lastSuccess failed call batches.flatten :=
    List.foldl_flatten.symm
  rw [one]
  apply queues.enqueueBatch
  intro report member
  obtain ⟨batch, given, inside⟩ := List.mem_flatten.mp member
  exact same batch given report inside

/-- The candidates of a call that has queued nothing yet are, after any batches of reports,
the peers reported, each once: the group's last good node if it is not penalised, then the
others that are not, then those that are, in the order in which they were reported first. -/
theorem candidates_in_order (call : Call) (unseen : call.seen = ∅) (empty : call.candidates = [])
    {batches : List (List Report)}
    (same : ∀ batch ∈ batches, ∀ report ∈ batch, penalized report.now failed = isPenalized) :
    let queued := batches.foldl (enqueueBatch lastSuccess failed) call
    let reported := (batches.flatten.map Report.peer).eraseDups
    let lastGood := lastSuccess.lookup call.group
    queued.candidates =
        (reported.filter fun peer => lastGood = some peer ∧ isPenalized peer = false) ++
          ((reported.filter fun peer => lastGood ≠ some peer ∧ isPenalized peer = false) ++
            reported.filter isPenalized) ∧
      queued.candidates.Nodup ∧
      ∀ peer, peer ∈ queued.candidates ↔ ∃ batch ∈ batches, ∃ report ∈ batch, report.peer = peer := by
  intro queued reported lastGood
  have fresh : call.Queues lastSuccess isPenalized call.group [] := by
    refine ⟨rfl, empty, ?_⟩
    simp [unseen]
  have queues := fresh.enqueueBatches same
  rw [List.nil_append] at queues
  have perm : queued.candidates.Perm reported :=
    queues.candidates ▸ arranged_perm lastGood isPenalized (batches.flatten.map Report.peer)
  refine ⟨queues.candidates, perm.nodup_iff.mpr (nodup_eraseDups _), ?_⟩
  intro peer
  rw [perm.mem_iff, List.mem_eraseDups]
  simp

/-- The steps of a call's lookup queue their providers in that order, this node itself
left out. -/
theorem Call.Queues.queueProviders {state : State}
    (queues : call.Queues state.lastSuccess isPenalized group peers)
    {steps : List (Env × List PeerId)}
    (same : ∀ step ∈ steps, penalized step.1.now state.failed = isPenalized) :
    (steps.foldl (fun call step => state.queueProviders step.1 call step.2) call).Queues
      state.lastSuccess isPenalized group
      (peers ++ (steps.flatMap Prod.snd).filter (· ≠ state.localPeer)) := by
  induction steps generalizing call peers with
  | nil =>
    rw [List.flatMap_nil, List.filter_nil, List.append_nil]
    exact queues
  | cons step rest inductionHypothesis =>
    have batch : ∀ report ∈ (step.2.filter (· ≠ state.localPeer)).map (Report.mk step.1.now),
        penalized report.now state.failed = isPenalized := by
      intro report member
      obtain ⟨peer, -, rfl⟩ := List.mem_map.mp member
      exact same step List.mem_cons_self
    have queued := queues.enqueueBatch batch
    rw [← State.queueProviders_eq, List.map_map] at queued
    have later := inductionHypothesis queued fun other member =>
      same other (List.mem_cons_of_mem _ member)
    rw [List.flatMap_cons, List.filter_append, ← List.append_assoc]
    simpa [Function.comp_def] using later

end

/-! A last good node and one that failed. -/

def Sample.numbered (number : UInt8) : PeerId := ⟨0, [number]⟩

def Sample.freshCall : Call where
  group := Key.filled 1
  protocol := 0
  frame := []
  deadline := Duration.fromSecs 10

/-- The third node was the group's last good one. -/
def Sample.lastGood : Table Key PeerId :=
  AList.insert (Key.filled 1) (Sample.numbered 3) ∅

/-- The second failed lately. -/
def Sample.failedLately : Table PeerId Instant := AList.insert (Sample.numbered 2) 0 ∅

def Sample.batches : List (List Report) :=
  [[⟨1, Sample.numbered 2⟩, ⟨1, Sample.numbered 1⟩],
    [⟨1, Sample.numbered 3⟩, ⟨1, Sample.numbered 1⟩, ⟨1, Sample.numbered 4⟩]]

theorem candidates_in_order_two_batches :
    (Sample.batches.foldl (enqueueBatch Sample.lastGood Sample.failedLately)
        Sample.freshCall).candidates =
      [Sample.numbered 3, Sample.numbered 1, Sample.numbered 4, Sample.numbered 2] := by
  have same : ∀ batch ∈ Sample.batches, ∀ report ∈ batch,
      penalized report.now Sample.failedLately = penalized 1 Sample.failedLately := by
    simp [Sample.batches]
  exact (candidates_in_order Sample.freshCall rfl rfl same).1.trans (by decide +kernel)

end Libp2pFfi
