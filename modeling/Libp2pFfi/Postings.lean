import Libp2pFfi.Admissions
import Libp2pFfi.Outcomes
import Libp2pFfi.QueueRuns

/-!
# From the log to the caller

The log notes every event that is emitted; what the callers see is what their
polls take from the queue. Every handler puts into the queue what it emits, in
the order in which it does, and nothing else puts anything there. So a run of the
node is a history of its queue, and what polls deliver is what was emitted, up to
the events the queue had no room for, whose number it reports.
-/

namespace Libp2pFfi

namespace State

theorem Posts.foldl {α : Type} {step : State → α → State}
    (each : ∀ state item, Posts state (step state item)) (items : List α) (state : State) :
    Posts state (items.foldl step state) := by
  induction items generalizing state with
  | nil => exact Posts.refl state
  | cons item rest inductionHypothesis => exact (each state item).trans (inductionHypothesis _)

theorem posts_connectionEstablished (env : Env) (state : State) (peer : PeerId)
    (connection : ConnectionId) (numEstablished : Nat) (endpoint : ConnectedPoint) :
    Posts state (state.connectionEstablished env peer connection numEstablished endpoint) := by
  unfold connectionEstablished
  dsimp only
  split
  · split <;> split <;> (try split) <;> exact Posts.line rfl rfl
  · split <;> split <;> (try split) <;> exact Posts.same rfl rfl

theorem posts_connectionClosed (env : Env) (state : State) (peer : PeerId)
    (connection : ConnectionId) (numEstablished : Nat) :
    Posts state (state.connectionClosed env peer connection numEstablished) := by
  unfold connectionClosed
  dsimp only
  split
  · exact Posts.line rfl rfl
  · exact Posts.same rfl rfl

/-- A refusal is reported, or too many were. -/
theorem posts_reportLimited {before counted : State} (env : Env) (record : Record)
    (log : counted.log = before.log) (events : counted.shared.events = before.shared.events) :
    Posts before (counted.reportLimited env record) := by
  unfold reportLimited
  dsimp only
  refine (Posts.same log events).trans ?_
  split
  · exact Posts.line rfl rfl
  · exact Posts.same rfl rfl

theorem posts_inboundRequest (env : Env) (state : State) (peer : PeerId)
    (connection : ConnectionId) (request : InboundRequestId) (frame : Bytes)
    (channel : ResponseChannel) :
    Posts state (state.inboundRequest env peer connection request frame channel) := by
  have outcome := arrival env state peer connection request frame channel
  generalize state.inboundRequest env peer connection request frame channel = after at outcome ⊢
  cases outcome with
  | unproven => exact Posts.refl state
  | refused => exact posts_reportLimited env _ rfl rfl
  | admitted => exact Posts.line rfl rfl

theorem posts_announce (env : Env) (state : State) : Posts state (state.announce env) := by
  unfold announce
  split
  · split
    · exact Posts.refl state
    · dsimp only
      split <;> exact Posts.line rfl rfl
  · exact Posts.refl state

theorem posts_gossipsubEvent (env : Env) (state : State) (event : GossipEvent) :
    Posts state (state.gossipsubEvent env event) := by
  cases event with
  | subscribed => exact posts_announce env state
  | other => exact Posts.refl state
  | message source id message =>
    obtain ⟨after, acceptance, outcome, handled⟩ := hearing env state source id message
    rw [handled]
    refine Posts.trans ?_ (Posts.line rfl rfl)
    cases outcome with
    | unheard => exact Posts.refl state
    | limited => exact posts_reportLimited env _ rfl rfl
    | told => exact Posts.line rfl rfl
    | throttled => exact Posts.same rfl rfl
    | announced => exact Posts.line rfl rfl

theorem posts_swarmEvent (env : Env) (state : State) (event : SwarmEvent) :
    Posts state (state.swarmEvent env event) := by
  by_cases routine : event.routine = true
  · exact (routine_swarmEvent env state event routine).posts
  · cases event with
    | connectionEstablished peer connection numEstablished endpoint =>
      exact posts_connectionEstablished env state peer connection numEstablished endpoint
    | connectionClosed peer connection numEstablished =>
      exact posts_connectionClosed env state peer connection numEstablished
    | rpc event =>
      cases event with
      | request peer connection request frame channel =>
        exact posts_inboundRequest env state peer connection request frame channel
      | _ => exact absurd rfl routine
    | gossipsub event => exact posts_gossipsubEvent env state event
    | _ => exact absurd rfl routine

theorem posts_command (env : Env) (state : State) (sent : Command) :
    Posts state (state.command env sent) := by
  by_cases routine : sent.routine = true
  · exact (routine_command env state sent routine).posts
  · cases sent with
    | respond id payload =>
      change Posts state (state.respond id payload)
      unfold respond
      split
      · exact Posts.refl state
      · exact Posts.line rfl rfl
    | setClass group peerClass => exact Posts.same rfl rfl
    | setLimit id rate => exact Posts.same rfl rfl
    | announceSetPayload payload => exact (Posts.same rfl rfl).trans (posts_announce env _)
    | topicPublish key payload =>
      change Posts state (state.topicPublish env key payload)
      unfold topicPublish
      split
      · exact Posts.refl state
      · dsimp only
        split <;> exact Posts.line rfl rfl
    | _ => exact absurd rfl routine

theorem posts_tick (env : Env) (state : State) : Posts state (state.tick env) := by
  obtain ⟨reserved, lookedUp, early, later, last⟩ := tick_spec env state
  have swept : Posts lookedUp (lookedUp.sweepLimits env) := by
    unfold sweepLimits
    split
    · exact Posts.same rfl rfl
    · exact Posts.refl lookedUp
  exact (((early.posts.trans (posts_announce env reserved)).trans later.posts).trans swept).trans
    last.posts

end State

/-! Histories of queues. -/

namespace QueueRuns

/-- The records that are pushed, in order. -/
def pushes : List Op → List Record
  | [] => []
  | .push record :: rest => record :: pushes rest
  | _ :: rest => pushes rest

theorem pushes_append (first second : List Op) :
    pushes (first ++ second) = pushes first ++ pushes second := by
  induction first with
  | nil => rfl
  | cons op rest inductionHypothesis =>
    cases op with
    | push record => exact congrArg (record :: ·) inductionHypothesis
    | close status => exact inductionHypothesis
    | poll cap => exact inductionHypothesis

theorem pushes_push (records : List Record) : pushes (records.map .push) = records := by
  induction records with
  | nil => rfl
  | cons record rest inductionHypothesis => exact congrArg (record :: ·) inductionHypothesis

theorem queue_pushed (records : List Record) (history : History) :
    ((records.map Op.push).foldl History.step history).queue =
      records.foldl EventQueue.push history.queue := by
  induction records generalizing history with
  | nil => rfl
  | cons record rest inductionHypothesis => exact inductionHypothesis _

/-- What was accepted was pushed, and the rest was refused. -/
theorem accepted_pushes (maxBytes : Nat) (ops : List Op) :
    (History.run maxBytes ops).accepted.Sublist (pushes ops) ∧
      (pushes ops).length =
        (History.run maxBytes ops).accepted.length + (History.run maxBytes ops).refused := by
  induction ops using List.reverseRecOn with
  | nil => exact ⟨List.Sublist.refl _, rfl⟩
  | append_singleton ops op inductionHypothesis =>
    obtain ⟨sublist, count⟩ := inductionHypothesis
    rw [History.run, List.foldl_append, pushes_append]
    change (History.step (History.run maxBytes ops) op).accepted.Sublist _ ∧ _ =
      (History.step (History.run maxBytes ops) op).accepted.length +
        (History.step (History.run maxBytes ops) op).refused
    cases op with
    | push record =>
      simp only [History.step, pushes, List.length_append, List.length_singleton]
      split
      · exact ⟨sublist.append (List.Sublist.refl _), by simp only [List.length_singleton]; omega⟩
      · refine ⟨?_, by simp only [List.length_nil]; omega⟩
        rw [List.append_nil]
        exact sublist.trans (List.sublist_append_left _ _)
    | close status => simpa [History.step, pushes] using ⟨sublist, count⟩
    | poll cap => simpa [History.step, pushes] using ⟨sublist, count⟩

end QueueRuns

namespace System

/-- What an action does to the queue. -/
def ops (system : System) : Action → List QueueRuns.Op
  | .poll cap => [.poll cap]
  | action =>
    (emitted ((system.step action).state.log.drop system.state.log.length)).map .push

/-- The queue after some actions, with what its callers have seen. -/
def seen (config : Config) (localPeer : PeerId) (now : Instant) (actions : List Action) :
    QueueRuns.History :=
  QueueRuns.History.run config.eventQueueBytes
    (Runs.trace step ops (start config localPeer now) actions)

/-- Every action but a poll puts into the queue what it emits. -/
theorem posts_step (system : System) (action : Action) (notPoll : ∀ cap, action ≠ .poll cap) :
    State.Posts system.state (system.step action).state := by
  cases action with
  | draw => exact .same rfl rfl
  | poll cap => exact absurd rfl (notPoll cap)
  | internalQuery => exact .same rfl rfl
  | learn => exact .same rfl rfl
  | ready env => exact (State.routine_ready env system.state).posts
  | handle env input =>
    have delivered : State.Posts system.state (system.state.deliver input) := by
      unfold State.deliver
      split <;> exact .same rfl rfl
    have noted : State.Posts (system.state.deliver input)
        ((system.state.deliver input).heard env.nowMs input) :=
      ⟨[.heard env.nowMs input], rfl, rfl⟩
    refine (delivered.trans noted).trans ?_
    cases input with
    | command sent => exact State.posts_command env _ sent
    | tick => exact State.posts_tick env _
    | swarm event => exact State.posts_swarmEvent env _ event

/-- The history of the queue is that of the log. -/
theorem seen_exact (config : Config) (localPeer : PeerId) (now : Instant) (actions : List Action) :
    (seen config localPeer now actions).queue =
        (after config localPeer now actions).state.shared.events ∧
      QueueRuns.pushes (Runs.trace step ops (start config localPeer now) actions) =
        emitted (after config localPeer now actions).state.log := by
  induction actions using List.reverseRecOn with
  | nil => exact ⟨rfl, rfl⟩
  | append_singleton actions action inductionHypothesis =>
    obtain ⟨queue, pushed⟩ := inductionHypothesis
    rw [after_append_singleton, seen, Runs.trace_append_singleton, QueueRuns.History.run,
      List.foldl_append, QueueRuns.pushes_append, pushed]
    change (List.foldl QueueRuns.History.step (seen config localPeer now actions)
      (ops (after config localPeer now actions) action)).queue = _ ∧
        _ ++ QueueRuns.pushes (ops (after config localPeer now actions) action) = _
    by_cases isPoll : ∃ cap, action = .poll cap
    · obtain ⟨cap, rfl⟩ := isPoll
      refine ⟨?_, List.append_nil _⟩
      change ((seen config localPeer now actions).queue.poll cap).1 = _
      rw [queue]
      rfl
    · have notPoll : ∀ cap, action ≠ .poll cap := fun cap same => isPoll ⟨cap, same⟩
      obtain ⟨extra, grown, posted⟩ := posts_step (after config localPeer now actions) action notPoll
      have isPushes : ops (after config localPeer now actions) action =
          (emitted extra).map .push := by
        have dropped : ((after config localPeer now actions).step action).state.log.drop
            (after config localPeer now actions).state.log.length = extra := by
          rw [grown, List.drop_left]
        rw [← dropped]
        cases action with
        | poll cap => exact absurd rfl (notPoll cap)
        | _ => rfl
      rw [isPushes, QueueRuns.queue_pushed, QueueRuns.pushes_push, queue, posted, grown]
      exact ⟨rfl, (List.filterMap_append ..).symm⟩

/-- What was emitted is what the queue accepted, in order, and what it refused. -/
theorem seen_conserved (config : Config) (localPeer : PeerId) (now : Instant)
    (actions : List Action) :
    QueueRuns.Conserved config.eventQueueBytes (seen config localPeer now actions) ∧
      (seen config localPeer now actions).accepted.Sublist
        (emitted (after config localPeer now actions).state.log) ∧
      (emitted (after config localPeer now actions).state.log).length =
        (seen config localPeer now actions).accepted.length +
          (seen config localPeer now actions).refused := by
  rw [← (seen_exact config localPeer now actions).2]
  exact ⟨QueueRuns.conserved_run _ _, QueueRuns.accepted_pushes _ _⟩

/-- What polls have delivered, followed by what is queued, is what was emitted, in
order and each event once, but for events the queue had no room for. As many of
these are missing as overflow events have told or will tell. -/
theorem polls_deliver_emitted (config : Config) (localPeer : PeerId) (now : Instant)
    (actions : List Action) :
    let system := after config localPeer now actions
    let history := seen config localPeer now actions
    (history.delivered ++ system.state.shared.events.inner.records).Sublist
        (emitted system.state.log) ∧
      (emitted system.state.log).length =
        (history.delivered ++ system.state.shared.events.inner.records).length +
          ((history.overflows.map fun record => record.header.id).sum +
            system.state.shared.events.inner.dropped) := by
  intro system history
  obtain ⟨conserved, sublist, length⟩ := seen_conserved config localPeer now actions
  have queue : history.queue = system.state.shared.events :=
    (seen_exact config localPeer now actions).1
  rw [← queue, conserved.records, ← conserved.counts]
  exact ⟨sublist, length⟩

end System

/-- An event that ends the call with this id. -/
def Record.endsCall (id : Nat) (record : Record) : Bool :=
  record.header.kind.endsCall && record.header.id == id

theorem outcomes_eq_emitted (id : Nat) (log : List Entry) :
    outcomes id log = (emitted log).filter (Record.endsCall id) := by
  induction log with
  | nil => rfl
  | cons entry rest inductionHypothesis =>
    have split : outcomes id (entry :: rest) = (entry.outcome? id).toList ++ outcomes id rest := by
      rw [outcomes, outcomes, List.filterMap_cons]
      cases entry.outcome? id <;> rfl
    have splitToo : emitted (entry :: rest) = entry.emitted?.toList ++ emitted rest := by
      rw [emitted, emitted, List.filterMap_cons]
      cases entry.emitted? <;> rfl
    rw [split, splitToo, List.filter_append, inductionHypothesis]
    congr 1
    unfold Entry.outcome?
    split
    · rename_i record
      change _ = List.filter (Record.endsCall id) [record]
      by_cases ends : record.header.kind.endsCall = true ∧ record.header.id = id
      · simp [Record.endsCall, ends]
      · rw [if_neg ends]
        simp only [Record.endsCall, List.filter_cons, Bool.and_eq_true, beq_iff_eq, if_neg ends]
        rfl
    · rename_i notEmit
      cases entry with
      | heard => rfl
      | did effect =>
        cases effect with
        | emit record => exact absurd rfl (notEmit record)
        | _ => rfl

/-- The callers are told the outcome of a call at most once, with the call's own
group and protocol; and once the call is over, they have been told it if all that
was emitted has been polled and nothing was dropped. -/
theorem one_outcome_delivered {crates : Crates} {config : Config} {localPeer : PeerId}
    {now : Instant} {actions : List Action} (run : System.Run crates config localPeer now actions)
    (id : Nat) (group : Key) (protocol : Nat)
    (applied : Applied (System.after config localPeer now actions).state.log id group protocol) :
    let system := System.after config localPeer now actions
    let history := System.seen config localPeer now actions
    let told := history.delivered.filter (Record.endsCall id)
    told.length ≤ 1 ∧
      (∀ record ∈ told, record.header.group = group ∧ record.header.protocol = protocol ∧
        system.state.calls.lookup id = none) ∧
      (system.state.calls.lookup id = none → system.state.shared.events.inner.records = [] →
        history.overflows = [] → system.state.shared.events.inner.dropped = 0 →
          told.length = 1) := by
  intro system history told
  have accounted : Accounted system :=
    run.invariant (accounted_start config localPeer now) accounted_step
  obtain ⟨conserved, sublist, length⟩ := System.seen_conserved config localPeer now actions
  have queue : history.queue = system.state.shared.events :=
    (System.seen_exact config localPeer now actions).1
  rw [← conserved.records] at sublist length
  -- What was told is among the outcomes of the log.
  have among : told.Sublist (outcomes id system.state.log) := by
    rw [outcomes_eq_emitted]
    exact ((List.sublist_append_left _ _).trans sublist).filter _
  cases found : system.state.calls.lookup id with
  | some call =>
    have none : outcomes id system.state.log = [] := (accounted.live id call found).1
    rw [none, List.sublist_nil] at among
    rw [among]
    refine ⟨Nat.zero_le _, fun record member => ?_, fun ended => ?_⟩
    · cases member
    · cases ended
  | none =>
    obtain ⟨record, only, ofGroup, ofProtocol⟩ := accounted.ended id group protocol applied found
    rw [only] at among
    refine ⟨among.length_le, fun other member => ?_, fun _ drained untold kept => ?_⟩
    · rw [List.mem_singleton.mp (among.subset member)]
      exact ⟨ofGroup, ofProtocol, rfl⟩
    · have all : history.delivered = emitted system.state.log := by
        have missing := conserved.counts
        rw [queue, drained, List.append_nil] at sublist length
        rw [queue, kept, untold] at missing
        refine sublist.eq_of_length ?_
        rw [length, missing]
        rfl
      have isTold : told = outcomes id system.state.log := by
        rw [outcomes_eq_emitted, ← all]
      rw [isTold, only]
      rfl

/-- A call of which nothing comes, and a poll after it has failed. -/
def Sample.polledCall : List Action := Sample.unansweredCall ++ [.poll 4096]

theorem Sample.polledCall_run :
    System.Run Sample.crates Sample.config Sample.peer 0 Sample.polledCall := by
  refine (Runs.admissible_append _ _ _ _ _).mpr ⟨Sample.unansweredCall_run, ?_⟩
  exact (Runs.admissible_cons _ _ _ _ _).mpr ⟨trivial, Runs.admissible_nil _ _ _⟩

/-- The caller is told once. -/
theorem one_outcome_delivered_unanswered :
    ((System.seen Sample.config Sample.peer 0 Sample.polledCall).delivered.filter
      (Record.endsCall 1)).length = 1 := by
  have applied : Applied (System.after Sample.config Sample.peer 0
      Sample.polledCall).state.log 1 Sample.group 0 :=
    ⟨none, [], Duration.fromSecs 10, List.mem_cons_self⟩
  obtain ⟨-, -, told⟩ := one_outcome_delivered Sample.polledCall_run 1 Sample.group 0 applied
  refine told rfl ?_ ?_ ?_
  · decide +kernel
  · decide +kernel
  · decide +kernel

end Libp2pFfi
