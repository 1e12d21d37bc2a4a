import Libp2pFfi.Admissions
import Libp2pFfi.Authenticity
import Libp2pFfi.SourceRates
import Libp2pFfi.Tidings

/-!
# Rations at the node

The token buckets bound what they let through whenever they are asked. Here is
what that means for the caller of a node: the node asks them about every request
and every message before it reports it, at the time it handles it and with the
tokens that its own commands set, and nothing else spends or refills. `Ration`
lists what a step may do to the limits together with the events it lets in; the
bounds over any stretch of any run follow from it, and so does the silence about
a group that is blocked. The tokens of a node are counted exactly, in rationals.
-/

namespace Libp2pFfi

/-- The events that let someone in. -/
def EventKind.letsIn : EventKind → Bool
  | rpcRequest => true
  | topicMessage => true
  | announcement => true
  | _ => false

/-- The events by which some lines of a log let someone in. -/
def letIn (log : List Entry) : List Record :=
  (emitted log).filter fun record => record.header.kind.letsIn

theorem letIn_append (first second : List Entry) :
    letIn (first ++ second) = letIn first ++ letIn second := by
  rw [letIn, emitted, List.filterMap_append, List.filter_append]
  rfl

theorem EventKind.routine_of_letsIn {kind : EventKind} (lets : kind.letsIn = true) :
    kind.routine = false := by
  cases kind with
  | rpcRequest => rfl
  | topicMessage => rfl
  | announcement => rfl
  | _ => cases lets

theorem letIn_routine {log : List Entry} (routine : ∀ entry ∈ log, entry.Routine) :
    letIn log = [] := by
  rw [letIn, List.filter_eq_nil_iff]
  intro record member lets
  obtain ⟨entry, isEntry, reported⟩ := List.mem_filterMap.mp member
  cases entry with
  | heard => cases reported
  | did effect =>
    have quiet := routine _ isEntry
    cases effect with
    | emit told =>
      obtain rfl := Option.some.inj reported
      cases (EventKind.routine_of_letsIn lets).symm.trans quiet
    | _ => cases reported

/-- The limits without the count of events about refusals. -/
def Limits.ledger (limits : Limits) : Limits :=
  { limits with eventsWindow := none, eventsInWindow := 0 }

namespace Limits

/-- The count of events about refusals is nobody else's business. -/
theorem check_ledger (limits : Limits) (request : LimitRequest) (bytes : Nat) (now : Instant) :
    limits.ledger.check request bytes now =
      ((limits.check request bytes now).1.ledger, (limits.check request bytes now).2) := by
  have same : limits.ledger.checkUnswept request bytes now =
      ((limits.checkUnswept request bytes now).1.ledger,
        (limits.checkUnswept request bytes now).2) := by
    unfold checkUnswept
    have classes : limits.ledger.classOf request.group = limits.classOf request.group := rfl
    have matched : limits.ledger.matching request = limits.matching request := rfl
    have buckets : limits.ledger.buckets = limits.buckets := rfl
    rw [classes, matched, buckets]
    split
    · rfl
    · split <;> rfl
  unfold check
  rw [same]
  rcases limits.checkUnswept request bytes now with ⟨after, reason | ⟨⟩⟩
  · rfl
  · dsimp only
    have buckets : after.ledger.buckets.len = after.buckets.len := rfl
    rw [buckets]
    split <;> rfl

theorem ledger_mayReport (limits : Limits) (now : Instant) :
    (limits.mayReport now).1.ledger = limits.ledger := by
  unfold mayReport
  dsimp only
  split
  · rfl
  · split <;> rfl

theorem ledger_setClass (limits : Limits) (group : Key) (peerClass : Nat) :
    (limits.setClass group peerClass).ledger = limits.ledger.setClass group peerClass := by
  unfold setClass
  split <;> rfl

theorem ledger_setLimit (limits : Limits) (id : RuleId) (rate : Rate) :
    (limits.setLimit id rate).ledger = limits.ledger.setLimit id rate := by
  unfold setLimit
  dsimp only
  split <;> rfl

end Limits

/-- The events that a check lets in. -/
def admittedBy (limits : Limits) (request : LimitRequest) (bytes : Nat) (now : Instant)
    (record : Record) : List Record :=
  match (limits.check request bytes now).2 with
  | .ok () => [record]
  | .error _ => []

/-- What a step does to the limits, and the events it lets in. -/
inductive Ration (before : State) : Action → Limits → SourceRate → List Record → Prop where
  | untouched (action : Action) :
      Ration before action before.limits.ledger before.announceRate []
  | classed (env : Env) (group : Key) (peerClass : Nat) :
      Ration before (.handle env (.command (.setClass group peerClass)))
        (before.limits.ledger.setClass group peerClass) before.announceRate []
  | set (env : Env) (id : RuleId) (rate : Rate) :
      Ration before (.handle env (.command (.setLimit id rate)))
        (before.limits.ledger.setLimit id rate) before.announceRate []
  | swept (env : Env) :
      Ration before (.handle env .tick) (before.limits.ledger.sweep env.now) before.announceRate []
  | asked (env : Env) (peer : PeerId) (connection : ConnectionId) (request : InboundRequestId)
      (frame : Bytes) (channel : ResponseChannel) (node group : Key) (protocol : Nat)
      (payload : Bytes) :
      Ration before (.handle env (.swarm (.rpc (.request peer connection request frame channel))))
        (before.limits.ledger.check (before.asking peer connection group protocol) frame.length
          env.now).1 before.announceRate
        (admittedBy before.limits.ledger (before.asking peer connection group protocol) frame.length
          env.now (rpcRequest before.shared.nextId group node protocol payload))
  | passed (env : Env) (source : PeerId) (id : MessageId) (message : GossipMessage)
      (key node group : Key) (payload : Bytes) :
      Ration before (.handle env (.swarm (.gossipsub (.message source id message))))
        (before.limits.ledger.check (before.passedOn source group) message.data.length env.now).1
        before.announceRate
        (admittedBy before.limits.ledger (before.passedOn source group) message.data.length env.now
          (topicRecord key group node payload))
  | announced (env : Env) (source : PeerId) (id : MessageId) (message : GossipMessage)
      (publisher : PeerId) (node group : Key) (payload : Bytes)
      (published : message.source = some publisher)
      (unblocked : before.limits.classOf group ≠ classBlocked) :
      Ration before (.handle env (.swarm (.gossipsub (.message source id message))))
        before.limits.ledger (before.announceRate.allow publisher env.now).1
        (if (before.announceRate.allow publisher env.now).2 then
          [announcementRecord group node payload] else [])

namespace State

/-- Nothing is spent, nothing is set, and nobody is let in. -/
structure Unrationed (before after : State) : Prop where
  ledger : after.limits.ledger = before.limits.ledger
  rate : after.announceRate = before.announceRate
  silent : ∃ extra, after.log = before.log ++ extra ∧ letIn extra = []

theorem Unrationed.refl (state : State) : Unrationed state state :=
  ⟨rfl, rfl, [], (List.append_nil _).symm, rfl⟩

theorem Unrationed.trans {first second third : State} (left : Unrationed first second)
    (right : Unrationed second third) : Unrationed first third := by
  obtain ⟨earlier, grown, silent⟩ := left.silent
  obtain ⟨later, grownToo, silentToo⟩ := right.silent
  refine ⟨right.ledger.trans left.ledger, right.rate.trans left.rate, earlier ++ later, ?_, ?_⟩
  · rw [grownToo, grown, List.append_assoc]
  · rw [letIn_append, silent, silentToo]
    rfl

theorem Routine.unrationed {before after : State} (routine : Routine before after) :
    Unrationed before after := by
  obtain ⟨extra, grown, quiet⟩ := routine.adds
  have limits : after.limits = before.limits := congrArg Meter.limits routine.meter
  exact ⟨congrArg Limits.ledger limits, congrArg Meter.announceRate routine.meter, extra, grown,
    letIn_routine quiet⟩

/-- A line that is no event. -/
theorem Unrationed.line {before after : State} {effect : Effect}
    (ledger : after.limits.ledger = before.limits.ledger)
    (rate : after.announceRate = before.announceRate)
    (log : after.log = before.log ++ [.did effect]) (noEvent : effect.emitted? = none) :
    Unrationed before after := by
  refine ⟨ledger, rate, _, log, ?_⟩
  simp [letIn, emitted, Entry.emitted?, noEvent]

theorem unrationed_announce (env : Env) (state : State) :
    Unrationed state (state.announce env) := by
  unfold announce
  split
  · split
    · exact .refl state
    · dsimp only
      split <;> exact .line rfl rfl rfl rfl
  · exact .refl state

/-- A refusal is counted and may be reported. -/
theorem reportLimited_spec (env : Env) (state : State) (group node : Key) (protocol reason : Nat) :
    Unrationed state (state.reportLimited env (limitedRecord group node protocol reason)) := by
  have ledger := Limits.ledger_mayReport state.limits env.now
  unfold reportLimited
  dsimp only
  split
  · exact ⟨ledger, rfl, [.did (.emit (limitedRecord group node protocol reason))], rfl, rfl⟩
  · exact ⟨ledger, rfl, [], (List.append_nil _).symm, rfl⟩

end State

/-- A handler meets the state with other tables of libp2p and one more line in the log.
The limits are asked about neither. -/
theorem Ration.met {state : State} {swarm : Swarm} {log : List Entry} {action : Action}
    {limits : Limits} {rate : SourceRate} {records : List Record}
    (ration : Ration { state with swarm, log } action limits rate records) :
    Ration state action limits rate records := by
  cases ration with
  | untouched => exact .untouched action
  | classed env group peerClass => exact .classed env group peerClass
  | set env id newRate => exact .set env id newRate
  | swept env => exact .swept env
  | asked env peer connection request frame channel node group protocol payload =>
    exact .asked env peer connection request frame channel node group protocol payload
  | passed env source id message key node group payload =>
    exact .passed env source id message key node group payload
  | announced env source id message publisher node group payload published unblocked =>
    exact .announced env source id message publisher node group payload published unblocked

namespace State

/-- What a handler does to the limits, and the events it lets in. -/
def Rations (before after : State) (action : Action) : Prop :=
  ∃ extra, after.log = before.log ++ extra ∧
    Ration before action after.limits.ledger after.announceRate (letIn extra)

theorem Unrationed.rations {before after : State} (unrationed : Unrationed before after)
    (action : Action) : Rations before after action := by
  obtain ⟨extra, grown, silent⟩ := unrationed.silent
  refine ⟨extra, grown, ?_⟩
  rw [unrationed.ledger, unrationed.rate, silent]
  exact .untouched action

theorem rations_inboundRequest (env : Env) (state : State) (peer : PeerId)
    (connection : ConnectionId) (request : InboundRequestId) (frame : Bytes)
    (channel : ResponseChannel) :
    Rations state (state.inboundRequest env peer connection request frame channel)
      (.handle env (.swarm (.rpc (.request peer connection request frame channel)))) := by
  have outcome := arrival env state peer connection request frame channel
  generalize state.inboundRequest env peer connection request frame channel = after at outcome ⊢
  cases outcome with
  | unproven => exact (Unrationed.refl state).rations _
  | refused node group protocol payload limits reason checked answer =>
    obtain ⟨ledger, rate, extra, grown, silent⟩ := reportLimited_spec env
      { state with
        limits
        shared := { state.shared with rpcLimited := state.shared.rpcLimited + 1 } }
      group node protocol reason
    have ration : Ration state _ _ _ _ :=
      .asked env peer connection request frame channel node group protocol payload
    rw [Limits.check_ledger, admittedBy, Limits.check_ledger, answer] at ration
    refine ⟨extra, grown, ?_⟩
    rw [silent]
    exact ledger ▸ rate ▸ ration
  | admitted node group protocol payload limits checked answer =>
    have ration : Ration state _ _ _ _ :=
      .asked env peer connection request frame channel node group protocol payload
    rw [Limits.check_ledger, admittedBy, Limits.check_ledger, answer] at ration
    exact ⟨[.did (.emit (rpcRequest state.shared.nextId group node protocol payload))], rfl, ration⟩

theorem rations_message (env : Env) (state : State) (source : PeerId) (id : MessageId)
    (message : GossipMessage) :
    Rations state (state.gossipsubEvent env (.message source id message))
      (.handle env (.swarm (.gossipsub (.message source id message)))) := by
  obtain ⟨after, acceptance, outcome, handled⟩ := hearing env state source id message
  rw [handled]
  -- The verdict is the last line of the log.
  have last (extra : List Entry) (grown : after.log = state.log ++ extra)
      (ration : Ration state (.handle env (.swarm (.gossipsub (.message source id message))))
        after.limits.ledger after.announceRate (letIn extra)) :
      Rations state (after.did (.validate id source acceptance))
        (.handle env (.swarm (.gossipsub (.message source id message)))) := by
    refine ⟨extra ++ [.did (.validate id source acceptance)], ?_, ?_⟩
    · rw [did, grown, List.append_assoc]
    · rw [letIn_append]
      exact (List.append_nil (letIn extra)).symm ▸ ration
  cases outcome with
  | unheard acceptance refused => exact last [] (List.append_nil _).symm (.untouched _)
  | limited key node group publisher payload limits reason followed checked fits answer =>
    obtain ⟨ledger, rate, extra, grown, silent⟩ := reportLimited_spec env
      { state with
        limits
        shared := { state.shared with topicLimited := state.shared.topicLimited + 1 } }
      group node protocolTopics reason
    have ration : Ration state _ _ _ _ := .passed env source id message key node group payload
    rw [Limits.check_ledger, admittedBy, Limits.check_ledger, answer] at ration
    refine last extra grown ?_
    rw [silent]
    exact ledger ▸ rate ▸ ration
  | told key node group publisher payload limits followed checked fits answer =>
    have ration : Ration state _ _ _ _ := .passed env source id message key node group payload
    rw [Limits.check_ledger, admittedBy, Limits.check_ledger, answer] at ration
    exact last [.did (.emit (topicRecord key group node payload))] rfl ration
  | throttled node group publisher payload strange checked unblocked answer =>
    have ration : Ration state _ _ _ _ := .announced env source id message publisher node group
      payload (checkAnnouncement_proven checked).1 unblocked
    rw [if_neg (by rw [answer]; decide)] at ration
    exact last [] (List.append_nil _).symm ration
  | announced node group publisher payload strange checked unblocked answer =>
    have ration : Ration state _ _ _ _ := .announced env source id message publisher node group
      payload (checkAnnouncement_proven checked).1 unblocked
    rw [if_pos answer] at ration
    exact last [.did (.emit (announcementRecord group node payload))] rfl ration

theorem rations_swarmEvent (env : Env) (state : State) (event : SwarmEvent) :
    Rations state (state.swarmEvent env event) (.handle env (.swarm event)) := by
  by_cases routine : event.routine = true
  · exact (routine_swarmEvent env state event routine).unrationed.rations _
  · cases event with
    | connectionEstablished peer connection numEstablished endpoint =>
      obtain ⟨meter, -, log⟩ :=
        connectionEstablished_spec env state peer connection numEstablished endpoint
      refine Unrationed.rations ⟨congrArg (fun meter => meter.limits.ledger) meter,
        congrArg Meter.announceRate meter, _, log, ?_⟩ _
      split <;> rfl
    | connectionClosed peer connection numEstablished =>
      obtain ⟨meter, -, log⟩ := connectionClosed_spec env state peer connection numEstablished
      refine Unrationed.rations ⟨congrArg (fun meter => meter.limits.ledger) meter,
        congrArg Meter.announceRate meter, _, log, ?_⟩ _
      split <;> rfl
    | rpc event =>
      cases event with
      | request peer connection request frame channel =>
        exact rations_inboundRequest env state peer connection request frame channel
      | _ => exact absurd rfl routine
    | gossipsub event =>
      cases event with
      | subscribed => exact (unrationed_announce env state).rations _
      | message source id message => exact rations_message env state source id message
      | other => exact absurd rfl routine
    | _ => exact absurd rfl routine

theorem rations_command (env : Env) (state : State) (sent : Command) :
    Rations state (state.command env sent) (.handle env (.command sent)) := by
  by_cases routine : sent.routine = true
  · exact (routine_command env state sent routine).unrationed.rations _
  · cases sent with
    | respond id payload =>
      refine Unrationed.rations ?_ _
      change Unrationed state (state.respond id payload)
      unfold respond
      split
      · exact .refl state
      · exact .line rfl rfl rfl rfl
    | setClass group peerClass =>
      refine ⟨[], (List.append_nil _).symm, ?_⟩
      have ration : Ration state _ _ _ _ := .classed env group peerClass
      rw [← Limits.ledger_setClass] at ration
      exact ration
    | setLimit id rate =>
      refine ⟨[], (List.append_nil _).symm, ?_⟩
      have ration : Ration state _ _ _ _ := .set env id rate
      rw [← Limits.ledger_setLimit] at ration
      exact ration
    | announceSetPayload payload =>
      have noted : Unrationed state { state with announcePayload := some payload } :=
        ⟨rfl, rfl, [], (List.append_nil _).symm, rfl⟩
      exact (noted.trans (unrationed_announce env _)).rations _
    | topicPublish key payload =>
      refine Unrationed.rations ?_ _
      change Unrationed state (state.topicPublish env key payload)
      unfold topicPublish
      split
      · exact .refl state
      · dsimp only
        split <;> exact .line rfl rfl rfl rfl
    | _ => exact absurd rfl routine

theorem rations_tick (env : Env) (state : State) :
    Rations state (state.tick env) (.handle env .tick) := by
  obtain ⟨reserved, lookedUp, early, later, last⟩ := tick_spec env state
  have before : Unrationed state lookedUp :=
    (early.unrationed.trans (unrationed_announce env reserved)).trans later.unrationed
  by_cases due : env.now - lookedUp.lastSweep ≥ sweepInterval
  · have swept : lookedUp.sweepLimits env =
        { lookedUp with limits := lookedUp.limits.sweep env.now, lastSweep := env.now } :=
      if_pos due
    rw [swept] at last
    obtain ⟨extra, grown, silent⟩ := before.silent
    obtain ⟨more, grownToo, silentToo⟩ := last.unrationed.silent
    refine ⟨extra ++ more, ?_, ?_⟩
    · rw [grownToo, ← List.append_assoc, ← grown]
    · have ledger : (state.tick env).limits.ledger = state.limits.ledger.sweep env.now := by
        rw [last.unrationed.ledger, ← before.ledger]
        rfl
      rw [letIn_append, silent, silentToo, ledger, last.unrationed.rate.trans before.rate]
      exact .swept env
  · have unswept : lookedUp.sweepLimits env = lookedUp := if_neg due
    rw [unswept] at last
    exact (before.trans last.unrationed).rations _

end State

namespace System

/-- What an action does to the limits, and the events it lets in. -/
theorem ration (system : System) (action : Action) :
    Ration system.state action (system.step action).state.limits.ledger
      (system.step action).state.announceRate (letIn (system.fresh action)) := by
  suffices rations : State.Rations system.state (system.step action).state action by
    obtain ⟨extra, grown, ration⟩ := rations
    rw [fresh, grown, List.drop_left]
    exact ration
  have same {after : State} (ledger : after.limits.ledger = system.state.limits.ledger)
      (rate : after.announceRate = system.state.announceRate)
      (log : after.log = system.state.log) : State.Rations system.state after action :=
    State.Unrationed.rations ⟨ledger, rate, [], log.trans (List.append_nil _).symm, rfl⟩ _
  cases action with
  | draw => exact same rfl rfl rfl
  | poll cap => exact same rfl rfl rfl
  | internalQuery => exact same rfl rfl rfl
  | learn => exact same rfl rfl rfl
  | ready env => exact (State.routine_ready env system.state).unrationed.rations _
  | handle env input =>
    have handled : State.Rations ((system.state.deliver input).heard env.nowMs input)
        (system.step (.handle env input)).state (.handle env input) := by
      cases input with
      | command sent => exact State.rations_command env _ sent
      | tick => exact State.rations_tick env _
      | swarm event => exact State.rations_swarmEvent env _ event
    obtain ⟨extra, grown, ration⟩ := handled
    obtain ⟨swarm, delivered, -⟩ := system.state.deliver_spec input
    have noted : ((system.state.deliver input).heard env.nowMs input).log =
        system.state.log ++ [.heard env.nowMs input] := by
      rw [delivered]
      rfl
    refine ⟨.heard env.nowMs input :: extra, ?_, ?_⟩
    · rw [grown, noted, List.append_assoc]
      rfl
    · rw [delivered] at ration
      have seen : Ration
          { system.state with swarm, log := system.state.log ++ [.heard env.nowMs input] } _ _ _ _ :=
        ration
      exact seen.met

end System

/-! Time. -/

/-- When an action happens, for those that look at the clock. -/
def Action.time? : Action → Option Instant
  | handle env _ => some env.now
  | ready env => some env.now
  | _ => none

/-- Times do not go back, from `now` on. -/
def Clocked : Instant → List Action → Prop
  | _, [] => True
  | now, action :: rest => now ≤ action.time?.getD now ∧ Clocked (action.time?.getD now) rest

/-- The time of the last action that looked at the clock. -/
def lastTime (now : Instant) (actions : List Action) : Instant :=
  actions.foldl (fun time action => action.time?.getD time) now

theorem clocked_append {now : Instant} {first second : List Action} :
    Clocked now (first ++ second) ↔ Clocked now first ∧ Clocked (lastTime now first) second := by
  induction first generalizing now with
  | nil => simp [Clocked, lastTime]
  | cons action rest inductionHypothesis =>
    simp only [List.cons_append, Clocked, inductionHypothesis, and_assoc]
    rfl

/-! What is spent is what is let in. -/

/-- What a rule weighs an event by: the request that the limits were asked about, and
the length of the frame. -/
def Action.weighs (state : State) : Action → Record → Option (LimitRequest × Nat)
  | handle _ (.swarm (.rpc (.request peer connection _ frame _))), record =>
    if record.header.kind = .rpcRequest then
      some (state.asking peer connection record.header.group record.header.protocol, frame.length)
    else none
  | handle _ (.swarm (.gossipsub (.message source _ message))), record =>
    if record.header.kind = .topicMessage then
      some (state.passedOn source record.header.group, message.data.length)
    else none
  | _, _ => none

/-- What an event costs under a rule, for a key. -/
def Action.costs (rule : Rule) (key : BucketKey) (state : State) (action : Action)
    (record : Record) : ℚ :=
  match action.weighs state record with
  | some (request, bytes) =>
    if (rule, key) ∈ state.limits.matching request then rule.cost bytes else 0
  | none => 0

/-- What the events cost by which an action lets someone in. -/
def System.charged (rule : Rule) (key : BucketKey) (system : System) (action : Action) : ℚ :=
  ((letIn (system.fresh action)).map (action.costs rule key system.state)).sum

/-- The limits said yes to every request and every topic message that is let in. -/
theorem Ration.weighed {state : State} {action : Action} {limits : Limits} {rate : SourceRate}
    {records : List Record} (ration : Ration state action limits rate records) {record : Record}
    (member : record ∈ records) (metered : record.header.kind ≠ .announcement) :
    ∃ request bytes now, action.weighs state record = some (request, bytes) ∧
      action.time? = some now ∧ (state.limits.check request bytes now).2 = .ok () := by
  have own {request : LimitRequest} {bytes : Nat} {now : Instant} {other : Record}
      (isLet : record ∈ admittedBy state.limits.ledger request bytes now other) :
      record = other ∧ (state.limits.check request bytes now).2 = .ok () := by
    unfold admittedBy at isLet
    rw [Limits.check_ledger] at isLet
    split at isLet
    · rename_i answer
      exact ⟨List.mem_singleton.mp isLet, answer⟩
    · cases isLet
  cases ration with
  | asked env peer connection request frame channel node group protocol payload =>
    obtain ⟨rfl, answer⟩ := own member
    exact ⟨_, _, env.now, rfl, rfl, answer⟩
  | passed env source id message topic node group payload =>
    obtain ⟨rfl, answer⟩ := own member
    exact ⟨_, _, env.now, rfl, rfl, answer⟩
  | announced env source id message publisher node group payload published unblocked =>
    split at member
    · rw [List.mem_singleton.mp member] at metered
      exact absurd rfl metered
    · cases member
  | _ => cases member

/-- The call that an action makes on the limits. -/
structure Calls (before : Limits) (after : Limits) (action : Action) (op : Option LimitOp) :
    Prop where
  applied : after = op.toList.foldl Limits.apply before
  timed : ∀ call ∈ op, ∀ time ∈ call.time?, action.time? = some time
  setting : ∀ id rate, op = some (.setLimit id rate) →
    ∃ env, action = .handle env (.command (.setLimit id rate))

/-- An action makes at most one call, which spends what the events cost. -/
theorem Ration.calls {state : State} {action : Action} {limits : Limits} {rate : SourceRate}
    {records : List Record} (ration : Ration state action limits rate records) (rule : Rule)
    (key : BucketKey) :
    ∃ op, Calls state.limits.ledger limits action op ∧
      Limits.totalSpent rule key state.limits.ledger op.toList =
        (records.map (action.costs rule key state)).sum := by
  -- A check spends the cost of what it lets in.
  have checked {request : LimitRequest} {bytes : Nat} {now : Instant} {record : Record}
      (weighs : action.weighs state record = some (request, bytes)) :
      Limits.totalSpent rule key state.limits.ledger [.check request bytes now] =
        ((admittedBy state.limits.ledger request bytes now record).map
          (action.costs rule key state)).sum := by
    simp only [Limits.totalSpent, Limits.spent, admittedBy, add_zero]
    cases (state.limits.ledger.check request bytes now).2 with
    | error => rfl
    | ok =>
      simp only [List.map_cons, List.map_nil, List.sum_cons, List.sum_nil, add_zero, Action.costs,
        weighs]
      rfl
  cases ration with
  | untouched => exact ⟨none, ⟨rfl, by simp, by simp⟩, rfl⟩
  | classed env group peerClass =>
    exact ⟨some (.setClass group peerClass), ⟨rfl, by simp [LimitOp.time?], by simp⟩, add_zero 0⟩
  | set env id newRate =>
    refine ⟨some (.setLimit id newRate), ⟨rfl, by simp [LimitOp.time?], ?_⟩, add_zero 0⟩
    rintro id rate ⟨⟩
    exact ⟨env, rfl⟩
  | swept env =>
    exact ⟨some (.sweep env.now), ⟨rfl, by simp [LimitOp.time?, Action.time?], by simp⟩, add_zero 0⟩
  | asked env peer connection request frame channel node group protocol payload =>
    refine ⟨some (.check (state.asking peer connection group protocol) frame.length env.now),
      ⟨rfl, by simp [LimitOp.time?, Action.time?], by simp⟩, checked ?_⟩
    rfl
  | passed env source id message topic node group payload =>
    refine ⟨some (.check (state.passedOn source group) message.data.length env.now),
      ⟨rfl, by simp [LimitOp.time?, Action.time?], by simp⟩, checked ?_⟩
    rfl
  | announced env source id message publisher node group payload published unblocked =>
    refine ⟨none, ⟨rfl, by simp, by simp⟩, ?_⟩
    split
    · exact (add_zero 0).symm
    · rfl

/-! Stretches of runs. -/

namespace Limits

theorem totalSpent_append (rule : Rule) (key : BucketKey) (limits : Limits)
    (first second : List LimitOp) :
    totalSpent rule key limits (first ++ second) =
      totalSpent rule key limits first + totalSpent rule key (first.foldl apply limits) second := by
  induction first generalizing limits with
  | nil => exact (zero_add _).symm
  | cons op rest inductionHypothesis =>
    rw [List.cons_append, totalSpent, totalSpent, inductionHypothesis, add_assoc]
    rfl

theorem NonDecreasing.earlier {now earlier : Instant} {ops : List LimitOp}
    (ordered : NonDecreasing now ops) (before : earlier ≤ now) : NonDecreasing earlier ops := by
  induction ops generalizing now earlier with
  | nil => trivial
  | cons op rest inductionHypothesis =>
    obtain ⟨forward, later⟩ := ordered
    cases timed : op.time? with
    | none =>
      rw [timed] at later
      refine ⟨?_, ?_⟩
      · rw [timed]
        exact le_refl _
      · rw [timed]
        exact inductionHypothesis later before
    | some time =>
      rw [timed] at forward later
      refine ⟨?_, ?_⟩
      · rw [timed]
        exact before.trans forward
      · rw [timed]
        exact later

theorem clock_mono {now earlier : Instant} (before : earlier ≤ now) (ops : List LimitOp) :
    clock earlier ops ≤ clock now ops := by
  induction ops generalizing now earlier with
  | nil => exact before
  | cons op rest inductionHypothesis =>
    apply inductionHypothesis
    dsimp only
    cases op.time? with
    | none => exact before
    | some time => exact le_refl _

end Limits

/-- Calls on the limits that are made by actions: by which, when and with what. -/
structure CallsOf (now : Instant) (actions : List Action) (ops : List LimitOp) : Prop where
  ordered : Clocked now actions → Limits.NonDecreasing now ops ∧
    Limits.clock now ops ≤ lastTime now actions
  timed : ∀ op ∈ ops, ∀ time ∈ op.time?, ∃ action ∈ actions, action.time? = some time
  setting : ∀ id rate, .setLimit id rate ∈ ops →
    ∃ env, .handle env (.command (.setLimit id rate)) ∈ actions

theorem callsOf_cons {now : Instant} {action : Action} {rest : List Action} {op : Option LimitOp}
    {ops : List LimitOp} (timed : ∀ call ∈ op, ∀ time ∈ call.time?, action.time? = some time)
    (setting : ∀ id rate, op = some (.setLimit id rate) →
      ∃ env, action = .handle env (.command (.setLimit id rate)))
    (later : CallsOf (action.time?.getD now) rest ops) :
    CallsOf now (action :: rest) (op.toList ++ ops) := by
  refine ⟨fun clocked => ?_, ?_, ?_⟩
  · obtain ⟨forward, clockedRest⟩ := clocked
    obtain ⟨ordered, within⟩ := later.ordered clockedRest
    -- A call that looks at the clock sees the time of its action.
    have called : Limits.NonDecreasing now op.toList ∧
        Limits.clock now op.toList ≤ action.time?.getD now := by
      cases op with
      | none => exact ⟨trivial, forward⟩
      | some call =>
        cases isTimed : call.time? with
        | none => simpa [Limits.NonDecreasing, Limits.clock, isTimed] using forward
        | some time =>
          have same := timed call rfl time isTimed
          rw [same] at forward
          simpa [Limits.NonDecreasing, Limits.clock, isTimed, same] using forward
    refine ⟨Limits.nonDecreasing_append.mpr ⟨called.1, ordered.earlier called.2⟩, ?_⟩
    rw [Limits.clock, List.foldl_append]
    exact (Limits.clock_mono called.2 ops).trans within
  · intro call member time isTimed
    rcases List.mem_append.mp member with own | inRest
    · exact ⟨action, List.mem_cons_self, timed call (Option.mem_toList.mp own) time isTimed⟩
    · obtain ⟨other, isOther, same⟩ := later.timed call inRest time isTimed
      exact ⟨other, List.mem_cons_of_mem _ isOther, same⟩
  · intro id rate member
    rcases List.mem_append.mp member with own | inRest
    · obtain ⟨env, rfl⟩ := setting id rate (Option.mem_toList.mp own)
      exact ⟨env, List.mem_cons_self⟩
    · obtain ⟨env, isOther⟩ := later.setting id rate inRest
      exact ⟨env, List.mem_cons_of_mem _ isOther⟩

namespace System

/-- What a stretch of a run costs under a rule, for a key. -/
def totalCharged (rule : Rule) (key : BucketKey) (system : System) (actions : List Action) : ℚ :=
  (Runs.trace step (fun system action => [system.charged rule key action]) system actions).sum

/-- A stretch of a run is calls on the limits, which spend what is let in. -/
theorem callsOf (rule : Rule) (key : BucketKey) (now : Instant) (system : System)
    (actions : List Action) :
    ∃ ops, CallsOf now actions ops ∧
      (actions.foldl step system).state.limits.ledger =
        ops.foldl Limits.apply system.state.limits.ledger ∧
      Limits.totalSpent rule key system.state.limits.ledger ops =
        system.totalCharged rule key actions := by
  induction actions generalizing system now with
  | nil => exact ⟨[], ⟨fun _ => ⟨trivial, le_refl now⟩, by simp, by simp⟩, rfl, rfl⟩
  | cons action rest inductionHypothesis =>
    obtain ⟨op, calls, spends⟩ := (system.ration action).calls rule key
    obtain ⟨ops, later, applied, spendLater⟩ :=
      inductionHypothesis (action.time?.getD now) (system.step action)
    refine ⟨op.toList ++ ops, callsOf_cons calls.timed calls.setting later, ?_, ?_⟩
    · rw [List.foldl_append, ← calls.applied]
      exact applied
    · rw [Limits.totalSpent_append, spends, ← calls.applied, spendLater]
      exact (List.sum_cons).symm

variable {config : Config} {localPeer : PeerId} {now : Instant}

/-- Take any run whose times do not go back and a stretch of it between `start` and
`stop`, and a limit that is in force when the stretch begins and that no command of
the stretch removes or changes. The requests and topic messages that the node
reports in the stretch and that the limit counts for one key (a peer, an IP prefix
or everyone) cost together at most the burst and what the rate adds from `start`
to `stop`. Each request and each message that the stretch reports was put to the limits
as they stood, at the time it came and with the length of its frame, and they answered
that it may pass. -/
theorem reports_rationed (before window : List Action) (rule : Rule) (key : BucketKey)
    (start stop : Instant) (clocked : Clocked 0 (before ++ window))
    (inForce : rule ∈ (after config localPeer now before).state.limits.rules)
    (unchanged : ∀ env rate, .handle env (.command (.setLimit rule.id rate)) ∈ window →
      rate = rule.rate)
    (inside : ∀ action ∈ window, ∀ time ∈ action.time?, start ≤ time ∧ time ≤ stop) :
    (after config localPeer now before).totalCharged rule key window ≤
        rule.rate.burst +
          rule.rate.amount * Limits.asMillis (stop - start) / rule.rate.intervalMs ∧
      ∀ inner action, inner ++ [action] <+: window →
        ∀ record ∈ letIn ((after config localPeer now (before ++ inner)).fresh action),
          record.header.kind ≠ .announcement →
            ∃ request bytes time,
              action.weighs (after config localPeer now (before ++ inner)).state record =
                some (request, bytes) ∧
              action.time? = some time ∧
              ((after config localPeer now (before ++ inner)).state.limits.check request bytes
                time).2 = .ok () := by
  refine ⟨?_, fun inner action _ record member => (ration _ action).weighed member⟩
  obtain ⟨earlier, calledEarlier, reached, -⟩ :=
    callsOf rule key 0 (System.start config localPeer now) before
  obtain ⟨ops, called, -, spends⟩ := callsOf rule key (lastTime 0 before)
    (after config localPeer now before) window
  obtain ⟨clockedBefore, clockedWindow⟩ := clocked_append.mp clocked
  obtain ⟨ordered, within⟩ := calledEarlier.ordered clockedBefore
  have sound : Limits.Sound (after config localPeer now before).state.limits.ledger
      (Limits.clock 0 earlier) := by
    rw [after, reached]
    exact Limits.sound_run ordered
  rw [← spends]
  refine Limits.totalSpent_within sound inForce key ?_
    ((called.ordered clockedWindow).1.earlier within) ?_
  · rintro op member rate rfl
    obtain ⟨env, sets⟩ := called.setting rule.id rate member
    exact unchanged env rate sets
  · intro op member time timed
    obtain ⟨action, isAction, same⟩ := called.timed op member time timed
    exact inside action isAction time same

end System

/-- The remote node asks again. -/
def Sample.asksAgain (request : InboundRequestId) : Action :=
  .handle Sample.env (.swarm (.rpc (.request Sample.remotePeer 0 request
    (Wire.encodeRequest Sample.remoteDelegation.toBytes "/echo/1" [5]) ⟨request⟩)))

/-- A limit of two requests at once for each peer, and a peer that asks three times. -/
def Sample.perPeerSet : Action :=
  .handle Sample.env (.command (.setLimit Limits.perPeerRule.id Limits.perPeerRule.rate))

/-- Two of its requests are reported, which is the bound. -/
theorem System.reports_rationed_burst :
    let limited := System.after Sample.config Sample.peer 0 [Sample.perPeerSet]
    let asked := [Sample.asksAgain 0, Sample.asksAgain 1, Sample.asksAgain 2]
    limited.totalCharged Limits.perPeerRule (.peer Sample.remotePeer) asked = 2 ∧
      limited.totalCharged Limits.perPeerRule (.peer Sample.remotePeer) asked ≤
        Limits.perPeerRule.rate.burst + Limits.perPeerRule.rate.amount *
          Limits.asMillis (Sample.env.now - Sample.env.now) / Limits.perPeerRule.rate.intervalMs := by
  refine ⟨by decide +kernel, (System.reports_rationed [Sample.perPeerSet]
    [Sample.asksAgain 0, Sample.asksAgain 1, Sample.asksAgain 2] Limits.perPeerRule
    (.peer Sample.remotePeer) Sample.env.now Sample.env.now ?_ ?_ ?_ ?_).1⟩
  · simp [Clocked, Sample.perPeerSet, Sample.asksAgain, Action.time?]
  · decide +kernel
  · simp [Sample.asksAgain]
  · simp [Sample.asksAgain, Action.time?]

/-! Announcements. -/

/-- How many of these events an action reports as announcements of this publisher. -/
def Action.announces (publisher : PeerId) (action : Action) (records : List Record) : Nat :=
  match action with
  | handle _ (.swarm (.gossipsub (.message _ _ message))) =>
    if message.source = some publisher then
      records.countP fun record => record.header.kind == .announcement
    else 0
  | _ => 0

theorem Action.announces_nothing (publisher : PeerId) (action : Action) {records : List Record}
    (others : ∀ record ∈ records, record.header.kind ≠ .announcement) :
    action.announces publisher records = 0 := by
  have count : (records.countP fun record => record.header.kind == .announcement) = 0 := by
    rw [List.countP_eq_zero]
    intro record member isAnnouncement
    exact others record member (by simpa using isAnnouncement)
  unfold announces
  split
  · rw [count]
    exact ite_self 0
  · rfl

theorem kind_of_admittedBy {limits : Limits} {request : LimitRequest} {bytes : Nat} {now : Instant}
    {record : Record} (different : record.header.kind ≠ .announcement) :
    ∀ tested ∈ admittedBy limits request bytes now record,
      tested.header.kind ≠ .announcement := by
  intro tested member
  unfold admittedBy at member
  split at member
  · rw [List.mem_singleton.mp member]
    exact different
  · cases member

/-- An announcement has a publisher. -/
theorem Ration.published {state : State} {action : Action} {limits : Limits} {rate : SourceRate}
    {records : List Record} (ration : Ration state action limits rate records) {record : Record}
    (member : record ∈ records) (kind : record.header.kind = .announcement) :
    ∃ publisher, 0 < action.announces publisher records := by
  cases ration with
  | announced env source id message publisher node group payload published unblocked =>
    refine ⟨publisher, ?_⟩
    simp only [Action.announces, published, if_true]
    exact List.countP_pos_iff.mpr ⟨record, member, by simpa using kind⟩
  | asked => exact absurd kind (kind_of_admittedBy (fun same => by cases same) record member)
  | passed => exact absurd kind (kind_of_admittedBy (fun same => by cases same) record member)
  | _ => cases member

theorem SourceRate.passed_append (publisher : PeerId) (rate : SourceRate)
    (first second : List LimitOp) :
    rate.passed publisher (first ++ second) =
      rate.passed publisher first + (first.foldl hear rate).passed publisher second := by
  induction first generalizing rate with
  | nil => exact (Nat.zero_add _).symm
  | cons op rest inductionHypothesis =>
    rw [List.cons_append, passed, passed, inductionHypothesis, Nat.add_assoc]
    rfl

/-- An action asks the rate of announcements at most once, and lets in what it
allows. -/
theorem Ration.hears {state : State} {action : Action} {limits : Limits} {rate : SourceRate}
    {records : List Record} (ration : Ration state action limits rate records)
    (publisher : PeerId) :
    ∃ op : Option LimitOp, rate = op.toList.foldl SourceRate.hear state.announceRate ∧
      (∀ call ∈ op, ∃ time, call.time? = some time ∧ action.time? = some time) ∧
      state.announceRate.passed publisher op.toList = action.announces publisher records := by
  have silent (others : ∀ record ∈ records, record.header.kind ≠ .announcement)
      (same : rate = state.announceRate) :
      ∃ op : Option LimitOp, rate = op.toList.foldl SourceRate.hear state.announceRate ∧
        (∀ call ∈ op, ∃ time, call.time? = some time ∧ action.time? = some time) ∧
        state.announceRate.passed publisher op.toList = action.announces publisher records :=
    ⟨none, same, by simp, (action.announces_nothing publisher others).symm⟩
  cases ration with
  | announced env source id message author node group payload published unblocked =>
    refine ⟨some (.check { group, peer := author, ip := Option.none, protocol := 0 } 1 env.now),
      rfl, ?_, ?_⟩
    · rintro call ⟨⟩
      exact ⟨env.now, rfl, rfl⟩
    · simp only [Option.toList_some, SourceRate.passed, SourceRate.passes, Action.announces,
        published, Option.some.injEq, add_zero]
      by_cases own : author = publisher
      · rw [if_pos own]
        cases (state.announceRate.allow author env.now).2 with
        | false => simp
        | true =>
          rw [if_pos ⟨own, rfl⟩]
          rfl
      · simp [own]
  | asked => exact silent (kind_of_admittedBy fun same => by cases same) rfl
  | passed => exact silent (kind_of_admittedBy fun same => by cases same) rfl
  | _ => exact silent (fun record member => by cases member) rfl

namespace System

variable {config : Config} {localPeer : PeerId} {now : Instant}

/-- How many announcements of a publisher an action reports. -/
def announcedBy (publisher : PeerId) (system : System) (action : Action) : Nat :=
  action.announces publisher (letIn (system.fresh action))

def totalAnnounced (publisher : PeerId) (system : System) (actions : List Action) : Nat :=
  (Runs.trace step (fun system action => [system.announcedBy publisher action]) system actions).sum

/-- A stretch of a run asks the rate of announcements, which lets through what is
reported. -/
theorem hearsOf (publisher : PeerId) (now : Instant) (system : System) (actions : List Action) :
    ∃ ops, CallsOf now actions ops ∧ (∀ op ∈ ops, op.time?.isSome = true) ∧
      (actions.foldl step system).state.announceRate =
        ops.foldl SourceRate.hear system.state.announceRate ∧
      system.state.announceRate.passed publisher ops = system.totalAnnounced publisher actions := by
  induction actions generalizing system now with
  | nil => exact ⟨[], ⟨fun _ => ⟨trivial, le_refl now⟩, by simp, by simp⟩, by simp, rfl, rfl⟩
  | cons action rest inductionHypothesis =>
    obtain ⟨op, heard, timed, passes⟩ := (system.ration action).hears publisher
    obtain ⟨ops, later, timedLater, heardLater, passesLater⟩ :=
      inductionHypothesis (action.time?.getD now) (system.step action)
    refine ⟨op.toList ++ ops, callsOf_cons ?_ ?_ later, ?_, ?_, ?_⟩
    · intro call isCall time isTime
      obtain ⟨same, isSame, ofAction⟩ := timed call isCall
      rw [ofAction, ← isSame, isTime]
    · rintro id rate rfl
      obtain ⟨time, isTime, -⟩ := timed _ rfl
      cases isTime
    · intro call member
      rcases List.mem_append.mp member with own | inRest
      · obtain ⟨time, isTime, -⟩ := timed call (Option.mem_toList.mp own)
        rw [isTime]
        rfl
      · exact timedLater call inRest
    · rw [List.foldl_append, ← heard]
      exact heardLater
    · rw [SourceRate.passed_append, passes, ← heard, passesLater]
      exact (List.sum_cons).symm

/-- The announcements that a node reports of one publisher in any stretch of a run
whose times do not go back: at most three, and one more for every ten seconds from
`start` to `stop`. Every announcement that it reports has a publisher. -/
theorem announcements_rationed (before window : List Action) (publisher : PeerId)
    (start stop : Instant) (clocked : Clocked 0 (before ++ window))
    (inside : ∀ action ∈ window, ∀ time ∈ action.time?, start ≤ time ∧ time ≤ stop) :
    ((after config localPeer now before).totalAnnounced publisher window : ℚ) ≤
        3 + Limits.asMillis (stop - start) / 10000 ∧
      ∀ inner action, inner ++ [action] <+: window →
        ∀ record ∈ letIn ((after config localPeer now (before ++ inner)).fresh action),
          record.header.kind = .announcement →
            ∃ other, 0 < (after config localPeer now (before ++ inner)).announcedBy other action := by
  constructor
  · obtain ⟨earlier, calledEarlier, timedEarlier, reached, -⟩ :=
      hearsOf publisher 0 (System.start config localPeer now) before
    obtain ⟨ops, called, timed, -, passes⟩ :=
      hearsOf publisher (lastTime 0 before) (after config localPeer now before) window
    obtain ⟨clockedBefore, clockedWindow⟩ := clocked_append.mp clocked
    obtain ⟨ordered, within⟩ := calledEarlier.ordered clockedBefore
    have ordersWindow := (called.ordered clockedWindow).1.earlier within
    have begins : (System.start config localPeer now).state.announceRate =
        SourceRate.new (Duration.fromMillis 10000) 3 := rfl
    -- The rate is that of a limiter with one limit, which is known to keep to it.
    have fresh : Limits.Agree 10000 3 _ _ 0 := Limits.agree_start (by decide) (by decide)
    have agree := fresh.foldl timedEarlier ordered
    rw [← begins, ← reached] at agree
    have unchanged (op : LimitOp) (member : op ∈ ops) :
        Limits.Preserves (Limits.perSource 10000 3) op := by
      rintro rate rfl
      cases timed _ member
    have bound := Limits.totalSpent_within agree.sound agree.inForce (.peer publisher) unchanged
      ordersWindow fun op member time isTime => by
        obtain ⟨action, isAction, same⟩ := called.timed op member time isTime
        exact inside action isAction time same
    rw [← agree.passed_eq publisher timed ordersWindow] at bound
    rw [← passes]
    simpa [Limits.perSource, after] using bound
  · exact fun inner action _ record member kind => (ration _ action).published member kind

end System

/-- The remote node publishes an announcement. -/
def Sample.announcesAgain (id : UInt8) : Action :=
  .handle Sample.env (.swarm (.gossipsub (.message Sample.remotePeer [id]
    { source := some Sample.remotePeer
      data := Wire.encodeAnnouncement Sample.remoteDelegation.toBytes [5, 6]
      topic := "announcements" })))

/-- Of four announcements at once three are reported. -/
theorem System.announcements_rationed_burst :
    let heard := [1, 2, 3, 4].map Sample.announcesAgain
    (System.start Sample.config Sample.peer 0).totalAnnounced Sample.remotePeer heard = 3 ∧
      ((System.start Sample.config Sample.peer 0).totalAnnounced Sample.remotePeer heard : ℚ) ≤
        3 + Limits.asMillis (Sample.env.now - Sample.env.now) / 10000 := by
  refine ⟨by decide +kernel, (System.announcements_rationed []
    ([1, 2, 3, 4].map Sample.announcesAgain) Sample.remotePeer Sample.env.now Sample.env.now
    ?_ ?_).1⟩
  · simp [Clocked, Sample.announcesAgain, Action.time?]
  · simp [Sample.announcesAgain, Action.time?]

/-! Groups that are blocked. -/

theorem Limits.classOf_setClass (limits : Limits) (group other : Key) (peerClass : Nat) :
    (limits.setClass group peerClass).classOf other =
      if other = group then peerClass else limits.classOf other := by
  unfold setClass classOf
  split
  · rename_i unknown
    dsimp only
    rw [Table.lookup_erase_if, unknown]
    split <;> rfl
  · dsimp only
    rw [Table.lookup_insert_if]
    split <;> rfl

/-- What is let in is of no group that is blocked. -/
theorem Ration.unblocked {state : State} {action : Action} {limits : Limits} {rate : SourceRate}
    {records : List Record} (ration : Ration state action limits rate records) {record : Record}
    (member : record ∈ records) :
    state.limits.classOf record.header.group ≠ classBlocked := by
  have checked {request : LimitRequest} {bytes : Nat} {now : Instant} {other : Record}
      (isLet : record ∈ admittedBy state.limits.ledger request bytes now other)
      (named : other.header.group = request.group) :
      state.limits.classOf record.header.group ≠ classBlocked := by
    intro blocked
    have refused : (state.limits.ledger.check request bytes now).2 = .error limitedBlocked := by
      rw [(Limits.check_cases _ _ _ _).1, Limits.checkUnswept, if_pos]
      unfold admittedBy at isLet
      split at isLet
      · rw [List.mem_singleton.mp isLet, named] at blocked
        exact blocked
      · cases isLet
    rw [admittedBy, refused] at isLet
    cases isLet
  cases ration with
  | asked => exact checked member rfl
  | passed => exact checked member rfl
  | announced env source id message publisher node group payload published unblocked =>
    split at member
    · rw [List.mem_singleton.mp member]
      exact unblocked
    · cases member
  | _ => cases member

/-- A class is set by a command for its group, and by nothing else. -/
theorem Ration.classOf {state : State} {action : Action} {limits : Limits} {rate : SourceRate}
    {records : List Record} (ration : Ration state action limits rate records) (group : Key) :
    limits.classOf group = state.limits.classOf group ∨
      ∃ env peerClass, action = .handle env (.command (.setClass group peerClass)) ∧
        limits.classOf group = peerClass := by
  cases ration with
  | classed env other peerClass =>
    rw [Limits.classOf_setClass]
    by_cases own : group = other
    · subst own
      exact .inr ⟨env, peerClass, rfl, if_pos rfl⟩
    · rw [if_neg own]
      exact .inl rfl
  | set env id newRate =>
    left
    unfold Limits.setLimit
    dsimp only
    split <;> rfl
  | asked =>
    left
    rw [Limits.classOf, Limits.check_classes]
    rfl
  | passed =>
    left
    rw [Limits.classOf, Limits.check_classes]
    rfl
  | _ => exact .inl rfl

namespace System

variable {config : Config} {localPeer : PeerId} {now : Instant}

/-- From the command on that blocks a group, and as long as no other gives it another
class, no request, topic message or announcement is reported in its name. -/
theorem blocked_unheard (before window : List Action) (env : Env) (group : Key)
    (kept : ∀ env peerClass, .handle env (.command (.setClass group peerClass)) ∈ window →
      peerClass = classBlocked) (inner : List Action) (action : Action)
    (inside : inner ++ [action] <+: window) :
    ∀ record ∈ letIn ((after config localPeer now
      (before ++ .handle env (.command (.setClass group classBlocked)) :: inner)).fresh action),
        record.header.group ≠ group := by
  have blocked (earlier : List Action) (within : earlier <+: window) :
      (after config localPeer now (before ++
        .handle env (.command (.setClass group classBlocked)) :: earlier)).state.limits.classOf
          group = classBlocked := by
    induction earlier using List.reverseRecOn with
    | nil =>
      rw [after_append_singleton]
      change (Limits.setClass _ group classBlocked).classOf group = classBlocked
      rw [Limits.classOf_setClass, if_pos rfl]
    | append_singleton earlier last inductionHypothesis =>
      have same := inductionHypothesis ((List.prefix_append earlier [last]).trans within)
      rw [← List.cons_append, ← List.append_assoc, after_append_singleton]
      rcases (ration _ last).classOf group with unchanged | ⟨env, peerClass, rfl, classed⟩
      · exact unchanged.trans same
      · have isBlocked := kept env peerClass
          (within.subset (List.mem_append_right _ List.mem_cons_self))
        exact classed.trans isBlocked
  intro record member named
  have allowed := (ration _ action).unblocked member
  rw [named] at allowed
  exact allowed (blocked inner ((List.prefix_append inner [action]).trans inside))

end System

/-- The request of a group that was blocked is reported to nobody, unlike before. -/
theorem System.blocked_unheard_request :
    letIn ((System.start Sample.config Sample.peer 0).fresh (Sample.asksAgain 0)) ≠ [] ∧
      ∀ record ∈ letIn ((System.after Sample.config Sample.peer 0
        [.handle Sample.env (.command (.setClass Sample.group classBlocked))]).fresh
          (Sample.asksAgain 0)), record.header.group ≠ Sample.group := by
  refine ⟨by decide +kernel, System.blocked_unheard [] [Sample.asksAgain 0] Sample.env Sample.group
    ?_ [] (Sample.asksAgain 0) (List.prefix_refl _)⟩
  simp [Sample.asksAgain]

end Libp2pFfi
