import Libp2pFfi.Agenda
import Libp2pFfi.Pacing
import Libp2pFfi.Rationing

/-!
# When the node goes to the DHT on its own

The group's provider record is published again at moments that libp2p's own schedule
misses: many things make it due, and a tick publishes it, but not within two seconds
of the last time. A topic is looked up when it is followed, and again by every tick
that finds it without a mesh peer half a minute after its last lookup. The state
remembers no more than when it was last; over whole runs that decides about all the
times before.
-/

namespace Libp2pFfi

/-- Actions in which the node sees to its records: the start, and ticks. -/
def Action.upkeep? : Action → Option Env
  | .ready env => some env
  | .handle env .tick => some env
  | _ => none

/-- How often a record was taken to the DHT. -/
def published (record : Bytes) (log : List Entry) : Nat := (lines log).count (.published record)

/-- How often a topic was looked up. -/
def lookups (key : Key) (log : List Entry) : Nat := (lines log).count (.lookedUp key)

/-! Time. -/

theorem le_lastTime {now : Instant} {actions : List Action} (clocked : Clocked now actions) :
    now ≤ lastTime now actions := by
  induction actions generalizing now with
  | nil => exact le_refl now
  | cons action rest inductionHypothesis => exact clocked.1.trans (inductionHypothesis clocked.2)

/-- Of two actions that look at the clock, the later one sees a later time. -/
theorem Clocked.le {now first second : Instant} {before between : List Action}
    {made next : Action} (clocked : Clocked now (before ++ made :: (between ++ [next])))
    (isFirst : made.time? = some first) (isSecond : next.time? = some second) : first ≤ second := by
  obtain ⟨-, -, rest⟩ := clocked_append.mp clocked
  rw [isFirst, Option.getD_some] at rest
  obtain ⟨passed, notBefore, -⟩ := clocked_append.mp rest
  rw [isSecond, Option.getD_some] at notBefore
  exact (le_lastTime passed).trans notBefore

theorem Clocked.take {now : Instant} {actions before : List Action} (clocked : Clocked now actions)
    (earlier : before <+: actions) : Clocked now before := by
  obtain ⟨rest, rfl⟩ := earlier
  exact (clocked_append.mp clocked).1

/-- What actions do at their own time is done in order. -/
theorem Clocked.inOrder {config : Config} {localPeer : PeerId} {now : Instant}
    {actions : List Action} (clocked : Clocked now actions)
    {done : System → Action → Option Instant}
    (timed : ∀ system action time, done system action = some time → action.time? = some time) :
    Runs.InOrder System.step (System.start config localPeer now) done actions := by
  intro before made between next first second inside doneFirst doneSecond
  exact (clocked.take inside).le (timed _ _ _ doneFirst) (timed _ _ _ doneSecond)

theorem waited_iff {now : Instant} {wait : Duration} (positive : 0 < wait)
    {since : Option Instant} :
    waited now wait since = true ↔ ∀ time, since = some time → time + wait ≤ now := by
  cases since with
  | none => simp [waited]
  | some time =>
    simp only [waited, ge_iff_le, decide_eq_true_eq, Option.some.injEq, forall_eq']
    constructor
    · intro old
      have past : time ≤ now := (Nat.lt_of_sub_pos (positive.trans_le old)).le
      exact (Nat.le_sub_iff_add_le' past).mp old
    · exact Nat.le_sub_of_add_le'

/-- What has waited since it was last done has waited since every time that it was done
and is not forgotten. -/
theorem waited_all_iff {config : Config} {localPeer : PeerId} {now moment : Instant}
    {actions : List Action} {last : System → Option Instant}
    {done : System → Action → Option Instant} {forgets : System → Action → Prop} {wait : Duration}
    (remembers : Runs.Remembers System.step last done forgets)
    (initially : last (System.start config localPeer now) = none)
    (timed : ∀ system action time, done system action = some time → action.time? = some time)
    (clocked : Clocked now actions) (positive : 0 < wait) :
    waited moment wait (last (System.after config localPeer now actions)) = true ↔
      ∀ earlier made later time, actions = earlier ++ made :: later →
        done (System.after config localPeer now earlier) made = some time →
        Runs.Admissible System.step ((System.after config localPeer now earlier).step made)
          (fun system action => ¬ forgets system action) later → time + wait ≤ moment := by
  have closed (first second : Instant) (order : first ≤ second) (old : second + wait ≤ moment) :
      first + wait ≤ moment :=
    (Nat.add_le_add_right order wait).trans old
  rw [waited_iff positive]
  exact remembers.all_iff initially (clocked.inOrder timed) closed

/-! What is planned. -/

/-- Notes that are about the group's record or about a topic. -/
def Note.ofPlan : Note → Bool
  | learn _ _ => false
  | publish _ => false
  | report _ => false
  | _ => true

/-- Whether a subscription is made. -/
def State.follows (env : Env) (state : State) (key : Key) : Bool :=
  !((state.topics.lookup key).isSome || state.topics.len ≥ state.topicMaxSubscriptions) &&
    env.subscribes (Wire.topicName key)

namespace System

/-- What makes the group's record due: a relay that accepted a reservation, a peer that
is new to the routing table, the end of a bootstrap, and a verdict that changes what the
node acts as. -/
def asks (system : System) : Action → Bool
  | .handle _ (.swarm (.newListenAddr _ address)) => isRelayed address
  | .handle _ (.swarm (.kad (.routingUpdated _ _ isNewPeer))) => isNewPeer
  | .handle _ (.swarm (.kad (.progressed _ (.bootstrap _) last))) => last
  | .handle _ (.swarm (.autonat status)) =>
    system.state.configured = .unknown ∧ system.state.verdict status ≠ system.state.reachability
  | _ => false

/-- What an action notes about the record and the topics. -/
def plans (system : System) : Action → List Note
  | .ready env => [.provide env.now]
  | .handle env .tick =>
    (system.state.lonely env).map (fun key => .lookUp key env.now) ++
      if system.state.republishes env then [.provide env.now] else []
  | .handle env (.command (.topicSubscribe key)) =>
    if system.state.follows env key then
      [.follow key (Wire.topicName key), .lookUp key env.now]
    else []
  | .handle _ (.command (.topicUnsubscribe key)) => system.state.unsubscribeNotes key
  | action => if system.asks action then [.ask] else []

theorem plans_learn (peer : PeerId) (addresses : List Multiaddr) :
    (addresses.map (Note.learn peer)).filter Note.ofPlan = [] := by
  simp [List.filter_eq_nil_iff, Note.ofPlan]

theorem plans_report {α : Type} (records : α → Record) (items : List α) :
    (items.map fun item => Note.report (records item)).filter Note.ofPlan = [] := by
  simp [List.filter_eq_nil_iff, Note.ofPlan]

theorem plans_publish (env : Env) (key : Bytes) :
    (State.publishNotes env key).filter Note.ofPlan = [] := by
  unfold State.publishNotes
  split <;> rfl

theorem plans_provide (env : Env) (group : Key) :
    (State.provideNotes env group).filter Note.ofPlan = [.provide env.now] := by
  rw [State.provideNotes, List.filter_append, plans_publish]
  rfl

theorem plans_subscribe (env : Env) (state : State) (key : Key) :
    (state.subscribeNotes env key).filter Note.ofPlan =
      if state.follows env key then [.follow key (Wire.topicName key), .lookUp key env.now]
      else [] := by
  have made : (Note.follow key (Wire.topicName key) :: State.publishNotes env
      (Wire.providerKey env.crates key) ++ [Note.lookUp key env.now]).filter Note.ofPlan =
        [.follow key (Wire.topicName key), .lookUp key env.now] := by
    rw [List.filter_append, List.filter_cons, plans_publish]
    rfl
  unfold State.subscribeNotes State.follows
  cases (state.topics.lookup key).isSome ||
    decide (state.topics.len ≥ state.topicMaxSubscriptions) with
  | true => rfl
  | false =>
    cases env.subscribes (Wire.topicName key) with
    | true => exact made
    | false => rfl

theorem plans_kad (env : Env) (system : System) (state : State) (event : KadEvent) :
    (state.kadNotes env event).filter Note.ofPlan =
      system.plans (.handle env (.swarm (.kad event))) := by
  cases event with
  | routingUpdated peer addresses isNewPeer =>
    rw [State.kadNotes, List.filter_append, plans_learn]
    cases isNewPeer <;> rfl
  | progressed query result last =>
    cases result with
    | getProviders result =>
      change (state.providersNotes env query result).filter Note.ofPlan = []
      unfold State.providersNotes
      split
      · rfl
      · split
        · exact plans_report _ _
        · rfl
    | getClosestPeers peers =>
      change (state.closestNotes env query peers).filter Note.ofPlan = []
      rw [State.closestNotes, List.filter_append, List.append_eq_nil_iff]
      constructor
      · rw [List.filter_flatMap]
        exact List.flatMap_eq_nil_iff.mpr fun info _ => plans_learn info.peer info.addrs
      · split
        · rfl
        · split
          · exact plans_report _ _
          · rfl
    | bootstrap ok => cases last <;> rfl
    | other => rfl
  | other => rfl

theorem filter_notes (system : System) (action : Action) :
    (system.notes action).filter Note.ofPlan = system.plans action := by
  cases action with
  | ready env => exact plans_provide env _
  | handle env input =>
    cases input with
    | command sent =>
      cases sent with
      | addAddress node address =>
        change (State.addAddressNotes env node address).filter Note.ofPlan = []
        unfold State.addAddressNotes
        cases peerId env.crates node <;> rfl
      | topicSubscribe key => exact plans_subscribe env system.state key
      | topicUnsubscribe key =>
        change (system.state.unsubscribeNotes key).filter Note.ofPlan =
          system.state.unsubscribeNotes key
        unfold State.unsubscribeNotes
        split <;> rfl
      | provide key stop =>
        cases stop with
        | true => rfl
        | false => exact plans_publish env _
      | _ => rfl
    | swarm event =>
      cases event with
      | newListenAddr listener address =>
        change (State.listenNotes address).filter Note.ofPlan = if isRelayed address then _ else _
        unfold State.listenNotes
        split <;> rfl
      | kad event => exact plans_kad env system _ event
      | identified peer info => exact plans_learn peer info.listenAddrs
      | autonat status =>
        change (State.natNotes system.state status).filter Note.ofPlan =
          if decide _ = true then _ else _
        unfold State.natNotes
        simp only [decide_eq_true_eq]
        split <;> rfl
      | _ => rfl
    | tick =>
      have looksUp : ((system.state.lonely env).map fun key => Note.lookUp key env.now).filter
          Note.ofPlan = (system.state.lonely env).map fun key => Note.lookUp key env.now := by
        simp [List.filter_eq_self, Note.ofPlan]
      change (State.tickNotes env system.state).filter Note.ofPlan = _
      rw [State.tickNotes, List.filter_append, looksUp, plans]
      congr 1
      split
      · exact plans_provide env _
      · rfl
  | _ => rfl

/-- What is planned is all there is to note about the record and the topics. -/
theorem filter_plans {part : Note → Bool} (planned : ∀ note, part note = true → note.ofPlan = true)
    (system : System) (action : Action) :
    (system.notes action).filter part = (system.plans action).filter part := by
  rw [← filter_notes, List.filter_filter]
  refine List.filter_congr fun note _ => ?_
  cases own : part note with
  | false => rfl
  | true => rw [planned note own]; rfl

end System

/-! The group's record. -/

def Note.ofRecord : Note → Bool
  | ask => true
  | provide _ => true
  | _ => false

namespace Agenda

def Standing.note (standing : Standing) : Note → Standing
  | .ask => { standing with provideDue := true }
  | .provide now => { standing with provideDue := false, lastProvide := some now }
  | _ => standing

theorem standing_notes (notes : List Note) (agenda : Agenda) :
    (notes.foldl Agenda.note agenda).standing =
      (notes.filter Note.ofRecord).foldl Standing.note agenda.standing := by
  induction notes generalizing agenda with
  | nil => rfl
  | cons note rest inductionHypothesis =>
    rw [List.foldl_cons, inductionHypothesis]
    by_cases own : note.subject = .record
    · cases note <;> first | rfl | cases own
    · rw [agenda.standing_note own]
      cases note <;> first | rfl | exact absurd rfl own

end Agenda

namespace System

/-- When an action tries to publish the record. -/
def providesAt (system : System) : Action → Option Instant
  | .ready env => some env.now
  | .handle env .tick => if system.state.republishes env then some env.now else none
  | _ => none

/-- What an action notes about the record. -/
def recordNotes (system : System) (action : Action) : List Note :=
  match system.providesAt action with
  | some time => [.provide time]
  | none => if system.asks action then [.ask] else []

theorem filter_record (system : System) (action : Action) :
    (system.notes action).filter Note.ofRecord = system.recordNotes action := by
  have asked : (if system.asks action then [Note.ask] else []).filter Note.ofRecord =
      if system.asks action then [.ask] else [] := by
    split <;> rfl
  rw [filter_plans (fun note own => by cases note <;> first | rfl | cases own)]
  cases action with
  | ready env => rfl
  | handle env input =>
    cases input with
    | command sent =>
      cases sent with
      | topicSubscribe key =>
        change (if _ then _ else _ : List Note).filter Note.ofRecord = []
        split <;> rfl
      | topicUnsubscribe key =>
        change (system.state.unsubscribeNotes key).filter Note.ofRecord = []
        unfold State.unsubscribeNotes
        split <;> rfl
      | _ => rfl
    | swarm event => exact asked
    | tick =>
      have looksUp : ((system.state.lonely env).map fun key => Note.lookUp key env.now).filter
          Note.ofRecord = [] := by
        simp [List.filter_eq_nil_iff, Note.ofRecord]
      rw [plans, List.filter_append, looksUp, List.nil_append, recordNotes, providesAt]
      split <;> rfl
  | _ => rfl

/-- What an action makes of the record. -/
theorem record_step (system : System) (action : Action) :
    (system.step action).state.agenda.standing =
      (system.recordNotes action).foldl Agenda.Standing.note system.state.agenda.standing := by
  rw [(writes_step system action).agenda, Agenda.standing_notes, filter_record]

/-- The state remembers when it last tried to publish the record. -/
theorem remembers_provide :
    Runs.Remembers step (fun system => system.state.lastProvide) providesAt fun _ _ => False := by
  refine ⟨fun system action time tried => ?_, fun system action idle _ => ?_,
    fun _ _ never => never.elim⟩
  · have standing := record_step system action
    rw [recordNotes, tried] at standing
    exact congrArg Agenda.Standing.lastProvide standing
  · have standing := record_step system action
    rw [recordNotes, idle] at standing
    refine (congrArg Agenda.Standing.lastProvide standing).trans ?_
    dsimp only
    split <;> rfl

/-- Whether the record is due. -/
def due? (system : System) : Option Unit := if system.state.provideDue then some () else none

theorem due?_eq_some {system : System} :
    system.due? = some () ↔ system.state.provideDue = true := by
  simp [due?]

/-- Nothing asks and tries at once. -/
theorem providesAt_of_asks {system : System} {action : Action} (asks : system.asks action = true) :
    system.providesAt action = none := by
  cases action with
  | ready => cases asks
  | handle env input =>
    cases input with
    | tick => cases asks
    | _ => rfl
  | _ => rfl

/-- The record stays due until the state tries to publish it. -/
theorem remembers_due :
    Runs.Remembers step due? (fun system action => if system.asks action then some () else none)
      fun system action => system.providesAt action ≠ none := by
  refine ⟨fun system action _ asked => ?_, fun system action idle untried => ?_,
    fun system action tried => ?_⟩
  · have asks : system.asks action = true := by
      by_contra unasked
      simp [unasked] at asked
    have standing := record_step system action
    rw [recordNotes, providesAt_of_asks asks, asks] at standing
    exact due?_eq_some.mpr (congrArg Agenda.Standing.provideDue standing)
  · have quiet : system.asks action = false := by
      by_contra asks
      simp [asks] at idle
    have standing := record_step system action
    rw [recordNotes, not_not.mp untried, quiet] at standing
    have same : (system.step action).state.provideDue = system.state.provideDue :=
      congrArg Agenda.Standing.provideDue standing
    rw [due?, due?, same]
  · obtain ⟨time, isTried⟩ := Option.ne_none_iff_exists'.mp tried
    have standing := record_step system action
    rw [recordNotes, isTried] at standing
    have cleared : (system.step action).state.provideDue = false :=
      congrArg Agenda.Standing.provideDue standing
    rw [due?, cleared]
    rfl

/-- The start or a tick takes a record to the DHT. -/
def Publishes (record : Bytes) (system : System) (action : Action) : Prop :=
  action.upkeep?.isSome ∧
    published record system.state.log < published record (system.step action).state.log

theorem lines_provideNotes (env : Env) (group : Key) :
    (State.provideNotes env group).filterMap Note.line? =
      if env.startsProviding (Wire.providerKey env.crates group) then
        [.published (Wire.providerKey env.crates group)]
      else [] := by
  unfold State.provideNotes State.publishNotes
  split <;> rfl

theorem lines_tickNotes (env : Env) (state : State) :
    (state.tickNotes env).filterMap Note.line? =
      (state.lonely env).map Line.lookedUp ++
        if state.republishes env then (State.provideNotes env state.group).filterMap Note.line?
        else [] := by
  rw [State.tickNotes, List.filterMap_append, List.filterMap_map]
  congr 1
  · exact congrFun List.filterMap_eq_map _
  · split <;> rfl

/-- The start and a tick publish the record exactly if they try to and the local store
does not refuse. -/
theorem publishes_iff {record : Bytes} {system : System} {action : Action} {env : Env}
    (upkeep : action.upkeep? = some env)
    (own : Wire.providerKey env.crates system.state.group = record) :
    system.Publishes record action ↔
      system.providesAt action ≠ none ∧ env.startsProviding record = true := by
  subst own
  have counted := congrArg
    (List.count (.published (Wire.providerKey env.crates system.state.group)))
    (writes_step system action).lines
  rw [List.count_append] at counted
  unfold Publishes published
  rw [counted, upkeep]
  have provides : 0 < ((State.provideNotes env system.state.group).filterMap Note.line?).count
      (.published (Wire.providerKey env.crates system.state.group)) ↔
        env.startsProviding (Wire.providerKey env.crates system.state.group) = true := by
    rw [lines_provideNotes]
    split <;> simp [*]
  cases action with
  | ready started =>
    obtain rfl := Option.some.inj upkeep
    change _ ∧
      _ < _ + ((State.provideNotes started system.state.group).filterMap Note.line?).count _ ↔ _
    rw [Nat.lt_add_right_iff_pos, provides]
    simp [providesAt]
  | handle ticked input =>
    cases input with
    | tick =>
      obtain rfl := Option.some.inj upkeep
      change _ ∧ _ < _ + ((State.tickNotes ticked system.state).filterMap Note.line?).count _ ↔ _
      have lookedUp : ((system.state.lonely ticked).map Line.lookedUp).count
          (.published (Wire.providerKey ticked.crates system.state.group)) = 0 := by
        simp [List.count_eq_zero]
      rw [lines_tickNotes, List.count_append, lookedUp, Nat.zero_add, Nat.lt_add_right_iff_pos]
      by_cases due : system.state.republishes ticked = true
      · rw [if_pos due, provides]
        simp [providesAt, due]
      · rw [if_neg due]
        simp [providesAt, due]
    | _ => cases upkeep
  | _ => cases upkeep

theorem time_of_providesAt {system : System} {action : Action} {time : Instant}
    (tried : system.providesAt action = some time) : action.time? = some time := by
  cases action with
  | ready env => exact tried
  | handle env input =>
    cases input with
    | tick =>
      change (if _ then _ else none) = some time at tried
      split at tried
      · exact tried
      · cases tried
    | _ => cases tried
  | _ => cases tried

/-- The group of a node stays that of its delegation. -/
theorem group_after (config : Config) (localPeer : PeerId) (now : Instant) (actions : List Action) :
    (after config localPeer now actions).state.group = config.delegation.group := by
  refine Runs.unchanged step _ (fun system => system.state.group) (fun system action => ?_) actions
  refine (congrArg Agenda.Standing.group (record_step system action)).trans ?_
  unfold recordNotes
  split
  · rfl
  · split <;> rfl

theorem after_append_cons (config : Config) (localPeer : PeerId) (now : Instant)
    (earlier later : List Action) (made : Action) :
    after config localPeer now (earlier ++ made :: later) =
      later.foldl step ((after config localPeer now earlier).step made) := by
  rw [after, List.foldl_append]
  rfl

section

variable {crates : Crates} {config : Config} {localPeer : PeerId} {now : Instant}
  {actions before earlier later : List Action} {action : Action} {time : Instant}

/-- What is published was tried, and what was tried is published unless the store refuses. -/
theorem Run.publishes_iff (run : Run crates config localPeer now actions)
    (inside : earlier ++ [action] <+: actions) {env : Env} (upkeep : action.upkeep? = some env) :
    (after config localPeer now earlier).Publishes
        (Wire.providerKey crates config.delegation.group) action ↔
      (after config localPeer now earlier).providesAt action ≠ none ∧
        env.startsProviding (Wire.providerKey crates config.delegation.group) = true := by
  have enabled : (after config localPeer now earlier).Enabled crates action :=
    run earlier action inside
  have own : env.crates = crates := by
    cases action with
    | ready => exact Option.some.inj upkeep ▸ enabled.1
    | handle ticked input =>
      cases input with
      | tick => exact Option.some.inj upkeep ▸ enabled.1
      | _ => cases upkeep
    | _ => cases upkeep
  refine System.publishes_iff upkeep ?_
  rw [own, group_after]

theorem Run.tried_of_publishes (run : Run crates config localPeer now actions)
    (inside : earlier ++ [action] <+: actions)
    (publishes : (after config localPeer now earlier).Publishes
      (Wire.providerKey crates config.delegation.group) action) :
    ∃ time, (after config localPeer now earlier).providesAt action = some time := by
  obtain ⟨env, upkeep⟩ := Option.isSome_iff_exists.mp publishes.1
  exact Option.ne_none_iff_exists'.mp ((run.publishes_iff inside upkeep).mp publishes).1

/-- The record has waited exactly if it has since every time it was tried. -/
theorem waited_provide_iff {moment : Instant} (clocked : Clocked now actions) :
    waited moment provideDebounce (after config localPeer now actions).state.lastProvide = true ↔
      ∀ earlier made later time, actions = earlier ++ made :: later →
        (after config localPeer now earlier).providesAt made = some time →
          time + provideDebounce ≤ moment := by
  refine (waited_all_iff remembers_provide rfl (fun _ _ _ => time_of_providesAt) clocked
    (by decide)).trans ?_
  constructor
  · intro old earlier made later time split tried
    exact old earlier made later time split tried fun _ _ _ => id
  · intro old earlier made later time split tried _
    exact old earlier made later time split tried

/-- A tick publishes the record only if something asked for it since the last time, and
not within the time it waits. -/
theorem published_for_cause {env : Env}
    (run : Run crates config localPeer now (before ++ [.handle env .tick]))
    (clocked : Clocked now (before ++ [.handle env .tick]))
    (publishes : (after config localPeer now before).Publishes
      (Wire.providerKey crates config.delegation.group) (.handle env .tick)) :
    (∃ earlier asking later, before = earlier ++ asking :: later ∧
        (after config localPeer now earlier).asks asking = true ∧
          ∀ between next rest, later = between ++ next :: rest →
            ¬ (after config localPeer now (earlier ++ asking :: between)).Publishes
              (Wire.providerKey crates config.delegation.group) next) ∧
      ∀ earlier made later time, before = earlier ++ made :: later →
        (after config localPeer now earlier).Publishes
          (Wire.providerKey crates config.delegation.group) made →
        made.time? = some time → time + provideDebounce ≤ env.now := by
  obtain ⟨time, tried⟩ := run.tried_of_publishes (List.prefix_refl _) publishes
  have republishes : (after config localPeer now before).state.republishes env = true := by
    by_contra idle
    simp [providesAt, idle] at tried
  obtain ⟨due, waits⟩ := Bool.and_eq_true_iff.mp republishes
  have earlierRun := run.take (List.prefix_append before _)
  constructor
  · have initially : (start config localPeer now).due? = none := rfl
    obtain ⟨earlier, asking, later, rfl, asked, kept⟩ :=
      remembers_due.was_done initially (due?_eq_some.mpr due)
    refine ⟨earlier, asking, later, rfl, ?_, ?_⟩
    · by_contra silent
      change (if (after config localPeer now earlier).asks asking then some () else none) =
        _ at asked
      rw [if_neg silent] at asked
      cases asked
    · rintro between next rest rfl publishesToo
      obtain ⟨time, triedToo⟩ := earlierRun.tried_of_publishes (by simp) publishesToo
      have quiet := kept between next (by simp)
      rw [after_append_cons] at triedToo
      exact quiet (triedToo ▸ Option.some_ne_none time)
  · rintro earlier made later time rfl publishesToo isTime
    have past := (waited_provide_iff (clocked.take (List.prefix_append _ _))).mp waits
    obtain ⟨moment, triedToo⟩ := earlierRun.tried_of_publishes (by simp) publishesToo
    obtain rfl := Option.some.inj ((time_of_providesAt triedToo).symm.trans isTime)
    exact past earlier made later moment rfl triedToo

theorem upkeep_of_providesAt {system : System}
    (tried : system.providesAt action = some time) : ∃ env, action.upkeep? = some env := by
  cases action with
  | ready env => exact ⟨env, rfl⟩
  | handle env input =>
    cases input with
    | tick => exact ⟨env, rfl⟩
    | _ => cases tried
  | _ => cases tried

/-- What has asked for the record and was not answered since keeps it due, and nothing
is tried meanwhile. -/
theorem due_until_tried {asking : Action}
    (asked : (after config localPeer now earlier).asks asking = true)
    (quiet : Runs.Admissible step ((after config localPeer now earlier).step asking)
      (fun system action => system.providesAt action = none) later) :
    (after config localPeer now (earlier ++ asking :: later)).state.provideDue = true ∧
      (after config localPeer now (earlier ++ asking :: later)).state.lastProvide =
        (after config localPeer now earlier).state.lastProvide := by
  constructor
  · have isDone : (if (after config localPeer now earlier).asks asking then some () else none) =
        some () := if_pos asked
    obtain ⟨⟨⟩, due, -⟩ := remembers_due.not_before (fun _ _ _ _ _ _ _ _ _ => le_refl ()) isDone
      fun between next inside => not_not.mpr (quiet between next inside)
    exact due?_eq_some.mp due
  · rw [after_append_cons]
    refine (remembers_provide.kept fun between next inside =>
      ⟨quiet between next inside, not_false⟩).trans ?_
    exact remembers_provide.keeps _ _ (providesAt_of_asks asked) not_false

/-- Once something has asked for it, the record is published by the first tick that may,
if it was not before, unless the local store refuses. -/
theorem published_when_due {asking : Action} {env : Env}
    (run : Run crates config localPeer now (earlier ++ asking :: (later ++ [.handle env .tick])))
    (clocked : Clocked now (earlier ++ asking :: (later ++ [.handle env .tick])))
    (asked : (after config localPeer now earlier).asks asking = true)
    (isTime : asking.time? = some time) (late : time + provideDebounce ≤ env.now)
    (takes : ∀ action ∈ later ++ [.handle env .tick], ∀ seen, action.upkeep? = some seen →
      seen.startsProviding (Wire.providerKey crates config.delegation.group) = true) :
    ∃ between next rest, later ++ [.handle env .tick] = between ++ next :: rest ∧
      (after config localPeer now (earlier ++ asking :: between)).Publishes
        (Wire.providerKey crates config.delegation.group) next := by
  by_contra never
  -- Whatever is tried is published, so nothing is tried.
  have untried (between : List Action) (next : Action) (rest : List Action)
      (split : later ++ [.handle env .tick] = between ++ next :: rest) :
      (after config localPeer now (earlier ++ asking :: between)).providesAt next = none := by
    rw [Option.eq_none_iff_forall_ne_some]
    intro moment tried
    obtain ⟨seen, upkeep⟩ := upkeep_of_providesAt tried
    refine never ⟨between, next, rest, split, (run.publishes_iff ?_ upkeep).mpr
      ⟨tried ▸ Option.some_ne_none moment, takes next ?_ seen upkeep⟩⟩
    · rw [split]
      simp
    · rw [split]
      simp
  have quiet : Runs.Admissible step ((after config localPeer now earlier).step asking)
      (fun system action => system.providesAt action = none) later := by
    rintro between next ⟨rest, rfl⟩
    rw [← after_append_cons]
    exact untried between next (rest ++ [.handle env .tick]) (by simp)
  obtain ⟨due, last⟩ := due_until_tried asked quiet
  have waits : waited env.now provideDebounce
      (after config localPeer now earlier).state.lastProvide = true := by
    refine (waited_provide_iff (clocked.take (List.prefix_append _ _))).mpr ?_
    rintro first made between moment rfl tried
    have inside : first ++ made :: (between ++ [asking]) <+:
        first ++ made :: between ++ asking :: (later ++ [.handle env .tick]) :=
      ⟨later ++ [.handle env .tick], by simp⟩
    have passed : moment ≤ time := (clocked.take inside).le (time_of_providesAt tried) isTime
    exact (Nat.add_le_add_right passed provideDebounce).trans late
  have tried := untried later (.handle env .tick) [] rfl
  have republishes :
      (after config localPeer now (earlier ++ asking :: later)).state.republishes env = true :=
    Bool.and_eq_true_iff.mpr ⟨due, last ▸ waits⟩
  rw [providesAt, if_pos republishes] at tried
  cases tried

end

/-- The group's record is published again when it should be: a tick does it only if
something has asked for it since the last time, and two seconds after every other time
at the earliest; and once something has asked, the first tick after two seconds finds it
published again or does it, unless the local store refuses. -/
theorem record_republished {crates : Crates} {config : Config} {localPeer : PeerId} {now : Instant}
    {before : List Action} {env : Env}
    (run : Run crates config localPeer now (before ++ [.handle env .tick]))
    (clocked : Clocked now (before ++ [.handle env .tick])) :
    let record := Wire.providerKey crates config.delegation.group
    ((after config localPeer now before).Publishes record (.handle env .tick) →
      (∃ earlier asking later, before = earlier ++ asking :: later ∧
        (after config localPeer now earlier).asks asking = true ∧
        ∀ between next rest, later = between ++ next :: rest →
          ¬ (after config localPeer now (earlier ++ asking :: between)).Publishes record next) ∧
      ∀ earlier made later time, before = earlier ++ made :: later →
        (after config localPeer now earlier).Publishes record made → made.time? = some time →
          time + provideDebounce ≤ env.now) ∧
    ∀ earlier asking later time, before = earlier ++ asking :: later →
      (after config localPeer now earlier).asks asking = true → asking.time? = some time →
      time + provideDebounce ≤ env.now →
      (∀ action ∈ later ++ [.handle env .tick], ∀ seen, action.upkeep? = some seen →
        seen.startsProviding record = true) →
      ∃ between next rest, later ++ [.handle env .tick] = between ++ next :: rest ∧
        (after config localPeer now (earlier ++ asking :: between)).Publishes record next := by
  intro record
  refine ⟨published_for_cause run clocked, ?_⟩
  rintro earlier asking later time rfl asked isTime late takes
  rw [List.append_assoc, List.cons_append] at run clocked
  exact published_when_due run clocked asked isTime late takes

end System

/-- Two seconds after the start. -/
def Sample.rested : Env := { Sample.env with now := provideDebounce }

/-- A peer that is new to the routing table. -/
def Sample.newcomer : Action :=
  .handle Sample.env (.swarm (.kad (.routingUpdated Sample.remotePeer [] true)))

/-- The record of the start is published again for it. -/
theorem System.record_republished_newcomer :
    (after Sample.config Sample.peer 0 [.ready Sample.env, Sample.newcomer]).Publishes
      (Wire.providerKey Sample.crates Sample.config.delegation.group)
      (.handle Sample.rested .tick) := by
  have run : Run Sample.crates Sample.config Sample.peer 0
      ([.ready Sample.env, Sample.newcomer] ++ [.handle Sample.rested .tick]) := by
    simp only [Run, List.cons_append, List.nil_append, Runs.admissible_cons,
      Runs.admissible_nil, and_true]
    exact ⟨⟨rfl, rfl⟩, ⟨rfl, trivial⟩, rfl, rfl⟩
  have clocked : Clocked 0
      ([.ready Sample.env, Sample.newcomer] ++ [.handle Sample.rested .tick]) := by
    simp [Clocked, Sample.newcomer, Action.time?, Sample.env]
  have takes : ∀ action ∈ [] ++ [Action.handle Sample.rested .tick], ∀ seen,
      action.upkeep? = some seen →
        seen.startsProviding (Wire.providerKey Sample.crates Sample.config.delegation.group) =
          true := by
    intro action member seen upkeep
    obtain rfl := List.mem_singleton.mp member
    cases upkeep
    rfl
  obtain ⟨between, next, rest, split, publishes⟩ := (System.record_republished run clocked).2
    [.ready Sample.env] Sample.newcomer [] 0 rfl rfl rfl (le_refl _) takes
  obtain ⟨rfl, rfl, -⟩ : between = [] ∧ next = .handle Sample.rested .tick ∧ rest = [] := by
    cases between with
    | nil => simpa [eq_comm] using split
    | cons first between => simp at split
  exact publishes

end Libp2pFfi
