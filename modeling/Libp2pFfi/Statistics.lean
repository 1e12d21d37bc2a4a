import Libp2pFfi.Admissions
import Libp2pFfi.Provenance

/-!
# What the statistics say

`lp2p_stats_get` copies counters that the handlers move as they go. Here each of
them is what its name says, over whole runs: the requests and messages that were
reported, the bytes these had on the wire, the requests that went out, the
messages that were published, and the requests that the limits stopped. `Tallied`
says so of one handler, with the lines it writes.
-/

namespace Libp2pFfi

/-- How many events of a kind some lines of a log emit. -/
def eventsOf (kind : EventKind) (log : List Entry) : Nat :=
  (emitted log).countP fun record => record.header.kind == kind

/-- The length of the frame of a topic message. Its event holds the topic key in
place of the version and the delegation. -/
def Record.wireBytes (record : Record) : Nat :=
  if record.header.kind = .topicMessage then record.data.length - 32 + 137 else 0

/-- The length on the wire of the topic messages that some lines report. -/
def wireBytesOf (log : List Entry) : Nat := ((emitted log).map Record.wireBytes).sum

theorem eventsOf_append (kind : EventKind) (first second : List Entry) :
    eventsOf kind (first ++ second) = eventsOf kind first + eventsOf kind second := by
  rw [eventsOf, emitted, List.filterMap_append, List.countP_append]
  rfl

theorem wireBytesOf_append (first second : List Entry) :
    wireBytesOf (first ++ second) = wireBytesOf first + wireBytesOf second := by
  rw [wireBytesOf, emitted, List.filterMap_append, List.map_append, List.sum_append]
  rfl

/-- Lines that report nothing that is counted. -/
def Uncounted (log : List Entry) : Prop :=
  ∀ record ∈ emitted log, record.header.kind ≠ .rpcRequest ∧ record.header.kind ≠ .topicMessage ∧
    record.header.kind ≠ .limited

theorem Uncounted.eventsOf {log : List Entry} (uncounted : Uncounted log) {kind : EventKind}
    (counted : kind = .rpcRequest ∨ kind = .topicMessage ∨ kind = .limited) :
    eventsOf kind log = 0 := by
  rw [Libp2pFfi.eventsOf, List.countP_eq_zero]
  intro record member same
  obtain ⟨notRequest, notMessage, notLimited⟩ := uncounted record member
  rcases counted with rfl | rfl | rfl
  · exact notRequest (by simpa using same)
  · exact notMessage (by simpa using same)
  · exact notLimited (by simpa using same)

theorem Uncounted.wireBytesOf {log : List Entry} (uncounted : Uncounted log) :
    wireBytesOf log = 0 := by
  apply List.sum_eq_zero
  intro bytes member
  obtain ⟨record, isRecord, rfl⟩ := List.mem_map.mp member
  exact if_neg (uncounted record isRecord).2.1

theorem uncounted_routine {log : List Entry} (routine : ∀ entry ∈ log, entry.Routine) :
    Uncounted log := by
  intro record member
  obtain ⟨entry, isEntry, reported⟩ := List.mem_filterMap.mp member
  cases entry with
  | heard => cases reported
  | did effect =>
    have quiet := routine _ isEntry
    cases effect with
    | emit told =>
      obtain rfl := Option.some.inj reported
      have isRoutine : told.header.kind.routine = true := quiet
      refine ⟨?_, ?_, ?_⟩ <;> intro same <;> rw [same] at isRoutine <;> cases isRoutine
    | _ => cases reported

theorem uncounted_line (kind : EventKind) {record : Record} (isKind : record.header.kind = kind)
    (other : kind ∉ [.rpcRequest, .topicMessage, .limited]) : Uncounted [.did (.emit record)] := by
  intro tested member
  rw [List.mem_singleton.mp member, isKind]
  simpa using other

/-- The counters that handlers move. -/
def Meter.counters (meter : Meter) : List Nat :=
  [meter.rpcIn, meter.rpcLimited, meter.topicIn, meter.topicOut, meter.topicBytesIn,
    meter.topicBytesOut, meter.topicLimited]

namespace State

/-- A handler moves the counters by what it writes into the log: by the events, by
one if it was asked to let in a request, and by the frames it published. -/
structure Tallied (before after : State) (asked : Nat) (published : List Bytes)
    (extra : List Entry) : Prop where
  log : after.log = before.log ++ extra
  rpcIn : after.shared.rpcIn = before.shared.rpcIn + eventsOf .rpcRequest extra
  arrivals : after.shared.rpcIn + after.shared.rpcLimited =
    before.shared.rpcIn + before.shared.rpcLimited + asked
  topicIn : after.shared.topicIn = before.shared.topicIn + eventsOf .topicMessage extra
  topicBytesIn : after.shared.topicBytesIn = before.shared.topicBytesIn + wireBytesOf extra
  topicOut : after.shared.topicOut = before.shared.topicOut + published.length
  topicBytesOut : after.shared.topicBytesOut =
    before.shared.topicBytesOut + (published.map List.length).sum
  reported : before.shared.rpcLimited + before.shared.topicLimited + eventsOf .limited extra ≤
    after.shared.rpcLimited + after.shared.topicLimited
  counts : CountsAlike before after

/-- A handler that moves no counter. -/
structure Idle (before after : State) : Prop where
  counters : after.meter.counters = before.meter.counters
  counts : CountsAlike before after
  silent : ∃ extra, after.log = before.log ++ extra ∧ Uncounted extra

theorem Idle.refl (state : State) : Idle state state :=
  ⟨rfl, rfl, [], (List.append_nil _).symm, fun _ member => by cases member⟩

theorem Idle.trans {first second third : State} (left : Idle first second)
    (right : Idle second third) : Idle first third := by
  obtain ⟨earlier, grown, silent⟩ := left.silent
  obtain ⟨later, grownToo, silentToo⟩ := right.silent
  refine ⟨right.counters.trans left.counters, ?_, earlier ++ later, ?_, ?_⟩
  · have countsLeft := left.counts
    have countsRight := right.counts
    unfold CountsAlike at countsLeft countsRight ⊢
    omega
  · rw [grownToo, grown, List.append_assoc]
  · intro record member
    rw [emitted, List.filterMap_append] at member
    rcases List.mem_append.mp member with old | isNew
    · exact silent record old
    · exact silentToo record isNew

theorem Idle.tallied {before after : State} (idle : Idle before after) :
    ∃ extra, Tallied before after 0 [] extra := by
  obtain ⟨extra, grown, silent⟩ := idle.silent
  have same := idle.counters
  simp only [Meter.counters, State.meter, List.cons.injEq, and_true] at same
  obtain ⟨rpcIn, rpcLimited, topicIn, topicOut, topicBytesIn, topicBytesOut, topicLimited⟩ := same
  refine ⟨extra, grown, ?_, ?_, ?_, ?_, topicOut, topicBytesOut, ?_, idle.counts⟩
  · rw [silent.eventsOf (.inl rfl), rpcIn]
    rfl
  · rw [rpcIn, rpcLimited]
    rfl
  · rw [silent.eventsOf (.inr (.inl rfl)), topicIn]
    rfl
  · rw [silent.wireBytesOf, topicBytesIn]
    rfl
  · rw [silent.eventsOf (.inr (.inr rfl)), rpcLimited, topicLimited]
    exact le_refl _

theorem Routine.idle {before after : State} (routine : Routine before after) :
    Idle before after := by
  obtain ⟨extra, grown, quiet⟩ := routine.adds
  exact ⟨congrArg Meter.counters routine.meter, routine.counts, extra, grown,
    uncounted_routine quiet⟩

/-- A line that is no event. -/
theorem Idle.line {before after : State} {effect : Effect}
    (counters : after.meter.counters = before.meter.counters)
    (counts : CountsAlike before after)
    (log : after.log = before.log ++ [.did effect]) (noEvent : effect.emitted? = none) :
    Idle before after := by
  refine ⟨counters, counts, _, log, fun record member => ?_⟩
  simp [emitted, Entry.emitted?, noEvent] at member

theorem idle_announce (env : Env) (state : State) : Idle state (state.announce env) := by
  unfold announce
  split
  · split
    · exact .refl state
    · dsimp only
      split <;> exact .line rfl rfl rfl rfl
  · exact .refl state

/-- A request that was refused is counted, and reported unless too many were. -/
theorem tallied_refuse (env : Env) (state : State) (limits : Limits) (group node : Key)
    (protocol reason : Nat) :
    ∃ extra, Tallied state (state.refuse env limits group node protocol reason) 1 [] extra := by
  have more : state.shared.rpcLimited + state.shared.topicLimited + 1 ≤
      state.shared.rpcLimited + 1 + state.shared.topicLimited := by omega
  unfold refuse reportLimited
  dsimp only
  split
  · exact ⟨[.did (.emit (limitedRecord group node protocol reason))], rfl, rfl, rfl, rfl, rfl, rfl,
      rfl, more, rfl⟩
  · exact ⟨[], (List.append_nil _).symm, rfl, rfl, rfl, rfl, rfl, rfl, (Nat.le_succ _).trans more,
      rfl⟩

/-- So is a message on a topic. -/
theorem tallied_hush (env : Env) (state : State) (limits : Limits) (group node : Key)
    (reason : Nat) :
    ∃ extra, Tallied state (state.hush env limits group node reason) 0 [] extra := by
  unfold hush reportLimited
  dsimp only
  split
  · exact ⟨[.did (.emit (limitedRecord group node protocolTopics reason))], rfl, rfl, rfl, rfl, rfl,
      rfl, rfl, le_refl _, rfl⟩
  · exact ⟨[], (List.append_nil _).symm, rfl, rfl, rfl, rfl, rfl, rfl, Nat.le_succ _, rfl⟩

theorem tallied_inboundRequest (env : Env) (state : State) (peer : PeerId)
    (connection : ConnectionId) (request : InboundRequestId) (frame : Bytes)
    (channel : ResponseChannel) :
    ∃ extra, Tallied state (state.inboundRequest env peer connection request frame channel)
      (if (checkRequest env.crates env.nowMs state.rpcProtocols peer frame).isSome then 1 else 0) []
      extra := by
  have outcome := arrival env state peer connection request frame channel
  generalize state.inboundRequest env peer connection request frame channel = after at outcome ⊢
  cases outcome with
  | unproven checked =>
    rw [checked]
    exact (Idle.refl state).tallied
  | refused node group protocol payload limits reason checked answer =>
    rw [checked]
    exact tallied_refuse env state limits group node protocol reason
  | admitted node group protocol payload limits checked answer =>
    rw [checked]
    refine ⟨[.did (.emit (rpcRequest state.shared.nextId group node protocol payload))], rfl, rfl,
      ?_, rfl, rfl, rfl, rfl, le_refl _, rfl⟩
    change state.shared.rpcIn + 1 + state.shared.rpcLimited = _
    rw [Nat.add_right_comm]
    rfl

/-- One more line, which is no event. -/
theorem Tallied.line {before after : State} {asked : Nat} {published : List Bytes}
    {extra : List Entry} (tallied : Tallied before after asked published extra) {effect : Effect}
    (noEvent : effect.emitted? = none) :
    Tallied before (after.did effect) asked published (extra ++ [.did effect]) := by
  have silent : emitted [.did effect] = [] := by simp [emitted, Entry.emitted?, noEvent]
  have noEvents (kind : EventKind) : eventsOf kind (extra ++ [.did effect]) =
      eventsOf kind extra := by
    rw [eventsOf_append, eventsOf, eventsOf, silent]
    rfl
  have noBytes : wireBytesOf (extra ++ [.did effect]) = wireBytesOf extra := by
    rw [wireBytesOf_append, wireBytesOf, wireBytesOf, silent]
    rfl
  refine ⟨?_, ?_, tallied.arrivals, ?_, ?_, tallied.topicOut, tallied.topicBytesOut, ?_,
    tallied.counts⟩
  · rw [did, tallied.log, List.append_assoc]
  · rw [noEvents]
    exact tallied.rpcIn
  · rw [noEvents]
    exact tallied.topicIn
  · rw [noBytes]
    exact tallied.topicBytesIn
  · rw [noEvents]
    exact tallied.reported

theorem tallied_message (env : Env) (state : State) (source : PeerId) (id : MessageId)
    (message : GossipMessage) :
    ∃ extra, Tallied state (state.gossipsubEvent env (.message source id message)) 0 [] extra := by
  obtain ⟨after, acceptance, outcome, handled⟩ := hearing env state source id message
  rw [handled]
  suffices counted : ∃ extra, Tallied state after 0 [] extra by
    obtain ⟨extra, tallied⟩ := counted
    exact ⟨_, tallied.line rfl⟩
  cases outcome with
  | unheard => exact (Idle.refl state).tallied
  | limited key node group publisher payload limits reason =>
    exact tallied_hush env state limits group node reason
  | told key node group publisher payload limits followed checked fits answer =>
    refine ⟨[.did (.emit (topicRecord key group node payload))], rfl, rfl, rfl, rfl, ?_, rfl, rfl,
      le_refl _, rfl⟩
    -- The frame is a version, a delegation and the payload.
    obtain ⟨-, delegation, data, proven⟩ := checkAnnouncement_proven checked
    have wire : message.data.length =
        wireBytesOf [.did (.emit (topicRecord key group node payload))] := by
      change message.data.length = (key.toList ++ payload).length - 32 + 137 + 0
      rw [data, List.length_cons, List.length_append, List.length_append, proven.length,
        List.Vector.toList_length]
      omega
    change state.shared.topicBytesIn + message.data.length = _
    rw [wire]
  | throttled =>
    exact Idle.tallied ⟨rfl, rfl, [], (List.append_nil _).symm, fun _ member => by cases member⟩
  | announced node group publisher payload =>
    exact ⟨[.did (.emit (announcementRecord group node payload))], rfl, rfl, rfl, rfl, rfl, rfl, rfl,
      le_refl _, rfl⟩

end State

/-- A request that a node hears and that proves whom it is from. -/
def Entry.asks (crates : Crates) (rpcProtocols : List String) : Entry → Bool
  | heard nowMs (.swarm (.rpc (.request peer _ _ frame _))) =>
    (checkRequest crates nowMs rpcProtocols peer frame).isSome
  | _ => false

/-- A frame that gossipsub has taken. -/
def Entry.published? : Entry → Option Bytes
  | did (.publish _ frame .ok) => some frame
  | _ => none

/-- The frames that lines of the log publish on a topic for the caller. -/
def Input.publishes : Input → List Entry → List Bytes
  | .command (.topicPublish _ _), lines => lines.filterMap Entry.published?
  | _, _ => []

namespace State

theorem tallied_swarmEvent (env : Env) (state : State) (event : SwarmEvent) :
    ∃ extra, Tallied state (state.swarmEvent env event)
      (if (Entry.heard env.nowMs (.swarm event)).asks env.crates state.rpcProtocols then 1 else 0)
      [] extra := by
  by_cases routine : event.routine = true
  · have unasked : (Entry.heard env.nowMs (.swarm event)).asks env.crates state.rpcProtocols =
        false := by
      cases event with
      | rpc event =>
        cases event with
        | request => cases routine
        | _ => rfl
      | _ => rfl
    rw [unasked]
    exact (routine_swarmEvent env state event routine).idle.tallied
  · cases event with
    | connectionEstablished peer connection numEstablished endpoint =>
      obtain ⟨meter, counts, log⟩ :=
        connectionEstablished_spec env state peer connection numEstablished endpoint
      refine Idle.tallied ⟨congrArg Meter.counters meter, counts, _, log, ?_⟩
      split
      · exact uncounted_line .peerConnected rfl (by decide)
      · exact fun _ member => by cases member
    | connectionClosed peer connection numEstablished =>
      obtain ⟨meter, counts, log⟩ := connectionClosed_spec env state peer connection numEstablished
      refine Idle.tallied ⟨congrArg Meter.counters meter, counts, _, log, ?_⟩
      split
      · exact uncounted_line .peerDisconnected rfl (by decide)
      · exact fun _ member => by cases member
    | rpc event =>
      cases event with
      | request peer connection request frame channel =>
        exact tallied_inboundRequest env state peer connection request frame channel
      | _ => exact absurd rfl routine
    | gossipsub event =>
      cases event with
      | subscribed => exact (idle_announce env state).tallied
      | message source id message => exact tallied_message env state source id message
      | other => exact absurd rfl routine
    | _ => exact absurd rfl routine

theorem tallied_command (env : Env) (state : State) (sent : Command) :
    ∃ extra, Tallied state (state.command env sent) 0 (Input.publishes (.command sent) extra)
      extra := by
  have idle (idle : Idle state (state.command env sent))
      (other : ∀ key payload, sent ≠ .topicPublish key payload) :
      ∃ extra, Tallied state (state.command env sent) 0 (Input.publishes (.command sent) extra)
        extra := by
    obtain ⟨extra, tallied⟩ := idle.tallied
    refine ⟨extra, ?_⟩
    cases sent with
    | topicPublish key payload => exact absurd rfl (other key payload)
    | _ => exact tallied
  by_cases routine : sent.routine = true
  · refine idle (routine_command env state sent routine).idle ?_
    rintro key payload rfl
    cases routine
  · cases sent with
    | respond id payload =>
      refine idle ?_ (by simp)
      change Idle state (state.respond id payload)
      unfold respond
      split
      · exact .refl state
      · exact .line rfl rfl rfl rfl
    | setClass group peerClass =>
      exact idle ⟨rfl, rfl, [], (List.append_nil _).symm, fun _ member => by cases member⟩ (by simp)
    | setLimit id rate =>
      exact idle ⟨rfl, rfl, [], (List.append_nil _).symm, fun _ member => by cases member⟩ (by simp)
    | announceSetPayload payload =>
      have noted : Idle state { state with announcePayload := some payload } :=
        ⟨rfl, rfl, [], (List.append_nil _).symm, fun _ member => by cases member⟩
      exact idle (noted.trans (idle_announce env _)) (by simp)
    | topicPublish key payload =>
      change ∃ extra, Tallied state (state.topicPublish env key payload) 0 _ extra
      unfold topicPublish
      split
      · exact ⟨[], (List.append_nil _).symm, rfl, rfl, rfl, rfl, rfl, rfl, le_refl _, rfl⟩
      · rename_i topic followed
        dsimp only
        generalize env.publishes topic.topic (Wire.encodeAnnouncement state.delegation payload) =
          result
        refine ⟨[.did (.publish topic.topic (Wire.encodeAnnouncement state.delegation payload)
          result)], ?_⟩
        cases result <;> exact ⟨rfl, rfl, rfl, rfl, rfl, rfl, rfl, le_refl _, rfl⟩
    | _ => exact absurd rfl routine

theorem idle_tick (env : Env) (state : State) : Idle state (state.tick env) := by
  obtain ⟨reserved, lookedUp, early, later, last⟩ := tick_spec env state
  have swept : Idle lookedUp (lookedUp.sweepLimits env) := by
    unfold sweepLimits
    split
    · exact ⟨rfl, rfl, [], (List.append_nil _).symm, fun _ member => by cases member⟩
    · exact .refl lookedUp
  exact (((early.idle.trans (idle_announce env reserved)).trans later.idle).trans swept).trans
    last.idle

/-- A handler tallies what its input brings. -/
theorem tallied_handle (env : Env) (state : State) (input : Input) :
    ∃ extra, Tallied (state.heard env.nowMs input) (state.handle env input)
      (if (Entry.heard env.nowMs input).asks env.crates state.rpcProtocols then 1 else 0)
      (input.publishes extra) extra := by
  cases input with
  | command sent => exact tallied_command env _ sent
  | tick => exact (idle_tick env _).tallied
  | swarm event => exact tallied_swarmEvent env _ event

/-- The input is noted before. -/
theorem Tallied.noted {state after : State} {nowMs : UInt64} {input : Input} {asked : Nat}
    {published : List Bytes} {extra : List Entry}
    (tallied : Tallied ((state.deliver input).heard nowMs input) after asked published extra) :
    Tallied state after asked published (.heard nowMs input :: extra) := by
  obtain ⟨swarm, delivered, nextRequest, -⟩ := state.deliver_spec input
  rw [delivered] at tallied
  obtain ⟨log, rpcIn, arrivals, topicIn, topicBytesIn, topicOut, topicBytesOut, reported, counts⟩ :=
    tallied
  refine ⟨?_, rpcIn, arrivals, topicIn, topicBytesIn, topicOut, topicBytesOut, reported, ?_⟩
  · rw [log, heard, List.append_assoc]
    rfl
  · rw [CountsAlike, ← nextRequest]
    exact counts

end State

namespace System

/-- The frames that an action publishes on a topic for the caller. -/
def publications (system : System) (action : Action) : List Bytes :=
  match action with
  | .handle _ input => input.publishes (system.fresh action)
  | _ => []

/-- The counters are what the log says, and what was published for the caller. -/
structure Accurate (crates : Crates) (rpcProtocols : List String) (system : System)
    (published : List Bytes) : Prop where
  setUp : system.state.rpcProtocols = rpcProtocols
  rpcIn : system.state.shared.rpcIn = eventsOf .rpcRequest system.state.log
  arrivals : system.state.shared.rpcIn + system.state.shared.rpcLimited =
    system.state.log.countP (Entry.asks crates rpcProtocols)
  rpcOut : system.state.shared.rpcOut = system.state.swarm.nextRequest
  topicIn : system.state.shared.topicIn = eventsOf .topicMessage system.state.log
  topicBytesIn : system.state.shared.topicBytesIn = wireBytesOf system.state.log
  topicOut : system.state.shared.topicOut = published.length
  topicBytesOut : system.state.shared.topicBytesOut = (published.map List.length).sum
  reported : eventsOf .limited system.state.log ≤
    system.state.shared.rpcLimited + system.state.shared.topicLimited

variable {crates : Crates} {rpcProtocols : List String} {system : System} {published : List Bytes}

/-- An action that adds lines which are tallied keeps the counters accurate. -/
theorem Accurate.tallied (accurate : Accurate crates rpcProtocols system published) {after : System}
    {asked : Nat} {lines : List Entry} {frames : List Bytes}
    (setUp : after.state.rpcProtocols = system.state.rpcProtocols)
    (tallied : State.Tallied system.state after.state asked frames lines)
    (asks : lines.countP (Entry.asks crates rpcProtocols) = asked) :
    Accurate crates rpcProtocols after (published ++ frames) := by
  refine ⟨setUp.trans accurate.setUp, ?_, ?_, ?_, ?_, ?_, ?_, ?_, ?_⟩
  · rw [tallied.rpcIn, tallied.log, eventsOf_append, accurate.rpcIn]
  · rw [tallied.arrivals, tallied.log, List.countP_append, accurate.arrivals, asks]
  · have counts := tallied.counts
    have same := accurate.rpcOut
    unfold State.CountsAlike at counts
    omega
  · rw [tallied.topicIn, tallied.log, eventsOf_append, accurate.topicIn]
  · rw [tallied.topicBytesIn, tallied.log, wireBytesOf_append, accurate.topicBytesIn]
  · rw [tallied.topicOut, List.length_append, accurate.topicOut]
  · rw [tallied.topicBytesOut, List.map_append, List.sum_append, accurate.topicBytesOut]
  · rw [tallied.log, eventsOf_append]
    exact (Nat.add_le_add_right accurate.reported _).trans tallied.reported

/-- What a handler does is no request. -/
theorem unasked {touched : List Part} {lines : List Entry}
    (effects : ∀ entry ∈ lines, entry.Within touched) :
    lines.countP (Entry.asks crates rpcProtocols) = 0 := by
  rw [List.countP_eq_zero]
  intro entry member asked
  cases entry with
  | heard => exact effects _ member
  | did => cases asked

theorem accurate_handle (accurate : Accurate crates rpcProtocols system published) (env : Env)
    (input : Input) (ofRun : env.crates = crates) :
    Accurate crates rpcProtocols (system.step (.handle env input))
      (published ++ system.publications (.handle env input)) := by
  obtain ⟨extra, handled⟩ := State.tallied_handle env (system.state.deliver input) input
  obtain ⟨same, grown, effects⟩ :=
    (State.confined_handle env (system.state.deliver input) input).adds
  obtain rfl : extra = same := List.append_cancel_left (handled.log.symm.trans grown)
  have asked : (Entry.heard env.nowMs input :: extra).countP (Entry.asks crates rpcProtocols) =
      if (Entry.heard env.nowMs input).asks env.crates (system.state.deliver input).rpcProtocols
        then 1 else 0 := by
    obtain ⟨swarm, delivered, -⟩ := system.state.deliver_spec input
    rw [List.countP_cons, unasked effects, Nat.zero_add, ofRun, delivered, accurate.setUp]
  have tallied := handled.noted
  have frames : system.publications (.handle env input) = input.publishes extra := by
    have log : (system.step (.handle env input)).state.log = _ := tallied.log
    rw [publications, fresh, log, List.drop_left]
    unfold Input.publishes
    split <;> rfl
  rw [frames]
  exact accurate.tallied
    (congrArg Settings.rpcProtocols (system.settings_step (.handle env input))) tallied asked

theorem accurate_step (action : Action) (accurate : Accurate crates rpcProtocols system published)
    (enabled : Enabled crates system action) :
    Accurate crates rpcProtocols (system.step action) (published ++ system.publications action) := by
  have setUp : (system.step action).state.rpcProtocols = system.state.rpcProtocols :=
    congrArg Settings.rpcProtocols (system.settings_step action)
  have still {after : System} (setUp : after.state.rpcProtocols = system.state.rpcProtocols)
      (tallied : State.Tallied system.state after.state 0 [] []) :
      Accurate crates rpcProtocols after (published ++ []) := accurate.tallied setUp tallied rfl
  cases action with
  | ready env =>
    obtain ⟨extra, tallied⟩ := (State.routine_ready env system.state).idle.tallied
    obtain ⟨same, grown, effects⟩ := (State.confined_ready env system.state).adds
    obtain rfl : extra = same := List.append_cancel_left (tallied.log.symm.trans grown)
    exact accurate.tallied setUp tallied (unasked effects)
  | handle env input =>
    refine accurate_handle accurate env input ?_
    cases input with
    | command => exact enabled.1
    | tick => exact enabled.1
    | swarm => exact enabled.1
  | _ =>
    exact still setUp ⟨(List.append_nil _).symm, rfl, rfl, rfl, rfl, rfl, rfl, le_refl _, rfl⟩

theorem accurate_after {config : Config} {localPeer : PeerId} {now : Instant}
    {actions : List Action} (run : Run crates config localPeer now actions) :
    Accurate crates config.rpcProtocols (after config localPeer now actions)
      (Runs.trace step publications (start config localPeer now) actions) := by
  induction actions using List.reverseRecOn with
  | nil => exact ⟨rfl, rfl, rfl, rfl, rfl, rfl, rfl, rfl, le_refl _⟩
  | append_singleton actions action inductionHypothesis =>
    have accurate := inductionHypothesis (run.take (List.prefix_append actions [action]))
    rw [after_append_singleton, Runs.trace_append_singleton]
    exact accurate_step action accurate (run actions action (List.prefix_refl _))

/-- The counters that `lp2p_stats_get` copies, in every state that a run reaches:
`rpc_in` counts the requests that were reported and `topic_in` the messages, with
`topic_bytes_in` their bytes on the wire; `rpc_in` and `rpc_limited` together count
the requests that arrived with a valid delegation for a registered protocol;
`rpc_out` counts the requests that went out, `topic_out` and `topic_bytes_out` what
gossipsub took of what the caller published, and no more refusals were reported than
are counted. -/
theorem statistics_exact {config : Config} {localPeer : PeerId} {now : Instant}
    {actions : List Action} (run : Run crates config localPeer now actions) :
    let state := (after config localPeer now actions).state
    let frames := Runs.trace step publications (start config localPeer now) actions
    state.shared.rpcIn = eventsOf .rpcRequest state.log ∧
      state.shared.rpcIn + state.shared.rpcLimited =
        state.log.countP (Entry.asks crates config.rpcProtocols) ∧
      state.shared.rpcOut = (requestNumbers state.log).length ∧
      state.shared.topicIn = eventsOf .topicMessage state.log ∧
      state.shared.topicBytesIn = wireBytesOf state.log ∧
      state.shared.topicOut = frames.length ∧
      state.shared.topicBytesOut = (frames.map List.length).sum ∧
      eventsOf .limited state.log ≤ state.shared.rpcLimited + state.shared.topicLimited := by
  have accurate := accurate_after run
  have vetted : Vetted crates localPeer (start config localPeer now).state.settings
      (after config localPeer now actions) :=
    run.invariant (vetted_start crates config localPeer now)
      fun system action vetted enabled => vetted_step action vetted enabled
  refine ⟨accurate.rpcIn, accurate.arrivals, ?_, accurate.topicIn, accurate.topicBytesIn,
    accurate.topicOut, accurate.topicBytesOut, accurate.reported⟩
  rw [vetted.sourced.numbered, List.length_range]
  exact accurate.rpcOut

end System

/-- After the request of `Sample.answeredRequest` one request was let in. -/
theorem System.statistics_exact_answered :
    (System.after Sample.config Sample.peer 0 Sample.answeredRequest).state.shared.rpcIn = 1 ∧
      (System.after Sample.config Sample.peer 0 Sample.answeredRequest).state.shared.rpcLimited =
        0 := by
  obtain ⟨reported, asked, -⟩ := System.statistics_exact Sample.answeredRequest_run
  have one : eventsOf .rpcRequest
      (System.after Sample.config Sample.peer 0 Sample.answeredRequest).state.log = 1 := by
    decide +kernel
  have heard : (System.after Sample.config Sample.peer 0 Sample.answeredRequest).state.log.countP
      (Entry.asks Sample.crates Sample.config.rpcProtocols) = 1 := by decide +kernel
  rw [one] at reported
  rw [heard, reported] at asked
  exact ⟨reported, by omega⟩

end Libp2pFfi
