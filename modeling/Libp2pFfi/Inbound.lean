import Libp2pFfi.Outcomes
import Libp2pFfi.Parts

/-!
# Answering inbound requests

An inbound request that is let through is reported with an id from the counter
that also numbers the caller's calls and queries. Its channel waits in one table
under the id, and another table remembers the id by libp2p's name for the
request. Both are cleaned when libp2p reports the end of the request; an answer
or a rejection takes the channel only. The caller may answer any number it
likes.

The `Desk` reads the log, line by line, without looking at the two tables: which
requests are open, which event was written while which request was handled, and
which response went out while which answer was handled. The tables are then
exactly what the desk says, after every run. That every id was reported once and
every request is answered once follows from the desk alone.
-/

namespace Libp2pFfi

structure Desk where
  /-- The channel of the request that is being handled. -/
  arriving : Option ResponseChannel := none
  /-- The id of the answer that is being handled. -/
  asked : Option Nat := none
  /-- The requests that were handed over and have not ended. -/
  opened : Finset InboundRequestId := ∅
  /-- The ids of the request events, each with the channel of its request. -/
  events : List (Nat × Option ResponseChannel) := []
  /-- The responses by their channels, each with the id that was answered. -/
  answers : List (Option Nat × ResponseChannel) := []
  /-- The ids that were answered or rejected after their event. -/
  closed : Finset Nat := ∅

namespace Desk

/-- An event with this id reported the request of this channel. -/
def Carried (desk : Desk) (id : Nat) (channel : ResponseChannel) : Prop :=
  (id, some channel) ∈ desk.events

/-- The channel waits for an answer under this id. -/
def Waiting (desk : Desk) (id : Nat) (channel : ResponseChannel) : Prop :=
  desk.Carried id channel ∧ id ∉ desk.closed ∧ channel.request ∈ desk.opened

/-- What is being handled has neither a channel nor an id to answer. -/
def turnAway (desk : Desk) : Desk := { desk with arriving := none, asked := none }

def receive (desk : Desk) (request : InboundRequestId) : Desk :=
  { desk with opened := insert request desk.opened }

def finish (desk : Desk) (request : InboundRequestId) : Desk :=
  { desk with opened := desk.opened.erase request }

def close (desk : Desk) (id : Nat) : Desk :=
  { desk with
    closed := if id ∈ desk.events.map Prod.fst then insert id desk.closed else desk.closed }

def carry (desk : Desk) (id : Nat) : Desk :=
  { desk with events := desk.events ++ [(id, desk.arriving)] }

def answer (desk : Desk) (channel : ResponseChannel) : Desk :=
  { desk with answers := desk.answers ++ [(desk.asked, channel)] }

/-- An input to the event loop. -/
def hear (desk : Desk) : Input → Desk
  | .swarm (.rpc (.request _ _ request _ channel)) =>
    { desk.turnAway.receive request with arriving := some channel }
  | .swarm (.rpc (.inboundFailure request)) => desk.turnAway.finish request
  | .swarm (.rpc (.responseSent request)) => desk.turnAway.finish request
  | .command (.respond id _) => { desk.turnAway.close id with asked := some id }
  | .command (.reject id) => desk.turnAway.close id
  | _ => desk.turnAway

/-- A line of the log. -/
def note (desk : Desk) : Entry → Desk
  | .heard _ input => desk.hear input
  | .did (.emit record) =>
    if record.header.kind = .rpcRequest then desk.carry record.header.id else desk
  | .did (.sendResponse channel _) => desk.answer channel
  | .did _ => desk

end Desk

/-- What the desk has seen. -/
def State.desk (state : State) : Desk := state.log.foldl Desk.note {}

/-- The desk and the two tables say the same. Some ids are for the caller's own
commands. -/
structure Attends (callers : Nat → Prop) (desk : Desk) (part : InboxPart) : Prop where
  callersBelow : ∀ id, callers id → id < part.nextId
  below : ∀ event ∈ desk.events, event.1 < part.nextId ∧ ¬ callers event.1
  distinct : (desk.events.map Prod.fst).Nodup
  arrived : ∀ event ∈ desk.events,
    ∃ channel, event.2 = some channel ∧ channel.request ∈ part.inboundSeen
  own : ∀ first second channel other, desk.Carried first channel → desk.Carried second other →
    channel.request = other.request → first = second
  handed : desk.opened ⊆ part.inboundSeen
  settled : ∀ id ∈ desk.closed, id ∈ desk.events.map Prod.fst
  inbound : ∀ id channel, part.inbound.lookup id = some channel ↔ desk.Waiting id channel
  inboundIds : ∀ request id, part.inboundIds.lookup request = some id ↔
    request ∈ desk.opened ∧ ∃ channel, desk.Carried id channel ∧ channel.request = request
  answered : ∀ answer ∈ desk.answers,
    ∃ id ∈ desk.closed, answer.1 = some id ∧ desk.Carried id answer.2
  once : (desk.answers.map fun answer => answer.2.request).Nodup

namespace Attends

section

variable {callers : Nat → Prop} {desk : Desk} {part : InboxPart}

/-- An event reports one request. -/
theorem same_channel (attends : Attends callers desk part) {id : Nat}
    {channel other : ResponseChannel} (carried : desk.Carried id channel)
    (too : desk.Carried id other) : channel = other := by
  have same := List.inj_on_of_nodup_map attends.distinct carried too rfl
  simpa using same

theorem carried_seen (attends : Attends callers desk part) {id : Nat} {channel : ResponseChannel}
    (carried : desk.Carried id channel) : channel.request ∈ part.inboundSeen := by
  obtain ⟨_, ⟨⟩, seen⟩ := attends.arrived _ carried
  exact seen

/-- Which line is being handled says nothing about the tables. -/
theorem handling (attends : Attends callers desk part) (arriving : Option ResponseChannel)
    (asked : Option Nat) : Attends callers { desk with arriving, asked } part :=
  ⟨attends.callersBelow, attends.below, attends.distinct, attends.arrived, attends.own,
    attends.handed, attends.settled, attends.inbound, attends.inboundIds, attends.answered,
    attends.once⟩

/-- The caller's ids may become others, as long as none was in an event. -/
theorem callersTo (attends : Attends callers desk part) {others : Nat → Prop} {nextId : Nat}
    (later : part.nextId ≤ nextId) (bounded : ∀ id, others id → id < nextId)
    (apart : ∀ id, others id → callers id ∨ part.nextId ≤ id) :
    Attends others desk { part with nextId } := by
  refine ⟨bounded, ?_, attends.distinct, attends.arrived, attends.own, attends.handed,
    attends.settled, attends.inbound, attends.inboundIds, attends.answered, attends.once⟩
  intro event member
  obtain ⟨earlier, notCallers⟩ := attends.below event member
  constructor
  · exact earlier.trans_le later
  · intro isOther
    rcases apart event.1 isOther with isCallers | late
    · exact notCallers isCallers
    · exact absurd earlier (not_lt.mpr late)

/-- Only for requests that were reported does it matter whether they are open. -/
theorem openedTo (attends : Attends callers desk part) {opened seen : Finset InboundRequestId}
    (more : part.inboundSeen ⊆ seen) (handed : opened ⊆ seen)
    (same : ∀ id channel, desk.Carried id channel →
      (channel.request ∈ opened ↔ channel.request ∈ desk.opened)) :
    Attends callers { desk with opened } { part with inboundSeen := seen } := by
  refine { attends with arrived := ?_, handed := handed, inbound := ?_, inboundIds := ?_ }
  · intro event member
    obtain ⟨channel, isChannel, known⟩ := attends.arrived event member
    exact ⟨channel, isChannel, more known⟩
  · intro id channel
    rw [attends.inbound]
    constructor
    · rintro ⟨carried, unanswered, isOpen⟩
      exact ⟨carried, unanswered, (same id channel carried).mpr isOpen⟩
    · rintro ⟨carried, unanswered, isOpen⟩
      exact ⟨carried, unanswered, (same id channel carried).mp isOpen⟩
  · intro tested id
    rw [attends.inboundIds]
    constructor
    · rintro ⟨isOpen, channel, carried, rfl⟩
      exact ⟨(same id channel carried).mpr isOpen, channel, carried, rfl⟩
    · rintro ⟨isOpen, channel, carried, rfl⟩
      exact ⟨(same id channel carried).mp isOpen, channel, carried, rfl⟩

/-- A request is handed over. -/
theorem receive (attends : Attends callers desk part) {request : InboundRequestId}
    (fresh : request ∉ part.inboundSeen) :
    Attends callers (desk.receive request)
      { part with inboundSeen := insert request part.inboundSeen } := by
  apply attends.openedTo (Finset.subset_insert _ _)
    (Finset.insert_subset_insert request attends.handed)
  intro id channel carried
  have different : channel.request ≠ request := by
    intro same
    exact fresh (same ▸ attends.carried_seen carried)
  simp [different]

/-- The next id was in no event. -/
theorem next_fresh (attends : Attends callers desk part) :
    part.nextId ∉ desk.events.map Prod.fst := by
  intro member
  obtain ⟨event, inside, isNext⟩ := List.mem_map.mp member
  have earlier := (attends.below event inside).1
  omega

theorem carried_carry {channel : ResponseChannel} (arriving : desk.arriving = some channel)
    (next id : Nat) (other : ResponseChannel) :
    (desk.carry next).Carried id other ↔ desk.Carried id other ∨ id = next ∧ other = channel := by
  simp [Desk.Carried, Desk.carry, arriving]

theorem inbound_carry (attends : Attends callers desk part) {channel : ResponseChannel}
    (arriving : desk.arriving = some channel) (isOpen : channel.request ∈ desk.opened) (id : Nat)
    (other : ResponseChannel) :
    (part.inbound.insert part.nextId channel).lookup id = some other ↔
      (desk.carry part.nextId).Waiting id other := by
  rw [Table.lookup_insert_if, Desk.Waiting, carried_carry arriving]
  by_cases isNext : id = part.nextId
  · rw [if_pos isNext]
    have unanswered : id ∉ desk.closed := fun closed =>
      attends.next_fresh (isNext ▸ attends.settled id closed)
    constructor
    · intro found
      obtain rfl := Option.some.inj found
      exact ⟨.inr ⟨isNext, rfl⟩, unanswered, isOpen⟩
    · rintro ⟨old | ⟨-, rfl⟩, -, -⟩
      · exact absurd (List.mem_map_of_mem old) (isNext ▸ attends.next_fresh)
      · rfl
  · rw [if_neg isNext, attends.inbound]
    simp [Desk.Waiting, Desk.carry, isNext]

theorem inboundIds_carry (attends : Attends callers desk part) {channel : ResponseChannel}
    (arriving : desk.arriving = some channel) (isOpen : channel.request ∈ desk.opened)
    (unreported : ∀ id other, desk.Carried id other → other.request ≠ channel.request)
    (request : InboundRequestId) (id : Nat) :
    (part.inboundIds.insert channel.request part.nextId).lookup request = some id ↔
      request ∈ desk.opened ∧
        ∃ other, (desk.carry part.nextId).Carried id other ∧ other.request = request := by
  rw [Table.lookup_insert_if]
  simp only [carried_carry arriving]
  by_cases isNew : request = channel.request
  · rw [if_pos isNew]
    constructor
    · intro found
      obtain rfl := Option.some.inj found
      exact ⟨isNew ▸ isOpen, channel, .inr ⟨rfl, rfl⟩, isNew.symm⟩
    · rintro ⟨-, other, old | ⟨rfl, rfl⟩, same⟩
      · exact absurd (same.trans isNew) (unreported id other old)
      · rfl
  · rw [if_neg isNew, attends.inboundIds]
    constructor
    · rintro ⟨stillOpen, other, old, same⟩
      exact ⟨stillOpen, other, .inl old, same⟩
    · rintro ⟨stillOpen, other, old | ⟨rfl, rfl⟩, same⟩
      · exact ⟨stillOpen, other, old, same⟩
      · exact absurd same.symm isNew

/-- No request is reported twice. -/
theorem own_carry (attends : Attends callers desk part) {channel : ResponseChannel}
    (arriving : desk.arriving = some channel)
    (unreported : ∀ id other, desk.Carried id other → other.request ≠ channel.request)
    {first second : Nat} {left right : ResponseChannel}
    (firstCarried : (desk.carry part.nextId).Carried first left)
    (secondCarried : (desk.carry part.nextId).Carried second right)
    (same : left.request = right.request) : first = second := by
  rcases (carried_carry arriving _ _ _).mp firstCarried with old | ⟨rfl, rfl⟩
  · rcases (carried_carry arriving _ _ _).mp secondCarried with oldToo | ⟨rfl, rfl⟩
    · exact attends.own first second left right old oldToo same
    · exact absurd same (unreported first left old)
  · rcases (carried_carry arriving _ _ _).mp secondCarried with oldToo | ⟨rfl, rfl⟩
    · exact absurd same.symm (unreported second right oldToo)
    · rfl

/-- The open request is reported, under the next id. -/
theorem carry (attends : Attends callers desk part) {channel : ResponseChannel}
    (arriving : desk.arriving = some channel) (isOpen : channel.request ∈ desk.opened)
    (unreported : ∀ id other, desk.Carried id other → other.request ≠ channel.request) :
    Attends callers (desk.carry part.nextId)
      { part with
        inbound := part.inbound.insert part.nextId channel
        inboundIds := part.inboundIds.insert channel.request part.nextId
        nextId := part.nextId + 1 } := by
  refine
    { callersBelow := fun id isCallers =>
        (attends.callersBelow id isCallers).trans (Nat.lt_succ_self _)
      below := ?_
      distinct := ?_
      arrived := ?_
      own := fun _ _ _ _ => attends.own_carry arriving unreported
      handed := attends.handed
      settled := ?_
      inbound := attends.inbound_carry arriving isOpen
      inboundIds := attends.inboundIds_carry arriving isOpen unreported
      answered := ?_
      once := attends.once }
  · intro event member
    rcases List.mem_append.mp member with old | new
    · obtain ⟨earlier, notCallers⟩ := attends.below event old
      exact ⟨earlier.trans (Nat.lt_succ_self _), notCallers⟩
    · obtain rfl := List.mem_singleton.mp new
      exact ⟨Nat.lt_succ_self _, fun isCallers => (attends.callersBelow _ isCallers).false⟩
  · simp only [Desk.carry, List.map_append, List.map_cons, List.map_nil]
    exact List.nodup_append_comm.mp (List.nodup_cons.mpr ⟨attends.next_fresh, attends.distinct⟩)
  · intro event member
    rcases List.mem_append.mp member with old | new
    · exact attends.arrived event old
    · obtain rfl := List.mem_singleton.mp new
      exact ⟨channel, arriving, attends.handed isOpen⟩
  · intro id closed
    rw [Desk.carry, List.map_append]
    exact List.mem_append_left _ (attends.settled id closed)
  · intro answer member
    obtain ⟨id, closed, isAsked, old⟩ := attends.answered answer member
    exact ⟨id, closed, isAsked, (carried_carry arriving _ _ _).mpr (.inl old)⟩

/-- The end of a request that was never reported, or has ended before. -/
theorem finish_unknown (attends : Attends callers desk part) {request : InboundRequestId}
    (unknown : part.inboundIds.lookup request = none) :
    Attends callers (desk.finish request) part := by
  apply attends.openedTo (Finset.Subset.refl _) ((Finset.erase_subset _ _).trans attends.handed)
  intro id channel carried
  rw [Finset.mem_erase]
  constructor
  · exact fun stillOpen => stillOpen.2
  · intro isOpen
    refine ⟨?_, isOpen⟩
    rintro rfl
    cases unknown.symm.trans ((attends.inboundIds _ id).mpr ⟨isOpen, channel, carried, rfl⟩)

/-- The end of a reported request takes it from both tables. -/
theorem finish_known (attends : Attends callers desk part) {request : InboundRequestId} {id : Nat}
    (known : part.inboundIds.lookup request = some id) :
    Attends callers (desk.finish request)
      { part with
        inboundIds := part.inboundIds.erase request
        inbound := part.inbound.erase id } := by
  obtain ⟨-, channel, carried, isRequest⟩ := (attends.inboundIds request id).mp known
  refine
    { attends with
      handed := (Finset.erase_subset _ _).trans attends.handed
      inbound := ?_
      inboundIds := ?_ }
  · intro tested other
    rw [Table.lookup_erase_if]
    by_cases isId : tested = id
    · rw [if_pos isId]
      constructor
      · simp
      · rintro ⟨carriedToo, -, isOpen⟩
        have same := attends.same_channel (isId ▸ carriedToo) carried
        exact absurd (same ▸ isRequest) (Finset.ne_of_mem_erase isOpen)
    · rw [if_neg isId, attends.inbound]
      constructor
      · rintro ⟨carriedToo, unanswered, isOpen⟩
        refine ⟨carriedToo, unanswered, Finset.mem_erase.mpr ⟨fun same => isId ?_, isOpen⟩⟩
        exact attends.own tested id other channel carriedToo carried (same.trans isRequest.symm)
      · rintro ⟨carriedToo, unanswered, isOpen⟩
        exact ⟨carriedToo, unanswered, Finset.mem_of_mem_erase isOpen⟩
  · intro tested other
    rw [Table.lookup_erase_if]
    by_cases isRequestToo : tested = request
    · rw [if_pos isRequestToo]
      simp [Desk.finish, isRequestToo]
    · rw [if_neg isRequestToo, attends.inboundIds]
      simp [Desk.finish, Desk.Carried, isRequestToo]

/-- An answer or a rejection takes the channel. -/
theorem close (attends : Attends callers desk part) (id : Nat) :
    Attends callers (desk.close id) { part with inbound := part.inbound.erase id } := by
  have closed_iff (tested : Nat) {channel : ResponseChannel}
      (carried : desk.Carried tested channel) :
      tested ∈ (desk.close id).closed ↔ tested = id ∨ tested ∈ desk.closed := by
    have isEvent : tested ∈ desk.events.map Prod.fst := List.mem_map_of_mem carried
    by_cases known : id ∈ desk.events.map Prod.fst
    · rw [Desk.close, if_pos known, Finset.mem_insert]
    · have different : tested ≠ id := fun same => known (same ▸ isEvent)
      rw [Desk.close, if_neg known]
      simp [different]
  have grown : desk.closed ⊆ (desk.close id).closed := by
    rw [Desk.close]
    dsimp only
    split
    · exact Finset.subset_insert id desk.closed
    · exact Finset.Subset.refl desk.closed
  refine
    { attends with
      settled := ?_
      inbound := ?_
      answered := ?_ }
  · intro tested closed
    rw [Desk.close] at closed
    dsimp only at closed
    split at closed
    · rename_i known
      rcases Finset.mem_insert.mp closed with rfl | old
      · exact known
      · exact attends.settled tested old
    · exact attends.settled tested closed
  · intro tested channel
    rw [Table.lookup_erase_if]
    by_cases isId : tested = id
    · rw [if_pos isId]
      constructor
      · simp
      · rintro ⟨carried, unanswered, -⟩
        exact absurd ((closed_iff tested carried).mpr (.inl isId)) unanswered
    · rw [if_neg isId, attends.inbound]
      constructor
      · rintro ⟨carried, unanswered, isOpen⟩
        refine ⟨carried, fun closed => ?_, isOpen⟩
        rcases (closed_iff tested carried).mp closed with same | old
        · exact isId same
        · exact unanswered old
      · rintro ⟨carried, unanswered, isOpen⟩
        exact ⟨carried, fun closed => unanswered (grown closed), isOpen⟩
  · intro answer member
    obtain ⟨other, closed, isAsked, carried⟩ := attends.answered answer member
    exact ⟨other, grown closed, isAsked, carried⟩

/-- The response of an answer goes out on the channel it took. -/
theorem answer (attends : Attends callers desk part) {id : Nat} {channel : ResponseChannel}
    (waits : part.inbound.lookup id = some channel) :
    Attends callers ({ desk.close id with asked := some id }.answer channel)
      { part with inbound := part.inbound.erase id } := by
  obtain ⟨carried, unanswered, -⟩ := (attends.inbound id channel).mp waits
  have closed := attends.close id
  refine { closed with answered := ?_, once := ?_ }
  · intro answer member
    rcases List.mem_append.mp member with old | new
    · exact closed.answered answer old
    · obtain rfl := List.mem_singleton.mp new
      refine ⟨id, ?_, rfl, carried⟩
      have known : id ∈ desk.events.map Prod.fst := List.mem_map_of_mem carried
      rw [Desk.answer, Desk.close]
      simp only [if_pos known, Finset.mem_insert_self]
  · have first : channel.request ∉ desk.answers.map fun answer => answer.2.request := by
      intro member
      obtain ⟨answer, inside, same⟩ := List.mem_map.mp member
      obtain ⟨other, answered, -, carriedToo⟩ := attends.answered answer inside
      obtain rfl := attends.own other id _ channel carriedToo carried same
      exact unanswered answered
    simp only [Desk.answer, Desk.close, List.map_append, List.map_cons, List.map_nil]
    exact List.nodup_append_comm.mp (List.nodup_cons.mpr ⟨first, attends.once⟩)

end

end Attends

/-! The handlers. -/

theorem Entry.Within.unnoted {touched : List Part} {entry : Entry} (within : entry.Within touched)
    (elsewhere : .inbox ∉ touched) (desk : Desk) : desk.note entry = desk := by
  cases entry with
  | heard => exact within.elim
  | did effect =>
    cases effect with
    | emit record =>
      apply if_neg
      intro isRequest
      exact elsewhere (within .inbox (by rw [Effect.part?, isRequest]; rfl))
    | sendResponse channel frame => exact absurd (within .inbox rfl) elsewhere
    | _ => rfl

namespace State

/-- What the desk sees of a handler that leaves the inbound requests alone. -/
theorem Confined.desk {touched : List Part} {before after : State}
    (confined : Confined touched before after) (elsewhere : .inbox ∉ touched) :
    after.desk = before.desk := by
  obtain ⟨extra, grown, within⟩ := confined.adds
  rw [State.desk, grown, List.foldl_append]
  have unnoted : ∀ desk : Desk, extra.foldl Desk.note desk = desk := by
    clear grown
    induction extra with
    | nil => exact fun desk => rfl
    | cons entry rest inductionHypothesis =>
      intro desk
      rw [List.foldl_cons, (within entry List.mem_cons_self).unnoted elsewhere]
      exact inductionHypothesis (fun other member => within other (List.mem_cons_of_mem _ member))
        desk
  exact unnoted _

theorem desk_heard (state : State) (nowMs : UInt64) (input : Input) :
    (state.heard nowMs input).desk = state.desk.hear input := by
  rw [State.desk, heard, List.foldl_append]
  rfl

theorem desk_deliver (state : State) (input : Input) :
    (state.deliver input).desk = state.desk := by
  rw [State.desk, (deliver_keeps state input).2.1]
  rfl

/-- What becomes of an inbound request: nothing the desk can see, or it is
reported under the next id. -/
theorem inboundRequest_cases (env : Env) (state : State) (peer : PeerId)
    (connection : ConnectionId) (request : InboundRequestId) (frame : Bytes)
    (channel : ResponseChannel) :
    Confined [] state (state.inboundRequest env peer connection request frame channel) ∨
      (state.inboundRequest env peer connection request frame channel).desk =
          state.desk.carry state.shared.nextId ∧
        (state.inboundRequest env peer connection request frame channel).inboxPart =
          { state.inboxPart with
            inbound := state.inbound.insert state.shared.nextId channel
            inboundIds := state.inboundIds.insert request state.shared.nextId
            nextId := state.shared.nextId + 1 } := by
  unfold inboundRequest
  dsimp only
  split
  · exact .inl (Confined.refl _ state)
  · split
    · refine .inl (Confined.trans ?_ (confined_reportLimited env _ _ _ _ _))
      exact confined_of_parts rfl
    · refine .inr ⟨?_, rfl⟩
      exact List.foldl_append

end State

/-- An id that was drawn for a command of the caller's. -/
def System.Callers (system : System) (id : Nat) : Prop :=
  id ∈ system.drawn ∨ ∃ input ∈ inputs system.state.log, id ∈ input.ids

/-- The desk and the tables of a node. -/
def System.Attended (system : System) : Prop :=
  Attends system.Callers system.state.desk system.state.inboxPart

theorem attended_start (config : Config) (localPeer : PeerId) (now : Instant) :
    (System.start config localPeer now).Attended where
  callersBelow := by simp [System.start, System.Callers, State.new, inputs]
  below := by simp [System.start, State.desk, State.new]
  distinct := by simp [System.start, State.desk, State.new]
  arrived := by simp [System.start, State.desk, State.new]
  own := by simp [System.start, State.desk, State.new, Desk.Carried]
  handed := by simp [System.start, State.desk, State.new]
  settled := by simp [System.start, State.desk, State.new]
  inbound := by simp [System.start, State.desk, State.new, State.inboxPart, Desk.Waiting, Desk.Carried]
  inboundIds := by simp [System.start, State.desk, State.new, State.inboxPart]
  answered := by simp [System.start, State.desk, State.new]
  once := by simp [System.start, State.desk, State.new]

section

variable {crates : Crates} {system : System} {env : Env} {input : Input}

/-- A command's ids stay the caller's when it is applied. -/
theorem callers_handle (enabled : System.Enabled crates system (.handle env input)) (id : Nat) :
    (system.step (.handle env input)).Callers id ↔ system.Callers id := by
  have noted := (State.handle_keeps env system.state input).1
  have isDrawn : id ∈ input.ids → id ∈ system.drawn := by
    cases input with
    | command sent => exact enabled.2.2.1 id
    | tick => simp [Input.ids]
    | swarm => simp [Input.ids]
  rw [System.Callers, System.Callers, System.step, noted]
  simp only [Finset.mem_filter, List.mem_append, List.mem_singleton]
  constructor
  · rintro (⟨stillDrawn, -⟩ | ⟨applied, old | rfl, carries⟩)
    · exact .inl stillDrawn
    · exact .inr ⟨applied, old, carries⟩
    · exact .inl (isDrawn carries)
  · rintro (wasDrawn | ⟨applied, old, carries⟩)
    · by_cases carries : id ∈ input.ids
      · exact .inr ⟨input, .inr rfl, carries⟩
      · exact .inl ⟨wasDrawn, carries⟩
    · exact .inr ⟨applied, .inl old, carries⟩

/-- An input of another part leaves the desk idle. -/
theorem Desk.hear_elsewhere (desk : Desk) (elsewhere : .inbox ∉ input.parts) :
    desk.hear input = desk.turnAway := by
  unfold Desk.hear
  split
  case h_6 => rfl
  all_goals exact absurd (by simp [Input.parts, SwarmEvent.parts, Command.parts]) elsewhere

theorem State.inboxPart_deliver (state : State) (elsewhere : .inbox ∉ input.parts) :
    (state.deliver input).inboxPart = state.inboxPart := by
  unfold State.deliver
  split
  case h_4 => exact absurd (by simp [Input.parts, SwarmEvent.parts]) elsewhere
  all_goals rfl

/-- The inputs that are about inbound requests. -/
inductive Input.OfInbox : Input → Prop where
  | request (peer : PeerId) (connection : ConnectionId) (request : InboundRequestId) (frame : Bytes)
      (channel : ResponseChannel) :
      OfInbox (.swarm (.rpc (.request peer connection request frame channel)))
  | inboundFailure (request : InboundRequestId) : OfInbox (.swarm (.rpc (.inboundFailure request)))
  | responseSent (request : InboundRequestId) : OfInbox (.swarm (.rpc (.responseSent request)))
  | respond (id : Nat) (payload : Bytes) : OfInbox (.command (.respond id payload))
  | reject (id : Nat) : OfInbox (.command (.reject id))

theorem Input.ofInbox (here : .inbox ∈ input.parts) : input.OfInbox := by
  cases input with
  | tick => simp [Input.parts] at here
  | command sent =>
    cases sent with
    | respond id payload => exact .respond id payload
    | reject id => exact .reject id
    | _ => simp [Input.parts, Command.parts] at here
  | swarm event =>
    cases event with
    | rpc event =>
      cases event with
      | request peer connection request frame channel =>
        exact .request peer connection request frame channel
      | inboundFailure request => exact .inboundFailure request
      | responseSent request => exact .responseSent request
      | _ => simp [Input.parts, SwarmEvent.parts] at here
    | kad event => cases event <;> simp [Input.parts, SwarmEvent.parts] at here
    | _ => simp [Input.parts, SwarmEvent.parts] at here

theorem attends_inboundRequest {callers : Nat → Prop} {state : State}
    (attends : Attends callers state.desk state.inboxPart) (env : Env) (peer : PeerId)
    (connection : ConnectionId) (frame : Bytes) {channel : ResponseChannel}
    (arriving : state.desk.arriving = some channel) (isOpen : channel.request ∈ state.desk.opened)
    (unreported : ∀ id other, state.desk.Carried id other → other.request ≠ channel.request) :
    Attends callers (state.inboundRequest env peer connection channel.request frame channel).desk
      (state.inboundRequest env peer connection channel.request frame channel).inboxPart := by
  rcases State.inboundRequest_cases env state peer connection channel.request frame channel with
    confined | ⟨desk, part⟩
  · rw [confined.desk (by simp), confined.inbox (by simp)]
    exact attends
  · rw [desk, part]
    exact attends.carry arriving isOpen unreported

theorem attends_inboundEnded {callers : Nat → Prop} (state : State) {desk : Desk}
    (attends : Attends callers desk state.inboxPart) (request : InboundRequestId) :
    Attends callers (desk.finish request) (state.inboundEnded request).inboxPart := by
  unfold State.inboundEnded
  split
  · rename_i unknown
    exact attends.finish_unknown unknown
  · rename_i id known
    exact attends.finish_known known

theorem State.desk_inboundEnded (state : State) (request : InboundRequestId) :
    (state.inboundEnded request).desk = state.desk := by
  unfold State.inboundEnded
  split <;> rfl

theorem attends_respond {callers : Nat → Prop} (state : State) {desk : Desk} {id : Nat}
    (attends : Attends callers desk state.inboxPart)
    (heard : state.desk = { desk.close id with asked := some id }) (payload : Bytes) :
    Attends callers (state.respond id payload).desk (state.respond id payload).inboxPart := by
  unfold State.respond
  split
  · rename_i unknown
    rw [heard]
    have same : { state.inboxPart with inbound := state.inbound.erase id } = state.inboxPart :=
      congrArg (fun inbound => { state.inboxPart with inbound }) (Table.erase_absent unknown)
    rw [← same]
    exact (attends.close id).handling desk.arriving (some id)
  · rename_i channel waits
    have noted : ({ state with inbound := state.inbound.erase id }.did
        (.sendResponse channel (Wire.encodeResponse state.delegation payload))).desk =
        state.desk.answer channel :=
      List.foldl_append
    rw [noted, heard]
    exact attends.answer waits

/-- A round of the event loop, seen from the desk. -/
theorem attends_handle (attended : system.Attended)
    (enabled : System.Enabled crates system (.handle env input)) :
    Attends system.Callers ((system.state.deliver input).handle env input).desk
      ((system.state.deliver input).handle env input).inboxPart := by
  have calm := attended.handling none none
  have heard : ((system.state.deliver input).heard env.nowMs input).desk =
      system.state.desk.hear input := by
    rw [State.desk_heard, State.desk_deliver]
  by_cases here : .inbox ∈ input.parts
  · cases Input.ofInbox here with
    | request peer connection request frame channel =>
      obtain ⟨-, fresh, rfl⟩ := enabled
      have received := (calm.receive fresh).handling (some channel) none
      refine attends_inboundRequest (heard ▸ received) env peer connection frame ?_ ?_ ?_
      · rw [heard]
        rfl
      · rw [heard]
        exact Finset.mem_insert_self _ _
      · intro id other carried same
        rw [heard] at carried
        exact fresh (same ▸ attended.carried_seen carried)
    | inboundFailure request =>
      rw [State.handle, State.swarmEvent, State.rpcEvent, State.desk_inboundEnded, heard]
      exact attends_inboundEnded (system.state.heard env.nowMs _) calm request
    | responseSent request =>
      rw [State.handle, State.swarmEvent, State.rpcEvent, State.desk_inboundEnded, heard]
      exact attends_inboundEnded (system.state.heard env.nowMs _) calm request
    | respond id payload =>
      exact attends_respond (system.state.heard env.nowMs _) calm heard payload
    | reject id =>
      have noted : ((system.state.deliver (.command (.reject id))).handle env
          (.command (.reject id))).desk = system.state.desk.turnAway.close id := heard
      rw [noted]
      exact calm.close id
  · have confined := State.confined_handle env (system.state.deliver input) input
    rw [confined.desk here, confined.inbox here, heard, Desk.hear_elsewhere _ here]
    have same := system.state.inboxPart_deliver here
    rw [← same] at calm
    exact calm

end

theorem attended_step {crates : Crates} (system : System) (action : Action)
    (attended : system.Attended) (enabled : System.Enabled crates system action) :
    (system.step action).Attended := by
  cases action with
  | draw =>
    have drawn (id : Nat) (isCallers : (system.step .draw).Callers id) :
        system.Callers id ∨ id = system.state.shared.nextId := by
      rcases isCallers with isDrawn | applied
      · rcases Finset.mem_insert.mp isDrawn with rfl | older
        · exact .inr rfl
        · exact .inl (.inl older)
      · exact .inl (.inr applied)
    apply attended.callersTo (Nat.le_succ _)
    · intro id isCallers
      rcases drawn id isCallers with old | rfl
      · exact (attended.callersBelow id old).trans (Nat.lt_succ_self _)
      · exact Nat.lt_succ_self _
    · intro id isCallers
      exact (drawn id isCallers).imp_right ge_of_eq
  | poll cap => exact attended
  | internalQuery => exact attended
  | learn peer address => exact attended
  | ready env =>
    have confined := State.confined_ready env system.state
    have noted : inputs (system.state.ready env).log = inputs system.state.log :=
      (State.passive_ready env system.state).conserves_of_plain.inputs
    have callers : (system.step (.ready env)).Callers = system.Callers := by
      funext id
      simp only [System.Callers, System.step, noted]
    rw [System.Attended, callers, System.step, confined.desk (by simp), confined.inbox (by simp)]
    exact attended
  | handle env input =>
    have callers : (system.step (.handle env input)).Callers = system.Callers := by
      funext id
      exact propext (callers_handle enabled id)
    rw [System.Attended, callers]
    exact attends_handle attended enabled

/-- An id that nothing waits for an answer under: no event had it, it was
answered or rejected, its request is over, or it is that of a call or of a query
of the caller's. -/
inductive State.Answerless (state : State) (id : Nat) : Prop where
  | unknown (never : id ∉ state.desk.events.map Prod.fst)
  | answered (channel : ResponseChannel) (sent : (some id, channel) ∈ state.desk.answers)
  | closed (member : id ∈ state.desk.closed)
  | ended (channel : ResponseChannel) (carried : state.desk.Carried id channel)
      (isOver : channel.request ∉ state.desk.opened)
  | callers (input : Input) (applied : input ∈ inputs state.log) (carries : id ∈ input.ids)

theorem Attends.absent_of_answerless {system : System} (attended : system.Attended) {id : Nat}
    (answerless : system.state.Answerless id) : system.state.inbound.lookup id = none := by
  apply Option.eq_none_iff_forall_ne_some.mpr
  intro channel found
  obtain ⟨carried, unanswered, isOpen⟩ := (attended.inbound id channel).mp found
  cases answerless with
  | unknown never => exact never (List.mem_map_of_mem carried)
  | answered other sent =>
    obtain ⟨_, closed, ⟨⟩, -⟩ := attended.answered _ sent
    exact unanswered closed
  | closed member => exact unanswered member
  | ended other carriedToo isOver =>
    exact isOver (attended.same_channel carried carriedToo ▸ isOpen)
  | callers input applied carries => exact (attended.below _ carried).2 (.inr ⟨input, applied, carries⟩)

/-- Every inbound request is answered at most once, on its own stream. -/
structure AnsweredOnce (state : State) : Prop where
  /-- Exactly the requests wait that were reported, are open and have no answer. -/
  waiting : ∀ id channel, state.inbound.lookup id = some channel ↔ state.desk.Waiting id channel
  reported : ∀ id channel, state.inbound.lookup id = some channel →
    (state.desk.events.map Prod.fst).count id = 1
  image : ∀ id channel, state.inbound.lookup id = some channel →
    ∃! request, state.inboundIds.lookup request = some id
  injective : ∀ first second id, state.inboundIds.lookup first = some id →
    state.inboundIds.lookup second = some id → first = second
  /-- No request gets a second response. -/
  once : ∀ request, (state.desk.answers.map fun answer => answer.2.request).count request ≤ 1
  /-- A response goes out on the channel of the one request that the answered id
  was reported for. -/
  own : ∀ asked channel, (asked, channel) ∈ state.desk.answers →
    ∃ id, asked = some id ∧ (state.desk.events.map Prod.fst).count id = 1 ∧
      state.desk.Carried id channel
  /-- Any other number the caller answers or rejects changes nothing. -/
  ignored : ∀ id, state.Answerless id → ∀ env payload,
    state.command env (.respond id payload) = state ∧ state.command env (.reject id) = state
  /-- When every request is over, nothing is left. -/
  drained : state.desk.opened = ∅ → state.inbound = ∅ ∧ state.inboundIds = ∅

theorem State.respond_absent {state : State} {id : Nat} (absent : state.inbound.lookup id = none)
    (payload : Bytes) : state.respond id payload = state := by
  rw [State.respond, absent]

theorem State.reject_absent {state : State} {id : Nat} (absent : state.inbound.lookup id = none)
    (env : Env) : state.command env (.reject id) = state := by
  rw [State.command, Table.erase_absent absent]

/-- After any run: inbound requests that are let through or not, answers and
rejections of any number, and ends of requests in any order. -/
theorem inbound_answered_once {crates : Crates} {config : Config} {localPeer : PeerId}
    {now : Instant} {actions : List Action}
    (run : System.Run crates config localPeer now actions) :
    AnsweredOnce (System.after config localPeer now actions).state := by
  have attended : (System.after config localPeer now actions).Attended :=
    run.invariant (attended_start config localPeer now) attended_step
  have reported {id : Nat} {channel : ResponseChannel}
      (carried : (System.after config localPeer now actions).state.desk.Carried id channel) :
      ((System.after config localPeer now actions).state.desk.events.map Prod.fst).count id = 1 :=
    List.count_eq_one_of_mem attended.distinct (List.mem_map_of_mem carried)
  refine
    { waiting := attended.inbound
      reported := fun id channel found => reported ((attended.inbound id channel).mp found).1
      image := ?_
      injective := ?_
      once := fun request => List.nodup_iff_count_le_one.mp attended.once request
      own := ?_
      ignored := ?_
      drained := ?_ }
  · intro id channel found
    obtain ⟨carried, -, isOpen⟩ := (attended.inbound id channel).mp found
    refine ⟨channel.request, (attended.inboundIds _ id).mpr ⟨isOpen, channel, carried, rfl⟩, ?_⟩
    intro request foundToo
    obtain ⟨-, other, carriedToo, rfl⟩ := (attended.inboundIds request id).mp foundToo
    rw [attended.same_channel carriedToo carried]
  · intro first second id found foundToo
    obtain ⟨-, channel, carried, rfl⟩ := (attended.inboundIds first id).mp found
    obtain ⟨-, other, carriedToo, rfl⟩ := (attended.inboundIds second id).mp foundToo
    rw [attended.same_channel carried carriedToo]
  · intro asked channel sent
    obtain ⟨id, -, isAsked, carried⟩ := attended.answered _ sent
    exact ⟨id, isAsked, reported carried, carried⟩
  · intro id answerless env payload
    have absent := Attends.absent_of_answerless attended answerless
    exact ⟨State.respond_absent absent payload, State.reject_absent absent env⟩
  · intro isOver
    constructor
    · apply Table.eq_empty
      intro id channel found
      have isOpen := ((attended.inbound id channel).mp found).2.2
      simp [isOver] at isOpen
    · apply Table.eq_empty
      intro request id found
      have isOpen := ((attended.inboundIds request id).mp found).1
      simp [isOver] at isOpen

/-- A request of the remote node that the caller answers twice, and its end. -/
def Sample.answeredRequest : List Action :=
  [.handle Sample.env (.swarm (.rpc (.request Sample.remotePeer 0 0
    (Wire.encodeRequest Sample.remoteDelegation.toBytes "/echo/1" [5]) ⟨0⟩))),
    .ready Sample.env,
    .handle Sample.env (.command (.respond 1 [6])),
    .handle Sample.env (.command (.respond 1 [7])),
    .handle Sample.env (.swarm (.rpc (.responseSent 0)))]

theorem Sample.answeredRequest_run :
    System.Run Sample.crates Sample.config Sample.peer 0 Sample.answeredRequest := by
  simp only [System.Run, Sample.answeredRequest, Runs.admissible_cons, Runs.admissible_nil, and_true]
  refine ⟨⟨rfl, ?_, rfl⟩, ⟨rfl, rfl⟩, ⟨rfl, rfl, ?_, trivial⟩, ⟨rfl, rfl, ?_, trivial⟩, rfl, trivial⟩
  · decide +kernel
  · decide
  · decide

/-- The request waits under its id at first. Of the two answers one goes out, and
at the end nothing is left. -/
theorem inbound_answered_once_twice :
    (∃! request, (System.after Sample.config Sample.peer 0
        (Sample.answeredRequest.take 1)).state.inboundIds.lookup request = some 1) ∧
      (System.after Sample.config Sample.peer 0 Sample.answeredRequest).state.desk.answers =
        [(some 1, ⟨0⟩)] ∧
      (System.after Sample.config Sample.peer 0 Sample.answeredRequest).state.inbound = ∅ ∧
      (System.after Sample.config Sample.peer 0 Sample.answeredRequest).state.inboundIds = ∅ := by
  have first := inbound_answered_once (Sample.answeredRequest_run.take (List.take_prefix 1 _))
  have atEnd := inbound_answered_once Sample.answeredRequest_run
  refine ⟨first.image 1 ⟨0⟩ ?_, ?_, atEnd.drained ?_⟩
  · decide +kernel
  · decide +kernel
  · decide +kernel

end Libp2pFfi
