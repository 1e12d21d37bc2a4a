import Libp2pFfi.EventLoop

/-!
# One outcome for every call

A call that was applied is in the table of calls and no event has ended it, or
it has left the table and exactly one event has, with the call's own group and
protocol. Calls leave the table in three places, and what a call still waits for
may report after it has ended; the law is kept because an event that ends a call
is emitted exactly where the call leaves the table.

`Conserves` is that law for one handler: for every id, either nothing has
changed that matters here, or the call left the table with one event. It
composes, so each handler has it from its parts.
-/

namespace Libp2pFfi

/-- The record by which a line of the log ends a call. -/
def Entry.outcome? (id : Nat) : Entry → Option Record
  | did (.emit record) =>
    if record.header.kind.endsCall ∧ record.header.id = id then some record else none
  | _ => none

/-- The input a line of the log notes. -/
def Entry.input? : Entry → Option Input
  | heard _ input => some input
  | did _ => none

/-- The events that ended a call, oldest first. -/
def outcomes (id : Nat) (log : List Entry) : List Record := log.filterMap (Entry.outcome? id)

/-- The inputs handled so far. -/
def inputs (log : List Entry) : List Input := log.filterMap Entry.input?

/-- A line that ends no call and notes no input. -/
def Entry.Silent (entry : Entry) : Prop := (∀ id, entry.outcome? id = none) ∧ entry.input? = none

/-- A line about no call is no outcome. -/
theorem Entry.Quiet.silent {entry : Entry} (quiet : entry.Quiet) : entry.Silent := by
  cases entry with
  | heard => exact quiet.elim
  | did effect =>
    refine ⟨fun id => ?_, rfl⟩
    cases effect with
    | emit record =>
      have notEnding : record.header.kind.endsCall = false := by
        by_contra ends
        simp [Entry.Quiet, Effect.call?, ends] at quiet
      simp [Entry.outcome?, notEnding]
    | _ => rfl

/-- Silent lines leave the outcomes. -/
theorem outcomes_silent {extra : List Entry} (silent : ∀ entry ∈ extra, entry.Silent) (id : Nat)
    (log : List Entry) : outcomes id (log ++ extra) = outcomes id log :=
  State.filterMap_unseen (fun entry member => (silent entry member).1 id) log

/-- They leave the inputs too. -/
theorem inputs_silent {extra : List Entry} (silent : ∀ entry ∈ extra, entry.Silent)
    (log : List Entry) : inputs (log ++ extra) = inputs log :=
  State.filterMap_unseen (fun entry member => (silent entry member).2) log

/-- What of a call its outcome must carry. -/
def Call.identity (call : Call) : Key × Nat := (call.group, call.protocol)

namespace State

/-- The call of an id, as far as its outcome is concerned. -/
def identity (state : State) (id : Nat) : Option (Key × Nat) :=
  (state.calls.lookup id).map Call.identity

/-- What a handler may do to one call: leave it, or end it with one event. -/
def CallConserved (before after : State) (id : Nat) : Prop :=
  (after.identity id = before.identity id ∧ outcomes id after.log = outcomes id before.log) ∨
    ∃ call record, before.calls.lookup id = some call ∧ after.calls.lookup id = none ∧
      outcomes id after.log = outcomes id before.log ++ [record] ∧
      record.header.group = call.group ∧ record.header.protocol = call.protocol

/-- What no handler breaks: it hears nothing, draws ids upwards, and treats every call
by the rule. -/
structure Conserves (before after : State) : Prop where
  inputs : inputs after.log = inputs before.log
  nextId : before.shared.nextId ≤ after.shared.nextId
  calls : ∀ id, CallConserved before after id

/-- Doing nothing conserves the calls. -/
theorem Conserves.refl (state : State) : Conserves state state :=
  ⟨rfl, le_refl _, fun _ => .inl ⟨rfl, rfl⟩⟩

/-- A call that ends in one of two steps is kept by the other. -/
theorem CallConserved.trans {first second third : State} {id : Nat}
    (left : CallConserved first second id) (right : CallConserved second third id) :
    CallConserved first third id := by
  rcases left with ⟨same, outcomes⟩ | ⟨call, record, found, ended, outcomes, group, protocol⟩
  · rcases right with ⟨sameToo, outcomesToo⟩ |
      ⟨call, record, found, ended, outcomesToo, group, protocol⟩
    · exact .inl ⟨sameToo.trans same, outcomesToo.trans outcomes⟩
    · obtain ⟨original, foundFirst, sameIdentity⟩ : ∃ original,
          first.calls.lookup id = some original ∧ original.identity = call.identity := by
        rw [identity, identity, found, Option.map_some] at same
        exact Option.map_eq_some_iff.mp same.symm
      refine .inr ⟨original, record, foundFirst, ended, by rw [outcomesToo, outcomes], ?_, ?_⟩
      · rw [group]
        exact (congrArg Prod.fst sameIdentity).symm
      · rw [protocol]
        exact (congrArg Prod.snd sameIdentity).symm
  · rcases right with ⟨sameToo, outcomesToo⟩ | ⟨call, _, foundToo, -⟩
    · refine .inr ⟨call, record, found, ?_, by rw [outcomesToo, outcomes], group, protocol⟩
      rw [identity, identity, ended, Option.map_none] at sameToo
      exact Option.map_eq_none_iff.mp sameToo
    · cases ended.symm.trans foundToo

/-- So with all calls. -/
theorem Conserves.trans {first second third : State} (left : Conserves first second)
    (right : Conserves second third) : Conserves first third :=
  ⟨right.inputs.trans left.inputs, left.nextId.trans right.nextId, fun id =>
    (left.calls id).trans (right.calls id)⟩

/-- A handler that touches no call conserves the calls. -/
theorem Aside.conserves {ending : QueryId → Prop} {before after : State}
    (aside : Aside ending Entry.Quiet before after) : Conserves before after := by
  obtain ⟨extra, grown, quiet⟩ := aside.adds
  have silent : ∀ entry ∈ extra, entry.Silent := fun entry member => (quiet entry member).silent
  have sameCalls : after.calls = before.calls := congrArg CallView.calls aside.view
  refine ⟨?_, aside.nextId, fun id => .inl ⟨?_, ?_⟩⟩
  · rw [grown, inputs_silent silent]
  · rw [identity, identity, sameCalls]
  · rw [grown, outcomes_silent silent]

/-- A plain step touches no call. -/
theorem Aside.conserves_of_plain {ending : QueryId → Prop} {before after : State}
    (aside : Aside ending Entry.Plain before after) : Conserves before after :=
  (aside.mono (fun _ ends => ends) fun _ => Entry.Plain.quiet).conserves

/-- A step that writes one call, keeping what its outcome must carry. -/
theorem conserves_write {before after : State} {id : Nat} {old call : Call}
    (found : before.calls.lookup id = some old)
    (written : after.calls = before.calls.insert id call) (same : call.identity = old.identity)
    (nextId : after.shared.nextId = before.shared.nextId)
    (adds : Adds Entry.Silent before after) : Conserves before after := by
  obtain ⟨extra, grown, silent⟩ := adds
  refine ⟨?_, nextId.ge, fun other => .inl ⟨?_, ?_⟩⟩
  · rw [grown, inputs_silent silent]
  · rw [identity, identity, written, Table.lookup_insert_if]
    split
    · rename_i own
      rw [own, found, Option.map_some, Option.map_some, same]
    · rfl
  · rw [grown, outcomes_silent silent]

/-- A step that ends one call with one event. -/
theorem conserves_end {before after : State} {id : Nat} {call : Call} {record : Record}
    {extra : List Entry} (found : before.calls.lookup id = some call)
    (removed : after.calls = before.calls.erase id)
    (nextId : after.shared.nextId = before.shared.nextId)
    (grown : after.log = before.log ++ extra ++ [.did (.emit record)])
    (silent : ∀ entry ∈ extra, entry.Silent)
    (ends : record.header.kind.endsCall = true) (own : record.header.id = id)
    (group : record.header.group = call.group) (protocol : record.header.protocol = call.protocol) :
    Conserves before after := by
  have outcomesOf (other : Nat) : outcomes other after.log =
      outcomes other before.log ++ if id = other then [record] else [] := by
    rw [grown, outcomes, List.filterMap_append]
    congr 1
    · exact outcomes_silent silent other before.log
    · by_cases same : id = other <;> simp [Entry.outcome?, ends, own, same]
  refine ⟨?_, nextId.ge, fun other => ?_⟩
  · have kept := inputs_silent silent before.log
    rw [grown, Libp2pFfi.inputs, List.filterMap_append]
    simpa [Libp2pFfi.inputs, Entry.input?] using kept
  · by_cases same : id = other
    · subst same
      refine .inr ⟨call, record, found, ?_, ?_, group, protocol⟩
      · rw [removed, AList.lookup_erase]
      · rw [outcomesOf, if_pos rfl]
    · refine .inl ⟨?_, ?_⟩
      · rw [identity, identity, removed, AList.lookup_erase_ne (Ne.symm same)]
      · rw [outcomesOf, if_neg same, List.append_nil]

/-! The handlers conserve the calls. -/

/-- A call that is rewritten with what its outcome must carry. -/
theorem conserves_setCall {state : State} {id : Nat} {old call : Call}
    (found : state.calls.lookup id = some old) (same : call.identity = old.identity) :
    Conserves state (state.setCall id call) :=
  conserves_write found rfl same rfl (Adds.refl _ _)

/-- Looking at a candidate is no outcome. -/
theorem passed_silent (id : Nat) (peers : List PeerId) :
    ∀ entry ∈ peers.map (fun peer => Entry.did (.turn id peer false false)), entry.Silent := by
  intro entry member
  obtain ⟨peer, -, rfl⟩ := List.mem_map.mp member
  exact ⟨fun _ => rfl, rfl⟩

/-- A call that moves on goes on, or fails with one event. -/
theorem conserves_advance (env : Env) (state : State) (id : Nat) :
    Conserves state (state.advance env id) := by
  have turned (skipped : List PeerId) (effect : Effect)
      (silent : (Entry.did effect).Silent) (peer : PeerId) (connected known : Bool) :
      ∀ entry ∈ skipped.map (fun peer => Entry.did (.turn id peer false false)) ++
        [.did (.turn id peer connected known)] ++ [.did effect], entry.Silent := by
    simp only [List.mem_append, List.mem_singleton]
    rintro entry ((passed | rfl) | rfl)
    · exact passed_silent id skipped entry passed
    · exact ⟨fun _ => rfl, rfl⟩
    · exact silent
  have spec := advance_spec env state id
  generalize state.advance env id = after at spec ⊢
  cases spec with
  | missing => exact Conserves.refl state
  | busy => exact Conserves.refl state
  | waits call found => exact conserves_write found rfl rfl rfl ⟨_, rfl, passed_silent id _⟩
  | fails call found => exact conserves_end found rfl rfl rfl (passed_silent id _) rfl rfl rfl rfl
  | sends call found idle skipped peer rest =>
    refine conserves_write found rfl rfl rfl ⟨_, ?_, turned skipped
      (.sendRequest id state.swarm.nextRequest peer call.frame) ⟨fun _ => rfl, rfl⟩ peer
      (env.isConnected peer) (state.swarm.addressBook.knows peer)⟩
    simp [sendCandidate, setCall, sendRequest, did, lookAt, passOver]
  | resolves call found idle skipped peer rest =>
    refine conserves_write found rfl rfl rfl ⟨_, ?_, turned skipped
      (.getClosestPeers state.swarm.nextQuery peer (.resolve id peer)) ⟨fun _ => rfl, rfl⟩ peer
      (env.isConnected peer) (state.swarm.addressBook.knows peer)⟩
    simp [resolveCandidate, setCall, getClosestPeers, beginQuery, did, lookAt, passOver]

/-- A call that times out fails with one event. -/
theorem conserves_failCall (state : State) (id reason : Nat) :
    Conserves state (state.failCall id reason) := by
  unfold failCall
  split
  · exact Conserves.refl state
  · rename_i call found
    have grown : (emit { state with calls := state.calls.erase id } (rpcFailed id call reason)).log =
        state.log ++ [] ++ [.did (.emit (rpcFailed id call reason))] := by simp [emit]
    exact conserves_end found rfl rfl grown (by simp) rfl rfl rfl rfl

/-- A step that changes neither calls nor log. -/
theorem conserves_of_same {before after : State} (calls : after.calls = before.calls)
    (log : after.log = before.log) (nextId : after.shared.nextId = before.shared.nextId) :
    Conserves before after :=
  ⟨by rw [log], nextId.ge, fun id => .inl ⟨by rw [identity, identity, calls], by rw [log]⟩⟩

/-- Queueing providers changes whom the call has seen and will try, and nothing
else. -/
theorem queueProviders_spec (env : Env) (state : State) (call : Call) (providers : List PeerId) :
    ∃ seen candidates, state.queueProviders env call providers = { call with seen, candidates } := by
  unfold queueProviders
  induction providers generalizing call with
  | nil => exact ⟨_, _, rfl⟩
  | cons provider rest inductionHypothesis =>
    rw [List.foldl_cons]
    split
    · unfold enqueue
      split
      · exact inductionHypothesis call
      · obtain ⟨seen, candidates, queued⟩ := inductionHypothesis _
        exact ⟨seen, candidates, queued⟩
    · exact inductionHypothesis call

/-- A step that changes a call, if it is there, but not whose call it is. -/
theorem conserves_adjust {before after : State} {id : Nat} {change : Call → Call}
    (changed : after.calls = before.calls.adjust id change) (log : after.log = before.log)
    (nextId : after.shared.nextId = before.shared.nextId)
    (same : ∀ call, (change call).identity = call.identity) : Conserves before after := by
  refine ⟨by rw [log], nextId.ge, fun other => .inl ⟨?_, by rw [log]⟩⟩
  rw [identity, identity, changed, Table.lookup_adjust]
  split
  · rw [Option.map_map]
    exact congrArg (Option.map · _) (funext same)
  · rfl

/-- Candidates are no outcome. -/
theorem conserves_queueLookup (env : Env) (state : State) (query : QueryId) (id : Nat)
    (result : GetProvidersResult) (last : Bool) :
    Conserves state (state.queueLookup env query id result last) := by
  refine conserves_adjust rfl rfl rfl fun call => ?_
  obtain ⟨seen, candidates, queued⟩ :=
    queueProviders_spec env state call (providersFound result)
  rw [queued]
  split <;> rfl

/-- Nor is the end of a lookup of addresses. -/
theorem conserves_resume (state : State) (query : QueryId) (id : Nat) :
    Conserves state (state.resume query id) :=
  conserves_adjust rfl rfl rfl fun _ => rfl

/-- Nor is the end of an attempt. -/
theorem conserves_attemptFailed (state : State) (request : OutboundRequestId) (id reason : Nat) :
    Conserves state (state.attemptFailed request id reason) :=
  conserves_adjust rfl rfl rfl fun _ => rfl

/-- An answer ends its call with one event. -/
theorem conserves_answered {state : State} {id : Nat} {call : Call} {peer : PeerId} {node : Key}
    {payload : Bytes} (found : state.calls.lookup id = some call) :
    Conserves state (state.answered id call peer node payload) := by
  have grown : (state.answered id call peer node payload).log =
      state.log ++ [] ++ [.did (.emit (rpcResponse id call.group node call.protocol payload))] := by
    simp [answered, emit]
  exact conserves_end found rfl rfl grown (by simp) rfl rfl rfl rfl

/-- A response is an answer, a refusal, or for no call any more. -/
theorem conserves_response (env : Env) (state : State) (peer : PeerId)
    (request : OutboundRequestId) (frame : Bytes) :
    Conserves state (state.response env peer request frame) := by
  unfold response
  dsimp only
  split
  · exact Conserves.refl state
  · rename_i id owner
    have ended : Conserves state { state with outbound := state.outbound.erase request } :=
      conserves_of_same rfl rfl rfl
    split
    · exact ended
    · rename_i call found
      split
      · exact ended.trans (conserves_answered found)
      · refine Conserves.trans ?_ (conserves_advance env _ id)
        refine Conserves.trans ?_ (passive_rememberFailure env _ peer).conserves_of_plain
        exact ended.trans (conserves_setCall found rfl)

/-- A failure moves its call on. -/
theorem conserves_outboundFailed (env : Env) (state : State) (peer : PeerId)
    (request : OutboundRequestId) (error : OutboundFailure) :
    Conserves state (state.outboundFailed env peer request error) := by
  have noted := (passive_rememberFailure env state peer).conserves_of_plain
  unfold outboundFailed
  dsimp only
  split
  · exact noted
  · refine Conserves.trans ?_ (conserves_advance env _ _)
    exact noted.trans (conserves_attemptFailed _ _ _ _)

/-- A tick ends the calls that are due. -/
theorem conserves_tick (env : Env) (state : State) : Conserves state (state.tick env) := by
  have expired (ids : List Nat) (state : State) :
      Conserves state (ids.foldl (fun state id => state.failCall id failTimeout) state) := by
    induction ids generalizing state with
    | nil => exact Conserves.refl state
    | cons id rest inductionHypothesis =>
      exact (conserves_failCall state id failTimeout).trans (inductionHypothesis _)
  exact (expired _ state).trans (passive_tick env state).conserves_of_plain

/-- Results of queries move calls on. -/
theorem conserves_kadEvent (env : Env) (state : State) (event : KadEvent) :
    Conserves state (state.kadEvent env event) := by
  unfold kadEvent
  split
  · dsimp only
    split <;> exact conserves_of_same rfl rfl rfl
  · unfold providersReported
    split
    · exact (aside_topicProviders env state _ _ _).conserves_of_plain
    · split
      · exact (aside_callerProviders env state _ _ _ _).conserves_of_plain
      · split
        · exact (conserves_queueLookup env state _ _ _ _).trans (conserves_advance env _ _)
        · exact Conserves.refl state
  · rename_i query peers _
    unfold closestPeersReported
    dsimp only
    have known : Conserves state
        (peers.foldl (fun state info => state.addAddresses info.peer info.addrs) state) :=
      (aside_foldl (fun state info => passive_addAddresses state info.peer info.addrs) peers
        state).conserves_of_plain
    split
    · exact (known.trans (conserves_resume _ _ _)).trans (conserves_advance env _ _)
    · split
      · exact known.trans (aside_walked env _ _ _ _).conserves_of_plain
      · exact known
  · exact (aside_bootstrapReported state _ _ _).conserves_of_plain
  · exact Conserves.refl state
  · exact Conserves.refl state

/-- No event begins a call. -/
theorem conserves_swarmEvent (env : Env) (state : State) (event : SwarmEvent) :
    Conserves state (state.swarmEvent env event) := by
  rcases event.quiet_or_ofOwn with quiet | own
  · exact (quiet_swarmEvent env state event quiet).conserves
  · cases own with
    | progressed => exact conserves_kadEvent env state _
    | response => exact conserves_response env state _ _ _
    | outboundFailure => exact conserves_outboundFailed env state _ _ _

/-- Starting a call writes the call and ends none. -/
theorem startCall_spec (env : Env) (state : State) (id : Nat) (group : Key) (node : Option Key)
    (protocol : Nat) (payload : Bytes) (timeout : Duration) :
    ∃ call, (state.startCall env id group node protocol payload timeout).calls =
        state.calls.insert id call ∧ call.identity = (group, protocol) ∧
      (state.startCall env id group node protocol payload timeout).shared.nextId =
        state.shared.nextId ∧
      Adds Entry.Silent state (state.startCall env id group node protocol payload timeout) := by
  unfold startCall
  dsimp only
  split
  · split
    · exact ⟨_, rfl, rfl, rfl, Adds.refl _ _⟩
    · exact ⟨_, rfl, rfl, rfl, Adds.refl _ _⟩
  · refine ⟨_, rfl, rfl, rfl, _, rfl, ?_⟩
    intro entry only
    rw [List.mem_singleton.mp only]
    exact ⟨fun _ => rfl, rfl⟩

/-- What libp2p forgets with an event is no call. -/
theorem deliver_keeps (state : State) (input : Input) :
    (state.deliver input).calls = state.calls ∧ (state.deliver input).log = state.log ∧
      (state.deliver input).shared = state.shared := by
  unfold deliver
  split <;> exact ⟨rfl, rfl, rfl⟩

/-- Handling an input notes it and no other, and draws ids from the counter. -/
theorem handle_keeps (env : Env) (state : State) (input : Input) :
    inputs ((state.deliver input).handle env input).log = inputs state.log ++ [input] ∧
      state.shared.nextId ≤ ((state.deliver input).handle env input).shared.nextId := by
  obtain ⟨-, sameLog, sameShared⟩ := deliver_keeps state input
  have noted : inputs ((state.deliver input).heard env.nowMs input).log =
      inputs state.log ++ [input] := by
    rw [heard, sameLog, inputs, List.filterMap_append]
    rfl
  have sameId : ((state.deliver input).heard env.nowMs input).shared.nextId =
      state.shared.nextId := by
    rw [heard, sameShared]
  rw [← noted, ← sameId]
  cases input with
  | tick => exact ⟨(conserves_tick env _).inputs, (conserves_tick env _).nextId⟩
  | swarm event =>
    exact ⟨(conserves_swarmEvent env _ event).inputs, (conserves_swarmEvent env _ event).nextId⟩
  | command sent =>
    by_cases isCall : ∃ id group node protocol payload timeout,
        sent = .rpc id group node protocol payload timeout
    · obtain ⟨id, group, node, protocol, payload, timeout, rfl⟩ := isCall
      obtain ⟨-, -, -, nextId, extra, grown, silent⟩ := startCall_spec env
        ((state.deliver (.command (.rpc id group node protocol payload timeout))).heard env.nowMs
          (.command (.rpc id group node protocol payload timeout)))
        id group node protocol payload timeout
      have advanced := conserves_advance env (startCall env
        ((state.deliver (.command (.rpc id group node protocol payload timeout))).heard env.nowMs
          (.command (.rpc id group node protocol payload timeout)))
        id group node protocol payload timeout) id
      refine ⟨advanced.inputs.trans ?_, nextId.ge.trans advanced.nextId⟩
      rw [grown, inputs_silent silent]
    · have passive := passive_command env
        ((state.deliver (.command sent)).heard env.nowMs (.command sent)) sent (by simpa using isCall)
      exact ⟨passive.conserves_of_plain.inputs, passive.nextId⟩

end State

/-- A call to a group under a protocol was applied. -/
def Applied (log : List Entry) (id : Nat) (group : Key) (protocol : Nat) : Prop :=
  ∃ node payload timeout, Input.command (.rpc id group node protocol payload timeout) ∈ inputs log

/-- The state of every id: not used yet, in progress without an outcome, or ended
with one. -/
structure Accounted (system : System) : Prop where
  drawn : ∀ id ∈ system.drawn, id < system.state.shared.nextId
  unused : ∀ id, id ∈ system.drawn ∨ system.state.shared.nextId ≤ id →
    system.state.calls.lookup id = none ∧ outcomes id system.state.log = [] ∧
      ∀ group protocol, ¬ Applied system.state.log id group protocol
  live : ∀ id call, system.state.calls.lookup id = some call →
    outcomes id system.state.log = [] ∧
      ∀ group protocol, Applied system.state.log id group protocol →
        group = call.group ∧ protocol = call.protocol
  ended : ∀ id group protocol, Applied system.state.log id group protocol →
    system.state.calls.lookup id = none →
      ∃ record, outcomes id system.state.log = [record] ∧ record.header.group = group ∧
        record.header.protocol = protocol

/-- At the start no call was placed. -/
theorem accounted_start (config : Config) (localPeer : PeerId) (now : Instant) :
    Accounted (System.start config localPeer now) where
  drawn := by simp [System.start]
  unused := fun id _ => ⟨rfl, rfl, by rintro group protocol ⟨_, _, _, ⟨⟩⟩⟩
  live := by simp [System.start, State.new]
  ended := by rintro id group protocol ⟨_, _, _, ⟨⟩⟩

/-- Handlers that conserve the calls keep the account. -/
theorem Accounted.conserves {before after : System} (accounted : Accounted before)
    (conserves : State.Conserves before.state after.state) (fewer : after.drawn ⊆ before.drawn) :
    Accounted after := by
  have applied (id : Nat) (group : Key) (protocol : Nat) :
      Applied after.state.log id group protocol ↔ Applied before.state.log id group protocol := by
    unfold Applied
    rw [conserves.inputs]
  refine ⟨?_, ?_, ?_, ?_⟩
  · exact fun id isDrawn => (accounted.drawn id (fewer isDrawn)).trans_le conserves.nextId
  · intro id isUnused
    obtain ⟨absent, none, never⟩ := accounted.unused id
      (isUnused.imp (fun isDrawn => fewer isDrawn) fun later => conserves.nextId.trans later)
    rcases conserves.calls id with ⟨same, outcomesSame⟩ | ⟨call, _, found, -⟩
    · refine ⟨?_, outcomesSame.trans none, fun group protocol => ?_⟩
      · rw [State.identity, State.identity, absent] at same
        exact Option.map_eq_none_iff.mp same
      · rw [applied]
        exact never group protocol
    · cases absent.symm.trans found
  · intro id call found
    rcases conserves.calls id with ⟨same, outcomesSame⟩ | ⟨_, _, -, gone, -⟩
    · obtain ⟨original, foundBefore, sameIdentity⟩ : ∃ original,
          before.state.calls.lookup id = some original ∧ original.identity = call.identity := by
        rw [State.identity, State.identity, found] at same
        exact Option.map_eq_some_iff.mp same.symm
      obtain ⟨none, own⟩ := accounted.live id original foundBefore
      refine ⟨outcomesSame.trans none, fun group protocol isApplied => ?_⟩
      obtain ⟨sameGroup, sameProtocol⟩ := own group protocol ((applied _ _ _).mp isApplied)
      exact ⟨sameGroup.trans (congrArg Prod.fst sameIdentity),
        sameProtocol.trans (congrArg Prod.snd sameIdentity)⟩
    · cases gone.symm.trans found
  · intro id group protocol isApplied absent
    have isAppliedBefore := (applied id group protocol).mp isApplied
    rcases conserves.calls id with
      ⟨same, outcomesSame⟩ | ⟨call, record, found, -, outcomesGrown, ofGroup, ofProtocol⟩
    · rw [State.identity, State.identity, absent] at same
      rw [outcomesSame]
      exact accounted.ended id group protocol isAppliedBefore (Option.map_eq_none_iff.mp same.symm)
    · obtain ⟨none, own⟩ := accounted.live id call found
      obtain ⟨sameGroup, sameProtocol⟩ := own group protocol isAppliedBefore
      refine ⟨record, by rw [outcomesGrown, none, List.nil_append], ?_, ?_⟩
      · rw [ofGroup, sameGroup]
      · rw [ofProtocol, sameProtocol]

/-- Noting an input that starts no call changes no account. -/
theorem Accounted.heard {before : System} (accounted : Accounted before) (nowMs : UInt64)
    {input : Input} (notCall : ∀ id group node protocol payload timeout,
      input ≠ .command (.rpc id group node protocol payload timeout)) {after : System}
    (calls : after.state.calls = before.state.calls)
    (log : after.state.log = before.state.log ++ [.heard nowMs input])
    (nextId : after.state.shared.nextId = before.state.shared.nextId)
    (drawn : after.drawn = before.drawn) : Accounted after := by
  have applied (id : Nat) (group : Key) (protocol : Nat) :
      Applied after.state.log id group protocol ↔ Applied before.state.log id group protocol := by
    unfold Applied
    rw [log, inputs, List.filterMap_append]
    simp only [List.filterMap_cons, Entry.input?, List.filterMap_nil, List.mem_append,
      List.mem_singleton]
    refine exists_congr fun node => exists_congr fun payload => exists_congr fun timeout => ?_
    exact or_iff_left fun same => notCall id group node protocol payload timeout same.symm
  have outcomesSame (id : Nat) : outcomes id after.state.log = outcomes id before.state.log := by
    rw [log, outcomes, List.filterMap_append]
    simp [Entry.outcome?, outcomes]
  refine ⟨?_, ?_, ?_, ?_⟩
  · rw [drawn, nextId]
    exact accounted.drawn
  · simpa only [drawn, nextId, calls, outcomesSame, applied] using accounted.unused
  · simpa only [calls, outcomesSame, applied] using accounted.live
  · simpa only [calls, outcomesSame, applied] using accounted.ended

/-- That an input is heard is no outcome. -/
theorem outcomes_heard {log extra : List Entry} {nowMs : UInt64} {input : Input}
    (silent : ∀ entry ∈ extra, entry.Silent) (id : Nat) :
    outcomes id (log ++ [.heard nowMs input] ++ extra) = outcomes id log := by
  rw [outcomes_silent silent, outcomes, List.filterMap_append]
  simp [Entry.outcome?, outcomes]

/-- A call that starts is the one more that was applied. -/
theorem applied_call {log extra : List Entry} {nowMs : UInt64} {id : Nat} {group : Key}
    {node : Option Key} {protocol : Nat} {payload : Bytes} {timeout : Duration}
    (silent : ∀ entry ∈ extra, entry.Silent) (other : Nat) (otherGroup : Key) (otherProtocol : Nat) :
    Applied (log ++ [.heard nowMs (.command (.rpc id group node protocol payload timeout))] ++ extra)
        other otherGroup otherProtocol ↔
      Applied log other otherGroup otherProtocol ∨
        other = id ∧ otherGroup = group ∧ otherProtocol = protocol := by
  unfold Applied
  rw [inputs_silent silent, inputs, List.filterMap_append]
  simp only [List.filterMap_cons, Entry.input?, List.filterMap_nil, List.mem_append,
    List.mem_singleton]
  constructor
  · rintro ⟨_, _, _, old | same⟩
    · exact .inl ⟨_, _, _, old⟩
    · obtain ⟨rfl, rfl, rfl, rfl, rfl, rfl⟩ := Command.rpc.inj (Input.command.inj same)
      exact .inr ⟨rfl, rfl, rfl⟩
  · rintro (⟨_, _, _, old⟩ | ⟨rfl, rfl, rfl⟩)
    · exact ⟨_, _, _, .inl old⟩
    · exact ⟨_, _, _, .inr rfl⟩

/-- A call is applied under an id that was drawn for it. -/
theorem Accounted.start {before : System} (accounted : Accounted before) (env : Env) {id : Nat}
    (isDrawn : id ∈ before.drawn) (group : Key) (node : Option Key) (protocol : Nat)
    (payload : Bytes) (timeout : Duration) {after : System}
    (state : after.state = State.startCall env
      (before.state.heard env.nowMs (.command (.rpc id group node protocol payload timeout)))
      id group node protocol payload timeout)
    (fewer : after.drawn = before.drawn.filter fun other => other ≠ id) : Accounted after := by
  obtain ⟨call, written, whose, nextId, extra, grown, silent⟩ := State.startCall_spec env
    (before.state.heard env.nowMs (.command (.rpc id group node protocol payload timeout)))
    id group node protocol payload timeout
  rw [← state, State.heard] at written nextId grown
  dsimp only at written nextId grown
  obtain ⟨absent, none, never⟩ := accounted.unused id (.inl isDrawn)
  have outcomesSame (other : Nat) :
      outcomes other after.state.log = outcomes other before.state.log := by
    rw [grown, outcomes_heard silent]
  have applied (other : Nat) (otherGroup : Key) (otherProtocol : Nat) :
      Applied after.state.log other otherGroup otherProtocol ↔
        Applied before.state.log other otherGroup otherProtocol ∨
          other = id ∧ otherGroup = group ∧ otherProtocol = protocol := by
    rw [grown, applied_call silent]
  have appliedOther {other : Nat} (different : other ≠ id) {otherGroup : Key} {otherProtocol : Nat}
      (isApplied : Applied after.state.log other otherGroup otherProtocol) :
      Applied before.state.log other otherGroup otherProtocol :=
    ((applied _ _ _).mp isApplied).resolve_right fun own => different own.1
  have others {other : Nat} (different : other ≠ id) :
      after.state.calls.lookup other = before.state.calls.lookup other := by
    rw [written, AList.lookup_insert_ne different]
  refine ⟨?_, ?_, ?_, ?_⟩
  · rw [fewer, nextId]
    exact fun other member => accounted.drawn other (Finset.mem_filter.mp member).1
  · intro other isUnused
    rw [fewer, nextId, Finset.mem_filter] at isUnused
    have different : other ≠ id := by
      rcases isUnused with ⟨-, different⟩ | later
      · simpa using different
      · exact ((accounted.drawn id isDrawn).trans_le later).ne'
    obtain ⟨absentToo, noneToo, neverToo⟩ := accounted.unused other
      (isUnused.imp And.left fun later => later)
    refine ⟨(others different).trans absentToo, (outcomesSame other).trans noneToo, ?_⟩
    intro otherGroup otherProtocol isApplied
    exact neverToo _ _ (appliedOther different isApplied)
  · intro other found isLive
    by_cases own : other = id
    · subst own
      rw [written, AList.lookup_insert] at isLive
      obtain rfl := Option.some.inj isLive
      refine ⟨(outcomesSame other).trans none, fun otherGroup otherProtocol isApplied => ?_⟩
      rcases (applied _ _ _).mp isApplied with old | ⟨-, rfl, rfl⟩
      · exact absurd old (never _ _)
      · exact ⟨(congrArg Prod.fst whose).symm, (congrArg Prod.snd whose).symm⟩
    · rw [others own] at isLive
      obtain ⟨noneToo, ownApplied⟩ := accounted.live other found isLive
      refine ⟨(outcomesSame other).trans noneToo, fun otherGroup otherProtocol isApplied => ?_⟩
      exact ownApplied _ _ (appliedOther own isApplied)
  · intro other otherGroup otherProtocol isApplied gone
    have different : other ≠ id := by
      rintro rfl
      rw [written, AList.lookup_insert] at gone
      cases gone
    rw [others different] at gone
    rw [outcomesSame]
    exact accounted.ended other otherGroup otherProtocol (appliedOther different isApplied) gone

/-- Every action keeps the account. -/
theorem accounted_step {crates : Crates} (system : System) (action : Action)
    (accounted : Accounted system) (enabled : System.Enabled crates system action) :
    Accounted (system.step action) := by
  cases action with
  | draw =>
    refine ⟨?_, ?_, accounted.live, accounted.ended⟩
    · intro id isDrawn
      rcases Finset.mem_insert.mp isDrawn with rfl | older
      · exact Nat.lt_succ_self _
      · exact (accounted.drawn id older).trans (Nat.lt_succ_self _)
    · intro id isUnused
      refine accounted.unused id ?_
      rcases isUnused with isDrawn | later
      · rcases Finset.mem_insert.mp isDrawn with rfl | older
        · exact .inr (le_refl _)
        · exact .inl older
      · exact .inr ((Nat.le_succ _).trans later)
  | poll cap => exact accounted.conserves (State.conserves_of_same rfl rfl rfl) (fun _ => id)
  | internalQuery => exact accounted.conserves (State.conserves_of_same rfl rfl rfl) (fun _ => id)
  | learn peer address =>
    exact accounted.conserves (State.conserves_of_same rfl rfl rfl) (fun _ => id)
  | ready env =>
    exact accounted.conserves (State.passive_ready env system.state).conserves_of_plain
      (fun _ => id)
  | handle env input =>
    obtain ⟨sameCalls, sameLog, sameShared⟩ := State.deliver_keeps system.state input
    have noted (notCall : ∀ id group node protocol payload timeout,
        input ≠ .command (.rpc id group node protocol payload timeout)) :
        Accounted { system with state := (system.state.deliver input).heard env.nowMs input } :=
      accounted.heard env.nowMs notCall sameCalls (by rw [State.heard, sameLog])
        (by rw [State.heard, sameShared]) rfl
    cases input with
    | tick =>
      exact (noted (by simp)).conserves (State.conserves_tick env _) (Finset.filter_subset _ _)
    | swarm event =>
      exact (noted (by simp)).conserves (State.conserves_swarmEvent env _ event)
        (Finset.filter_subset _ _)
    | command command =>
      by_cases isCall : ∃ id group node protocol payload timeout,
          command = .rpc id group node protocol payload timeout
      · obtain ⟨id, group, node, protocol, payload, timeout, rfl⟩ := isCall
        have isDrawn : id ∈ system.drawn := enabled.2.2.1 id (by simp [Command.ids])
        have started : Accounted { system with
            state := State.startCall env
              (system.state.heard env.nowMs (.command (.rpc id group node protocol payload timeout)))
              id group node protocol payload timeout
            drawn := system.drawn.filter fun other => other ≠ id } :=
          accounted.start env isDrawn group node protocol payload timeout rfl rfl
        refine started.conserves (State.conserves_advance env _ id) ?_
        simp [System.step, Input.ids, Command.ids]
      · have notCall : ∀ id group node protocol payload timeout,
            command ≠ .rpc id group node protocol payload timeout := by simpa using isCall
        refine (noted (by simpa using notCall)).conserves ?_ (Finset.filter_subset _ _)
        exact (State.passive_command env _ command notCall).conserves_of_plain

/-- Exactly one outcome per call. After every run, a call that was applied is in
the table of calls and no event has ended it, or it has left the table and one
event has, which carries the call's own group and protocol. Since this holds
after every run, no second event follows. -/
theorem one_outcome_per_call {crates : Crates} {config : Config} {localPeer : PeerId}
    {now : Instant} {actions : List Action}
    (run : System.Run crates config localPeer now actions) (id : Nat) (group : Key) (protocol : Nat)
    (applied : Applied (System.after config localPeer now actions).state.log id group protocol) :
    ((∃ call, (System.after config localPeer now actions).state.calls.lookup id = some call) ∧
        outcomes id (System.after config localPeer now actions).state.log = []) ∨
      ((System.after config localPeer now actions).state.calls.lookup id = none ∧
        ∃ record, outcomes id (System.after config localPeer now actions).state.log = [record] ∧
          record.header.group = group ∧ record.header.protocol = protocol) := by
  have accounted : Accounted (System.after config localPeer now actions) :=
    run.invariant (accounted_start config localPeer now) accounted_step
  cases found : (System.after config localPeer now actions).state.calls.lookup id with
  | some call => exact .inl ⟨⟨call, rfl⟩, (accounted.live id call found).1⟩
  | none => exact .inr ⟨rfl, accounted.ended id group protocol applied found⟩

/-- A call to a group of which no provider is found. -/
def Sample.unansweredCall : List Action :=
  [.draw, .ready Sample.env, .handle Sample.env Sample.call,
    .handle Sample.env (Sample.lookupStep .finished true)]

/-- The run can happen. -/
theorem Sample.unansweredCall_run :
    System.Run Sample.crates Sample.config Sample.peer 0 Sample.unansweredCall := by
  simp only [System.Run, Sample.unansweredCall, Runs.admissible_cons, Runs.admissible_nil, and_true]
  refine ⟨trivial, ⟨rfl, rfl⟩, ⟨rfl, rfl, ?_, Nat.zero_lt_one⟩, rfl, .lookup 1, ?_, trivial⟩ <;>
    decide

/-- It ends with one event. -/
theorem one_outcome_per_call_unanswered :
    ∃ record, outcomes 1
        (System.after Sample.config Sample.peer 0 Sample.unansweredCall).state.log = [record] ∧
      record.header.group = Sample.group ∧ record.header.protocol = 0 := by
  have ended : (System.after Sample.config Sample.peer 0
      Sample.unansweredCall).state.calls.lookup 1 = none := rfl
  have applied : Applied (System.after Sample.config Sample.peer 0
      Sample.unansweredCall).state.log 1 Sample.group 0 :=
    ⟨none, [], Duration.fromSecs 10, List.mem_cons_self⟩
  rcases one_outcome_per_call Sample.unansweredCall_run 1 Sample.group 0 applied with
    ⟨⟨call, found⟩, -⟩ | ⟨-, outcome⟩
  · cases ended.symm.trans found
  · exact outcome

end Libp2pFfi
