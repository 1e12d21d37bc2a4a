import Libp2pFfi.Ledger
import Libp2pFfi.Memory

/-!
# Recently failed nodes and the order of asking

The candidates of a call are put in order when they are queued: whoever failed a
call lately goes behind those who did not. A queue is never put in order again.
Meanwhile other calls end, well or badly, and penalties run out, so that what was
in order may come to stand the wrong way round, and `advance` asks from the front.

`Undisturbed` is what keeps a queue in order: whatever a step and the time before
it change about penalties, of no two candidates of a call does the first become
the one that should wait.
-/

namespace Libp2pFfi

/-! Lists in which what is to come last does. -/

section

variable {α : Type} (isLast : α → Bool)

/-- If the first of two is to come last, so is the second. -/
def Precedes (earlier later : α) : Prop := isLast earlier = true → isLast later = true

variable {isLast} {items : List α} {item : α}

/-- Whoever is not penalised may come before anybody. -/
theorem Precedes.of_first (first : isLast item = false) (later : α) : Precedes isLast item later :=
  fun isLast => Bool.noConfusion (first.symm.trans isLast)

/-- And may be put in front. -/
theorem pairwise_cons_first (ordered : items.Pairwise (Precedes isLast))
    (first : isLast item = false) : (item :: items).Pairwise (Precedes isLast) :=
  List.pairwise_cons.mpr ⟨fun later _ => .of_first first later, ordered⟩

/-- Whoever is penalised may be put at the end. -/
theorem pairwise_concat_last (ordered : items.Pairwise (Precedes isLast))
    (last : isLast item = true) : (items ++ [item]).Pairwise (Precedes isLast) := by
  refine List.pairwise_append.mpr ⟨ordered, List.pairwise_singleton _ _, ?_⟩
  intro earlier _ later isItem _
  rw [List.mem_singleton.mp isItem]
  exact last

/-- Before the first that is to come last there is room for one that is not. -/
theorem pairwise_insertIdx_first (ordered : items.Pairwise (Precedes isLast))
    (first : isLast item = false) :
    (items.insertIdx (items.findIdx isLast) item).Pairwise (Precedes isLast) := by
  induction items with
  | nil => exact List.pairwise_singleton _ _
  | cons head rest inductionHypothesis =>
    cases waits : isLast head with
    | true =>
      rw [List.findIdx_cons, waits]
      exact pairwise_cons_first ordered first
    | false =>
      rw [List.findIdx_cons, waits]
      exact pairwise_cons_first (inductionHypothesis (List.pairwise_cons.mp ordered).2) waits

end

/-! The candidates of calls. -/

/-- No call has a penalised candidate before one that is not. -/
def QueuesInOrder (now : Instant) (failed : Table PeerId Instant) (calls : Table Nat Call) : Prop :=
  ∀ id call, calls.lookup id = some call →
    call.candidates.Pairwise (Precedes (penalized now failed))

namespace State

/-- The queues of a state are in order at a time. -/
def InOrder (state : State) (now : Instant) : Prop := QueuesInOrder now state.failed state.calls

/-- Whenever a call's frame went to a penalised peer, nobody was left for the call
who was not penalised. -/
def AsksLast (now : Instant) (before after : State) : Prop :=
  ∃ extra, after.log = before.log ++ extra ∧
    ∀ id request peer frame, .did (.sendRequest id request peer frame) ∈ extra →
      penalized now after.failed peer = true →
        ∀ call, after.calls.lookup id = some call →
          ∀ queued ∈ call.candidates, penalized now after.failed queued = true

/-- Who is remembered to have failed, once an input has been judged: a failure is
noted, an answer clears its peer. -/
def failedAfter (env : Env) (state : State) : Input → Table PeerId Instant
  | .swarm (.rpc (.outboundFailure peer _ _)) => (state.rememberFailure env peer).failed
  | .swarm (.rpc (.response peer request frame)) =>
    match (state.outbound.lookup request).bind fun id => state.calls.lookup id with
    | none => state.failed
    | some call =>
      if (checkResponse env.crates env.nowMs call.group peer frame).isSome then
        state.failed.erase peer
      else (state.rememberFailure env peer).failed
  | _ => state.failed

/-- Since the last step, at `clock`, nothing has put two candidates of a call the
wrong way round: neither the time that has passed nor what is remembered now. -/
def Undisturbed (state : State) (clock : Instant) (env : Env) (input : Input) : Prop :=
  ∀ id call, state.calls.lookup id = some call →
    call.candidates.Pairwise fun earlier later =>
      Precedes (penalized clock state.failed) earlier later →
        Precedes (penalized env.now (state.failedAfter env input)) earlier later

/-- A queue that was in order and is not disturbed is in order. -/
theorem Undisturbed.inOrder {state : State} {clock : Instant} {env : Env} {input : Input}
    (undisturbed : state.Undisturbed clock env input) (inOrder : state.InOrder clock) :
    QueuesInOrder env.now (state.failedAfter env input) state.calls := by
  intro id call found
  have both := (undisturbed id call found).and (inOrder id call found)
  exact both.imp fun keeps => keeps.1 keeps.2

/-- An entry that sends no call's frame. -/
def Unsent (entry : Entry) : Prop := ∀ id request peer frame,
  entry ≠ .did (.sendRequest id request peer frame)

/-- A line about no call sends nothing. -/
theorem Unsent.of_quiet {entry : Entry} (quiet : entry.Quiet) : Unsent entry := by
  rintro id request peer frame rfl
  cases quiet

/-- What a handler owes: it leaves the queues in order and asks penalised peers last. -/
def Fair (now : Instant) (before after : State) : Prop :=
  after.InOrder now ∧ AsksLast now before after

/-- Where nothing is sent, nobody is asked too early. -/
theorem Fair.of_unsent {before after : State} {now : Instant} (inOrder : after.InOrder now)
    (adds : Adds Unsent before after) : Fair now before after := by
  obtain ⟨extra, grown, unsent⟩ := adds
  refine ⟨inOrder, extra, grown, fun id request peer frame sent => ?_⟩
  exact absurd rfl (unsent _ sent id request peer frame)

/-- Doing nothing is fair. -/
theorem Fair.refl {state : State} {now : Instant} (inOrder : state.InOrder now) :
    Fair now state state :=
  .of_unsent inOrder (Adds.refl _ _)

/-- What comes before in the same step, without sending. -/
theorem Fair.after {now : Instant} {first second third : State}
    (fair : Fair now second third) (adds : Adds Unsent first second) :
    Fair now first third := by
  obtain ⟨earlier, grown, unsent⟩ := adds
  obtain ⟨inOrder, extra, added, last⟩ := fair
  refine ⟨inOrder, earlier ++ extra, by rw [added, grown, List.append_assoc], ?_⟩
  intro id request peer frame sent
  rcases List.mem_append.mp sent with early | late
  · exact absurd rfl (unsent _ early id request peer frame)
  · exact last id request peer frame late

/-- The queues of other calls, and of this one what is left of its own. -/
theorem inOrder_of_calls {before after : State} {now : Instant} (inOrder : before.InOrder now)
    (failed : after.failed = before.failed)
    (calls : ∀ id call, after.calls.lookup id = some call →
      ∃ former, before.calls.lookup id = some former ∧
        call.candidates.Sublist former.candidates) :
    after.InOrder now := by
  intro id call found
  obtain ⟨former, was, fewer⟩ := calls id call found
  rw [failed]
  exact (inOrder id former was).sublist fewer

/-- A call may be rewritten with a queue in order. -/
theorem inOrder_setCall {state : State} {now : Instant} (inOrder : state.InOrder now) (id : Nat)
    {call : Call} (ordered : call.candidates.Pairwise (Precedes (penalized now state.failed))) :
    (state.setCall id call).InOrder now := by
  intro other found isFound
  by_cases same : other = id
  · subst same
    rw [setCall, AList.lookup_insert] at isFound
    obtain rfl := Option.some.inj isFound
    exact ordered
  · rw [setCall, AList.lookup_insert_ne same] at isFound
    exact inOrder other found isFound

/-- A call has ended. -/
theorem inOrder_erase {before after : State} {now : Instant} (inOrder : before.InOrder now)
    {id : Nat} (failed : after.failed = before.failed)
    (calls : after.calls = before.calls.erase id) : after.InOrder now := by
  refine inOrder_of_calls inOrder failed fun other call found => ⟨call, ?_, List.Sublist.refl _⟩
  rw [calls, Table.lookup_erase_if] at found
  split at found
  · cases found
  · exact found

/-- A handler that stands aside. -/
theorem fair_aside {ending : QueryId → Prop} {before after : State} {now : Instant}
    (aside : Aside ending Entry.Quiet before after) (failed : after.failed = before.failed)
    (inOrder : before.InOrder now) : Fair now before after := by
  have calls : after.calls = before.calls := congrArg CallView.calls aside.view
  refine .of_unsent ?_ (aside.adds.mono fun _ => Unsent.of_quiet)
  refine inOrder_of_calls inOrder failed fun id call found => ⟨call, ?_, List.Sublist.refl _⟩
  rwa [calls] at found

/-- One that stands aside and remembers nothing new. -/
theorem fair_plain {ending : QueryId → Prop} {before after : State} {now : Instant}
    (aside : Aside ending Entry.Plain before after) (memory : after.memory = before.memory)
    (inOrder : before.InOrder now) : Fair now before after :=
  fair_aside (aside.mono (fun _ ends => ends) fun _ => Entry.Plain.quiet)
    (congrArg (fun memory => memory.marks.failed) memory) inOrder

/-! Asking. -/

/-- Looking at a candidate sends nothing. -/
theorem unsent_turns (id : Nat) (peers : List PeerId) :
    ∀ entry ∈ peers.map fun peer => Entry.did (.turn id peer false false), Unsent entry := by
  intro entry member
  obtain ⟨peer, -, rfl⟩ := List.mem_map.mp member
  simp [Unsent]

/-- Candidates that are passed over are looked at only. -/
theorem adds_passOver (state : State) (id : Nat) (peers : List PeerId) :
    Adds Unsent state (state.passOver id peers) := ⟨_, rfl, unsent_turns id peers⟩

/-- So is the one that is then asked. -/
theorem adds_lookAt (env : Env) (state : State) (id : Nat) (peer : PeerId) :
    Adds Unsent state (state.lookAt env id peer) :=
  Adds.one rfl (by simp [Unsent])

/-- A queue in order is asked in order. -/
theorem fair_advance (env : Env) {state : State} {now : Instant} (inOrder : state.InOrder now)
    (id : Nat) :
    Fair now state (state.advance env id) := by
  have spec := advance_spec env state id
  generalize state.advance env id = after at spec ⊢
  cases spec with
  | missing absent => exact .refl inOrder
  | busy call found underWay => exact .refl inOrder
  | waits call found idle stuck running =>
    exact .of_unsent (inOrder_setCall inOrder id List.Pairwise.nil)
      (adds_passOver state id call.candidates)
  | fails call found idle stuck isOver =>
    refine .of_unsent (inOrder_erase inOrder rfl rfl)
      ((adds_passOver state id call.candidates).trans ?_)
    exact Adds.one rfl (by simp [Unsent])
  | sends call found idle skipped peer rest split stuck =>
    have ordered := inOrder id call found
    rw [split] at ordered
    obtain ⟨last, behind⟩ := List.pairwise_cons.mp (List.pairwise_append.mp ordered).2.1
    refine Fair.after ⟨inOrder_setCall inOrder id behind, [_], rfl, ?_⟩
      ((adds_passOver state id skipped).trans
        (adds_lookAt env (state.passOver id skipped) id peer))
    intro other request asked frame sent isPenalized left isLeft queued member
    obtain ⟨rfl, -, rfl, -⟩ : other = id ∧ request = state.swarm.nextRequest ∧ asked = peer ∧
        frame = call.frame := by
      simpa [lookAt, passOver, did] using sent
    have isCall : ((state.passOver other skipped).lookAt env other asked |>.sendCandidate other
        call asked rest).calls.lookup other =
          some { call with candidates := rest, inFlight := true } :=
      AList.lookup_insert _
    obtain rfl := Option.some.inj (isCall.symm.trans isLeft)
    exact last queued member isPenalized
  | resolves call found idle skipped peer rest split stuck isNew =>
    have ordered := inOrder id call found
    rw [split] at ordered
    refine .of_unsent (inOrder_setCall inOrder id (List.pairwise_append.mp ordered).2.1)
      (((adds_passOver state id skipped).trans
        (adds_lookAt env (state.passOver id skipped) id peer)).trans ?_)
    exact Adds.one rfl (by simp [Unsent])

/-! Handlers that do not change what is remembered. -/

section

variable {env : Env} {state : State} {now : Instant}

/-- A call may be adjusted so that its queue stays in order. -/
theorem inOrder_adjust (inOrder : state.InOrder now) {after : State} {id : Nat}
    {change : Call → Call} (failed : after.failed = state.failed)
    (calls : after.calls = state.calls.adjust id change)
    (ordered : ∀ call, call.candidates.Pairwise (Precedes (penalized now state.failed)) →
      (change call).candidates.Pairwise (Precedes (penalized now state.failed))) :
    after.InOrder now := by
  intro other call found
  rw [calls, Table.lookup_adjust] at found
  rw [failed]
  split at found
  · obtain ⟨former, was, rfl⟩ := Option.map_eq_some_iff.mp found
    exact ordered former (inOrder other former was)
  · exact inOrder other call found

/-- A peer is queued where it belongs. -/
theorem ordered_enqueue (lastSuccess : Table Key PeerId) {call : Call}
    (ordered : call.candidates.Pairwise (Precedes (penalized now state.failed))) (peer : PeerId) :
    (enqueue now lastSuccess state.failed call peer).candidates.Pairwise
      (Precedes (penalized now state.failed)) := by
  unfold enqueue
  split
  · exact ordered
  · dsimp only
    split
    · rename_i lastGood
      exact pairwise_cons_first ordered lastGood.2
    · split
      · rename_i isPenalized
        exact pairwise_concat_last ordered isPenalized
      · rename_i notPenalized
        exact pairwise_insertIdx_first ordered (Bool.eq_false_iff.mpr notPenalized)

/-- Providers are queued in order, each behind the unpenalised ones if it is penalised. -/
theorem ordered_queueProviders (providers : List PeerId) {call : Call}
    (ordered : call.candidates.Pairwise (Precedes (penalized env.now state.failed))) :
    (state.queueProviders env call providers).candidates.Pairwise
      (Precedes (penalized env.now state.failed)) := by
  unfold queueProviders
  induction providers generalizing call with
  | nil => exact ordered
  | cons provider rest inductionHypothesis =>
    rw [List.foldl_cons]
    apply inductionHypothesis
    split
    · exact ordered_enqueue state.lastSuccess ordered provider
    · exact ordered

/-- Providers found for a call are queued, and the call moves on. -/
theorem fair_callProviders (inOrder : state.InOrder env.now) (query : QueryId) (id : Nat)
    (result : GetProvidersResult) (last : Bool) :
    Fair env.now state (state.callProviders env query id result last) := by
  have queued : (state.queueLookup env query id result last).InOrder env.now := by
    refine inOrder_adjust inOrder rfl rfl fun call ordered => ?_
    have each := ordered_queueProviders (providersFound result) ordered
    dsimp only
    split
    · exact each
    · exact each
  exact fair_advance env queued id

/-- Those found for others are not. -/
theorem fair_providersReported (inOrder : state.InOrder env.now) (query : QueryId)
    (result : GetProvidersResult) (last : Bool) :
    Fair env.now state (state.providersReported env query result last) := by
  unfold providersReported
  split
  · have aside := aside_topicProviders env state query result last
    exact fair_plain aside (congrArg Background.memory
      (background_topicProviders env state query result last)) inOrder
  · split
    · rename_i id found
      have aside := aside_callerProviders env state query id result last
      exact fair_plain aside (congrArg Background.memory
        (background_callerProviders env state query id result last)) inOrder
    · split
      · exact fair_callProviders inOrder query _ result last
      · exact .refl inOrder

/-- Addresses found for a candidate move its call on. -/
theorem fair_closestPeersReported (inOrder : state.InOrder env.now) (query : QueryId)
    (peers : List PeerInfo) :
    Fair env.now state (state.closestPeersReported env query peers) := by
  have passive : Passive state
      (peers.foldl (fun state info => state.addAddresses info.peer info.addrs) state) :=
    passive_learn state peers
  have failed : (peers.foldl (fun state info => state.addAddresses info.peer info.addrs)
      state).failed = state.failed := by
    apply Runs.unchanged
    intro state info
    rfl
  have adds := passive.quiet.adds.mono fun _ => Unsent.of_quiet
  have learned := (fair_aside passive.quiet failed inOrder).1
  unfold closestPeersReported
  dsimp only
  generalize peers.foldl (fun state info => state.addAddresses info.peer info.addrs) state = known
    at learned adds ⊢
  split
  · rename_i id found
    have resumed : (known.resume query id).InOrder env.now :=
      inOrder_adjust learned rfl rfl fun _ ordered => ordered
    have fair := fair_advance env resumed id
    exact fair.after adds
  · split
    · rename_i id found
      have aside := aside_walked env known query id peers
      have fair := fair_plain aside (congrArg Background.memory
        (background_walked env known query id peers)) learned
      exact fair.after adds
    · exact .of_unsent learned adds

/-- So all steps of queries are fair. -/
theorem fair_kadEvent (inOrder : state.InOrder env.now) (query : QueryId) (result : QueryResult)
    (last : Bool) :
    Fair env.now state (state.kadEvent env (.progressed query result last)) := by
  cases result with
  | getProviders found => exact fair_providersReported inOrder query found last
  | getClosestPeers peers => exact fair_closestPeersReported inOrder query peers
  | bootstrap ok =>
    have aside := aside_bootstrapReported state query ok last
    have memory := congrArg Background.memory
      (background_kadEvent env state (.progressed query (.bootstrap ok) last))
    exact fair_plain aside memory inOrder
  | other => exact .refl inOrder

/-- A call begins with one candidate at most. -/
theorem inOrder_startCall (inOrder : state.InOrder env.now) (id : Nat) (group : Key)
    (node : Option Key) (protocol : Nat) (payload : Bytes) (timeout : Duration) :
    (state.startCall env id group node protocol payload timeout).InOrder env.now ∧
      Adds Unsent state (state.startCall env id group node protocol payload timeout) := by
  unfold startCall
  dsimp only
  split
  · split
    · exact ⟨inOrder_setCall inOrder id (List.pairwise_singleton _ _), Adds.refl _ _⟩
    · exact ⟨inOrder_setCall inOrder id List.Pairwise.nil, Adds.refl _ _⟩
  · refine ⟨?_, Adds.one rfl (by simp [Unsent])⟩
    apply inOrder_setCall _ id List.Pairwise.nil
    exact inOrder

/-- A command may begin a call, which then moves on. -/
theorem fair_command (inOrder : state.InOrder env.now) (command : Command) :
    Fair env.now state (state.command env command) := by
  by_cases isCall : ∃ id group node protocol payload timeout,
      command = .rpc id group node protocol payload timeout
  · obtain ⟨id, group, node, protocol, payload, timeout, rfl⟩ := isCall
    obtain ⟨started, adds⟩ := inOrder_startCall inOrder id group node protocol payload timeout
    have fair := fair_advance env started id
    exact fair.after adds
  · have notCall : ∀ id group node protocol payload timeout,
        command ≠ .rpc id group node protocol payload timeout := by simpa using isCall
    have kept := congrArg (fun memory => memory.marks.failed) (memory_command env state command)
    refine fair_aside (passive_command env state command notCall).quiet ?_ inOrder
    cases command <;> exact kept

/-- A call that fails takes its queue along. -/
theorem inOrder_failCall (inOrder : state.InOrder now) (id reason : Nat) :
    (state.failCall id reason).InOrder now ∧ Adds Unsent state (state.failCall id reason) := by
  unfold failCall
  split
  · exact ⟨inOrder, Adds.refl _ _⟩
  · exact ⟨inOrder_erase inOrder rfl rfl, Adds.one rfl (by simp [Unsent])⟩

/-- So do all that are due at a tick. -/
theorem inOrder_failCalls (inOrder : state.InOrder now) (ids : List Nat) (reason : Nat) :
    (ids.foldl (fun state id => state.failCall id reason) state).InOrder now ∧
      Adds Unsent state (ids.foldl (fun state id => state.failCall id reason) state) ∧
      (ids.foldl (fun state id => state.failCall id reason) state).memory = state.memory := by
  induction ids generalizing state with
  | nil => exact ⟨inOrder, Adds.refl _ _, rfl⟩
  | cons id rest inductionHypothesis =>
    obtain ⟨ended, adds⟩ := inOrder_failCall inOrder id reason
    obtain ⟨later, more, same⟩ := inductionHypothesis ended
    exact ⟨later, adds.trans more, same.trans
      (congrArg Background.memory (background_failCall state id reason))⟩

/-- A tick ends calls and sends none. -/
theorem fair_tick (inOrder : state.InOrder env.now) : Fair env.now state (state.tick env) := by
  obtain ⟨timedOut, adds, same⟩ := inOrder_failCalls inOrder (state.expired env) failTimeout
  have failed := congrArg (fun memory => memory.marks.failed)
    ((congrArg Background.memory (background_tick env state)).trans same.symm)
  have fair := fair_aside (passive_tick env state).quiet failed timedOut
  exact fair.after adds

/-! Handlers that do. -/

/-- The failure is remembered before the call moves on. -/
theorem fair_outboundFailed (state : State) (peer : PeerId) (request : OutboundRequestId)
    (error : OutboundFailure)
    (inOrder : QueuesInOrder env.now (state.rememberFailure env peer).failed state.calls) :
    Fair env.now state (state.outboundFailed env peer request error) := by
  have noted : (state.rememberFailure env peer).InOrder env.now := inOrder
  unfold outboundFailed
  dsimp only
  split
  · exact .refl noted
  · rename_i id found
    have failed : ((state.rememberFailure env peer).attemptFailed request id error.reason).InOrder
        env.now :=
      inOrder_adjust noted rfl rfl fun _ ordered => ordered
    exact fair_advance env failed id

/-- An answer forgets the peer's failure, and a refusal notes one. -/
theorem fair_response (state : State) (peer : PeerId) (request : OutboundRequestId)
    (frame : Bytes) (inOrder : QueuesInOrder env.now
      (state.failedAfter env (.swarm (.rpc (.response peer request frame)))) state.calls) :
    Fair env.now state (state.response env peer request frame) := by
  unfold response
  simp only [failedAfter] at inOrder
  cases owner : state.outbound.lookup request with
  | none =>
    rw [owner] at inOrder
    exact .refl inOrder
  | some id =>
    rw [owner, Option.bind_some] at inOrder
    dsimp only
    cases found : state.calls.lookup id with
    | none =>
      rw [found] at inOrder
      exact .refl inOrder
    | some call =>
      rw [found] at inOrder
      dsimp only at inOrder ⊢
      cases checked : checkResponse env.crates env.nowMs call.group peer frame with
      | some answer =>
        rw [checked] at inOrder
        have answered : InOrder { state with failed := state.failed.erase peer } env.now := inOrder
        refine .of_unsent (inOrder_erase answered rfl rfl) ?_
        exact Adds.one rfl (by simp [Unsent])
      | none =>
        rw [checked] at inOrder
        have noted : (state.rememberFailure env peer).InOrder env.now := inOrder
        have refused : ((state.rememberFailure env peer).setCall id
            { call with inFlight := false, lastFailure := failRefused }).InOrder env.now :=
          inOrder_setCall noted id (noted id call found)
        have ended : State.InOrder
            (({ state with outbound := state.outbound.erase request }.setCall id
              { call with inFlight := false, lastFailure := failRefused }).rememberFailure env peer)
            env.now :=
          refused
        exact fair_advance env ended id

/-- An event that reports on no request or query changes nothing of this. -/
theorem failed_quiet {event : SwarmEvent} (quiet : event.reports = false) :
    state.failedAfter env (.swarm event) = state.failed ∧
      (state.swarmEvent env event).failed = state.failed := by
  have kept := congrArg (fun background => background.memory.marks.failed)
    (background_swarmEvent env state event)
  cases event with
  | rpc event =>
    cases event with
    | response => cases quiet
    | outboundFailure => cases quiet
    | _ => exact ⟨rfl, kept⟩
  | _ => exact ⟨rfl, kept⟩

/-- That an input is heard sends nothing. -/
theorem adds_heard (state : State) (nowMs : UInt64) (input : Input) :
    Adds Unsent state ((state.deliver input).heard nowMs input) := by
  have same : (state.deliver input).log = state.log := by
    unfold deliver
    split <;> rfl
  refine ⟨[.heard nowMs input], by rw [heard, same], ?_⟩
  intro entry member
  rw [List.mem_singleton.mp member]
  simp [Unsent]

/-- Nor does it change a queue. -/
theorem inOrder_heard (inOrder : state.InOrder now) (nowMs : UInt64) (input : Input) :
    ((state.deliver input).heard nowMs input).InOrder now := by
  unfold deliver
  split <;> exact inOrder

/-- Whatever the input, a handler that finds every queue in order for what is
remembered once the input has been judged asks penalised peers last. -/
theorem fair_handle (input : Input)
    (inOrder : QueuesInOrder env.now (state.failedAfter env input) state.calls) :
    Fair env.now state ((state.deliver input).handle env input) := by
  have adds := adds_heard state env.nowMs input
  cases input with
  | command command =>
    have fair := fair_command (inOrder_heard inOrder env.nowMs (.command command)) command
    exact fair.after adds
  | tick =>
    have fair := fair_tick (inOrder_heard inOrder env.nowMs .tick)
    exact fair.after adds
  | swarm event =>
    rcases event.quiet_or_ofOwn with quiet | own
    · rw [(failed_quiet quiet).1] at inOrder
      have arrived := inOrder_heard inOrder env.nowMs (.swarm event)
      have fair := fair_aside (quiet_swarmEvent env _ event quiet) (failed_quiet quiet).2
        arrived
      exact fair.after adds
    · cases own with
      | progressed query result last =>
        have arrived := inOrder_heard inOrder env.nowMs
          (.swarm (.kad (.progressed query result last)))
        have fair := fair_kadEvent arrived query result last
        exact fair.after adds
      | response peer request frame =>
        have fair := fair_response
          ((state.deliver (.swarm (.rpc (.response peer request frame)))).heard env.nowMs
            (.swarm (.rpc (.response peer request frame)))) peer request frame inOrder
        exact fair.after adds
      | outboundFailure peer request error =>
        have fair := fair_outboundFailed
          ((state.deliver (.swarm (.rpc (.outboundFailure peer request error)))).heard env.nowMs
            (.swarm (.rpc (.outboundFailure peer request error)))) peer request error inOrder
        exact fair.after adds

end

end State

/-! Runs. -/

/-- The node with the time of its last step. -/
structure Timed where
  system : System
  clock : Instant

namespace Timed

/-- A node at its start, with the clock of that time. -/
def start (config : Config) (localPeer : PeerId) (now : Instant) : Timed :=
  ⟨System.start config localPeer now, now⟩

/-- The clock is that of the last input that was handled. -/
def step (timed : Timed) (action : Action) : Timed where
  system := timed.system.step action
  clock := match action with
    | .handle env _ => env.now
    | _ => timed.clock

/-- The step finds every queue as it was left, or what has changed since did not
put it out of order. -/
def Undisturbed (timed : Timed) : Action → Prop
  | .handle env input => timed.system.state.Undisturbed timed.clock env input
  | _ => True

/-- What the step sends, it sends to penalised peers last. -/
def AsksLast (timed : Timed) (action : Action) : Prop :=
  State.AsksLast (timed.step action).clock timed.system.state (timed.step action).system.state

/-- Every action leaves the queues in order and asks penalised peers last. -/
theorem fair_step {timed : Timed} (inOrder : timed.system.state.InOrder timed.clock)
    {action : Action} (undisturbed : timed.Undisturbed action) :
    State.Fair (timed.step action).clock timed.system.state (timed.step action).system.state := by
  have quiet {after : State} (aside : State.Passive timed.system.state after)
      (failed : after.failed = timed.system.state.failed) :=
    State.fair_aside aside.quiet failed inOrder
  cases action with
  | draw => exact .refl inOrder
  | poll cap => exact .refl inOrder
  | internalQuery => exact .refl inOrder
  | learn peer address => exact quiet (State.passive_addAddresses _ peer [address]) rfl
  | ready env =>
    have kept := congrArg Marks.failed (timed.system.marks_step (.ready env) nofun)
    exact quiet (State.passive_ready env _) kept
  | handle env input =>
    have moved := State.Undisturbed.inOrder undisturbed inOrder
    exact State.fair_handle input moved

end Timed

/-- In every run that disturbs no queue, whenever a call's frame is sent to a
penalised peer, everybody still queued for the call is penalised. -/
theorem penalized_asked_last {config : Config} {localPeer : PeerId} {now : Instant}
    {actions : List Action}
    (undisturbed : Runs.Admissible Timed.step (Timed.start config localPeer now) Timed.Undisturbed
      actions) :
    Runs.Admissible Timed.step (Timed.start config localPeer now) Timed.AsksLast actions := by
  intro before action inside
  have inOrder : (before.foldl Timed.step (Timed.start config localPeer now)).system.state.InOrder
      (before.foldl Timed.step (Timed.start config localPeer now)).clock := by
    have earlier := undisturbed.take Timed.step _
      ((List.prefix_append before [action]).trans inside)
    refine @Runs.invariant _ _ Timed.step _ Timed.Undisturbed
      (fun timed => timed.system.state.InOrder timed.clock) before ?_ ?_ earlier
    · intro id call found
      cases found
    · exact fun timed action inOrder undisturbed => (Timed.fair_step inOrder undisturbed).1
  exact (Timed.fair_step inOrder (undisturbed before action inside)).2

/-! A peer that fails another call. -/

/-- A second provider of the group. -/
def Sample.secondPeer : PeerId := ⟨0, Sample.encoded Sample.group⟩

/-- A call to the group finds two providers and has the addresses of the first one
looked up. -/
def Sample.twoProviders : List Action :=
  [.draw, .draw, .ready Sample.env, .handle Sample.env Sample.call,
    .handle Sample.env
      (Sample.lookupStep (.found [Sample.remotePeer, Sample.secondPeer]) false)]

/-- The lookup ends. -/
def Sample.resolved : Action :=
  .handle Sample.connectedEnv (.swarm (.kad (.progressed 2 (.getClosestPeers []) true)))

/-- A step that changes nothing of this, at the time of the last one. -/
theorem State.undisturbed_of_same {state : State} {clock : Instant} {env : Env} {input : Input}
    (now : env.now = clock) (failed : state.failedAfter env input = state.failed) :
    state.Undisturbed clock env input := by
  intro id call found
  rw [now, failed]
  exact List.pairwise_of_forall fun _ _ ordered => ordered

/-- Nor does a step that meets no two candidates of one call. -/
theorem State.undisturbed_of_few {state : State} {clock : Instant} {env : Env} {input : Input}
    (few : ∀ entry ∈ state.calls.toList, entry.2.candidates.length ≤ 1) :
    state.Undisturbed clock env input := by
  intro id call found
  have short : call.candidates.length ≤ 1 := few (id, call) (Table.mem_toList.mpr found)
  cases queued : call.candidates with
  | nil => exact List.Pairwise.nil
  | cons candidate rest =>
    rw [queued] at short
    obtain rfl := List.eq_nil_of_length_eq_zero (Nat.le_zero.mp (Nat.le_of_succ_le_succ short))
    exact List.pairwise_singleton _ candidate

/-- Both providers are connected. -/
def Sample.bothConnected : Env := { Sample.env with isConnected := fun _ => true }

/-- A call to the first peer has failed before the other call finds the two, the failed
one first. -/
def Sample.askingSecond : List Action :=
  [.draw, .draw, .ready Sample.env,
    .handle Sample.bothConnected
      (.command (.rpc 2 Sample.group (some Sample.remote) 0 [] (Duration.fromSecs 10))),
    .handle Sample.bothConnected (.swarm (.rpc (.outboundFailure Sample.remotePeer 0 .timeout))),
    .handle Sample.env Sample.call,
    .handle Sample.bothConnected
      (Sample.lookupStep (.found [Sample.remotePeer, Sample.secondPeer]) false)]

/-- The second, which is asked, does not answer. -/
def Sample.secondGone : Action :=
  .handle Sample.bothConnected (.swarm (.rpc (.outboundFailure Sample.secondPeer 1 .timeout)))

/-- The node when the second is being asked. -/
def Sample.askedSecond : Timed :=
  Sample.askingSecond.foldl Timed.step (Timed.start Sample.config Sample.peer 0)

set_option maxRecDepth 1024 in
/-- The call goes on to the first. -/
theorem Sample.secondGone_sent : ∃ heard turn request frame,
    (Sample.askedSecond.step Sample.secondGone).system.state.log =
      Sample.askedSecond.system.state.log ++
        [heard, turn, .did (.sendRequest 1 request Sample.remotePeer frame)] :=
  ⟨_, _, _, _, rfl⟩

/-- The failed peer waits until the second has failed too, and is asked then. -/
theorem penalized_asked_last_two_providers :
    System.Run Sample.crates Sample.config Sample.peer 0
        (Sample.askingSecond ++ [Sample.secondGone]) ∧
      penalized 0 Sample.askedSecond.system.state.failed Sample.remotePeer = true ∧
      (Sample.askedSecond.system.state.calls.lookup 1).map Call.candidates =
        some [Sample.remotePeer] ∧
      (∃ heard turn request frame,
        (Sample.askedSecond.step Sample.secondGone).system.state.log =
          Sample.askedSecond.system.state.log ++
            [heard, turn, .did (.sendRequest 1 request Sample.remotePeer frame)]) ∧
      Sample.askedSecond.AsksLast Sample.secondGone := by
  have undisturbed : Runs.Admissible Timed.step (Timed.start Sample.config Sample.peer 0)
      Timed.Undisturbed (Sample.askingSecond ++ [Sample.secondGone]) := by
    simp only [Sample.askingSecond, Sample.secondGone, List.cons_append, List.nil_append,
      Runs.admissible_cons, Runs.admissible_nil, and_true]
    refine ⟨trivial, trivial, trivial, State.undisturbed_of_same rfl rfl,
      State.undisturbed_of_few ?_, State.undisturbed_of_same rfl rfl,
      State.undisturbed_of_same rfl rfl, State.undisturbed_of_few ?_⟩
    · decide +kernel
    · decide +kernel
  have run : System.Run Sample.crates Sample.config Sample.peer 0
      (Sample.askingSecond ++ [Sample.secondGone]) := by
    simp only [System.Run, Sample.askingSecond, Sample.secondGone, List.cons_append,
      List.nil_append, Runs.admissible_cons, Runs.admissible_nil, and_true]
    refine ⟨trivial, trivial, ⟨rfl, rfl⟩, ⟨rfl, rfl, ?_, Nat.zero_lt_one⟩, ⟨rfl, 2, ?_⟩,
      ⟨rfl, rfl, ?_, Nat.zero_lt_one⟩, ⟨rfl, .lookup 1, ?_, trivial⟩, ⟨rfl, 1, ?_⟩⟩ <;>
      decide +kernel
  refine ⟨run, by decide +kernel, by decide +kernel, Sample.secondGone_sent, ?_⟩
  exact penalized_asked_last undisturbed Sample.askingSecond Sample.secondGone
    (List.prefix_refl _)

/-- Meanwhile another call to the first one fails. -/
def Sample.failedMeanwhile : List Action :=
  Sample.twoProviders ++
    [.handle Sample.connectedEnv
        (.command (.rpc 2 Sample.group (some Sample.remote) 0 [] (Duration.fromSecs 10))),
      .handle Sample.connectedEnv
        (.swarm (.rpc (.outboundFailure Sample.remotePeer 0 .timeout)))]

/-- The run can happen. -/
theorem Sample.failedMeanwhile_run :
    System.Run Sample.crates Sample.config Sample.peer 0
      (Sample.failedMeanwhile ++ [Sample.resolved]) := by
  simp only [System.Run, Sample.failedMeanwhile, Sample.twoProviders, Sample.resolved,
    List.cons_append, List.nil_append, Runs.admissible_cons, Runs.admissible_nil, and_true]
  refine ⟨trivial, trivial, ⟨rfl, rfl⟩, ⟨rfl, rfl, ?_, Nat.zero_lt_one⟩,
    ⟨rfl, .lookup 1, ?_, trivial⟩, ⟨rfl, rfl, ?_, Nat.zero_lt_one⟩, ⟨rfl, 2, ?_⟩,
    ⟨rfl, .resolve 1 Sample.remotePeer, ?_, rfl⟩⟩ <;> decide +kernel

/-- The node when the lookup ends, and after that. -/
def Sample.lookingUp : Timed :=
  Sample.failedMeanwhile.foldl Timed.step (Timed.start Sample.config Sample.peer 0)

/-- The node after the lookup has ended. -/
def Sample.lookedUp : State := (Sample.lookingUp.step Sample.resolved).system.state

/-- The call goes to the first. -/
theorem Sample.lookedUp_sent : ∃ heard turn request frame, Sample.lookedUp.log =
    Sample.lookingUp.system.state.log ++
      [heard, turn, .did (.sendRequest 1 request Sample.remotePeer frame)] :=
  ⟨_, _, _, _, rfl⟩

/-- The second is still queued then. -/
theorem Sample.lookedUp_waiting :
    (Sample.lookedUp.calls.lookup 1).map Call.candidates = some [Sample.secondPeer] := by
  decide +kernel

/-- Only the first has failed. -/
theorem Sample.lookedUp_penalized :
    penalized 0 Sample.lookedUp.failed Sample.remotePeer = true ∧
      penalized 0 Sample.lookedUp.failed Sample.secondPeer = false := by
  decide +kernel

/-- The call goes to the peer that has just failed while the other one waits. -/
theorem failed_peer_asked_first :
    System.Run Sample.crates Sample.config Sample.peer 0
        (Sample.failedMeanwhile ++ [Sample.resolved]) ∧
      ¬ Sample.lookingUp.AsksLast Sample.resolved := by
  refine ⟨Sample.failedMeanwhile_run, ?_⟩
  rintro ⟨extra, grown, last⟩
  obtain ⟨heard, turn, request, frame, sent⟩ := Sample.lookedUp_sent
  obtain ⟨call, found, waiting⟩ := Option.map_eq_some_iff.mp Sample.lookedUp_waiting
  obtain rfl := List.append_cancel_left (grown.symm.trans sent)
  have waits := last 1 request Sample.remotePeer frame (by simp) Sample.lookedUp_penalized.1 call
    found Sample.secondPeer (by simp [waiting])
  exact Bool.noConfusion (Sample.lookedUp_penalized.2.symm.trans waits)

end Libp2pFfi
