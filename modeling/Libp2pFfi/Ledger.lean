import Libp2pFfi.EventLoop

/-!
# The node's tables and what libp2p has outstanding

The node keeps a table for each kind of thing it waits for: the requests of its
calls, and the queries of calls, topics and the caller. In every state between
two handlers these tables say exactly what libp2p has not finished, and for
whom: an entry is made in the handler that starts the request or query and
dropped in the one that hears its last event, whether or not the call it was for
is still there.

`Orderly` is what one handler does to the tables. It composes like `Aside`, of
which it is the part that handlers of calls have as well.
-/

namespace Libp2pFfi.State

/-- The table of requests says about a request what it should. -/
def RequestAgrees (state : State) (request : OutboundRequestId) : Prop :=
  state.outbound.lookup request = (state.swarm.requests.lookup request).map Prod.snd

/-- The tables and libp2p agree, except about what is just ending. -/
structure LedgerBut (endingQuery : QueryId → Prop) (endingRequest : OutboundRequestId → Prop)
    (state : State) : Prop where
  queries : ∀ query, ¬ endingQuery query → state.Agrees query
  requests : ∀ request, ¬ endingRequest request → state.RequestAgrees request
  newQueries : ∀ query, state.swarm.nextQuery ≤ query → state.swarm.queries.lookup query = none
  newRequests : ∀ request, state.swarm.nextRequest ≤ request →
    state.swarm.requests.lookup request = none

/-- The tables and libp2p agree. -/
abbrev Ledger (state : State) : Prop := LedgerBut (fun _ => False) (fun _ => False) state

/-- What a handler makes of one request: nothing, or it sends it. -/
def RequestKept (before after : State) (request : OutboundRequestId) : Prop :=
  (after.outbound.lookup request = before.outbound.lookup request ∧
      after.swarm.requests.lookup request = before.swarm.requests.lookup request) ∨
    (before.swarm.nextRequest ≤ request ∧ request < after.swarm.nextRequest ∧
      after.RequestAgrees request)

/-- What a handler does to the tables. -/
structure Orderly (endingQuery : QueryId → Prop) (endingRequest : OutboundRequestId → Prop)
    (before after : State) : Prop where
  queries : QueriesKept endingQuery before after
  nextRequest : before.swarm.nextRequest ≤ after.swarm.nextRequest
  requests : ∀ request, ¬ endingRequest request → RequestKept before after request

section

variable {endingQuery : QueryId → Prop} {endingRequest : OutboundRequestId → Prop}

/-- Doing nothing is orderly. -/
theorem Orderly.refl (state : State) : Orderly endingQuery endingRequest state state :=
  ⟨QueriesKept.refl _ state, le_refl _, fun _ _ => .inl ⟨rfl, rfl⟩⟩

/-- So are two orderly steps. -/
theorem Orderly.trans {first second third : State}
    (left : Orderly endingQuery endingRequest first second)
    (right : Orderly endingQuery endingRequest second third) :
    Orderly endingQuery endingRequest first third := by
  refine ⟨left.queries.trans right.queries, left.nextRequest.trans right.nextRequest,
    fun request going => ?_⟩
  rcases left.requests request going with ⟨table, running⟩ | ⟨isNew, old, agrees⟩
  · rcases right.requests request going with ⟨tableToo, runningToo⟩ | ⟨isNew, sent, agrees⟩
    · exact .inl ⟨tableToo.trans table, runningToo.trans running⟩
    · exact .inr ⟨left.nextRequest.trans isNew, sent, agrees⟩
  · rcases right.requests request going with ⟨table, running⟩ | ⟨isNewToo, -, -⟩
    · refine .inr ⟨isNew, old.trans_le right.nextRequest, ?_⟩
      rw [RequestAgrees, table, running]
      exact agrees
    · exact absurd old (not_lt.mpr isNewToo)

/-- A handler that touches no call is orderly. -/
theorem Aside.orderly {allowed : Entry → Prop} {before after : State}
    (aside : Aside endingQuery allowed before after) :
    Orderly endingQuery endingRequest before after := by
  have outbound : after.outbound = before.outbound := congrArg CallView.outbound aside.view
  have requests : after.swarm.requests = before.swarm.requests :=
    congrArg CallView.requests aside.view
  have nextRequest : after.swarm.nextRequest = before.swarm.nextRequest :=
    congrArg CallView.nextRequest aside.view
  exact ⟨aside.queries, nextRequest.ge, fun _ _ => .inl ⟨by rw [outbound], by rw [requests]⟩⟩

/-- An orderly handler keeps the agreement. -/
theorem LedgerBut.orderly {before after : State} (ledger : LedgerBut endingQuery endingRequest before)
    (orderly : Orderly endingQuery endingRequest before after)
    (oldQuery : ∀ query, endingQuery query → query < before.swarm.nextQuery)
    (oldRequest : ∀ request, endingRequest request → request < before.swarm.nextRequest) :
    LedgerBut endingQuery endingRequest after := by
  refine ⟨fun query going => ?_, fun request going => ?_, fun query later => ?_,
    fun request later => ?_⟩
  · rcases orderly.queries.kept query going with ⟨holders, running⟩ | ⟨isNew, -, agrees⟩
    · rw [Agrees, holders, running]
      exact ledger.queries query going
    · have none := ledger.newQueries query isNew
      refine agrees ⟨?_, none⟩
      rw [ledger.queries query going, none]
      rfl
  · rcases orderly.requests request going with ⟨table, running⟩ | ⟨-, -, agrees⟩
    · rw [RequestAgrees, table, running]
      exact ledger.requests request going
    · exact agrees
  · have going : ¬ endingQuery query := fun ends =>
      absurd ((oldQuery query ends).trans_le orderly.queries.nextQuery) (not_lt.mpr later)
    rcases orderly.queries.kept query going with ⟨-, running⟩ | ⟨-, old, -⟩
    · rw [running]
      exact ledger.newQueries query (orderly.queries.nextQuery.trans later)
    · exact absurd old (not_lt.mpr later)
  · have going : ¬ endingRequest request := fun ends =>
      absurd ((oldRequest request ends).trans_le orderly.nextRequest) (not_lt.mpr later)
    rcases orderly.requests request going with ⟨-, running⟩ | ⟨-, old, -⟩
    · rw [running]
      exact ledger.newRequests request (orderly.nextRequest.trans later)
    · exact absurd old (not_lt.mpr later)

/-- A step that touches neither tables nor libp2p. -/
theorem orderly_of_same {before after : State} (holders : after.holders = before.holders)
    (outbound : after.outbound = before.outbound) (queries : after.swarm.queries = before.swarm.queries)
    (nextQuery : after.swarm.nextQuery = before.swarm.nextQuery)
    (requests : after.swarm.requests = before.swarm.requests)
    (nextRequest : after.swarm.nextRequest = before.swarm.nextRequest) :
    Orderly endingQuery endingRequest before after :=
  ⟨⟨nextQuery.ge, fun query _ => .inl ⟨congrFun holders query, by rw [queries]⟩,
      fun _ _ => by rw [queries]⟩, nextRequest.ge,
    fun _ _ => .inl ⟨by rw [outbound], by rw [requests]⟩⟩

/-- A call's entry says nothing of what runs for it. -/
theorem orderly_setCall (state : State) (id : Nat) (call : Call) :
    Orderly endingQuery endingRequest state (state.setCall id call) :=
  orderly_of_same rfl rfl rfl rfl rfl rfl

/-- A request is noted for its call as it is sent. -/
theorem orderly_sendCandidate (state : State) (id : Nat) (call : Call) (peer : PeerId)
    (rest : List PeerId) :
    Orderly endingQuery endingRequest state (state.sendCandidate id call peer rest) := by
  refine ⟨⟨le_refl _, fun query _ => .inl ⟨rfl, rfl⟩, fun _ _ => rfl⟩, Nat.le_succ _,
    fun request _ => ?_⟩
  by_cases own : request = state.swarm.nextRequest
  · subst own
    refine .inr ⟨le_refl _, Nat.lt_succ_self _, ?_⟩
    simp [RequestAgrees, sendCandidate, setCall, sendRequest, did]
  · refine .inl ⟨?_, ?_⟩ <;>
      simp [sendCandidate, setCall, sendRequest, did, AList.lookup_insert_ne own]

/-- So is a lookup of addresses as it begins. -/
theorem orderly_resolveCandidate (state : State) (id : Nat) (call : Call) (peer : PeerId)
    (rest : List PeerId) :
    Orderly endingQuery endingRequest state (state.resolveCandidate id call peer rest) := by
  refine ⟨⟨Nat.le_succ _, fun query _ => ?_, fun query old => AList.lookup_insert_ne old.ne⟩,
    le_refl _, fun _ _ => .inl ⟨rfl, rfl⟩⟩
  by_cases own : query = state.swarm.nextQuery
  · subst own
    refine .inr ⟨le_refl _, Nat.lt_succ_self _, fun clear => ?_⟩
    have others := Holders.mk.inj clear.1
    simp [Agrees, holders, resolveCandidate, setCall, getClosestPeers, beginQuery, did,
      Holders.expected, others]
  · refine .inl ⟨?_, ?_⟩ <;>
      simp [holders, resolveCandidate, setCall, getClosestPeers, beginQuery, did,
        AList.lookup_insert_ne own]

/-- Moving on starts one of the two, or neither. -/
theorem orderly_advance (env : Env) (state : State) (id : Nat) :
    Orderly endingQuery endingRequest state (state.advance env id) := by
  have looked (skipped : List PeerId) (peer : PeerId) :
      Orderly endingQuery endingRequest state ((state.passOver id skipped).lookAt env id peer) :=
    orderly_of_same rfl rfl rfl rfl rfl rfl
  have spec := advance_spec env state id
  generalize state.advance env id = after at spec ⊢
  cases spec with
  | missing => exact Orderly.refl state
  | busy => exact Orderly.refl state
  | waits => exact orderly_of_same rfl rfl rfl rfl rfl rfl
  | fails => exact orderly_of_same rfl rfl rfl rfl rfl rfl
  | sends call found idle skipped peer rest =>
    exact (looked skipped peer).trans (orderly_sendCandidate _ id call peer rest)
  | resolves call found idle skipped peer rest =>
    exact (looked skipped peer).trans (orderly_resolveCandidate _ id call peer rest)

/-- A call that fails leaves its request and its queries running. Their results find no
call. -/
theorem orderly_failCall (state : State) (id reason : Nat) :
    Orderly endingQuery endingRequest state (state.failCall id reason) := by
  unfold failCall
  split
  · exact Orderly.refl state
  · exact orderly_of_same rfl rfl rfl rfl rfl rfl

/-- The lookup of a group is noted as it begins. -/
theorem orderly_startCall (env : Env) (state : State) (id : Nat) (group : Key) (node : Option Key)
    (protocol : Nat) (payload : Bytes) (timeout : Duration) :
    Orderly endingQuery endingRequest state
      (state.startCall env id group node protocol payload timeout) := by
  unfold startCall
  dsimp only
  split
  · split
    · exact orderly_setCall state id _
    · exact orderly_setCall state id _
  · refine ⟨⟨Nat.le_succ _, fun query _ => ?_, fun query old => AList.lookup_insert_ne old.ne⟩,
      le_refl _, fun _ _ => .inl ⟨rfl, rfl⟩⟩
    by_cases own : query = state.swarm.nextQuery
    · subst own
      refine .inr ⟨le_refl _, Nat.lt_succ_self _, fun clear => ?_⟩
      have others := Holders.mk.inj clear.1
      simp [Agrees, holders, setCall, getProviders, beginQuery, did, Holders.expected, others]
    · refine .inl ⟨?_, ?_⟩ <;>
        simp [holders, setCall, getProviders, beginQuery, did, AList.lookup_insert_ne own]

/-- A tick starts lookups of topics and ends nothing that runs. -/
theorem orderly_tick (env : Env) (state : State) :
    Orderly endingQuery endingRequest state (state.tick env) := by
  have expired (ids : List Nat) (state : State) : Orderly endingQuery endingRequest state
      (ids.foldl (fun state id => state.failCall id failTimeout) state) := by
    induction ids generalizing state with
    | nil => exact Orderly.refl state
    | cons id rest inductionHypothesis =>
      exact (orderly_failCall state id failTimeout).trans (inductionHypothesis _)
  exact (expired _ state).trans (passive_tick env state).ending.orderly

end

/-! What is ending. -/

/-- A step of a query is being handled. If it is the last one, libp2p has
forgotten the query and the tables have not. -/
structure Reporting (query : QueryId) (purpose : Purpose) (last : Bool) (state : State) : Prop where
  ledger : LedgerBut (fun other => last = true ∧ other = query) (fun _ => False) state
  holders : state.holders query = Holders.expected (some purpose)
  running : last = true → state.swarm.queries.lookup query = none
  old : query < state.swarm.nextQuery

/-- A request has ended, which libp2p has forgotten and the table has not. -/
structure Returning (request : OutboundRequestId) (id : Nat) (state : State) : Prop where
  ledger : LedgerBut (fun _ => False) (fun other => other = request) state
  owner : state.outbound.lookup request = some id
  ended : state.swarm.requests.lookup request = none
  old : request < state.swarm.nextRequest

section

variable {query : QueryId} {purpose : Purpose} {last : Bool} {before after : State}

/-- An orderly step that ends nothing keeps the tables right. -/
theorem Ledger.orderly (ledger : Ledger before)
    (orderly : Orderly (fun _ => False) (fun _ => False) before after) : Ledger after :=
  LedgerBut.orderly ledger orderly (fun _ => False.elim) (fun _ => False.elim)

/-- A step that is not the last one ends nothing. -/
theorem Reporting.going (reporting : Reporting query purpose last before) (more : last = false) :
    Ledger before := by
  obtain ⟨queries, requests, newQueries, newRequests⟩ := reporting.ledger
  exact ⟨fun other _ => queries other (by simp [more]), requests, newQueries, newRequests⟩

/-- What does not touch the query leaves it at the same point. -/
theorem Reporting.passive {allowed : Entry → Prop} (reporting : Reporting query purpose last before)
    (aside : Aside (fun _ => False) allowed before after) :
    Reporting query purpose last after := by
  obtain ⟨sameHolders, sameRunning⟩ := aside.old (by simp) reporting.old
  refine ⟨?_, sameHolders.trans reporting.holders, ?_, ?_⟩
  · refine reporting.ledger.orderly aside.ending.orderly ?_ (fun _ => False.elim)
    rintro other ⟨-, rfl⟩
    exact reporting.old
  · exact fun isLast => sameRunning.trans (reporting.running isLast)
  · exact reporting.old.trans_le aside.queries.nextQuery

/-- Once its owner drops a query that has ended, nothing is left of it. -/
theorem Reporting.drop (reporting : Reporting query purpose last before) (isLast : last = true)
    (others : ∀ other, other ≠ query → after.holders other = before.holders other)
    (dropped : after.holders query = {}) (swarm : after.swarm = before.swarm)
    (outbound : after.outbound = before.outbound) : Ledger after := by
  refine ⟨fun other _ => ?_, ?_, ?_, ?_⟩
  · by_cases own : other = query
    · subst own
      rw [Agrees, dropped, swarm, reporting.running isLast]
      rfl
    · rw [Agrees, others other own, swarm]
      exact reporting.ledger.queries other fun ends => own ends.2
  · intro request
    rw [RequestAgrees, outbound, swarm]
    exact reporting.ledger.requests request
  · rw [swarm]
    exact reporting.ledger.newQueries
  · rw [swarm]
    exact reporting.ledger.newRequests

/-- A query nobody keeps a table for is gone already. -/
theorem Reporting.ownerless (reporting : Reporting query purpose last before)
    (nobody : Holders.expected (some purpose) = {}) : Ledger before := by
  by_cases isLast : last = true
  · exact reporting.drop isLast (fun _ _ => rfl) (reporting.holders.trans nobody) rfl rfl
  · exact reporting.going (by simpa using isLast)

/-- The last step takes the lookup off its table, and the others leave it there. -/
theorem ledger_topicProviders (env : Env) {key : Key} (result : GetProvidersResult)
    (reporting : Reporting query (.topic key) last before) :
    Ledger (before.topicProviders env query result last) := by
  have dialed := reporting.passive (passive_dialTopicMembers env before 0 (providersFound result))
  unfold topicProviders
  dsimp only
  split
  · rename_i isLast
    have owners := Holders.mk.inj dialed.holders
    refine dialed.drop isLast (fun other different => ?_) ?_ rfl rfl
    · simp [holders, AList.lookup_erase_ne different]
    · simp [holders, owners]
  · rename_i more
    exact dialed.going (by simpa using more)

/-- So with a search of the caller's. -/
theorem ledger_callerProviders (env : Env) {id : Nat} (result : GetProvidersResult)
    (reporting : Reporting query (.find id) last before) :
    Ledger (before.callerProviders env query id result last) := by
  have reported := reporting.passive (passive_reportProviders env id (providersFound result) before)
  unfold callerProviders
  dsimp only
  split
  · rename_i isLast
    have owners := Holders.mk.inj reported.holders
    refine Ledger.orderly ?_ (passive_emit _ (dhtResult id 0) ⟨rfl, rfl⟩).orderly
    refine reported.drop isLast (fun other different => ?_) ?_ rfl rfl
    · simp [holders, AList.lookup_erase_ne different]
    · simp [holders, owners]
  · rename_i more
    exact reported.going (by simpa using more)

/-- A walk has one step. -/
theorem ledger_walked (env : Env) {id : Nat} (peers : List PeerInfo)
    (reporting : Reporting query (.walk id) true before) :
    Ledger (before.walked env query id peers) := by
  have owners := Holders.mk.inj reporting.holders
  have dropped : Ledger { before with walks := before.walks.erase query } := by
    refine reporting.drop rfl (fun other different => ?_) ?_ rfl rfl
    · simp [holders, AList.lookup_erase_ne different]
    · simp [holders, owners]
  have reported := passive_reportWalked env id peers { before with walks := before.walks.erase query }
  exact dropped.orderly reported.orderly

/-- A bootstrap has several. -/
theorem ledger_bootstrapReported {id : Nat} (ok : Bool)
    (reporting : Reporting query (.bootstrap id) last before) :
    Ledger (before.bootstrapReported query ok last) := by
  have owners := Holders.mk.inj reporting.holders
  have owner : before.bootstraps.lookup query = some id := owners.2.2.2.2.2
  unfold bootstrapReported
  dsimp only
  split
  · rename_i isLast
    have dropped : Ledger { before with bootstraps := before.bootstraps.erase query } := by
      refine reporting.drop isLast (fun other different => ?_) ?_ rfl rfl
      · simp [holders, AList.lookup_erase_ne different]
      · simp [holders, owners]
    rw [owner]
    have reported := passive_emit { before with bootstraps := before.bootstraps.erase query }
      (dhtResult id (if ok then 0 else failTimeout)) ⟨rfl, rfl⟩
    refine dropped.orderly (Aside.orderly (Aside.trans reported ?_))
    exact passive_of_frame rfl
  · rename_i more
    exact reporting.going (by simpa using more)

/-- The lookup of a call's group. -/
theorem ledger_queueLookup (env : Env) {id : Nat} (result : GetProvidersResult)
    (reporting : Reporting query (.lookup id) last before) :
    Ledger (before.queueLookup env query id result last) := by
  have owners := Holders.mk.inj reporting.holders
  cases last with
  | true =>
    refine reporting.drop rfl (fun other different => ?_) ?_ rfl rfl
    · simp [holders, queueLookup, AList.lookup_erase_ne different]
    · simp [holders, queueLookup, owners]
  | false => exact (reporting.going rfl).orderly (orderly_of_same rfl rfl rfl rfl rfl rfl)

/-- The lookup of a candidate's addresses has one step. -/
theorem ledger_resume {id : Nat} {peer : PeerId}
    (reporting : Reporting query (.resolve id peer) true before) :
    Ledger (before.resume query id) := by
  have owners := Holders.mk.inj reporting.holders
  refine reporting.drop rfl (fun other different => ?_) ?_ rfl rfl
  · simp [holders, resume, AList.lookup_erase_ne different]
  · simp [holders, resume, owners]

/-- Once the table drops a request that has ended, nothing is left of it. -/
theorem Returning.drop {request : OutboundRequestId} {id : Nat}
    (returning : Returning request id before)
    (outbound : after.outbound = before.outbound.erase request)
    (holders : after.holders = before.holders) (swarm : after.swarm = before.swarm) :
    Ledger after := by
  refine ⟨?_, fun other _ => ?_, ?_, ?_⟩
  · intro other going
    rw [Agrees, holders, swarm]
    exact returning.ledger.queries other going
  · rw [RequestAgrees, outbound, swarm, Table.lookup_erase_if]
    split
    · rename_i own
      rw [own, returning.ended, Option.map_none]
    · rename_i different
      exact returning.ledger.requests other different
  · rw [swarm]
    exact returning.ledger.newQueries
  · rw [swarm]
    exact returning.ledger.newRequests

/-- A request that failed is taken off, with its call or without. -/
theorem ledger_attemptFailed {request : OutboundRequestId} {id : Nat} (reason : Nat)
    (returning : Returning request id before) : Ledger (before.attemptFailed request id reason) :=
  returning.drop rfl rfl rfl

/-- So is one that was answered. -/
theorem ledger_response (env : Env) (peer : PeerId) {request : OutboundRequestId} {id : Nat}
    (frame : Bytes) (returning : Returning request id before) :
    Ledger (before.response env peer request frame) := by
  have ended : Ledger { before with outbound := before.outbound.erase request } :=
    returning.drop rfl rfl rfl
  unfold response
  rw [returning.owner]
  dsimp only
  split
  · exact ended
  · split
    · exact ended.orderly (orderly_of_same rfl rfl rfl rfl rfl rfl)
    · refine Ledger.orderly ?_ (orderly_advance env _ id)
      refine Ledger.orderly ?_ (passive_rememberFailure env _ peer).orderly
      exact ended.orderly (orderly_setCall _ id _)

/-- What does not touch the requests leaves one that returns at the same point. -/
theorem Returning.passive {request : OutboundRequestId} {id : Nat} {allowed : Entry → Prop}
    (returning : Returning request id before)
    (aside : Aside (fun _ => False) allowed before after) : Returning request id after := by
  have outbound : after.outbound = before.outbound := congrArg CallView.outbound aside.view
  have requests : after.swarm.requests = before.swarm.requests :=
    congrArg CallView.requests aside.view
  have nextRequest : after.swarm.nextRequest = before.swarm.nextRequest :=
    congrArg CallView.nextRequest aside.view
  refine ⟨?_, by rw [outbound, returning.owner], by rw [requests, returning.ended],
    by rw [nextRequest]; exact returning.old⟩
  refine returning.ledger.orderly aside.orderly (fun _ => False.elim) ?_
  rintro other rfl
  exact returning.old

/-- The peer's failure is remembered first. -/
theorem ledger_outboundFailed (env : Env) (peer : PeerId) {request : OutboundRequestId} {id : Nat}
    (error : OutboundFailure) (returning : Returning request id before) :
    Ledger (before.outboundFailed env peer request error) := by
  have noted := returning.passive (passive_rememberFailure env before peer)
  unfold outboundFailed
  dsimp only
  rw [noted.owner]
  exact (ledger_attemptFailed error.reason noted).orderly (orderly_advance env _ id)

end

/-! What an entry of a table stands for. -/

/-- A request that is noted has not ended. -/
theorem Ledger.request_pending {state : State} (ledger : Ledger state)
    (request : OutboundRequestId) (id : Nat) (found : state.outbound.lookup request = some id) :
    ∃ peer, state.swarm.requests.lookup request = some (peer, id) := by
  rw [ledger.requests request (by simp)] at found
  obtain ⟨⟨peer, owner⟩, running, rfl⟩ := Option.map_eq_some_iff.mp found
  exact ⟨peer, running⟩

/-- Nor has a lookup of addresses that is noted. -/
theorem Ledger.resolve_pending {state : State} (ledger : Ledger state) (query : QueryId) (id : Nat)
    (found : state.resolutions.lookup query = some id) :
    ∃ peer, state.swarm.queries.lookup query = some (.resolve id peer) := by
  have holder : (state.holders query).resolve = some id := found
  rw [ledger.queries query (by simp)] at holder
  cases running : state.swarm.queries.lookup query with
  | none => rw [running] at holder; cases holder
  | some purpose =>
    rw [running] at holder
    cases purpose with
    | resolve call peer =>
      obtain rfl := Option.some.inj holder
      exact ⟨peer, rfl⟩
    | _ => cases holder

/-- Nor has the lookup of a group. -/
theorem Ledger.lookup_pending {state : State} (ledger : Ledger state) (query : QueryId) (id : Nat)
    (found : state.providerLookups.lookup query = some id) :
    state.swarm.queries.lookup query = some (.lookup id) := by
  have holder : (state.holders query).lookup = some id := found
  rw [ledger.queries query (by simp)] at holder
  cases running : state.swarm.queries.lookup query with
  | none => rw [running] at holder; cases holder
  | some purpose =>
    rw [running] at holder
    cases purpose with
    | lookup call =>
      obtain rfl := Option.some.inj holder
      rfl
    | _ => cases holder

/-! Whose query a step is about. -/

/-- The addresses that come with the closest peers. -/
def learn (state : State) (peers : List PeerInfo) : State :=
  peers.foldl (fun state info => state.addAddresses info.peer info.addrs) state

/-- Learning addresses touches no call. -/
theorem passive_learn (state : State) (peers : List PeerInfo) : Passive state (state.learn peers) := by
  have each (state : State) (info : PeerInfo) :
      Passive state (state.addAddresses info.peer info.addrs) :=
    passive_addAddresses state info.peer info.addrs
  exact aside_foldl each peers state

/-- What a step of a query comes to: the handler of the one it runs for. -/
inductive Progress (env : Env) (query : QueryId) (last : Bool) (before : State) :
    Purpose → QueryResult → State → Prop where
  | topic (key : Key) (result : GetProvidersResult) :
      Progress env query last before (.topic key) (.getProviders result)
        (before.topicProviders env query result last)
  | find (id : Nat) (result : GetProvidersResult) :
      Progress env query last before (.find id) (.getProviders result)
        (before.callerProviders env query id result last)
  | lookup (call : Nat) (result : GetProvidersResult) :
      Progress env query last before (.lookup call) (.getProviders result)
        (before.callProviders env query call result last)
  | resolve (call : Nat) (peer : PeerId) (peers : List PeerInfo) (isLast : last = true) :
      Progress env query last before (.resolve call peer) (.getClosestPeers peers)
        ((before.learn peers).candidateResolved env query call)
  | walk (id : Nat) (peers : List PeerInfo) (isLast : last = true) :
      Progress env query last before (.walk id) (.getClosestPeers peers)
        ((before.learn peers).walked env query id peers)
  | bootstrap (id : Nat) (ok : Bool) :
      Progress env query last before (.bootstrap id) (.bootstrap ok)
        (before.bootstrapReported query ok last)
  /-- A query of libp2p's own, or of a provider record. -/
  | nobody (purpose : Purpose) (result : QueryResult) (provideDue : Bool)
      (ownerless : Holders.expected (some purpose) = {}) :
      Progress env query last before purpose result { before with provideDue }

section

variable {query : QueryId} {purpose : Purpose} {last : Bool} {before : State}

/-- What providers make of the query they were found by is decided by its purpose. -/
theorem progress_providers (env : Env) (result : GetProvidersResult)
    (reporting : Reporting query purpose last before)
    (fits : (QueryResult.getProviders result).Fits last purpose) :
    Progress env query last before purpose (.getProviders result)
      (before.providersReported env query result last) := by
  have owners := Holders.mk.inj reporting.holders
  unfold providersReported
  cases purpose with
  | topic key =>
    rw [if_pos (by simp [owners])]
    exact .topic key result
  | find id =>
    rw [if_neg (by simp [owners]), owners.2.1]
    exact .find id result
  | lookup call =>
    rw [if_neg (by simp [owners]), owners.2.1, owners.2.2.1]
    exact .lookup call result
  | _ => exact fits.elim

/-- So with peers. -/
theorem progress_closestPeers (env : Env) (peers : List PeerInfo)
    (reporting : Reporting query purpose last before)
    (fits : (QueryResult.getClosestPeers peers).Fits last purpose) :
    Progress env query last before purpose (.getClosestPeers peers)
      (before.closestPeersReported env query peers) := by
  have known := reporting.passive (passive_learn before peers)
  have owners := Holders.mk.inj known.holders
  unfold closestPeersReported
  dsimp only
  cases purpose with
  | resolve call peer =>
    have resolves : (before.learn peers).resolutions.lookup query = some call := owners.2.2.2.1
    rw [learn] at resolves
    rw [resolves]
    exact .resolve call peer peers fits
  | walk id =>
    have notCall : (before.learn peers).resolutions.lookup query = none := owners.2.2.2.1
    have walks : (before.learn peers).walks.lookup query = some id := owners.2.2.2.2.1
    rw [learn] at notCall walks
    rw [notCall, walks]
    exact .walk id peers fits
  | _ => exact fits.elim

/-- So with a bootstrap. -/
theorem progress_bootstrap (env : Env) (ok : Bool) (reporting : Reporting query purpose last before)
    (fits : (QueryResult.bootstrap ok).Fits last purpose) :
    Progress env query last before purpose (.bootstrap ok)
      (before.bootstrapReported query ok last) := by
  cases purpose with
  | bootstrap id => exact .bootstrap id ok
  | internal =>
    have owners := Holders.mk.inj reporting.holders
    unfold bootstrapReported
    dsimp only
    split
    · rw [owners.2.2.2.2.2]
      exact .nobody .internal (.bootstrap ok) true rfl
    · exact .nobody .internal (.bootstrap ok) before.provideDue rfl
  | _ => exact fits.elim

/-- The tables lead a step of a query to the one it runs for. -/
theorem progress (env : Env) (result : QueryResult) (reporting : Reporting query purpose last before)
    (fits : result.Fits last purpose) :
    Progress env query last before purpose result
      (before.kadEvent env (.progressed query result last)) := by
  cases result with
  | getProviders found => exact progress_providers env found reporting fits
  | getClosestPeers peers => exact progress_closestPeers env peers reporting fits
  | bootstrap ok => exact progress_bootstrap env ok reporting fits
  | other =>
    cases purpose with
    | provide => exact .nobody .provide .other before.provideDue rfl
    | internal => exact .nobody .internal .other before.provideDue rfl
    | _ => exact fits.elim

/-! Every action keeps the ledger. -/

/-- Every step of a query keeps the tables right, the last one included. -/
theorem ledger_progressed (env : Env) (result : QueryResult)
    (reporting : Reporting query purpose last before) (fits : result.Fits last purpose) :
    Ledger (before.kadEvent env (.progressed query result last)) := by
  have spec := progress env result reporting fits
  generalize before.kadEvent env (.progressed query result last) = after at spec ⊢
  cases spec with
  | topic key found => exact ledger_topicProviders env found reporting
  | find id found => exact ledger_callerProviders env found reporting
  | lookup call found =>
    exact (ledger_queueLookup env found reporting).orderly (orderly_advance env _ call)
  | resolve call peer peers isLast =>
    subst isLast
    have known := reporting.passive (passive_learn before peers)
    exact (ledger_resume known).orderly (orderly_advance env _ call)
  | walk id peers isLast =>
    subst isLast
    exact ledger_walked env peers (reporting.passive (passive_learn before peers))
  | bootstrap id ok => exact ledger_bootstrapReported ok reporting
  | nobody _ _ provideDue ownerless =>
    exact (reporting.ownerless ownerless).orderly (orderly_of_same rfl rfl rfl rfl rfl rfl)

end

/-- A step of a running query reaches its handler. -/
theorem Ledger.reporting {state : State} (ledger : Ledger state) {query : QueryId}
    {purpose : Purpose} (running : state.swarm.queries.lookup query = some purpose) {last : Bool}
    {after : State} (outbound : after.outbound = state.outbound)
    (holders : after.holders = state.holders)
    (swarm : after.swarm = { state.swarm with
      queries := if last then state.swarm.queries.erase query else state.swarm.queries }) :
    Reporting query purpose last after := by
  have old : query < state.swarm.nextQuery := by
    by_contra later
    cases (ledger.newQueries query (not_lt.mp later)).symm.trans running
  refine ⟨⟨fun other going => ?_, ?_, fun other later => ?_, ?_⟩, ?_, fun isLast => ?_, ?_⟩
  · have same : after.swarm.queries.lookup other = state.swarm.queries.lookup other := by
      rw [swarm]
      dsimp only
      split
      · rename_i isLast
        exact AList.lookup_erase_ne fun same => going ⟨isLast, same⟩
      · rfl
    rw [Agrees, holders, same]
    exact ledger.queries other (by simp)
  · intro request
    rw [RequestAgrees, outbound, swarm]
    exact ledger.requests request
  · rw [swarm] at later ⊢
    dsimp only at later ⊢
    split
    · rw [Table.lookup_erase_if, ledger.newQueries other later, ite_self]
    · exact ledger.newQueries other later
  · rw [swarm]
    exact ledger.newRequests
  · rw [holders, ledger.queries query (by simp), running]
  · rw [swarm, isLast]
    exact AList.lookup_erase _ _
  · rw [swarm]
    exact old

/-- The end of a request reaches its handler. -/
theorem Ledger.returning {state : State} (ledger : Ledger state) {request : OutboundRequestId}
    {peer : PeerId} {id : Nat} (running : state.swarm.requests.lookup request = some (peer, id))
    {after : State} (outbound : after.outbound = state.outbound)
    (holders : after.holders = state.holders)
    (swarm : after.swarm = { state.swarm with requests := state.swarm.requests.erase request }) :
    Returning request id after := by
  have old : request < state.swarm.nextRequest := by
    by_contra later
    cases (ledger.newRequests request (not_lt.mp later)).symm.trans running
  refine ⟨⟨fun query going => ?_, fun other different => ?_, ?_, fun other later => ?_⟩, ?_, ?_, ?_⟩
  · rw [Agrees, holders, swarm]
    exact ledger.queries query going
  · rw [RequestAgrees, outbound, swarm, AList.lookup_erase_ne different]
    exact ledger.requests other (by simp)
  · rw [swarm]
    exact ledger.newQueries
  · rw [swarm] at later ⊢
    rw [Table.lookup_erase_if, ledger.newRequests other later, ite_self]
  · rw [outbound, ledger.requests request (by simp), running, Option.map_some]
  · rw [swarm, AList.lookup_erase]
  · rw [swarm]
    exact old

/-- That an input is heard is a line of the log. -/
theorem orderly_heard (state : State) (nowMs : UInt64) (input : Input) :
    Orderly (fun _ => False) (fun _ => False) state (state.heard nowMs input) :=
  orderly_of_same rfl rfl rfl rfl rfl rfl

/-- A handler of anything but the events that report on the node's own requests
and queries is orderly. -/
theorem orderly_handle (env : Env) (state : State) (input : Input)
    (quiet : ∀ event, input = .swarm event → event.reports = false) :
    Orderly (fun _ => False) (fun _ => False) state ((state.deliver input).handle env input) := by
  cases input with
  | tick => exact (orderly_heard state env.nowMs .tick).trans (orderly_tick env _)
  | command sent =>
    refine (orderly_heard state env.nowMs (.command sent)).trans ?_
    by_cases isCall : ∃ id group node protocol payload timeout,
        sent = .rpc id group node protocol payload timeout
    · obtain ⟨id, group, node, protocol, payload, timeout, rfl⟩ := isCall
      exact (orderly_startCall env _ id group node protocol payload timeout).trans
        (orderly_advance env _ id)
    · exact (passive_command env _ sent (by simpa using isCall)).orderly
  | swarm event =>
    have own := quiet event rfl
    refine Orderly.trans ?_ (quiet_swarmEvent env _ event own).orderly
    refine Orderly.trans ?_ (orderly_heard _ env.nowMs _)
    unfold deliver
    split
    iterate 3
      rename_i same
      cases same
      cases own
    · exact orderly_of_same rfl rfl rfl rfl rfl rfl
    · exact Orderly.refl state

end Libp2pFfi.State

namespace Libp2pFfi

/-- At the start nothing runs. -/
theorem ledger_start (config : Config) (localPeer : PeerId) (now : Instant) :
    (System.start config localPeer now).state.Ledger :=
  ⟨fun _ _ => rfl, fun _ _ => rfl, fun _ _ => rfl, fun _ _ => rfl⟩

/-- Every action keeps the tables right. -/
theorem ledger_step {crates : Crates} (system : System) (action : Action)
    (ledger : system.state.Ledger) (enabled : System.Enabled crates system action) :
    (system.step action).state.Ledger := by
  cases action with
  | draw => exact ledger.orderly (State.orderly_of_same rfl rfl rfl rfl rfl rfl)
  | poll cap => exact ledger.orderly (State.orderly_of_same rfl rfl rfl rfl rfl rfl)
  | learn peer address => exact ledger.orderly (State.orderly_of_same rfl rfl rfl rfl rfl rfl)
  | ready env => exact ledger.orderly (State.passive_ready env system.state).orderly
  | internalQuery =>
    refine ledger.orderly ⟨⟨Nat.le_succ _, fun query _ => ?_,
      fun query old => AList.lookup_insert_ne old.ne⟩, le_refl _, fun _ _ => .inl ⟨rfl, rfl⟩⟩
    by_cases own : query = system.state.swarm.nextQuery
    · subst own
      refine .inr ⟨le_refl _, Nat.lt_succ_self _, fun clear => ?_⟩
      refine clear.1.trans ?_
      rw [System.step, State.beginQuery, AList.lookup_insert]
      rfl
    · exact .inl ⟨rfl, AList.lookup_insert_ne own⟩
  | handle env input =>
    by_cases quiet : ∀ event, input = .swarm event → event.reports = false
    · exact ledger.orderly (State.orderly_handle env system.state input quiet)
    · push Not at quiet
      obtain ⟨event, rfl, reports⟩ := quiet
      obtain ⟨-, offered⟩ := enabled
      cases event.quiet_or_ofOwn.resolve_left reports with
      | progressed query result last =>
        obtain ⟨purpose, running, fits⟩ := offered
        apply State.ledger_progressed env result (ledger.reporting running ?_ ?_ ?_) fits
        all_goals cases last <;> rfl
      | response peer request frame =>
        obtain ⟨id, running⟩ := offered
        exact State.ledger_response env peer frame (ledger.returning running rfl rfl rfl)
      | outboundFailure peer request error =>
        obtain ⟨id, running⟩ := offered
        exact State.ledger_outboundFailed env peer error (ledger.returning running rfl rfl rfl)

end Libp2pFfi
