import Libp2pFfi.Ledger
import Libp2pFfi.Outcomes

/-!
# No stalled call

A call in progress waits for something: for the answer to a request, for the
addresses of its next candidate, or for the providers of its group. Its three
flags say for which, and for every flag that is set there is exactly one entry
in the table that brings the call back. A handler that takes such an entry out
clears the flag and advances the call, and `advance` leaves with something under
way or with the call ended.

`BooksBut` is the invariant with one call excepted: the one a handler is just
about to advance may have nothing under way. Ids that were never used have no
entries, so that a new call starts with clean books.
-/

namespace Libp2pFfi

/-- Something is under way for a call. -/
def Call.Active (call : Call) : Prop :=
  call.inFlight = true ∨ call.resolving = true ∨ call.lookupRunning = true

namespace State

/-- What is outstanding for an id, in the three tables. -/
structure Tally (state : State) (id : Nat) (inFlight resolving lookupRunning : Bool) : Prop where
  outbound : state.outbound.Owes id inFlight
  resolutions : state.resolutions.Owes id resolving
  lookups : state.providerLookups.Owes id lookupRunning

/-- The flags of a call say what is outstanding for it. -/
structure Booked (state : State) (id : Nat) (call : Call) : Prop where
  tally : state.Tally id call.inFlight call.resolving call.lookupRunning
  exclusive : ¬ (call.inFlight = true ∧ call.resolving = true)

/-- The books are in order, except that the calls of `idle` may have nothing under
way. Nothing is outstanding for the ids of `free`. -/
structure BooksBut (idle free : Nat → Prop) (state : State) : Prop where
  booked : ∀ id call, state.calls.lookup id = some call → state.Booked id call
  active : ∀ id call, state.calls.lookup id = some call → ¬ idle id → call.Active
  unused : ∀ id, free id → state.calls.lookup id = none ∧ state.Tally id false false false

abbrev Books (free : Nat → Prop) (state : State) : Prop := BooksBut (fun _ => False) free state

section

variable {free : Nat → Prop} {before after : State} {id : Nat}

theorem BooksBut.mono {idle idleToo freeToo : Nat → Prop} (books : BooksBut idle free before)
    (more : ∀ id, idle id → idleToo id) (fewer : ∀ id, freeToo id → free id) :
    BooksBut idleToo freeToo before :=
  ⟨books.booked, fun id call found busy => books.active id call found fun isIdle =>
    busy (more id isIdle), fun id isFree => books.unused id (fewer id isFree)⟩

/-- The books are about the calls and the three tables. -/
theorem BooksBut.same {idle : Nat → Prop} (books : BooksBut idle free before)
    (calls : after.calls = before.calls) (outbound : after.outbound = before.outbound)
    (lookups : after.providerLookups = before.providerLookups)
    (resolutions : after.resolutions = before.resolutions) : BooksBut idle free after := by
  have tally {id : Nat} {a b c : Bool} (old : before.Tally id a b c) : after.Tally id a b c :=
    ⟨outbound ▸ old.outbound, resolutions ▸ old.resolutions, lookups ▸ old.lookups⟩
  refine ⟨fun id call found => ?_, ?_, fun id isFree => ?_⟩
  · obtain ⟨old, exclusive⟩ := books.booked id call (calls ▸ found)
    exact ⟨tally old, exclusive⟩
  · exact calls ▸ books.active
  · obtain ⟨absent, old⟩ := books.unused id isFree
    exact ⟨calls ▸ absent, tally old⟩

theorem BooksBut.view {idle : Nat → Prop} (books : BooksBut idle free before)
    (same : after.callView = before.callView) : BooksBut idle free after := by
  obtain ⟨calls, outbound, lookups, resolutions, -⟩ := CallView.mk.inj same
  exact books.same calls outbound lookups resolutions

/-- A step that concerns one call. -/
theorem BooksBut.change {idle : Nat → Prop} (books : BooksBut (fun other => other = id) free before)
    (inUse : ¬ free id)
    (others : ∀ other, other ≠ id → after.calls.lookup other = before.calls.lookup other)
    (kept : ∀ other a b c, other ≠ id → before.Tally other a b c → after.Tally other a b c)
    (own : ∀ call, after.calls.lookup id = some call →
      after.Booked id call ∧ (¬ idle id → call.Active)) : BooksBut idle free after := by
  refine ⟨fun other call found => ?_, fun other call found busy => ?_, fun other isFree => ?_⟩
  · by_cases same : other = id
    · subst same
      exact (own call found).1
    · rw [others other same] at found
      obtain ⟨tally, exclusive⟩ := books.booked other call found
      exact ⟨kept other _ _ _ same tally, exclusive⟩
  · by_cases same : other = id
    · subst same
      exact (own call found).2 busy
    · rw [others other same] at found
      exact books.active other call found same
  · have different : other ≠ id := fun same => inUse (same ▸ isFree)
    obtain ⟨absent, tally⟩ := books.unused other isFree
    exact ⟨(others other different).trans absent, kept other _ _ _ different tally⟩

/-- A call in progress uses its id. -/
theorem BooksBut.inUse {idle : Nat → Prop} (books : BooksBut idle free before) {call : Call}
    (found : before.calls.lookup id = some call) : ¬ free id := by
  intro isFree
  cases (books.unused id isFree).1.symm.trans found

/-! Advancing a call. -/

theorem Ledger.newRequest (ledger : Ledger before) :
    before.outbound.lookup before.swarm.nextRequest = none := by
  rw [ledger.requests _ (by simp), ledger.newRequests _ (le_refl _), Option.map_none]

theorem Ledger.newQuery (ledger : Ledger before) :
    before.holders before.swarm.nextQuery = {} := by
  rw [ledger.queries _ (by simp), ledger.newQueries _ (le_refl _)]
  rfl

theorem books_sendCandidate {call : Call} (books : BooksBut (fun other => other = id) free before)
    (ledger : Ledger before) (found : before.calls.lookup id = some call)
    (idle : call.inFlight = false ∧ call.resolving = false) (peer : PeerId) (rest : List PeerId) :
    Books free (before.sendCandidate id call peer rest) := by
  obtain ⟨tally, -⟩ := books.booked id call found
  refine books.change (books.inUse found) (fun other different => ?_)
    (fun other a b c different old => ?_) fun written isWritten => ?_
  · exact AList.lookup_insert_ne different
  · exact ⟨old.outbound.insert_other (Ne.symm different) ledger.newRequest, old.resolutions,
      old.lookups⟩
  · obtain rfl := Option.some.inj ((AList.lookup_insert _).symm.trans isWritten)
    refine ⟨⟨⟨?_, tally.resolutions, tally.lookups⟩, by simp [idle]⟩, fun _ => .inl rfl⟩
    have none := tally.outbound
    rw [idle.1] at none
    exact none.insert_own

theorem books_resolveCandidate {call : Call}
    (books : BooksBut (fun other => other = id) free before) (ledger : Ledger before)
    (found : before.calls.lookup id = some call)
    (idle : call.inFlight = false ∧ call.resolving = false) (peer : PeerId) (rest : List PeerId) :
    Books free (before.resolveCandidate id call peer rest) := by
  obtain ⟨tally, -⟩ := books.booked id call found
  have unknown : before.resolutions.lookup before.swarm.nextQuery = none :=
    congrArg Holders.resolve ledger.newQuery
  refine books.change (books.inUse found) (fun other different => ?_)
    (fun other a b c different old => ?_) fun written isWritten => ?_
  · exact AList.lookup_insert_ne different
  · exact ⟨old.outbound, old.resolutions.insert_other (Ne.symm different) unknown, old.lookups⟩
  · obtain rfl := Option.some.inj ((AList.lookup_insert _).symm.trans isWritten)
    refine ⟨⟨⟨tally.outbound, ?_, tally.lookups⟩, by simp [idle]⟩, fun _ => .inr (.inl rfl)⟩
    have none := tally.resolutions
    rw [idle.2] at none
    exact none.insert_own

/-- Ending a call leaves what was outstanding for it in the tables. -/
theorem BooksBut.erase (books : BooksBut (fun other => other = id) free before)
    (removed : after.callView = { before.callView with calls := before.calls.erase id }) :
    Books free after := by
  obtain ⟨calls, outbound, lookups, resolutions, -⟩ := CallView.mk.inj removed
  have tally {other : Nat} {a b c : Bool} (old : before.Tally other a b c) :
      after.Tally other a b c :=
    ⟨outbound ▸ old.outbound, resolutions ▸ old.resolutions, lookups ▸ old.lookups⟩
  have ofOthers {other : Nat} {call : Call} (found : after.calls.lookup other = some call) :
      other ≠ id ∧ before.calls.lookup other = some call := by
    rw [calls, Table.lookup_erase_if] at found
    split at found
    · cases found
    · rename_i different
      exact ⟨different, found⟩
  refine ⟨fun other call found => ?_, fun other call found _ => ?_, fun other isFree => ?_⟩
  · obtain ⟨old, exclusive⟩ := books.booked other call (ofOthers found).2
    exact ⟨tally old, exclusive⟩
  · exact books.active other call (ofOthers found).2 (ofOthers found).1
  · obtain ⟨absent, old⟩ := books.unused other isFree
    refine ⟨?_, tally old⟩
    rw [calls, Table.lookup_erase_if, absent, ite_self]

/-- Advancing a call leaves something under way for it, or ends it. -/
theorem books_advance (env : Env) (books : BooksBut (fun other => other = id) free before)
    (ledger : Ledger before) : Books free (before.advance env id) := by
  have spec := advance_spec env before id
  generalize before.advance env id = after at spec ⊢
  have looked (skipped : List PeerId) (peer : PeerId) :
      BooksBut (fun other => other = id) free ((before.passOver id skipped).lookAt env id peer) ∧
        Ledger ((before.passOver id skipped).lookAt env id peer) :=
    ⟨books.view rfl, ledger.orderly (orderly_of_same rfl rfl rfl rfl rfl rfl)⟩
  cases spec with
  | missing absent =>
    refine ⟨books.booked, fun other call found _ => books.active other call found ?_, books.unused⟩
    rintro rfl
    cases absent.symm.trans found
  | busy call found underWay =>
    refine ⟨books.booked, fun other written isWritten _ => ?_, books.unused⟩
    by_cases same : other = id
    · subst same
      obtain rfl := Option.some.inj (found.symm.trans isWritten)
      exact underWay.imp (fun sent => sent) .inl
    · exact books.active other written isWritten same
  | waits call found idle stuck running =>
    refine books.change (books.inUse found) (fun other different => ?_)
      (fun _ _ _ _ _ old => ⟨old.outbound, old.resolutions, old.lookups⟩)
      fun written isWritten => ?_
    · exact AList.lookup_insert_ne different
    · obtain rfl := Option.some.inj ((AList.lookup_insert _).symm.trans isWritten)
      obtain ⟨tally, exclusive⟩ := books.booked id call found
      exact ⟨⟨⟨tally.outbound, tally.resolutions, tally.lookups⟩, exclusive⟩,
        fun _ => .inr (.inr running)⟩
  | fails call found => exact books.erase rfl
  | sends call found idle skipped peer rest =>
    exact books_sendCandidate (looked skipped peer).1 (looked skipped peer).2 found idle peer rest
  | resolves call found idle skipped peer rest =>
    exact books_resolveCandidate (looked skipped peer).1 (looked skipped peer).2 found idle peer rest

/-! Something outstanding has ended. -/

/-- A handler takes an entry of the call out of a table and, if the call is still
there, changes it. -/
theorem BooksBut.settle {change : Call → Call} (books : Books free before) (inUse : ¬ free id)
    (calls : after.calls = before.calls.adjust id change)
    (kept : ∀ other a b c, other ≠ id → before.Tally other a b c → after.Tally other a b c)
    (own : ∀ call, before.calls.lookup id = some call → before.Booked id call →
      after.Booked id (change call)) : BooksBut (fun other => other = id) free after := by
  refine BooksBut.change (books.mono (fun _ => False.elim) fun _ isFree => isFree) inUse
    (fun other different => ?_) kept fun written isWritten => ⟨?_, fun busy => absurd rfl busy⟩
  · rw [calls, Table.lookup_adjust, if_neg different]
  · rw [calls, Table.lookup_adjust, if_pos rfl] at isWritten
    obtain ⟨call, found, rfl⟩ := Option.map_eq_some_iff.mp isWritten
    exact own call found (books.booked id call found)

theorem books_queueLookup (env : Env) {query : QueryId} (books : Books free before)
    (owner : before.providerLookups.lookup query = some id) (result : GetProvidersResult)
    (last : Bool) :
    BooksBut (fun other => other = id) free (before.queueLookup env query id result last) := by
  have inUse : ¬ free id := fun isFree => (books.unused id isFree).2.lookups query owner
  refine books.settle inUse rfl (fun other a b c different old => ?_) fun call found booked => ?_
  · refine ⟨old.outbound, old.resolutions, ?_⟩
    cases last with
    | true => exact old.lookups.erase_other (Ne.symm different) owner
    | false => exact old.lookups
  · obtain ⟨seen, candidates, queued⟩ :=
      queueProviders_spec env before call (providersFound result)
    rw [queued]
    cases last with
    | true =>
      exact ⟨⟨booked.tally.outbound, booked.tally.resolutions,
        booked.tally.lookups.erase_own owner⟩, booked.exclusive⟩
    | false =>
      exact ⟨⟨booked.tally.outbound, booked.tally.resolutions, booked.tally.lookups⟩,
        booked.exclusive⟩

theorem books_resume {query : QueryId} (books : Books free before)
    (owner : before.resolutions.lookup query = some id) :
    BooksBut (fun other => other = id) free (before.resume query id) := by
  have inUse : ¬ free id := fun isFree => (books.unused id isFree).2.resolutions query owner
  refine books.settle inUse rfl (fun other a b c different old => ?_) fun call found booked => ?_
  · exact ⟨old.outbound, old.resolutions.erase_other (Ne.symm different) owner, old.lookups⟩
  · exact ⟨⟨booked.tally.outbound, booked.tally.resolutions.erase_own owner,
      booked.tally.lookups⟩, by simp⟩

theorem books_attemptFailed {request : OutboundRequestId} (books : Books free before)
    (owner : before.outbound.lookup request = some id) (reason : Nat) :
    BooksBut (fun other => other = id) free (before.attemptFailed request id reason) := by
  have inUse : ¬ free id := fun isFree => (books.unused id isFree).2.outbound request owner
  refine books.settle inUse rfl (fun other a b c different old => ?_) fun call found booked => ?_
  · exact ⟨old.outbound.erase_other (Ne.symm different) owner, old.resolutions, old.lookups⟩
  · exact ⟨⟨booked.tally.outbound.erase_own owner, booked.tally.resolutions,
      booked.tally.lookups⟩, by simp⟩

/-- A response that is refused is a failed attempt. -/
theorem attemptFailed_found {request : OutboundRequestId} {reason : Nat} {call : Call}
    (found : before.calls.lookup id = some call) :
    before.attemptFailed request id reason =
      { before with outbound := before.outbound.erase request }.setCall id
        { call with inFlight := false, lastFailure := reason } := by
  simp [attemptFailed, setCall, Table.adjust, found]

theorem books_response (env : Env) (peer : PeerId) {request : OutboundRequestId} (frame : Bytes)
    (books : Books free before) (returning : Returning request id before) :
    Books free (before.response env peer request frame) := by
  have failed := books_attemptFailed books returning.owner failRefused
  have ledger := ledger_attemptFailed failRefused returning
  unfold response
  rw [returning.owner]
  dsimp only
  cases found : before.calls.lookup id with
  | none =>
    refine ⟨fun other call isThere => ?_, books.active, fun other isFree => ?_⟩
    · have different : other ≠ id := by
        rintro rfl
        cases found.symm.trans isThere
      obtain ⟨old, exclusive⟩ := books.booked other call isThere
      exact ⟨⟨old.outbound.erase_other (Ne.symm different) returning.owner, old.resolutions,
        old.lookups⟩, exclusive⟩
    · obtain ⟨absent, old⟩ := books.unused other isFree
      refine ⟨absent, ⟨old.outbound.erase_other ?_ returning.owner, old.resolutions, old.lookups⟩⟩
      rintro rfl
      exact old.outbound request returning.owner
  | some call =>
    rw [attemptFailed_found found] at failed ledger
    dsimp only
    split
    · refine BooksBut.erase failed ?_
      simp [answered, emit, callView, setCall]
    · refine books_advance env (failed.view rfl) ?_
      exact ledger.orderly (passive_rememberFailure env _ peer).orderly

theorem books_outboundFailed (env : Env) (peer : PeerId) {request : OutboundRequestId}
    (error : OutboundFailure) (books : Books free before) (returning : Returning request id before) :
    Books free (before.outboundFailed env peer request error) := by
  have passive := passive_rememberFailure env before peer
  have noted := returning.passive passive
  unfold outboundFailed
  dsimp only
  rw [noted.owner]
  exact books_advance env (books_attemptFailed (books.view passive.view) noted.owner error.reason)
    (ledger_attemptFailed error.reason noted)

theorem books_progressed (env : Env) {query : QueryId} {purpose : Purpose} {last : Bool}
    (result : QueryResult) (books : Books free before)
    (reporting : Reporting query purpose last before) (fits : result.Fits last purpose) :
    Books free (before.kadEvent env (.progressed query result last)) := by
  have owners := Holders.mk.inj reporting.holders
  have spec := progress env result reporting fits
  generalize before.kadEvent env (.progressed query result last) = after at spec ⊢
  cases spec with
  | topic key found => exact books.view (aside_topicProviders env before query found last).view
  | find asked found =>
    exact books.view (aside_callerProviders env before query asked found last).view
  | lookup call found =>
    exact books_advance env (books_queueLookup env books owners.2.2.1 found last)
      (ledger_queueLookup env found reporting)
  | resolve call peer peers isLast =>
    subst isLast
    have learned := passive_learn before peers
    have known := reporting.passive learned
    exact books_advance env
      (books_resume (books.view learned.view) (Holders.mk.inj known.holders).2.2.2.1)
      (ledger_resume known)
  | walk asked peers =>
    exact (books.view (passive_learn before peers).view).view
      (aside_walked env _ query asked peers).view
  | bootstrap id ok => exact books.view (aside_bootstrapReported before query ok last).view
  | nobody => exact books.same rfl rfl rfl rfl

theorem books_failCall (books : Books free before) (id reason : Nat) :
    Books free (before.failCall id reason) := by
  unfold failCall
  split
  · exact books
  · exact BooksBut.erase (books.mono (fun _ => False.elim) fun _ isFree => isFree) rfl

theorem books_tick (env : Env) (books : Books free before) : Books free (before.tick env) := by
  have expired (ids : List Nat) (state : State) (books : Books free state) :
      Books free (ids.foldl (fun state id => state.failCall id failTimeout) state) := by
    induction ids generalizing state with
    | nil => exact books
    | cons id rest inductionHypothesis =>
      exact inductionHypothesis _ (books_failCall books id failTimeout)
  exact (expired _ before books).view (passive_tick env before).view

/-- A new call starts with its own lookup running, or with nothing. -/
theorem books_startCall (env : Env) (books : Books free before) (ledger : Ledger before)
    (isFree : free id) (group : Key) (node : Option Key) (protocol : Nat) (payload : Bytes)
    (timeout : Duration) :
    BooksBut (fun other => other = id) (fun other => free other ∧ other ≠ id)
      (before.startCall env id group node protocol payload timeout) := by
  obtain ⟨-, clean⟩ := books.unused id isFree
  have fewer : BooksBut (fun other => other = id) (fun other => free other ∧ other ≠ id) before :=
    books.mono (fun _ => False.elim) fun _ => And.left
  have inUse : ¬ (free id ∧ id ≠ id) := fun isFreeToo => isFreeToo.2 rfl
  have pinned (call : Call) (flags : call.inFlight = false ∧ call.resolving = false ∧
      call.lookupRunning = false) : BooksBut (fun other => other = id)
        (fun other => free other ∧ other ≠ id) (before.setCall id call) := by
    refine fewer.change inUse (fun other different => AList.lookup_insert_ne different)
      (fun _ _ _ _ _ old => ⟨old.outbound, old.resolutions, old.lookups⟩)
      fun written isWritten => ⟨?_, fun busy => absurd rfl busy⟩
    obtain rfl := Option.some.inj ((AList.lookup_insert _).symm.trans isWritten)
    refine ⟨?_, by simp [flags]⟩
    rw [flags.1, flags.2.1, flags.2.2]
    exact ⟨clean.outbound, clean.resolutions, clean.lookups⟩
  unfold startCall
  dsimp only
  split
  · split
    · exact pinned _ ⟨rfl, rfl, rfl⟩
    · exact pinned _ ⟨rfl, rfl, rfl⟩
  · have unknown : before.providerLookups.lookup before.swarm.nextQuery = none :=
      congrArg Holders.lookup ledger.newQuery
    refine fewer.change inUse (fun other different => AList.lookup_insert_ne different)
      (fun other a b c different old => ?_) fun written isWritten =>
        ⟨?_, fun busy => absurd rfl busy⟩
    · exact ⟨old.outbound, old.resolutions,
        old.lookups.insert_other (Ne.symm different) unknown⟩
    · obtain rfl := Option.some.inj ((AList.lookup_insert _).symm.trans isWritten)
      exact ⟨⟨clean.outbound, clean.resolutions, clean.lookups.insert_own⟩, by simp⟩

end

/-- Noting an input, and libp2p's forgetting what it ends, change no books. -/
theorem BooksBut.heard {free : Nat → Prop} {state : State} (books : Books free state)
    (nowMs : UInt64) (input : Input) : Books free ((state.deliver input).heard nowMs input) := by
  refine books.same ?_ ?_ ?_ ?_
  all_goals
    unfold deliver
    split <;> rfl

end State

/-- An id no command was applied under. -/
def System.Free (system : System) (id : Nat) : Prop :=
  id ∈ system.drawn ∨ system.state.shared.nextId ≤ id

/-- Drawing an id frees none. -/
theorem System.Free.of_draw {system : System} {id : Nat} (isFree : (system.step .draw).Free id) :
    system.Free id := by
  rcases isFree with isDrawn | later
  · rcases Finset.mem_insert.mp isDrawn with rfl | older
    · exact .inr (le_refl _)
    · exact .inl older
  · exact .inr ((Nat.le_succ _).trans later)

/-- Calls, tables and libp2p agree. -/
structure Balanced (system : System) : Prop where
  drawn : ∀ id ∈ system.drawn, id < system.state.shared.nextId
  ledger : system.state.Ledger
  books : State.Books system.Free system.state

theorem balanced_start (config : Config) (localPeer : PeerId) (now : Instant) :
    Balanced (System.start config localPeer now) where
  drawn := by simp [System.start]
  ledger := ledger_start config localPeer now
  books :=
    { booked := by simp [System.start, State.new]
      active := by simp [System.start, State.new]
      unused := fun id _ => ⟨rfl, by intro key; simp [System.start, State.new],
        by intro key; simp [System.start, State.new],
        by intro key; simp [System.start, State.new]⟩ }

/-- The free ids after a handler were free before. -/
theorem free_of_free_after {system : System} {env : Env} {input : Input} {id : Nat}
    (isFree : (system.step (.handle env input)).Free id) : system.Free id := by
  rcases isFree with isDrawn | later
  · exact .inl (Finset.mem_filter.mp isDrawn).1
  · exact .inr ((State.handle_keeps env system.state input).2.trans later)

/-- An id is used up by the command that carries it. -/
theorem not_free_of_used {system : System} {env : Env} {input : Input} {id : Nat}
    (drawn : ∀ id ∈ system.drawn, id < system.state.shared.nextId) (isDrawn : id ∈ system.drawn)
    (used : id ∈ input.ids) : ¬ (system.step (.handle env input)).Free id := by
  rintro (stillDrawn | later)
  · exact (Finset.mem_filter.mp stillDrawn).2 used
  · exact absurd (drawn id isDrawn)
      (not_lt.mpr ((State.handle_keeps env system.state input).2.trans later))

theorem books_handle {crates : Crates} {system : System} (balanced : Balanced system) (env : Env)
    (input : Input) (enabled : System.Enabled crates system (.handle env input)) :
    State.Books (system.step (.handle env input)).Free (system.step (.handle env input)).state := by
  have heard := balanced.books.heard env.nowMs input
  have fewer {state : State} (books : State.Books system.Free state) :
      State.Books (system.step (.handle env input)).Free state :=
    books.mono (fun _ => False.elim) fun _ => free_of_free_after
  cases input with
  | tick => exact fewer (State.books_tick env heard)
  | command sent =>
    by_cases isCall : ∃ id group node protocol payload timeout,
        sent = .rpc id group node protocol payload timeout
    · obtain ⟨id, group, node, protocol, payload, timeout, rfl⟩ := isCall
      have isDrawn : id ∈ system.drawn := enabled.2.2.1 id (by simp [Command.ids])
      have ledger := balanced.ledger.orderly (State.orderly_heard system.state env.nowMs
        (.command (.rpc id group node protocol payload timeout)))
      have started := State.books_startCall env heard ledger (.inl isDrawn) group node protocol
        payload timeout
      have advanced := State.books_advance env started
        (ledger.orderly (State.orderly_startCall env _ id group node protocol payload timeout))
      refine advanced.mono (fun _ => False.elim) fun other isFree => ⟨free_of_free_after isFree, ?_⟩
      rintro rfl
      exact not_free_of_used balanced.drawn isDrawn (by simp [Input.ids, Command.ids]) isFree
    · exact fewer (heard.view (State.passive_command env _ sent (by simpa using isCall)).view)
  | swarm event =>
    refine fewer ?_
    rcases event.quiet_or_ofOwn with quiet | own
    · exact heard.view (State.quiet_swarmEvent env _ event quiet).view
    · obtain ⟨-, offered⟩ := enabled
      cases own with
      | progressed query result last =>
        obtain ⟨purpose, running, fits⟩ := offered
        apply State.books_progressed env result heard
          (balanced.ledger.reporting running ?_ ?_ ?_) fits
        all_goals cases last <;> rfl
      | response peer request frame =>
        obtain ⟨id, running⟩ := offered
        exact State.books_response env peer frame heard
          (balanced.ledger.returning running rfl rfl rfl)
      | outboundFailure peer request error =>
        obtain ⟨id, running⟩ := offered
        exact State.books_outboundFailed env peer error heard
          (balanced.ledger.returning running rfl rfl rfl)

theorem balanced_step {crates : Crates} (system : System) (action : Action)
    (balanced : Balanced system) (enabled : System.Enabled crates system action) :
    Balanced (system.step action) := by
  refine ⟨?_, ledger_step system action balanced.ledger enabled, ?_⟩
  · cases action with
    | draw =>
      intro id isDrawn
      rcases Finset.mem_insert.mp isDrawn with rfl | older
      · exact Nat.lt_succ_self _
      · exact (balanced.drawn id older).trans (Nat.lt_succ_self _)
    | poll cap => exact balanced.drawn
    | internalQuery => exact balanced.drawn
    | learn peer address => exact balanced.drawn
    | ready env =>
      exact fun id isDrawn =>
        (balanced.drawn id isDrawn).trans_le (State.passive_ready env system.state).nextId
    | handle env input =>
      exact fun id isDrawn => (balanced.drawn id (Finset.mem_filter.mp isDrawn).1).trans_le
        (State.handle_keeps env system.state input).2
  · cases action with
    | draw =>
      have same : State.Books system.Free (system.step .draw).state :=
        balanced.books.same rfl rfl rfl rfl
      exact same.mono (fun _ => False.elim) fun id isFree => isFree.of_draw
    | poll cap => exact balanced.books.same rfl rfl rfl rfl
    | internalQuery => exact balanced.books.same rfl rfl rfl rfl
    | learn peer address => exact balanced.books.same rfl rfl rfl rfl
    | ready env =>
      refine (balanced.books.view (State.passive_ready env system.state).view).mono
        (fun _ => False.elim) fun id isFree => ?_
      exact isFree.imp (fun isDrawn => isDrawn)
        (State.passive_ready env system.state).nextId.trans
    | handle env input => exact books_handle balanced env input enabled

/-- The flags of the calls and the tables say exactly what libp2p has not
finished. -/
structure ExactlyBooked (state : State) : Prop where
  inFlight : ∀ id call, state.calls.lookup id = some call →
    (call.inFlight = true ↔ ∃! request, state.outbound.lookup request = some id)
  resolving : ∀ id call, state.calls.lookup id = some call →
    (call.resolving = true ↔ ∃! query, state.resolutions.lookup query = some id)
  lookupRunning : ∀ id call, state.calls.lookup id = some call →
    (call.lookupRunning = true ↔ ∃! query, state.providerLookups.lookup query = some id)
  /-- A call does not send and resolve at once. -/
  exclusive : ∀ id call, state.calls.lookup id = some call →
    ¬ (call.inFlight = true ∧ call.resolving = true)
  /-- No call waits for its deadline with nothing outstanding. -/
  active : ∀ id call, state.calls.lookup id = some call →
    call.inFlight = true ∨ call.resolving = true ∨ call.lookupRunning = true
  requestPending : ∀ request id, state.outbound.lookup request = some id →
    ∃ peer, state.swarm.requests.lookup request = some (peer, id)
  resolvePending : ∀ query id, state.resolutions.lookup query = some id →
    ∃ peer, state.swarm.queries.lookup query = some (.resolve id peer)
  lookupPending : ∀ query id, state.providerLookups.lookup query = some id →
    state.swarm.queries.lookup query = some (.lookup id)
  /-- When libp2p has finished what was started for calls, the tables are empty. -/
  empty : (∀ request, state.swarm.requests.lookup request = none) →
    (∀ query id peer, state.swarm.queries.lookup query ≠ some (.resolve id peer)) →
    (∀ query id, state.swarm.queries.lookup query ≠ some (.lookup id)) →
    state.outbound = ∅ ∧ state.resolutions = ∅ ∧ state.providerLookups = ∅

/-- No stalled call and exact bookkeeping, between any two handlers of a run: also
the entries of calls that have ended are those libp2p has not finished. -/
theorem calls_booked_exactly {crates : Crates} {config : Config} {localPeer : PeerId}
    {now : Instant} {actions : List Action}
    (run : System.Run crates config localPeer now actions) :
    ExactlyBooked (System.after config localPeer now actions).state := by
  obtain ⟨-, ledger, books⟩ : Balanced (System.after config localPeer now actions) :=
    run.invariant (balanced_start config localPeer now) balanced_step
  refine
    { inFlight := fun id call found => (books.booked id call found).tally.outbound.iff_unique
      resolving := fun id call found => (books.booked id call found).tally.resolutions.iff_unique
      lookupRunning := fun id call found => (books.booked id call found).tally.lookups.iff_unique
      exclusive := fun id call found => (books.booked id call found).exclusive
      active := fun id call found => books.active id call found (by simp)
      requestPending := ledger.request_pending
      resolvePending := ledger.resolve_pending
      lookupPending := ledger.lookup_pending
      empty := fun noRequest noResolve noLookup => ⟨?_, ?_, ?_⟩ }
  · apply Table.eq_empty
    intro request id found
    obtain ⟨peer, running⟩ := ledger.request_pending request id found
    cases (noRequest request).symm.trans running
  · apply Table.eq_empty
    intro query id found
    obtain ⟨peer, running⟩ := ledger.resolve_pending query id found
    exact noResolve query id peer running
  · apply Table.eq_empty
    intro query id found
    exact noLookup query id (ledger.lookup_pending query id found)

/-- While its lookup runs, the call waits for exactly that. -/
theorem calls_booked_exactly_unanswered :
    ∃! query, (System.after Sample.config Sample.peer 0
      (Sample.unansweredCall.take 3)).state.providerLookups.lookup query = some 1 := by
  have booked := calls_booked_exactly (Sample.unansweredCall_run.take (List.take_prefix 3 _))
  exact (booked.lookupRunning 1 _ rfl).mp rfl

end Libp2pFfi
