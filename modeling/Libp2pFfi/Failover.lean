import Libp2pFfi.Tidings

/-!
# Failover

A call goes on to the next node until one answers or nobody is left, and asks
nobody twice. Every handler keeps the chronicle, so that the log of every run
says of each call whom it asked, and of each that failed why nobody was left.
-/

namespace Libp2pFfi

namespace State

section

variable {crates : Crates} {localPeer : PeerId} {free : Nat → Prop} {before after : State} {id : Nat}

/-! The handlers. -/

/-- A response answers its call, or is refused and moves it on. Either way it was this
peer that was asked. -/
theorem chronicle_response (env : Env) (crates_eq : env.crates = crates) (peer : PeerId)
    {request : OutboundRequestId} {frame : Bytes}
    (chronicle : Chronicle crates localPeer free before) (books : Books free before)
    (returning : Returning request id before)
    (heard : .heard env.nowMs (.swarm (.rpc (.response peer request frame))) ∈ before.log)
    (sentTo : ∀ asked, (request, asked) ∈ sends id before.log → asked = peer) :
    Chronicle crates localPeer free (before.response env peer request frame) := by
  have owner := returning.owner
  have inUse : ¬ free id := fun isFree => (books.unused id isFree).2.outbound request owner
  have kept (other : Nat) (tested : OutboundRequestId) (different : other ≠ id)
      (found : before.outbound.lookup tested = some other) :
      (before.outbound.erase request).lookup tested = some other := by
    have notOwn : tested ≠ request := by
      rintro rfl
      exact different (Option.some.inj (found.symm.trans owner))
    exact (AList.lookup_erase_ne notOwn).trans found
  unfold response
  rw [owner]
  dsimp only
  cases found : before.calls.lookup id with
  | none =>
    refine chronicle.about (by simp) inUse (fun other different => ?_) rfl
      (files_of_same rfl rfl rfl rfl (fun _ _ found => found) (Adds.refl _ _)) chronicle.verdicts
      (once_of_log (chronicle.once id) rfl rfl) fun written isWritten => ?_
    · exact ⟨rfl, fun tested => kept other tested different, fun _ found => found, rfl,
        Adds.refl _ _⟩
    · cases found.symm.trans isWritten
  | some call =>
    dsimp only
    cases checked : checkResponse env.crates env.nowMs call.group peer frame with
    | some answer =>
      exact chronicle_end chronicle inUse rfl kept rfl rfl rfl rfl rfl (fun failed => by cases failed)
    | none =>
      have failed : Chronicle crates localPeer free
          (before.attemptFailed request id failRefused) := by
        refine chronicle_attemptFailed chronicle books owner fun asked sent other isOther => ?_
        obtain rfl := Option.some.inj (found.symm.trans isOther)
        obtain rfl := sentTo asked sent
        exact .refused env.nowMs frame heard (crates_eq ▸ checked)
      have idle := books_attemptFailed books owner failRefused
      have ledger := ledger_attemptFailed failRefused returning
      rw [attemptFailed_found found] at failed idle ledger
      have remembered := passive_rememberFailure env
        ({ before with outbound := before.outbound.erase request }.setCall id
          { call with inFlight := false, lastFailure := failRefused }) peer
      exact chronicle_advance env (failed.aside remembered.quiet) (idle.view remembered.view)
        (ledger.orderly remembered.orderly)

/-- A failure is the reason of the last attempt until another one ends. -/
theorem chronicle_outboundFailed (env : Env) (peer : PeerId) {request : OutboundRequestId}
    {error : OutboundFailure} (chronicle : Chronicle crates localPeer free before)
    (books : Books free before) (returning : Returning request id before)
    (heard : .heard env.nowMs (.swarm (.rpc (.outboundFailure peer request error))) ∈ before.log)
    (sentTo : ∀ asked, (request, asked) ∈ sends id before.log → asked = peer) :
    Chronicle crates localPeer free (before.outboundFailed env peer request error) := by
  have remembered := passive_rememberFailure env before peer
  have noted := returning.passive remembered
  have remembers := books.view remembered.view
  unfold outboundFailed
  dsimp only
  rw [noted.owner]
  refine chronicle_advance env ?_ (books_attemptFailed remembers noted.owner error.reason)
    (ledger_attemptFailed error.reason noted)
  refine chronicle_attemptFailed (chronicle.aside remembered.quiet) remembers noted.owner
    fun asked sent call _ => ?_
  obtain rfl := sentTo asked sent
  exact .failed env.nowMs error heard

/-- A tick ends a call whatever its candidates. -/
theorem chronicle_failCall (chronicle : Chronicle crates localPeer free before)
    (books : Books free before) (id reason : Nat)
    (inTick : (inputs before.log).getLast? = some .tick) :
    Chronicle crates localPeer free (before.failCall id reason) := by
  unfold failCall
  split
  · exact chronicle
  · rename_i call found
    exact chronicle_end chronicle (books.inUse found) rfl (fun _ _ _ found => found) rfl rfl rfl rfl
      rfl fun _ => inTick

/-- It ends all that are due. -/
theorem chronicle_tick (env : Env) (chronicle : Chronicle crates localPeer free before)
    (books : Books free before) (inTick : (inputs before.log).getLast? = some .tick) :
    Chronicle crates localPeer free (before.tick env) := by
  have expired (ids : List Nat) (state : State) (chronicle : Chronicle crates localPeer free state)
      (books : Books free state) (inTick : (inputs state.log).getLast? = some .tick) :
      Chronicle crates localPeer free
        (ids.foldl (fun state id => state.failCall id failTimeout) state) := by
    induction ids generalizing state with
    | nil => exact chronicle
    | cons id rest inductionHypothesis =>
      refine inductionHypothesis _ (chronicle_failCall chronicle books id failTimeout inTick)
        (books_failCall books id failTimeout) ?_
      rw [(conserves_failCall state id failTimeout).inputs]
      exact inTick
  exact (expired _ before chronicle books inTick).aside (passive_tick env before).quiet

/-- Only a call's own lookup names peers for it. -/
theorem Archive.unnamed (archive : Archive before) {query : QueryId} {purpose : Purpose}
    (running : before.swarm.queries.lookup query = some purpose) (result : QueryResult) (last : Bool)
    (different : purpose ≠ .lookup id) :
    Unnamed before.log id (.swarm (.kad (.progressed query result last))) := by
  unfold Unnamed
  split
  · rename_i same
    obtain ⟨rfl, -⟩ := KadEvent.progressed.inj (SwarmEvent.kad.inj (Input.swarm.inj same))
    exact fun looks => different (archive.looksFor id _ looks purpose running)
  · trivial

/-- Events that report on nothing name nobody. -/
theorem unnamed_quiet {log : List Entry} {event : SwarmEvent} (quiet : event.reports = false) :
    Unnamed log id (.swarm event) := by
  unfold Unnamed
  split
  · rename_i same
    obtain rfl := Input.swarm.inj same
    cases quiet
  · trivial

/-- A step of a query brings candidates, addresses, or the end of a lookup. -/
theorem chronicle_progressed (env : Env) {query : QueryId} {purpose : Purpose} {last : Bool}
    (result : QueryResult) (chronicle : Chronicle crates localPeer free before)
    (books : Books free before) (ledger : Ledger before)
    (running : before.swarm.queries.lookup query = some purpose) (fits : result.Fits last purpose) :
    Chronicle crates localPeer free
      (((before.deliver (.swarm (.kad (.progressed query result last)))).heard env.nowMs
        (.swarm (.kad (.progressed query result last)))).kadEvent env
          (.progressed query result last)) := by
  have old : query < before.swarm.nextQuery := by
    by_contra later
    cases (ledger.newQueries query (not_lt.mp later)).symm.trans running
  have told (untold : Nat → Prop) (others : ∀ id, ¬ untold id → purpose ≠ .lookup id) :
      ChronicleBut untold crates localPeer free
        ((before.deliver (.swarm (.kad (.progressed query result last)))).heard env.nowMs
          (.swarm (.kad (.progressed query result last)))) := by
    refine ChronicleBut.heard chronicle env.nowMs _ (fun _ isFree => isFree)
      (fun id placed => absurd (by simp [Unplaced]) placed)
      (fun id isTold => chronicle.archive.unnamed running result last (others id isTold)) ?_
    intro other _ _ same
    obtain ⟨rfl, -⟩ := KadEvent.progressed.inj (SwarmEvent.kad.inj (Input.swarm.inj same))
    exact old
  have reporting : Reporting query purpose last
      ((before.deliver (.swarm (.kad (.progressed query result last)))).heard env.nowMs
        (.swarm (.kad (.progressed query result last)))) := by
    refine ledger.reporting running ?_ ?_ ?_
    all_goals cases last <;> rfl
  have heardBooks := books.heard env.nowMs (.swarm (.kad (.progressed query result last)))
  have isNoted := noted_heard before env.nowMs (.swarm (.kad (.progressed query result last)))
  generalize (before.deliver (.swarm (.kad (.progressed query result last)))).heard env.nowMs
    (.swarm (.kad (.progressed query result last))) = noted at *
  have owners := Holders.mk.inj reporting.holders
  have plain {ending : QueryId → Prop} {after : State} (foreign : ∀ id, purpose ≠ .lookup id)
      (aside : Aside ending Entry.Plain noted after) : Chronicle crates localPeer free after :=
    (told (fun _ => False) fun id _ => foreign id).aside
      (aside.mono (fun _ ends => ends) fun _ => Entry.Plain.quiet)
  have spec := progress env result reporting fits
  generalize noted.kadEvent env (.progressed query result last) = after at spec ⊢
  cases spec with
  | topic key found =>
    exact plain (by simp) (aside_topicProviders env noted query found last)
  | find asked found =>
    exact plain (by simp) (aside_callerProviders env noted query asked found last)
  | lookup call found =>
    have owner : before.providerLookups.lookup query = some call := isNoted.lookups ▸ owners.2.2.1
    have inUse : ¬ free call := fun isFree => (books.unused call isFree).2.lookups query owner
    refine chronicle_advance env ?_ (books_queueLookup env heardBooks owners.2.2.1 found last)
      (ledger_queueLookup env found reporting)
    refine chronicle_queueLookup env chronicle isNoted (told (fun id => id = call) ?_) inUse owner
    rintro id different same
    exact different (Purpose.lookup.inj same).symm
  | resolve call peer peers isLast =>
    subst isLast
    have learned := passive_learn noted peers
    have known := reporting.passive learned
    have inUse : ¬ free call := fun isFree =>
      (heardBooks.unused call isFree).2.resolutions query owners.2.2.2.1
    exact chronicle_advance env (chronicle_resume (plain (by simp) learned) inUse)
      (books_resume (heardBooks.view learned.view) (Holders.mk.inj known.holders).2.2.2.1)
      (ledger_resume known)
  | walk asked peers =>
    exact plain (by simp)
      ((passive_learn noted peers).ending.trans (aside_walked env _ query asked peers))
  | bootstrap id ok => exact plain (by simp) (aside_bootstrapReported noted query ok last)
  | nobody _ _ provideDue ownerless =>
    have foreign (id : Nat) : purpose ≠ .lookup id := by
      rintro rfl
      cases (Holders.mk.inj ownerless).2.2.1
    have same : Passive noted { noted with provideDue } := passive_of_frame rfl
    exact plain foreign same

end

end State

/-- Calls, tables and the log agree. -/
structure Chronicled (crates : Crates) (localPeer : PeerId) (system : System) : Prop where
  balanced : Balanced system
  chronicle : State.Chronicle crates localPeer system.Free system.state

/-- At the start there are no calls. -/
theorem chronicled_start (crates : Crates) (config : Config) (localPeer : PeerId) (now : Instant) :
    Chronicled crates localPeer (System.start config localPeer now) := by
  refine ⟨balanced_start config localPeer now, rfl, ?_, fun id => ⟨List.nodup_nil, List.nodup_nil,
    fun _ _ => List.not_mem_nil⟩, by simp [System.start, State.new], fun id _ entry member => ?_, ?_⟩
  · intro earlier later record split
    simp [System.start, State.new] at split
  · cases member
  · refine ⟨fun _ _ _ => ?_, fun _ _ _ => ?_, ?_, ?_, ?_, fun _ _ _ _ => ?_⟩
    · exact fun member => absurd member List.not_mem_nil
    · exact fun member => absurd member List.not_mem_nil
    · rintro _ _ ⟨_, member⟩
      cases member
    · rintro _ _ ⟨_, member⟩
      cases member
    · simp [System.start, State.new]
    · exact fun member => absurd member List.not_mem_nil

section

variable {crates : Crates} {localPeer : PeerId} {system : System}

/-- An input that names no peers to a call, and places none. -/
theorem Chronicled.told (chronicled : Chronicled crates localPeer system) (nowMs : UInt64)
    {input : Input} (unplaced : ∀ id, State.Unplaced id input)
    (unnamed : ∀ id, State.Unnamed system.state.log id input)
    (notStep : ∀ query result last, input ≠ .swarm (.kad (.progressed query result last))) :
    State.Chronicle crates localPeer system.Free
      ((system.state.deliver input).heard nowMs input) :=
  State.ChronicleBut.heard chronicled.chronicle nowMs input (fun _ isFree => isFree)
    (fun id placed => absurd (unplaced id) placed) (fun id _ => unnamed id)
    fun query result last same => absurd same (notStep query result last)

/-- A round of the event loop for a tick. -/
theorem chronicle_tick_heard (chronicled : Chronicled crates localPeer system) (env : Env) :
    State.Chronicle crates localPeer system.Free (system.step (.handle env .tick)).state := by
  refine State.chronicle_tick env (chronicled.told env.nowMs (by simp [State.Unplaced])
    (fun _ => trivial) (by simp)) (chronicled.balanced.books.heard env.nowMs .tick) ?_
  rw [(State.noted_heard system.state env.nowMs .tick).log, inputs, List.filterMap_append]
  exact List.getLast?_concat

/-- A round for a command: a call is placed under an id that was drawn for it. -/
theorem chronicle_command_heard (chronicled : Chronicled crates localPeer system) (env : Env)
    {sent : Command} (enabled : System.Enabled crates system (.handle env (.command sent))) :
    State.Chronicle crates localPeer (system.step (.handle env (.command sent))).Free
      (system.step (.handle env (.command sent))).state := by
  have heardBooks := chronicled.balanced.books.heard env.nowMs (.command sent)
  by_cases isCall : ∃ id group node protocol payload timeout,
      sent = .rpc id group node protocol payload timeout
  · obtain ⟨id, group, node, protocol, payload, timeout, rfl⟩ := isCall
    have isDrawn : id ∈ system.drawn := enabled.2.2.1 id (by simp [Command.ids])
    have heardLedger := chronicled.balanced.ledger.orderly (State.orderly_heard system.state
      env.nowMs (.command (.rpc id group node protocol payload timeout)))
    have started := State.chronicle_startCall env enabled.1 chronicled.chronicle
      chronicled.balanced.ledger (.inl isDrawn) group node protocol payload timeout
    have advanced := State.chronicle_advance env started
      (State.books_startCall env heardBooks heardLedger (.inl isDrawn) group node protocol payload
        timeout)
      (heardLedger.orderly
        (State.orderly_startCall env _ id group node protocol payload timeout))
    refine advanced.fewer fun other isFree => ⟨free_of_free_after isFree, ?_⟩
    rintro rfl
    exact not_free_of_used chronicled.balanced.drawn isDrawn (by simp [Input.ids, Command.ids]) isFree
  · have notCall : ∀ id group node protocol payload timeout,
        sent ≠ .rpc id group node protocol payload timeout := by simpa using isCall
    have heard := chronicled.told env.nowMs (fun id group node protocol payload timeout same =>
      notCall id group node protocol payload timeout (Input.command.inj same)) (fun _ => trivial)
      (by simp)
    have aside := heard.aside (State.passive_command env _ sent notCall).quiet
    exact aside.fewer fun _ => free_of_free_after

/-- The requests of a call went to the peers libp2p reports them for. -/
theorem Chronicled.sentTo (chronicled : Chronicled crates localPeer system) (nowMs : UInt64)
    (event : SwarmEvent) {request : OutboundRequestId} {peer : PeerId} {id : Nat}
    (running : system.state.swarm.requests.lookup request = some (peer, id)) (asked : PeerId)
    (sent : (request, asked) ∈
      sends id ((system.state.deliver (.swarm event)).heard nowMs (.swarm event)).log) :
    asked = peer := by
  rw [(State.noted_heard system.state nowMs (.swarm event)).log, State.sends_heard] at sent
  have recorded := chronicled.chronicle.archive.sentTo id request asked sent _ running
  exact (Prod.mk.inj recorded).1.symm

/-- A round for an event. -/
theorem chronicle_event_heard (chronicled : Chronicled crates localPeer system) (env : Env)
    {event : SwarmEvent} (enabled : System.Enabled crates system (.handle env (.swarm event))) :
    State.Chronicle crates localPeer system.Free
      (system.step (.handle env (.swarm event))).state := by
  have ledger := chronicled.balanced.ledger
  have books := chronicled.balanced.books
  have heardBooks := books.heard env.nowMs (.swarm event)
  have isHeard : .heard env.nowMs (.swarm event) ∈
      ((system.state.deliver (.swarm event)).heard env.nowMs (.swarm event)).log := by
    rw [(State.noted_heard system.state env.nowMs (.swarm event)).log]
    exact List.mem_append_right _ List.mem_cons_self
  rcases event.quiet_or_ofOwn with quiet | own
  · have notStep : ∀ query result last,
        (Input.swarm event) ≠ .swarm (.kad (.progressed query result last)) := by
      rintro query result last same
      obtain rfl := Input.swarm.inj same
      cases quiet
    have heard := chronicled.told env.nowMs (by simp [State.Unplaced])
      (fun id => State.unnamed_quiet quiet) notStep
    exact heard.aside (State.quiet_swarmEvent env _ event quiet)
  · obtain ⟨crates_eq, offered⟩ := enabled
    cases own with
    | progressed query result last =>
      obtain ⟨purpose, running, fits⟩ := offered
      exact State.chronicle_progressed env result chronicled.chronicle books ledger running fits
    | response peer request frame =>
      obtain ⟨id, running⟩ := offered
      exact State.chronicle_response env crates_eq peer
        (chronicled.told env.nowMs (by simp [State.Unplaced]) (fun _ => trivial) (by simp))
        heardBooks (ledger.returning running rfl rfl rfl) isHeard
        (chronicled.sentTo env.nowMs _ running)
    | outboundFailure peer request error =>
      obtain ⟨id, running⟩ := offered
      exact State.chronicle_outboundFailed env peer
        (chronicled.told env.nowMs (by simp [State.Unplaced]) (fun _ => trivial) (by simp))
        heardBooks (ledger.returning running rfl rfl rfl) isHeard
        (chronicled.sentTo env.nowMs _ running)

/-- A round of any kind. -/
theorem chronicle_handle (chronicled : Chronicled crates localPeer system) (env : Env)
    (input : Input) (enabled : System.Enabled crates system (.handle env input)) :
    State.Chronicle crates localPeer (system.step (.handle env input)).Free
      (system.step (.handle env input)).state := by
  cases input with
  | tick => exact (chronicle_tick_heard chronicled env).fewer fun _ => free_of_free_after
  | command sent => exact chronicle_command_heard chronicled env enabled
  | swarm event =>
    exact (chronicle_event_heard chronicled env enabled).fewer fun _ => free_of_free_after

end

/-- Every action keeps the chronicle. -/
theorem chronicled_step {crates : Crates} {localPeer : PeerId} (system : System) (action : Action)
    (chronicled : Chronicled crates localPeer system)
    (enabled : System.Enabled crates system action) :
    Chronicled crates localPeer (system.step action) := by
  refine ⟨balanced_step system action chronicled.balanced enabled, ?_⟩
  have chronicle := chronicled.chronicle
  have aside {state : State} (same : state.callView = system.state.callView)
      (queries : state.swarm.queries = system.state.swarm.queries)
      (nextQuery : state.swarm.nextQuery = system.state.swarm.nextQuery)
      (log : state.log = system.state.log) :
      State.Chronicle crates localPeer system.Free state := by
    obtain ⟨calls, outbound, lookups, -, requests, nextRequest, home, -⟩ :=
      State.CallView.mk.inj same
    refine chronicle.foreign (fun id => ⟨by rw [calls], by rw [outbound]; exact fun _ found => found,
      by rw [lookups]; exact fun _ found => found, home, [], by rw [log, List.append_nil], by simp⟩)
      (State.files_of_same requests nextRequest queries nextQuery (fun _ _ found => lookups ▸ found)
        ⟨[], by rw [log, List.append_nil], by simp⟩) ⟨[], by rw [log, List.append_nil], by simp⟩
  cases action with
  | draw =>
    have same : State.Chronicle crates localPeer system.Free (system.step .draw).state :=
      aside rfl rfl rfl rfl
    exact same.fewer fun id isFree => isFree.of_draw
  | poll cap => exact aside rfl rfl rfl rfl
  | learn peer address => exact aside rfl rfl rfl rfl
  | internalQuery =>
    refine chronicle.foreign (fun id => ⟨rfl, fun _ found => found, fun _ found => found, rfl,
      State.Adds.refl _ _⟩) ?_ (State.Adds.refl _ _)
    exact ⟨le_refl _, Nat.le_succ _, fun _ _ => rfl, fun query old => AList.lookup_insert_ne old.ne,
      fun _ _ found => .inl found, State.Adds.refl _ _⟩
  | ready env =>
    refine (chronicle.aside (State.passive_ready env system.state).quiet).fewer fun id isFree => ?_
    exact isFree.imp (fun isDrawn => isDrawn) (State.passive_ready env system.state).nextId.trans
  | handle env input => exact chronicle_handle chronicled env input enabled

/-- What the log of a node says about failover. -/
structure FailsOver (crates : Crates) (localPeer : PeerId) (log : List Entry) : Prop where
  /-- No peer is sent a call's frame twice. -/
  sentOnce : ∀ id, ((sends id log).map Prod.snd).Nodup
  /-- No peer's addresses are looked up twice for a call. -/
  lookedUpOnce : ∀ id, (lookedUp id log).Nodup
  /-- A call by group never goes to this node. -/
  notLocal : ∀ id group, Placed log id group none → localPeer ∉ (sends id log).map Prod.snd
  /-- A call fails, other than by its deadline, when nobody is left to try. -/
  exhaustive : Verdicts crates localPeer log

/-- Failover is exhaustive and asks each node at most once, in every run. -/
theorem failover_exhaustive {crates : Crates} {config : Config} {localPeer : PeerId} {now : Instant}
    {actions : List Action} (run : System.Run crates config localPeer now actions) :
    FailsOver crates localPeer (System.after config localPeer now actions).state.log := by
  obtain ⟨-, chronicle⟩ : Chronicled crates localPeer (System.after config localPeer now actions) :=
    run.invariant (chronicled_start crates config localPeer now) chronicled_step
  refine ⟨fun id => (chronicle.once id).sent, fun id => (chronicle.once id).lookedUp,
    fun id group placed => ?_, chronicle.verdicts⟩
  have notLocal := (chronicle.once id).notLocal group placed
  rw [chronicle.home] at notLocal
  exact notLocal

/-- A call to a group of which one other provider is found, twice. Its addresses
are looked up, and the request to it fails. -/
def Sample.failedCall : List Action :=
  [.draw, .ready Sample.env, .handle Sample.env Sample.call,
    .handle Sample.env (Sample.lookupStep
      (.found [Sample.remotePeer, Sample.peer, Sample.remotePeer]) false),
    .handle Sample.env (.swarm (.kad (.progressed 2
      (.getClosestPeers [⟨Sample.remotePeer, [[.ip4 ⟨[10, 0, 0, 1], rfl⟩, .other "/tcp/4001"]]⟩]) true))),
    .handle Sample.env (.swarm (.rpc (.outboundFailure Sample.remotePeer 0 .timeout))),
    .handle Sample.env (Sample.lookupStep .finished true)]

/-- The run can happen. -/
theorem Sample.failedCall_run :
    System.Run Sample.crates Sample.config Sample.peer 0 Sample.failedCall := by
  simp only [System.Run, Sample.failedCall, Runs.admissible_cons, Runs.admissible_nil, and_true]
  refine ⟨trivial, ⟨rfl, rfl⟩, ⟨rfl, rfl, ?_, Nat.zero_lt_one⟩, ⟨rfl, .lookup 1, ?_, trivial⟩,
    ⟨rfl, .resolve 1 Sample.remotePeer, ?_, rfl⟩, ⟨rfl, 1, ?_⟩, rfl, .lookup 1, ?_, trivial⟩ <;>
    decide +kernel

/-- The one other provider was asked once, and the call fails for the reason of
that attempt. -/
theorem failover_exhaustive_failed :
    (sends 1 (System.after Sample.config Sample.peer 0 Sample.failedCall).state.log).map Prod.snd =
        [Sample.remotePeer] ∧
      ∃ group node, Exhausted Sample.crates Sample.peer
        (System.after Sample.config Sample.peer 0 Sample.failedCall).state.log.dropLast 1 group node
        failTimeout := by
  refine ⟨by decide +kernel, ?_⟩
  refine (failover_exhaustive Sample.failedCall_run).exhaustive _ []
    (rpcFailed 1 { group := Sample.group, protocol := 0, frame := [], deadline := 0 } failTimeout)
    rfl rfl fun inTick => ?_
  cases inTick

end Libp2pFfi
