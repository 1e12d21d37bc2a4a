import Libp2pFfi.Story

/-!
# The chronicle of calls

`Chronicle` carries the stories of all calls in progress through every handler,
and what remains of a story once its call has ended: to whom its frame was sent
and whose addresses were looked up.

The story of a call that fails is complete. It waits for no answer, so every
attempt has ended; its lookup does not run, so the last step was delivered; and
the candidates that are left are passed over on the way. `Verdicts` is what this
makes of every failure in the log, except those a deadline causes, which a tick
reports.
-/

namespace Libp2pFfi

/-- Every failure of a call that was not reported by a tick is justified by the
log up to it. -/
def Verdicts (crates : Crates) (localPeer : PeerId) (log : List Entry) : Prop :=
  ∀ earlier later record, log = earlier ++ .did (.emit record) :: later →
    record.header.kind = .rpcFailed → (inputs earlier).getLast? ≠ some .tick →
      ∃ group node, Exhausted crates localPeer earlier record.header.id group node
        record.header.reason

/-- A line that fails no call. -/
def Entry.Mild : Entry → Prop
  | did (.emit record) => record.header.kind ≠ .rpcFailed
  | _ => True

section

variable {crates : Crates} {localPeer : PeerId} {log extra : List Entry}

/-- Verdicts stand when lines are added that are none. -/
theorem Verdicts.append (verdicts : Verdicts crates localPeer log)
    (mild : ∀ entry ∈ extra, entry.Mild) : Verdicts crates localPeer (log ++ extra) := by
  intro earlier later record split failed
  rcases List.append_eq_append_iff.mp split with ⟨middle, -, rest⟩ | ⟨middle, whole, rest⟩
  · have member : .did (.emit record) ∈ extra := by
      rw [rest]
      exact List.mem_append_right _ List.mem_cons_self
    exact absurd failed (mild _ member)
  · cases middle with
    | nil =>
      have member : .did (.emit record) ∈ extra := by
        rw [← List.nil_append extra, ← rest]
        exact List.mem_cons_self
      exact absurd failed (mild _ member)
    | cons entry between =>
      obtain ⟨rfl, -⟩ := List.cons.inj rest
      exact verdicts earlier between record whole failed

/-- One event, with what justifies it if it fails a call. -/
theorem Verdicts.emit {record : Record} (verdicts : Verdicts crates localPeer log)
    (justified : record.header.kind = .rpcFailed → (inputs log).getLast? ≠ some .tick →
      ∃ group node, Exhausted crates localPeer log record.header.id group node
        record.header.reason) :
    Verdicts crates localPeer (log ++ [.did (.emit record)]) := by
  intro earlier later other split failed
  rcases List.append_eq_append_iff.mp split with ⟨middle, whole, rest⟩ | ⟨middle, whole, rest⟩
  · cases middle with
    | nil =>
      obtain ⟨same, -⟩ := List.cons.inj rest
      obtain rfl : record = other := by simpa using same
      rw [List.append_nil] at whole
      rw [whole]
      exact justified failed
    | cons entry between => simp at rest
  · cases middle with
    | nil =>
      obtain ⟨same, -⟩ := List.cons.inj rest
      obtain rfl : other = record := by simpa using same
      rw [List.append_nil] at whole
      rw [← whole]
      exact justified failed
    | cons entry between =>
      obtain ⟨rfl, -⟩ := List.cons.inj rest
      exact verdicts earlier between other whole failed

/-- A line about no call is no verdict. -/
theorem Entry.Quiet.mild {entry : Entry} (quiet : entry.Quiet) : entry.Mild := by
  cases entry with
  | heard => exact quiet.elim
  | did effect =>
    cases effect with
    | emit record =>
      intro failed
      simp [Entry.Quiet, Effect.call?, failed, EventKind.endsCall] at quiet
    | _ => trivial

end

namespace State

/-- The stories of the calls in progress, except those of `untold`, and what
remains of those that have ended. Nothing was done under the ids of `free`. -/
structure ChronicleBut (untold : Nat → Prop) (crates : Crates) (localPeer : PeerId)
    (free : Nat → Prop) (state : State) : Prop where
  home : state.localPeer = localPeer
  verdicts : Verdicts crates localPeer state.log
  once : ∀ id, state.Once id
  stories : ∀ id call, state.calls.lookup id = some call → ¬ untold id →
    ∃ node, state.Story crates id call node
  unused : ∀ id, free id → state.Blank id
  archive : state.Archive

/-- The chronicle of all calls. -/
abbrev Chronicle (crates : Crates) (localPeer : PeerId) (free : Nat → Prop) (state : State) : Prop :=
  ChronicleBut (fun _ => False) crates localPeer free state

section

variable {crates : Crates} {localPeer : PeerId} {free : Nat → Prop} {before after : State} {id : Nat}

/-- Fewer free ids leave less to say. -/
theorem ChronicleBut.fewer {untold freeToo : Nat → Prop}
    (chronicle : ChronicleBut untold crates localPeer free before)
    (fewer : ∀ id, freeToo id → free id) :
    ChronicleBut untold crates localPeer freeToo before :=
  ⟨chronicle.home, chronicle.verdicts, chronicle.once, chronicle.stories,
    fun id isFree => chronicle.unused id (fewer id isFree), chronicle.archive⟩

/-- A step that is about no call. -/
theorem ChronicleBut.foreign {untold : Nat → Prop}
    (chronicle : ChronicleBut untold crates localPeer free before)
    (bystander : ∀ id, Bystander id before after) (files : Files before after)
    (mild : Adds Entry.Mild before after) :
    ChronicleBut untold crates localPeer free after := by
  refine ⟨(bystander 0).localPeer.trans chronicle.home, ?_,
    fun id => (chronicle.once id).bystander (bystander id), fun id call found told => ?_,
    fun id isFree => (chronicle.unused id isFree).bystander (bystander id),
    chronicle.archive.files files⟩
  · obtain ⟨extra, grown, fine⟩ := mild
    rw [grown]
    exact chronicle.verdicts.append fine
  · rw [(bystander id).call] at found
    obtain ⟨node, story⟩ := chronicle.stories id call found told
    exact ⟨node, story.bystander (bystander id)⟩

/-- A step that touches no call. -/
theorem ChronicleBut.aside {untold : Nat → Prop} {ending : QueryId → Prop}
    (chronicle : ChronicleBut untold crates localPeer free before)
    (aside : Aside ending Entry.Quiet before after) :
    ChronicleBut untold crates localPeer free after :=
  chronicle.foreign aside.bystander aside.files (aside.adds.mono fun _ => Entry.Quiet.mild)

/-- A step that is about one call. -/
theorem ChronicleBut.about {untold : Nat → Prop}
    (chronicle : ChronicleBut untold crates localPeer free before)
    (only : ∀ other, untold other → other = id) (inUse : ¬ free id)
    (others : ∀ other, other ≠ id → Bystander other before after)
    (home : after.localPeer = before.localPeer) (files : Files before after)
    (verdicts : Verdicts crates localPeer after.log) (once : after.Once id)
    (own : ∀ call, after.calls.lookup id = some call → ∃ node, after.Story crates id call node) :
    Chronicle crates localPeer free after := by
  refine ⟨home.trans chronicle.home, verdicts, fun other => ?_, fun other call found _ => ?_,
    fun other isFree => ?_, chronicle.archive.files files⟩
  · by_cases same : other = id
    · exact same ▸ once
    · exact (chronicle.once other).bystander (others other same)
  · by_cases same : other = id
    · subst same
      exact own call found
    · rw [(others other same).call] at found
      obtain ⟨node, story⟩ := chronicle.stories other call found fun told => same (only other told)
      exact ⟨node, story.bystander (others other same)⟩
  · have different : other ≠ id := fun same => inUse (same ▸ isFree)
    exact (chronicle.unused other isFree).bystander (others other different)

end

/-! Advancing a call. -/

/-- The lines of candidates that are passed over. -/
def turns (id : Nat) (peers : List PeerId) : List Entry :=
  peers.map fun peer => .did (.turn id peer false false)

/-- A line about a call that neither notes an input nor starts its lookup. -/
def Attempt (id : Nat) (entry : Entry) : Prop :=
  entry.call? = some id ∧ entry.input? = none ∧
    ∀ query key, entry ≠ .did (.getProviders query key (.lookup id))

/-- Looking at a candidate is part of an attempt. -/
theorem attempt_turns (id : Nat) (peers : List PeerId) :
    ∀ entry ∈ turns id peers, Attempt id entry := by
  intro entry member
  obtain ⟨peer, -, rfl⟩ := List.mem_map.mp member
  exact ⟨rfl, rfl, by simp⟩

/-- It sends nothing. -/
theorem sends_turns (id : Nat) (peers : List PeerId) : sends id (turns id peers) = [] := by
  refine List.filterMap_eq_nil_iff.mpr fun entry member => ?_
  obtain ⟨peer, -, rfl⟩ := List.mem_map.mp member
  rfl

/-- It looks nothing up. -/
theorem lookedUp_turns (id : Nat) (peers : List PeerId) : lookedUp id (turns id peers) = [] := by
  refine List.filterMap_eq_nil_iff.mpr fun entry member => ?_
  obtain ⟨peer, -, rfl⟩ := List.mem_map.mp member
  rfl

/-- It is no verdict. -/
theorem mild_turns (id : Nat) (peers : List PeerId) : ∀ entry ∈ turns id peers, entry.Mild := by
  intro entry member
  obtain ⟨peer, -, rfl⟩ := List.mem_map.mp member
  trivial

/-- The lines with which a call moves on to a peer. -/
def movesOn (id : Nat) (skipped : List PeerId) (peer : PeerId) (connected known : Bool)
    (effect : Effect) : List Entry :=
  turns id skipped ++ [.did (.turn id peer connected known), .did effect]

/-- A move to the next candidate looks at it, and then does one thing. -/
theorem attempt_movesOn {id : Nat} (skipped : List PeerId) (peer : PeerId) (connected known : Bool)
    {effect : Effect} (attempt : Attempt id (.did effect)) :
    ∀ entry ∈ movesOn id skipped peer connected known effect, Attempt id entry := by
  intro entry member
  rcases List.mem_append.mp member with passed | reached
  · exact attempt_turns id skipped entry passed
  · simp only [List.mem_cons, List.not_mem_nil, or_false] at reached
    rcases reached with rfl | rfl
    · exact ⟨rfl, rfl, by simp⟩
    · exact attempt

/-- It is a verdict only if that thing is. -/
theorem mild_movesOn {id : Nat} (skipped : List PeerId) (peer : PeerId) (connected known : Bool)
    {effect : Effect} (mild : (Entry.did effect).Mild) :
    ∀ entry ∈ movesOn id skipped peer connected known effect, entry.Mild := by
  intro entry member
  rcases List.mem_append.mp member with passed | reached
  · exact mild_turns id skipped entry passed
  · simp only [List.mem_cons, List.not_mem_nil, or_false] at reached
    rcases reached with rfl | rfl
    · trivial
    · exact mild

section

variable {crates : Crates} {localPeer : PeerId} {free : Nat → Prop} {before after : State} {id : Nat}

/-- What a handler does about one call, seen from another. -/
theorem bystander_of_attempts {other : Nat} (different : other ≠ id)
    (calls : after.calls.lookup other = before.calls.lookup other)
    (outbound : ∀ request, before.outbound.lookup request = some other →
      after.outbound.lookup request = some other)
    (lookups : after.providerLookups = before.providerLookups)
    (localPeer : after.localPeer = before.localPeer) {extra : List Entry}
    (grown : after.log = before.log ++ extra) (attempts : ∀ entry ∈ extra, Attempt id entry) :
    Bystander other before after := by
  refine ⟨calls, outbound, by rw [lookups]; exact fun _ found => found, localPeer, extra, grown,
    fun entry member => ⟨?_, (attempts entry member).2.1⟩⟩
  rw [(attempts entry member).1]
  exact fun same => different (Option.some.inj same).symm

/-- The lines of a move that sends. -/
theorem log_sends (env : Env) (state : State) (id : Nat) (call : Call) (skipped : List PeerId)
    (peer : PeerId) (rest : List PeerId) :
    (((state.passOver id skipped).lookAt env id peer).sendCandidate id call peer rest).log =
      state.log ++ movesOn id skipped peer (env.isConnected peer)
        (state.swarm.addressBook.knows peer)
        (.sendRequest id state.swarm.nextRequest peer call.frame) := by
  simp [sendCandidate, setCall, sendRequest, did, lookAt, passOver, movesOn, turns]

/-- The lines of a move that looks addresses up. -/
theorem log_resolves (env : Env) (state : State) (id : Nat) (call : Call) (skipped : List PeerId)
    (peer : PeerId) (rest : List PeerId) :
    (((state.passOver id skipped).lookAt env id peer).resolveCandidate id call peer rest).log =
      state.log ++ movesOn id skipped peer (env.isConnected peer)
        (state.swarm.addressBook.knows peer)
        (.getClosestPeers state.swarm.nextQuery peer (.resolve id peer)) := by
  simp [resolveCandidate, setCall, getClosestPeers, beginQuery, did, lookAt, passOver, movesOn, turns]

/-- The lines of a call that has nobody left. -/
theorem log_fails (state : State) (id : Nat) (call : Call) (peers : List PeerId) (reason : Nat) :
    ({ state.passOver id peers with calls := state.calls.erase id }.emit
      (rpcFailed id call reason)).log =
      state.log ++ turns id peers ++ [.did (.emit (rpcFailed id call reason))] :=
  rfl

/-- They are about the call. -/
theorem attempt_fails (id : Nat) (call : Call) (peers : List PeerId) (reason : Nat) :
    ∀ entry ∈ turns id peers ++ [.did (.emit (rpcFailed id call reason))], Attempt id entry := by
  intro entry member
  rcases List.mem_append.mp member with passed | reported
  · exact attempt_turns id peers entry passed
  · rw [List.mem_singleton.mp reported]
    exact ⟨rfl, rfl, by simp⟩

/-- Whichever way a call moves on, what it writes is about itself. -/
theorem attempts_advance (env : Env) (state : State) (id : Nat) :
    Adds (Attempt id) state (state.advance env id) := by
  have spec := advance_spec env state id
  generalize state.advance env id = after at spec ⊢
  cases spec with
  | missing => exact Adds.refl _ state
  | busy => exact Adds.refl _ state
  | waits call => exact ⟨_, rfl, attempt_turns id call.candidates⟩
  | fails call =>
    refine ⟨_, ?_, attempt_fails id call call.candidates call.lastFailure⟩
    rw [log_fails, List.append_assoc]
  | sends call found idle skipped peer rest =>
    exact ⟨_, log_sends env state id call skipped peer rest,
      attempt_movesOn skipped peer _ _ ⟨rfl, rfl, by simp⟩⟩
  | resolves call found idle skipped peer rest =>
    exact ⟨_, log_resolves env state id call skipped peer rest,
      attempt_movesOn skipped peer _ _ ⟨rfl, rfl, by simp⟩⟩

/-- It is a step about that call alone. -/
theorem bystander_advance (env : Env) (ledger : Ledger before) {other : Nat}
    (different : other ≠ id) : Bystander other before (before.advance env id) := by
  obtain ⟨extra, grown, attempts⟩ := attempts_advance env before id
  have spec := advance_spec env before id
  generalize before.advance env id = after at spec grown ⊢
  have same : Bystander other before before :=
    ⟨rfl, fun _ found => found, fun _ found => found, rfl, Adds.refl _ _⟩
  cases spec with
  | missing => exact same
  | busy => exact same
  | waits call =>
    exact bystander_of_attempts different (AList.lookup_insert_ne different) (fun _ found => found)
      rfl rfl grown attempts
  | fails call =>
    exact bystander_of_attempts different (AList.lookup_erase_ne different) (fun _ found => found)
      rfl rfl grown attempts
  | sends call found idle skipped peer rest =>
    refine bystander_of_attempts different (AList.lookup_insert_ne different)
      (fun request owned => ?_) rfl rfl grown attempts
    have old : request ≠ before.swarm.nextRequest := by
      rintro rfl
      cases ledger.newRequest.symm.trans owned
    exact (AList.lookup_insert_ne old).trans owned
  | resolves call found idle skipped peer rest =>
    exact bystander_of_attempts different (AList.lookup_insert_ne different)
      (fun _ found => found) rfl rfl grown attempts

/-- No query is filed for a look. -/
theorem filed_turns (id : Nat) (peers : List PeerId) :
    ∀ entry ∈ turns id peers, Filed before after entry := by
  intro entry member
  obtain ⟨peer, -, rfl⟩ := List.mem_map.mp member
  trivial

/-- A move files what it starts. -/
theorem filed_movesOn (skipped : List PeerId) (peer : PeerId) (connected known : Bool)
    {effect : Effect} (filed : Filed before after (.did effect)) :
    ∀ entry ∈ movesOn id skipped peer connected known effect, Filed before after entry := by
  intro entry member
  rcases List.mem_append.mp member with passed | reached
  · exact filed_turns id skipped entry passed
  · simp only [List.mem_cons, List.not_mem_nil, or_false] at reached
    rcases reached with rfl | rfl
    · trivial
    · exact filed

/-- A step that neither sends nor asks. -/
theorem files_of_same (requests : after.swarm.requests = before.swarm.requests)
    (nextRequest : after.swarm.nextRequest = before.swarm.nextRequest)
    (queries : after.swarm.queries = before.swarm.queries)
    (nextQuery : after.swarm.nextQuery = before.swarm.nextQuery)
    (lookups : ∀ id query, after.providerLookups.lookup query = some id →
      before.providerLookups.lookup query = some id)
    (adds : Adds (Filed before after) before after) : Files before after :=
  ⟨nextRequest.ge, nextQuery.ge, fun _ _ => by rw [requests], fun _ _ => by rw [queries],
    fun id query found => .inl (lookups id query found), adds⟩

/-- Moving on files its lookup under the query it starts. -/
theorem files_advance (env : Env) (state : State) (id : Nat) :
    Files state (state.advance env id) := by
  have spec := advance_spec env state id
  generalize state.advance env id = after at spec ⊢
  have same : Files state state :=
    files_of_same rfl rfl rfl rfl (fun _ _ found => found) (Adds.refl _ _)
  cases spec with
  | missing => exact same
  | busy => exact same
  | waits call =>
    exact files_of_same rfl rfl rfl rfl (fun _ _ found => found)
      ⟨_, rfl, filed_turns id call.candidates⟩
  | fails call =>
    refine files_of_same rfl rfl rfl rfl (fun _ _ found => found)
      ⟨turns id call.candidates ++ [.did (.emit (rpcFailed id call call.lastFailure))], ?_,
        fun entry member => ?_⟩
    · rw [log_fails, List.append_assoc]
    · rcases List.mem_append.mp member with passed | reported
      · exact filed_turns id call.candidates entry passed
      · rw [List.mem_singleton.mp reported]
        trivial
  | sends call found idle skipped peer rest =>
    refine ⟨Nat.le_succ _, le_refl _, fun request old => AList.lookup_insert_ne old.ne,
      fun _ _ => rfl, fun _ _ found => .inl found, _, log_sends env state id call skipped peer rest,
      filed_movesOn skipped peer _ _ ⟨le_refl _, Nat.lt_succ_self _, ?_⟩⟩
    exact AList.lookup_insert _
  | resolves call found idle skipped peer rest =>
    exact ⟨le_refl _, Nat.le_succ _, fun _ _ => rfl, fun query old => AList.lookup_insert_ne old.ne,
      fun _ _ found => .inl found, _, log_resolves env state id call skipped peer rest,
      filed_movesOn skipped peer _ _ trivial⟩

/-- Whether a call was made is a matter of the inputs. -/
theorem placed_unheard {log extra : List Entry} (unheard : ∀ entry ∈ extra, entry.input? = none)
    {group : Key} {node : Option Key} :
    Placed (log ++ extra) id group node ↔ Placed log id group node := by
  have same : inputs (log ++ extra) = inputs log := filterMap_unseen unheard log
  rw [Placed, Placed, same]

/-- Attempts are no commands, so no call is placed by them. -/
theorem placed_attempts {log extra : List Entry} (attempts : ∀ entry ∈ extra, Attempt id entry)
    {group : Key} {node : Option Key} :
    Placed (log ++ extra) id group node ↔ Placed log id group node :=
  placed_unheard fun entry member => (attempts entry member).2.1

/-- A lookup of a group is not begun by them either. -/
theorem looksFor_attempts {log extra : List Entry} {query : QueryId}
    (attempts : ∀ entry ∈ extra, Attempt id entry) (looks : LooksFor (log ++ extra) query id) :
    LooksFor log query id := by
  obtain ⟨key, member⟩ := looks
  rcases List.mem_append.mp member with old | isNew
  · exact ⟨key, old⟩
  · exact absurd rfl ((attempts _ isNew).2.2 query key)

/-- Nor do they add to whom a call wants. -/
theorem wanted_attempts {log extra : List Entry} {node : Option Key} {peer : PeerId}
    (attempts : ∀ entry ∈ extra, Attempt id entry)
    (wanted : Wanted crates localPeer (log ++ extra) id node peer) :
    Wanted crates localPeer log id node peer := by
  cases node with
  | some key => exact wanted
  | none =>
    obtain ⟨⟨query, nowMs, providers, last, looks, heard, member⟩, remote⟩ := wanted
    refine ⟨⟨query, nowMs, providers, last, looksFor_attempts attempts looks, ?_, member⟩, remote⟩
    rcases List.mem_append.mp heard with old | isNew
    · exact old
    · cases (attempts _ isNew).2.1

/-- A call moves on. Whom it should try stays the same; how it goes with the
attempts is shown for each way by itself. -/
theorem Story.moves {call written : Call} {node : Option Key} {extra : List Entry}
    (story : Story crates before id call node)
    (grown : after.log = before.log ++ extra) (attempts : ∀ entry ∈ extra, Attempt id entry)
    (localPeer : after.localPeer = before.localPeer)
    (lookups : after.providerLookups = before.providerLookups)
    (group : written.group = call.group) (seen : written.seen = call.seen)
    (distinct : written.candidates.Nodup)
    (waiting : ∀ peer ∈ written.candidates, peer ∈ written.seen ∧
      ∀ request, (request, peer) ∉ sends id after.log)
    (sent : ∀ request peer, (request, peer) ∈ sends id after.log → peer ∈ written.seen ∧
      (after.outbound.lookup request = some id ∨
        ∃ reason, AttemptEnded crates after.log written.group request peer reason))
    (resolved : ∀ peer, peer ∈ written.resolved ↔ peer ∈ lookedUp id after.log)
    (covered : ∀ peer ∈ written.seen, peer ∈ written.candidates ∨
      (∃ request, (request, peer) ∈ sends id after.log) ∨ PassedOver after.log id peer)
    (flying : written.inFlight = true → ∃ request peer,
      (sends id after.log).getLast? = some (request, peer) ∧
        after.outbound.lookup request = some id)
    (reason : written.inFlight = false →
      LastReason crates after.log id written.group written.lastFailure) :
    Story crates after id written node := by
  refine ⟨?_, fun other pinned placed => ?_, fun peer wanted => ?_, fun byGroup => ?_, distinct,
    waiting, sent, resolved, covered, fun byGroup => ?_, flying, reason⟩
  · rw [grown, group]
    exact placed_mono story.placed extra
  · rw [grown] at placed
    rw [group]
    exact story.only other pinned ((placed_attempts attempts).mp placed)
  · rw [grown, localPeer] at wanted
    rw [seen]
    exact story.wanted peer (wanted_attempts attempts wanted)
  · rw [localPeer, seen]
    exact story.notLocal byGroup
  · rw [grown, lookups]
    exact (story.lookup byGroup).imp_left fun isOver => lookupOver_mono isOver extra

/-- A candidate that is stuck has its turn and is passed over. -/
theorem Story.passed {call : Call} {node : Option Key} (story : Story crates before id call node)
    {env : Env} {peers : List PeerId} (stuck : ∀ peer ∈ peers, Stuck env before call peer)
    {peer : PeerId} (member : peer ∈ peers) :
    PassedOver (before.log ++ turns id peers) id peer := by
  refine passedOver_of_turn ((story.resolved peer).mp (stuck peer member).2.2) ?_
  exact List.mem_map.mpr ⟨peer, member, rfl⟩

/-- The reason of the last attempt stands until another is sent. -/
theorem lastReason_mono {log extra : List Entry} {group : Key} {reason : Nat}
    (last : LastReason crates log id group reason) (unsent : sends id extra = []) :
    LastReason crates (log ++ extra) id group reason := by
  rw [LastReason, sends_append, unsent, List.append_nil]
  refine last.imp_right ?_
  rintro ⟨request, peer, isLast, ended⟩
  exact ⟨request, peer, isLast, ended.mono extra⟩

/-- A call that waits has looked at all its candidates, and keeps none. -/
theorem story_waits {env : Env} {call : Call} {node : Option Key}
    (story : Story crates before id call node)
    (stuck : ∀ peer ∈ call.candidates, Stuck env before call peer) :
    Story crates ((before.passOver id call.candidates).setCall id { call with candidates := [] }) id
      { call with candidates := [] } node := by
  have log : ((before.passOver id call.candidates).setCall id { call with candidates := [] }).log =
      before.log ++ turns id call.candidates := rfl
  have sends : sends id (before.log ++ turns id call.candidates) = sends id before.log := by
    rw [sends_append, sends_turns, List.append_nil]
  have lookedUp : lookedUp id (before.log ++ turns id call.candidates) = lookedUp id before.log := by
    rw [lookedUp_append, lookedUp_turns, List.append_nil]
  refine story.moves log (attempt_turns id _) rfl rfl rfl rfl List.nodup_nil (by simp) ?_ ?_ ?_ ?_ ?_
  · rw [log, sends]
    intro request peer member
    exact story.sent_mono member _
  · rw [log, lookedUp]
    exact story.resolved
  · rw [log, sends]
    intro peer seen
    refine .inr ?_
    rcases story.covered_mono seen _ with candidate | sent | passed
    · exact .inr (story.passed stuck candidate)
    · exact .inl sent
    · exact .inr passed
  · rw [log, sends]
    exact story.flying
  · rw [log]
    exact fun idle => lastReason_mono (story.reason idle) (sends_turns id _)

/-- A call that fails has nobody left to try. -/
theorem exhausted_of_story {env : Env} {call : Call} {node : Option Key}
    (story : Story crates before id call node) (booked : before.Booked id call)
    (idle : call.inFlight = false) (isOver : call.lookupRunning = false)
    (stuck : ∀ peer ∈ call.candidates, Stuck env before call peer) :
    Exhausted crates before.localPeer (before.log ++ turns id call.candidates) id call.group node
      call.lastFailure := by
  have sends : sends id (before.log ++ turns id call.candidates) = sends id before.log := by
    rw [sends_append, sends_turns, List.append_nil]
  have noRequest := booked.tally.outbound
  rw [idle] at noRequest
  have noLookup := booked.tally.lookups
  rw [isOver] at noLookup
  have ended : ∀ request peer, (request, peer) ∈ Libp2pFfi.sends id before.log →
      ∃ reason, AttemptEnded crates before.log call.group request peer reason := by
    intro request peer member
    exact (story.sent request peer member).2.resolve_left (noRequest request)
  refine ⟨placed_mono story.placed _, fun other pinned placed => ?_, fun byGroup => ?_,
    fun peer wanted => ?_, lastReason_mono (story.reason idle) (sends_turns id _)⟩
  · exact story.only other pinned ((placed_attempts (attempt_turns id _)).mp placed)
  · refine lookupOver_mono ((story.lookup byGroup).resolve_right ?_) _
    rintro ⟨query, running⟩
    exact noLookup query running
  · have seen := story.wanted peer (wanted_attempts (attempt_turns id _) wanted)
    rcases story.covered_mono seen _ with candidate | ⟨request, sent⟩ | passed
    · exact .inr (story.passed stuck candidate)
    · obtain ⟨reason, isOver⟩ := ended request peer sent
      rw [sends]
      exact .inl ⟨request, reason, sent, isOver.mono _⟩
    · exact .inr passed

/-- What a move sends is what it does after its looks. -/
theorem sends_movesOn (id : Nat) (skipped : List PeerId) (peer : PeerId) (connected known : Bool)
    (effect : Effect) :
    sends id (movesOn id skipped peer connected known effect) = sends id [.did effect] := by
  rw [movesOn, sends_append, sends_turns, List.nil_append]
  rfl

/-- So is what it looks up. -/
theorem lookedUp_movesOn (id : Nat) (skipped : List PeerId) (peer : PeerId) (connected known : Bool)
    (effect : Effect) :
    lookedUp id (movesOn id skipped peer connected known effect) = lookedUp id [.did effect] := by
  rw [movesOn, lookedUp_append, lookedUp_turns, List.nil_append]
  rfl

/-- Everyone before the next candidate is passed over. -/
theorem Story.skipped {call : Call} {node : Option Key} (story : Story crates before id call node)
    {env : Env} {skipped : List PeerId} (stuck : ∀ peer ∈ skipped, Stuck env before call peer)
    {next : PeerId} {connected known : Bool} {effect : Effect} {peer : PeerId}
    (member : peer ∈ skipped) :
    PassedOver (before.log ++ movesOn id skipped next connected known effect) id peer := by
  rw [movesOn, ← List.append_assoc]
  exact passedOver_mono (story.passed stuck member) _

/-- The candidates before the one that is asked have been looked at in vain, and the one
is added to those that were asked. -/
theorem story_sends {env : Env} {call : Call} {node : Option Key} {skipped rest : List PeerId}
    {peer : PeerId} (story : Story crates before id call node) (ledger : Ledger before)
    (split : call.candidates = skipped ++ peer :: rest)
    (stuck : ∀ peer ∈ skipped, Stuck env before call peer) :
    Story crates (((before.passOver id skipped).lookAt env id peer).sendCandidate id call peer rest)
      id { call with candidates := rest, inFlight := true } node := by
  have log := log_sends env before id call skipped peer rest
  have attempted : sends id (before.log ++ movesOn id skipped peer (env.isConnected peer)
      (before.swarm.addressBook.knows peer)
      (.sendRequest id before.swarm.nextRequest peer call.frame)) =
      sends id before.log ++ [(before.swarm.nextRequest, peer)] := by
    rw [sends_append, sends_movesOn]
    simp [sends, Entry.sent?]
  have looked : lookedUp id (before.log ++ movesOn id skipped peer (env.isConnected peer)
      (before.swarm.addressBook.knows peer)
      (.sendRequest id before.swarm.nextRequest peer call.frame)) = lookedUp id before.log := by
    rw [lookedUp_append, lookedUp_movesOn]
    simp [lookedUp, Entry.resolved?]
  have distinct := story.distinct
  rw [split, List.nodup_append] at distinct
  obtain ⟨notLater, distinctRest⟩ := List.nodup_cons.mp distinct.2.1
  have isCandidate {other : PeerId} (member : other ∈ peer :: rest) : other ∈ call.candidates := by
    rw [split]
    exact List.mem_append_right _ member
  refine story.moves log (attempt_movesOn skipped peer _ _ ⟨rfl, rfl, by simp⟩) rfl rfl rfl rfl
    distinctRest (fun other member => ?_) (fun request other member => ?_) ?_
    (fun other seen => ?_) (fun _ => ?_) (fun idle => by cases idle)
  · obtain ⟨seen, unsent⟩ := story.waiting other (isCandidate (List.mem_cons_of_mem _ member))
    refine ⟨seen, fun request sent => ?_⟩
    rw [log, attempted] at sent
    rcases List.mem_append.mp sent with old | isNew
    · exact unsent request old
    · obtain ⟨-, rfl⟩ := Prod.mk.inj (List.mem_singleton.mp isNew)
      exact notLater member
  · rw [log, attempted] at member
    rcases List.mem_append.mp member with old | isNew
    · rw [log]
      refine (story.sent_mono old _).imp_right (Or.imp_left fun underWay => ?_)
      have different : request ≠ before.swarm.nextRequest := by
        rintro rfl
        cases ledger.newRequest.symm.trans underWay
      exact (AList.lookup_insert_ne different).trans underWay
    · obtain ⟨rfl, rfl⟩ := Prod.mk.inj (List.mem_singleton.mp isNew)
      exact ⟨(story.waiting other (isCandidate List.mem_cons_self)).1,
        .inl (AList.lookup_insert _)⟩
  · rw [log, looked]
    exact story.resolved
  · rw [log, attempted]
    rcases story.covered_mono seen _ with candidate | ⟨request, sent⟩ | passed
    · rw [split] at candidate
      rcases List.mem_append.mp candidate with early | late
      · exact .inr (.inr (story.skipped stuck early))
      · rcases List.mem_cons.mp late with rfl | later
        · exact .inr (.inl ⟨_, List.mem_append_right _ List.mem_cons_self⟩)
        · exact .inl later
    · exact .inr (.inl ⟨request, List.mem_append_left _ sent⟩)
    · exact .inr (.inr passed)
  · rw [log, attempted]
    exact ⟨before.swarm.nextRequest, peer, List.getLast?_concat, AList.lookup_insert _⟩

/-- The one whose addresses are looked up stays in front. -/
theorem story_resolves {env : Env} {call : Call} {node : Option Key} {skipped rest : List PeerId}
    {peer : PeerId} (story : Story crates before id call node)
    (split : call.candidates = skipped ++ peer :: rest)
    (stuck : ∀ peer ∈ skipped, Stuck env before call peer) :
    Story crates
      (((before.passOver id skipped).lookAt env id peer).resolveCandidate id call peer rest) id
      { call with
        candidates := peer :: rest
        resolved := insert peer call.resolved
        resolving := true } node := by
  have log := log_resolves env before id call skipped peer rest
  have attempted : sends id (before.log ++ movesOn id skipped peer (env.isConnected peer)
      (before.swarm.addressBook.knows peer)
      (.getClosestPeers before.swarm.nextQuery peer (.resolve id peer))) = sends id before.log := by
    rw [sends_append, sends_movesOn]
    simp [sends, Entry.sent?]
  have looked : lookedUp id (before.log ++ movesOn id skipped peer (env.isConnected peer)
      (before.swarm.addressBook.knows peer)
      (.getClosestPeers before.swarm.nextQuery peer (.resolve id peer))) =
      lookedUp id before.log ++ [peer] := by
    rw [lookedUp_append, lookedUp_movesOn]
    simp [lookedUp, Entry.resolved?]
  have distinct := story.distinct
  rw [split, List.nodup_append] at distinct
  have isCandidate {other : PeerId} (member : other ∈ peer :: rest) : other ∈ call.candidates := by
    rw [split]
    exact List.mem_append_right _ member
  refine story.moves log (attempt_movesOn skipped peer _ _ ⟨rfl, rfl, by simp⟩) rfl rfl rfl rfl
    distinct.2.1 (fun other member => ?_) (fun request other member => ?_) (fun other => ?_)
    (fun other seen => ?_) ?_ fun idle => ?_
  · rw [log, attempted]
    exact story.waiting other (isCandidate member)
  · rw [log, attempted] at member
    rw [log]
    exact story.sent_mono member _
  · rw [log, looked, List.mem_append, List.mem_singleton, Finset.mem_insert, story.resolved, or_comm]
  · rw [log, attempted]
    rcases story.covered_mono seen _ with candidate | sent | passed
    · rw [split] at candidate
      rcases List.mem_append.mp candidate with early | late
      · exact .inr (.inr (story.skipped stuck early))
      · exact .inl late
    · exact .inr (.inl sent)
    · exact .inr (.inr passed)
  · rw [log, attempted]
    exact story.flying
  · rw [log]
    refine lastReason_mono (story.reason idle) ?_
    rw [sends_movesOn]
    simp [sends, Entry.sent?]

/-- What was done for a call grows by attempts. -/
theorem once_attempts {extra : List Entry} (once : Once before id)
    (localPeer : after.localPeer = before.localPeer)
    (grown : after.log = before.log ++ extra) (attempts : ∀ entry ∈ extra, Attempt id entry)
    (sent : ((sends id (before.log ++ extra)).map Prod.snd).Nodup)
    (looked : (lookedUp id (before.log ++ extra)).Nodup)
    (notLocal : ∀ group, Placed before.log id group none →
      before.localPeer ∉ (sends id extra).map Prod.snd) : Once after id := by
  refine ⟨grown ▸ sent, grown ▸ looked, fun group placed => ?_⟩
  rw [grown, placed_attempts attempts] at placed
  rw [grown, sends_append, List.map_append, List.mem_append, localPeer]
  rintro (old | isNew)
  · exact once.notLocal group placed old
  · exact notLocal group placed isNew

/-- Attempts that neither send nor look up leave it as it is. -/
theorem once_idle {extra : List Entry} (once : Once before id)
    (localPeer : after.localPeer = before.localPeer)
    (grown : after.log = before.log ++ extra) (attempts : ∀ entry ∈ extra, Attempt id entry)
    (unsent : sends id extra = []) (unlooked : lookedUp id extra = []) : Once after id := by
  refine once_attempts once localPeer grown attempts ?_ ?_ ?_
  · rw [sends_append, unsent, List.append_nil]
    exact once.sent
  · rw [lookedUp_append, unlooked, List.append_nil]
    exact once.lookedUp
  · rw [unsent]
    simp

/-- A candidate is asked once, for it left the queue when it was. -/
theorem once_sends {env : Env} {call : Call} {node : Option Key} {skipped rest : List PeerId}
    {peer : PeerId} (once : Once before id) (story : Story crates before id call node)
    (split : call.candidates = skipped ++ peer :: rest) :
    Once (((before.passOver id skipped).lookAt env id peer).sendCandidate id call peer rest) id := by
  have candidate : peer ∈ call.candidates := by
    rw [split]
    exact List.mem_append_right _ List.mem_cons_self
  obtain ⟨seen, unsent⟩ := story.waiting peer candidate
  have attempted (connected known : Bool) : sends id (movesOn id skipped peer connected known
      (.sendRequest id before.swarm.nextRequest peer call.frame)) =
      [(before.swarm.nextRequest, peer)] := by
    rw [sends_movesOn]
    simp [sends, Entry.sent?]
  refine once_attempts once rfl (log_sends env before id call skipped peer rest)
    (attempt_movesOn skipped peer _ _ ⟨rfl, rfl, by simp⟩) ?_ ?_ fun group placed => ?_
  · rw [sends_append, attempted, List.map_append]
    refine List.nodup_append.mpr ⟨once.sent, List.nodup_singleton _, fun other sent next isNext => ?_⟩
    rw [List.mem_singleton.mp isNext]
    rintro rfl
    obtain ⟨⟨request, asked⟩, member, rfl⟩ := List.mem_map.mp sent
    exact unsent request member
  · have none : lookedUp id
        [.did (.sendRequest id before.swarm.nextRequest peer call.frame)] = [] := rfl
    rw [lookedUp_append, lookedUp_movesOn, none, List.append_nil]
    exact once.lookedUp
  · rw [attempted]
    intro isLocal
    have same : before.localPeer = peer := by simpa using isLocal
    exact story.notLocal (story.only group none placed).2.symm (same ▸ seen)

/-- Its addresses are looked up once, for it is then among the resolved. -/
theorem once_resolves {env : Env} {call : Call} {node : Option Key} {skipped rest : List PeerId}
    {peer : PeerId} (once : Once before id) (story : Story crates before id call node)
    (isNew : peer ∉ call.resolved) :
    Once (((before.passOver id skipped).lookAt env id peer).resolveCandidate id call peer rest)
      id := by
  have unsent (connected known : Bool) : sends id (movesOn id skipped peer connected known
      (.getClosestPeers before.swarm.nextQuery peer (.resolve id peer))) = [] := by
    rw [sends_movesOn]
    simp [sends, Entry.sent?]
  have looked (connected known : Bool) : lookedUp id (movesOn id skipped peer connected known
      (.getClosestPeers before.swarm.nextQuery peer (.resolve id peer))) = [peer] := by
    rw [lookedUp_movesOn]
    simp [lookedUp, Entry.resolved?]
  refine once_attempts once rfl (log_resolves env before id call skipped peer rest)
    (attempt_movesOn skipped peer _ _ ⟨rfl, rfl, by simp⟩) ?_ ?_ fun group placed => ?_
  · rw [sends_append, unsent, List.append_nil]
    exact once.sent
  · rw [lookedUp_append, looked]
    refine List.nodup_append.mpr
      ⟨once.lookedUp, List.nodup_singleton _, fun other sent next isNext => ?_⟩
    rw [List.mem_singleton.mp isNext]
    rintro rfl
    exact isNew ((story.resolved other).mpr sent)
  · rw [unsent]
    simp

/-- Advancing a call continues its story or ends it with a verdict. -/
theorem chronicle_advance (env : Env) (chronicle : Chronicle crates localPeer free before)
    (books : BooksBut (fun other => other = id) free before) (ledger : Ledger before) :
    Chronicle crates localPeer free (before.advance env id) := by
  have others {other : Nat} (different : other ≠ id) :=
    bystander_advance env ledger different
  have files := files_advance env before id
  have spec := advance_spec env before id
  generalize before.advance env id = after at spec others files ⊢
  cases spec with
  | missing => exact chronicle
  | busy => exact chronicle
  | waits call found idle stuck running =>
    obtain ⟨node, story⟩ := chronicle.stories id call found (by simp)
    refine chronicle.about (by simp) (books.inUse found) (fun _ => others) rfl files
      (chronicle.verdicts.append (mild_turns id call.candidates))
      (once_idle (chronicle.once id) rfl rfl (attempt_turns id _) (sends_turns id _)
        (lookedUp_turns id _)) fun written isWritten => ?_
    obtain rfl := Option.some.inj ((AList.lookup_insert _).symm.trans isWritten)
    exact ⟨node, story_waits story stuck⟩
  | fails call found idle stuck isOver =>
    obtain ⟨node, story⟩ := chronicle.stories id call found (by simp)
    have exhausted := exhausted_of_story story (books.booked id call found) idle.1 isOver stuck
    rw [chronicle.home] at exhausted
    refine chronicle.about (by simp) (books.inUse found) (fun _ => others) rfl files ?_ ?_
      fun written isWritten => ?_
    · rw [log_fails]
      refine (chronicle.verdicts.append (mild_turns id call.candidates)).emit fun _ _ => ?_
      exact ⟨call.group, node, exhausted⟩
    · refine once_idle (chronicle.once id) rfl ?_
        (attempt_fails id call call.candidates call.lastFailure) ?_ ?_
      · rw [log_fails, List.append_assoc]
      · rw [sends_append, sends_turns]
        rfl
      · rw [lookedUp_append, lookedUp_turns]
        rfl
    · cases (AList.lookup_erase _ _).symm.trans isWritten
  | sends call found idle skipped peer rest split stuck =>
    obtain ⟨node, story⟩ := chronicle.stories id call found (by simp)
    refine chronicle.about (by simp) (books.inUse found) (fun _ => others) rfl files ?_
      (once_sends (chronicle.once id) story split) fun written isWritten => ?_
    · rw [log_sends]
      exact chronicle.verdicts.append (mild_movesOn skipped peer _ _ trivial)
    · obtain rfl := Option.some.inj ((AList.lookup_insert _).symm.trans isWritten)
      exact ⟨node, story_sends story ledger split stuck⟩
  | resolves call found idle skipped peer rest split stuck isNew =>
    obtain ⟨node, story⟩ := chronicle.stories id call found (by simp)
    refine chronicle.about (by simp) (books.inUse found) (fun _ => others) rfl files ?_
      (once_resolves (chronicle.once id) story isNew) fun written isWritten => ?_
    · rw [log_resolves]
      exact chronicle.verdicts.append (mild_movesOn skipped peer _ _ trivial)
    · obtain rfl := Option.some.inj ((AList.lookup_insert _).symm.trans isWritten)
      exact ⟨node, story_resolves story split stuck⟩

end

end State

end Libp2pFfi
