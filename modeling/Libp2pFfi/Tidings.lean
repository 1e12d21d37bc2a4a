import Libp2pFfi.Chronicle

/-!
# What the chronicle hears

The steps of a call's story other than its attempts: an input is noted, the call
begins, a step of its lookup names peers, and what it waited for ends. Noting an
input leaves every story as it is but two: that of the call the input makes, and
that of the call whose lookup it is a step of, which wants more peers than it has
seen until they are queued.
-/

namespace Libp2pFfi.State

section

variable {crates : Crates} {localPeer : PeerId} {free : Nat → Prop} {before after : State} {id : Nat}

/-! Noting an input. -/

/-- Delivering an event is to libp2p's own tables, which only get smaller. -/
theorem deliver_spec (state : State) (input : Input) :
    ∃ swarm, state.deliver input = { state with swarm } ∧
      swarm.nextRequest = state.swarm.nextRequest ∧ swarm.nextQuery = state.swarm.nextQuery ∧
      (∀ request owner, swarm.requests.lookup request = some owner →
        state.swarm.requests.lookup request = some owner) ∧
      ∀ query purpose, swarm.queries.lookup query = some purpose →
        state.swarm.queries.lookup query = some purpose := by
  have erased {key : Nat} {V : Type} {table : Table Nat V} (tested : Nat) (value : V)
      (found : (table.erase key).lookup tested = some value) : table.lookup tested = some value := by
    rw [Table.lookup_erase_if] at found
    split at found
    · cases found
    · exact found
  unfold deliver
  split
  · exact ⟨_, rfl, rfl, rfl, fun _ _ found => found, erased⟩
  · exact ⟨_, rfl, rfl, rfl, erased, fun _ _ found => found⟩
  · exact ⟨_, rfl, rfl, rfl, erased, fun _ _ found => found⟩
  · exact ⟨_, rfl, rfl, rfl, fun _ _ found => found, fun _ _ found => found⟩
  · exact ⟨_, rfl, rfl, rfl, fun _ _ found => found, fun _ _ found => found⟩

/-- A state in which an input has just been noted. -/
structure Noted (before noted : State) (nowMs : UInt64) (input : Input) : Prop where
  calls : noted.calls = before.calls
  outbound : noted.outbound = before.outbound
  lookups : noted.providerLookups = before.providerLookups
  home : noted.localPeer = before.localPeer
  log : noted.log = before.log ++ [.heard nowMs input]

theorem noted_heard (state : State) (nowMs : UInt64) (input : Input) :
    Noted state ((state.deliver input).heard nowMs input) nowMs input := by
  obtain ⟨swarm, delivered, -⟩ := deliver_spec state input
  rw [delivered]
  exact ⟨rfl, rfl, rfl, rfl, rfl⟩

/-- The input is no step of a call's lookup that finds providers. -/
def Unnamed (log : List Entry) (id : Nat) : Input → Prop
  | .swarm (.kad (.progressed query (.getProviders (.found _)) _)) => ¬ LooksFor log query id
  | _ => True

/-- The input does not make this call. -/
def Unplaced (id : Nat) (input : Input) : Prop :=
  ∀ group node protocol payload timeout,
    input ≠ .command (.rpc id group node protocol payload timeout)

theorem placed_heard {log : List Entry} {nowMs : UInt64} {input : Input}
    (unplaced : Unplaced id input) {group : Key} {node : Option Key}
    (placed : Placed (log ++ [.heard nowMs input]) id group node) : Placed log id group node := by
  obtain ⟨protocol, payload, timeout, member⟩ := placed
  rw [inputs, List.filterMap_append] at member
  rcases List.mem_append.mp member with old | isNew
  · exact ⟨protocol, payload, timeout, old⟩
  · exact absurd (by simpa [Entry.input?] using isNew : _ = input).symm
      (unplaced group node protocol payload timeout)

theorem looksFor_heard {log : List Entry} {nowMs : UInt64} {input : Input} {query : QueryId}
    (looks : LooksFor (log ++ [.heard nowMs input]) query id) : LooksFor log query id := by
  obtain ⟨key, member⟩ := looks
  rcases List.mem_append.mp member with old | isNew
  · exact ⟨key, old⟩
  · cases List.mem_singleton.mp isNew

theorem wanted_heard {log : List Entry} {nowMs : UInt64} {input : Input} {node : Option Key}
    {peer : PeerId} (unnamed : Unnamed log id input)
    (wanted : Wanted crates localPeer (log ++ [.heard nowMs input]) id node peer) :
    Wanted crates localPeer log id node peer := by
  cases node with
  | some key => exact wanted
  | none =>
    obtain ⟨⟨query, heardMs, providers, last, looks, heard, member⟩, remote⟩ := wanted
    refine ⟨⟨query, heardMs, providers, last, looksFor_heard looks, ?_, member⟩, remote⟩
    rcases List.mem_append.mp heard with old | isNew
    · exact old
    · obtain ⟨-, rfl⟩ := Entry.heard.inj (List.mem_singleton.mp isNew)
      exact absurd (looksFor_heard looks) unnamed

theorem sends_heard (id : Nat) (log : List Entry) (nowMs : UInt64) (input : Input) :
    sends id (log ++ [.heard nowMs input]) = sends id log := by
  rw [sends_append]
  exact List.append_nil _

theorem lookedUp_heard (id : Nat) (log : List Entry) (nowMs : UInt64) (input : Input) :
    lookedUp id (log ++ [.heard nowMs input]) = lookedUp id log := by
  rw [lookedUp_append]
  exact List.append_nil _

theorem Story.heard {call : Call} {node : Option Key} (story : Story crates before id call node)
    {nowMs : UInt64} {input : Input} (unplaced : Unplaced id input)
    (unnamed : Unnamed before.log id input) :
    Story crates ((before.deliver input).heard nowMs input) id call node := by
  obtain ⟨-, outbound, lookups, home, log⟩ := noted_heard before nowMs input
  generalize (before.deliver input).heard nowMs input = after at outbound lookups home log ⊢
  refine ⟨?_, fun group pinned placed => ?_, fun peer wanted => ?_, ?_, story.distinct, ?_,
    fun request peer member => ?_, ?_, fun peer seen => ?_, fun byGroup => ?_, fun inFlight => ?_,
    fun idle => ?_⟩
  · rw [log]
    exact placed_mono story.placed _
  · rw [log] at placed
    exact story.only group pinned (placed_heard unplaced placed)
  · rw [log, home] at wanted
    exact story.wanted peer (wanted_heard unnamed wanted)
  · rw [home]
    exact story.notLocal
  · rw [log, sends_heard]
    exact story.waiting
  · rw [log, sends_heard] at member
    rw [outbound, log]
    exact story.sent_mono member _
  · rw [log, lookedUp_heard]
    exact story.resolved
  · rw [log, sends_heard]
    exact story.covered_mono seen _
  · rw [log, lookups]
    exact (story.lookup byGroup).imp_left fun isOver => lookupOver_mono isOver _
  · rw [log, sends_heard, outbound]
    exact story.flying inFlight
  · rw [log]
    exact lastReason_mono (story.reason idle) rfl

theorem Archive.heard (archive : Archive before) (nowMs : UInt64) (input : Input)
    (known : ∀ query result last, input = .swarm (.kad (.progressed query result last)) →
      query < before.swarm.nextQuery) :
    Archive ((before.deliver input).heard nowMs input) := by
  obtain ⟨swarm, delivered, nextRequest, nextQuery, requests, queries⟩ := deliver_spec before input
  have sameSwarm : ((before.deliver input).heard nowMs input).swarm = swarm := by
    rw [delivered]
    rfl
  obtain ⟨-, -, lookups, -, log⟩ := noted_heard before nowMs input
  generalize (before.deliver input).heard nowMs input = after at log sameSwarm lookups ⊢
  refine ⟨fun id request peer member => ?_, fun id request peer member owner running => ?_,
    fun id query looks => ?_, fun id query looks purpose running => ?_,
    fun id query found => ?_, fun heardMs query result last member => ?_⟩
  · rw [log, sends_heard] at member
    rw [sameSwarm, nextRequest]
    exact archive.sentOld id request peer member
  · rw [log, sends_heard] at member
    rw [sameSwarm] at running
    exact archive.sentTo id request peer member owner (requests request owner running)
  · rw [log] at looks
    rw [sameSwarm, nextQuery]
    exact archive.looksOld id query (looksFor_heard looks)
  · rw [log] at looks
    rw [sameSwarm] at running
    exact archive.looksFor id query (looksFor_heard looks) purpose (queries query purpose running)
  · rw [lookups] at found
    rw [log]
    exact looksFor_mono (archive.noted id query found) _
  · rw [log] at member
    rw [sameSwarm, nextQuery]
    rcases List.mem_append.mp member with old | isNew
    · exact archive.heardOld heardMs query result last old
    · obtain ⟨-, rfl⟩ := Entry.heard.inj (List.mem_singleton.mp isNew)
      exact known query result last rfl

/-- An input is noted. A call it makes, and one whose lookup it is a step of, have
their stories told by the handler. -/
theorem ChronicleBut.heard {untold freeToo : Nat → Prop}
    (chronicle : Chronicle crates localPeer free before) (nowMs : UInt64) (input : Input)
    (fewer : ∀ id, freeToo id → free id)
    (placed : ∀ id, ¬ Unplaced id input → untold id ∧ before.Blank id ∧ ¬ freeToo id)
    (unnamed : ∀ id, ¬ untold id → Unnamed before.log id input)
    (known : ∀ query result last, input = .swarm (.kad (.progressed query result last)) →
      query < before.swarm.nextQuery) :
    ChronicleBut untold crates localPeer freeToo ((before.deliver input).heard nowMs input) := by
  obtain ⟨calls, -, -, home, log⟩ := noted_heard before nowMs input
  refine ⟨home.trans chronicle.home, ?_, fun id => ⟨?_, ?_, fun group isPlaced => ?_⟩,
    fun id call found told => ?_, fun id isFree entry member => ?_,
    chronicle.archive.heard nowMs input known⟩
  · rw [log]
    exact chronicle.verdicts.append (by simp [Entry.Mild])
  · rw [log, sends_heard]
    exact (chronicle.once id).sent
  · rw [log, lookedUp_heard]
    exact (chronicle.once id).lookedUp
  · rw [log, sends_heard, home]
    by_cases unplaced : Unplaced id input
    · rw [log] at isPlaced
      exact (chronicle.once id).notLocal group (placed_heard unplaced isPlaced)
    · rw [sends_foreign (placed id unplaced).2.1]
      simp
  · rw [calls] at found
    obtain ⟨node, story⟩ := chronicle.stories id call found (by simp)
    refine ⟨node, story.heard ?_ (unnamed id told)⟩
    by_contra isPlaced
    exact told (placed id isPlaced).1
  · rw [log] at member
    rcases List.mem_append.mp member with old | isNew
    · exact chronicle.unused id (fewer id isFree) entry old
    · rw [List.mem_singleton.mp isNew]
      intro about
      refine (placed id fun unplaced => ?_).2.2 isFree
      unfold Entry.call? at about
      split at about
      · rename_i same
        cases same
      · rename_i heardMs other group node protocol payload timeout same
        obtain ⟨-, rfl⟩ := Entry.heard.inj same
        obtain rfl := Option.some.inj about
        exact unplaced group node protocol payload timeout rfl
      · cases about

/-! A call begins. -/

/-- Nothing has been done for a new call. -/
theorem story_new {call : Call} {node : Option Key} (placed : Placed after.log id call.group node)
    (only : ∀ group pinned, Placed after.log id group pinned → group = call.group ∧ pinned = node)
    (wanted : ∀ peer, Wanted crates after.localPeer after.log id node peer → peer ∈ call.seen)
    (notLocal : node = none → after.localPeer ∉ call.seen) (distinct : call.candidates.Nodup)
    (waiting : ∀ peer, peer ∈ call.candidates ↔ peer ∈ call.seen)
    (unsent : sends id after.log = []) (unlooked : lookedUp id after.log = [])
    (unresolved : call.resolved = ∅) (idle : call.inFlight = false)
    (reason : call.lastFailure = failUnreachable)
    (lookup : node = none → ∃ query, after.providerLookups.lookup query = some id) :
    Story crates after id call node := by
  refine ⟨placed, only, wanted, notLocal, distinct, fun peer member => ?_,
    fun request peer member => ?_, fun peer => ?_, fun peer seen => ?_,
    fun byGroup => .inr (lookup byGroup), fun inFlight => ?_, fun _ => .inl ⟨unsent, reason⟩⟩
  · refine ⟨(waiting peer).mp member, fun request => ?_⟩
    rw [unsent]
    exact List.not_mem_nil
  · rw [unsent] at member
    cases member
  · rw [unresolved, unlooked]
    exact iff_of_false (Finset.notMem_empty peer) List.not_mem_nil
  · exact .inl ((waiting peer).mpr seen)
  · cases idle.symm.trans inFlight

/-- A call was just made, under an id that was blank. -/
structure JustMade (before after : State) (id : Nat) (group : Key) (node : Option Key) : Prop where
  blank : before.Blank id
  log : ∃ nowMs protocol payload timeout, after.log =
    before.log ++ [.heard nowMs (.command (.rpc id group node protocol payload timeout))]

theorem JustMade.placed {group : Key} {node : Option Key}
    (made : JustMade before after id group node) : Placed after.log id group node := by
  obtain ⟨nowMs, protocol, payload, timeout, log⟩ := made.log
  refine ⟨protocol, payload, timeout, ?_⟩
  rw [log, inputs, List.filterMap_append]
  exact List.mem_append_right _ List.mem_cons_self

theorem JustMade.only {group : Key} {node : Option Key}
    (made : JustMade before after id group node) (other : Key) (pinned : Option Key)
    (placed : Placed after.log id other pinned) : other = group ∧ pinned = node := by
  obtain ⟨nowMs, protocol, payload, timeout, log⟩ := made.log
  obtain ⟨otherProtocol, otherPayload, otherTimeout, member⟩ := placed
  rw [log, inputs, List.filterMap_append] at member
  rcases List.mem_append.mp member with old | isNew
  · obtain ⟨entry, inLog, noted⟩ := List.mem_filterMap.mp old
    cases entry with
    | did effect => cases noted
    | heard heardMs input =>
      obtain rfl := Option.some.inj noted
      exact absurd rfl (made.blank _ inLog)
  · have same := List.mem_singleton.mp isNew
    obtain ⟨-, rfl, rfl, -⟩ := Command.rpc.inj (Input.command.inj same)
    exact ⟨rfl, rfl⟩

theorem JustMade.unsent {group : Key} {node : Option Key}
    (made : JustMade before after id group node) : sends id after.log = [] := by
  obtain ⟨nowMs, protocol, payload, timeout, log⟩ := made.log
  rw [log, sends_heard, sends_foreign made.blank]

theorem JustMade.unlooked {group : Key} {node : Option Key}
    (made : JustMade before after id group node) : lookedUp id after.log = [] := by
  obtain ⟨nowMs, protocol, payload, timeout, log⟩ := made.log
  rw [log, lookedUp_heard, lookedUp_foreign made.blank]

theorem JustMade.unasked {group : Key} {node : Option Key} {query : QueryId}
    (made : JustMade before after id group node) : ¬ LooksFor after.log query id := by
  obtain ⟨nowMs, protocol, payload, timeout, log⟩ := made.log
  rw [log]
  intro looks
  obtain ⟨key, member⟩ := looksFor_heard looks
  exact absurd rfl (made.blank _ member)

/-- The step from one state to another in which a call is written, seen from
other calls. -/
theorem bystander_setCall (state : State) (call : Call) {other : Nat} (different : other ≠ id) :
    Bystander other state (state.setCall id call) :=
  ⟨AList.lookup_insert_ne different, fun _ found => found, fun _ found => found, rfl,
    Adds.refl _ _⟩

theorem once_of_log (once : Once before id) (log : after.log = before.log)
    (localPeer : after.localPeer = before.localPeer) : Once after id :=
  ⟨log ▸ once.sent, log ▸ once.lookedUp, by rw [log, localPeer]; exact once.notLocal⟩

/-- A call to one node, which is its only candidate. -/
theorem chronicle_pinned {noted : State} {group key : Key} {call : Call}
    (made : JustMade before noted id group (some key))
    (chronicle : ChronicleBut (fun other => other = id) crates localPeer free noted)
    (inUse : ¬ free id) (ofGroup : call.group = group)
    (wanted : ∀ peer, peerId crates key = some peer → peer ∈ call.seen)
    (distinct : call.candidates.Nodup) (waiting : ∀ peer, peer ∈ call.candidates ↔ peer ∈ call.seen)
    (unresolved : call.resolved = ∅) (idle : call.inFlight = false)
    (reason : call.lastFailure = failUnreachable) :
    Chronicle crates localPeer free (noted.setCall id call) := by
  refine chronicle.about (fun _ told => told) inUse (fun _ => bystander_setCall _ call) rfl
    (files_of_same rfl rfl rfl rfl (fun _ _ found => found) (Adds.refl _ _)) chronicle.verdicts
    (once_of_log (chronicle.once id) rfl rfl) fun written isWritten => ?_
  obtain rfl := Option.some.inj ((AList.lookup_insert _).symm.trans isWritten)
  exact ⟨some key, story_new (ofGroup ▸ made.placed) (ofGroup ▸ made.only) wanted (by simp) distinct
    waiting made.unsent made.unlooked unresolved idle reason (by simp)⟩

/-- No step of a lookup that was just started has been heard. -/
theorem JustMade.unnamed {noted : State} {group : Key} (made : JustMade before noted id group none)
    (archive : Archive noted) (key : Bytes) (peer : PeerId) :
    ¬ Named (noted.log ++ [.did (.getProviders noted.swarm.nextQuery key (.lookup id))]) id
      peer := by
  rintro ⟨query, nowMs, providers, last, ⟨queryKey, looks⟩, heard, -⟩
  rcases List.mem_append.mp heard with old | isNew
  · rcases List.mem_append.mp looks with asked | asks
    · exact made.unasked ⟨queryKey, asked⟩
    · obtain ⟨rfl, -⟩ := Effect.getProviders.inj (Entry.did.inj (List.mem_singleton.mp asks))
      exact absurd (archive.heardOld nowMs _ _ last old) (lt_irrefl _)
  · cases List.mem_singleton.mp isNew

/-- A call to a group, whose providers are looked up. -/
theorem chronicle_byGroup {noted : State} {group : Key} {call : Call} (key : Bytes)
    (made : JustMade before noted id group none)
    (chronicle : ChronicleBut (fun other => other = id) crates localPeer free noted)
    (ledger : Ledger noted) (inUse : ¬ free id) (ofGroup : call.group = group)
    (nobody : call.seen = ∅ ∧ call.candidates = [])
    (unresolved : call.resolved = ∅) (idle : call.inFlight = false)
    (reason : call.lastFailure = failUnreachable) :
    Chronicle crates localPeer free
      ({ noted.getProviders key (.lookup id) with
        providerLookups := noted.providerLookups.insert noted.swarm.nextQuery id }.setCall id
        call) := by
  have fresh : noted.providerLookups.lookup noted.swarm.nextQuery = none :=
    congrArg Holders.lookup ledger.newQuery
  have log : ({ noted.getProviders key (.lookup id) with
      providerLookups := noted.providerLookups.insert noted.swarm.nextQuery id }.setCall id
      call).log = noted.log ++ [.did (.getProviders noted.swarm.nextQuery key (.lookup id))] := rfl
  have unheard : ∀ entry ∈ [Entry.did (.getProviders noted.swarm.nextQuery key (.lookup id))],
      entry.input? = none := by simp [Entry.input?]
  have unsent : sends id
      (noted.log ++ [.did (.getProviders noted.swarm.nextQuery key (.lookup id))]) = [] := by
    rw [sends_append, made.unsent]
    rfl
  have unlooked : lookedUp id
      (noted.log ++ [.did (.getProviders noted.swarm.nextQuery key (.lookup id))]) = [] := by
    rw [lookedUp_append, made.unlooked]
    rfl
  refine chronicle.about (fun _ told => told) inUse (fun other different => ?_) rfl ?_ ?_ ?_
    fun written isWritten => ?_
  · refine ⟨AList.lookup_insert_ne different, fun _ found => found, fun query found => ?_, rfl,
      Adds.one log ⟨fun about => different (Option.some.inj about).symm, rfl⟩⟩
    have old : query ≠ noted.swarm.nextQuery := by
      rintro rfl
      cases fresh.symm.trans found
    exact (AList.lookup_insert_ne old).trans found
  · refine ⟨le_refl _, Nat.le_succ _, fun _ _ => rfl,
      fun query old => AList.lookup_insert_ne old.ne, fun other query found => ?_,
      Adds.one log ⟨le_refl _, Nat.lt_succ_self _, AList.lookup_insert _⟩⟩
    rw [setCall, Table.lookup_insert_if] at found
    split at found
    · rename_i own
      obtain rfl := Option.some.inj found
      exact .inr ⟨key, List.mem_append_right _ (own ▸ List.mem_cons_self)⟩
    · exact .inl found
  · exact chronicle.verdicts.append (by simp [Entry.Mild])
  · refine ⟨?_, ?_, fun _ _ => ?_⟩
    · rw [log, unsent]
      exact List.nodup_nil
    · rw [log, unlooked]
      exact List.nodup_nil
    · rw [log, unsent]
      exact List.not_mem_nil
  · obtain rfl := Option.some.inj ((AList.lookup_insert _).symm.trans isWritten)
    refine ⟨none, story_new ?_ ?_ ?_ (by simp [nobody]) (by simp [nobody]) (by simp [nobody]) unsent
      unlooked unresolved idle reason fun _ => ⟨noted.swarm.nextQuery, AList.lookup_insert _⟩⟩
    · rw [log, placed_unheard unheard, ofGroup]
      exact made.placed
    · rw [log, ofGroup]
      exact fun other pinned placed => made.only other pinned ((placed_unheard unheard).mp placed)
    · rintro peer ⟨named, -⟩
      exact absurd named (log ▸ made.unnamed chronicle.archive key peer)

theorem chronicle_startCall (env : Env) (crates_eq : env.crates = crates)
    (chronicle : Chronicle crates localPeer free before) (ledger : Ledger before)
    (isFree : free id) (group : Key) (node : Option Key) (protocol : Nat) (payload : Bytes)
    (timeout : Duration) :
    Chronicle crates localPeer (fun other => free other ∧ other ≠ id)
      (State.startCall env
        (before.heard env.nowMs (.command (.rpc id group node protocol payload timeout)))
        id group node protocol payload timeout) := by
  have made : JustMade before
      (before.heard env.nowMs (.command (.rpc id group node protocol payload timeout))) id group
      node :=
    ⟨chronicle.unused id isFree, env.nowMs, protocol, payload, timeout, rfl⟩
  have noted : ChronicleBut (fun other => other = id) crates localPeer
      (fun other => free other ∧ other ≠ id)
      (before.heard env.nowMs (.command (.rpc id group node protocol payload timeout))) := by
    refine ChronicleBut.heard chronicle env.nowMs
      (.command (.rpc id group node protocol payload timeout)) (fun _ => And.left) ?_
      (fun _ _ => trivial) (by simp)
    intro other placed
    have same : other = id := by
      by_contra different
      refine placed ?_
      rintro _ _ _ _ _ same
      exact different (Command.rpc.inj (Input.command.inj same)).1.symm
    exact ⟨same, same ▸ made.blank, fun isFreeToo => isFreeToo.2 same⟩
  have inUse : ¬ (free id ∧ id ≠ id) := fun isFreeToo => isFreeToo.2 rfl
  unfold startCall
  dsimp only
  split
  · rename_i key
    split
    · rename_i peer named
      refine chronicle_pinned made noted inUse rfl (fun other isOther => ?_)
        (List.nodup_singleton peer) (by simp) rfl rfl rfl
      rw [← crates_eq, named] at isOther
      exact Finset.mem_singleton.mpr (Option.some.inj isOther).symm
    · rename_i unnamed
      refine chronicle_pinned made noted inUse rfl (fun other isOther => ?_) List.nodup_nil (by simp)
        rfl rfl rfl
      rw [← crates_eq, unnamed] at isOther
      cases isOther
  · exact chronicle_byGroup _ made noted
      (ledger.orderly (orderly_heard before env.nowMs _)) inUse rfl ⟨rfl, rfl⟩ rfl rfl rfl

/-! A step of a call's lookup. -/

/-- A peer that was not seen yet joins the candidates somewhere. -/
theorem enqueue_spec (now : Instant) (lastSuccess : Table Key PeerId) (failed : Table PeerId Instant)
    (call : Call) (peer : PeerId) :
    (peer ∈ call.seen ∧ enqueue now lastSuccess failed call peer = call) ∨
      (peer ∉ call.seen ∧ ∃ candidates, candidates.Perm (peer :: call.candidates) ∧
        enqueue now lastSuccess failed call peer =
          { call with seen := insert peer call.seen, candidates }) := by
  unfold enqueue
  by_cases seen : peer ∈ call.seen
  · exact .inl ⟨seen, if_pos seen⟩
  · refine .inr ⟨seen, _, ?_, if_neg seen⟩
    split
    · exact List.Perm.refl _
    · split
      · exact List.perm_append_singleton peer call.candidates
      · exact List.perm_insertIdx peer call.candidates List.findIdx_le_length

/-- Queueing the providers of one step adds those that are new, each once, and
never this node. -/
theorem queueProviders_fresh (env : Env) (state : State) (call : Call) (providers : List PeerId) :
    ∃ fresh candidates, state.queueProviders env call providers =
        { call with seen := call.seen ∪ fresh.toFinset, candidates } ∧
      candidates.Perm (fresh ++ call.candidates) ∧ fresh.Nodup ∧
      (∀ peer ∈ fresh, peer ∉ call.seen ∧ peer ≠ state.localPeer) ∧
      ∀ peer ∈ providers, peer ≠ state.localPeer → peer ∈ call.seen ∨ peer ∈ fresh := by
  unfold queueProviders
  induction providers generalizing call with
  | nil => exact ⟨[], call.candidates, by simp, List.Perm.refl _, List.nodup_nil, by simp, by simp⟩
  | cons provider rest inductionHypothesis =>
    rw [List.foldl_cons]
    by_cases remote : provider ≠ state.localPeer
    · rw [if_pos remote]
      rcases enqueue_spec env.now state.lastSuccess state.failed call provider with
        ⟨seen, same⟩ | ⟨unseen, queue, isQueue, queued⟩
      · rw [same]
        obtain ⟨fresh, candidates, result, perm, distinct, isNew, all⟩ := inductionHypothesis call
        refine ⟨fresh, candidates, result, perm, distinct, isNew, fun peer member => ?_⟩
        rcases List.mem_cons.mp member with rfl | later
        · exact fun _ => .inl seen
        · exact all peer later
      · rw [queued]
        obtain ⟨fresh, candidates, result, perm, distinct, isNew, all⟩ :=
          inductionHypothesis { call with seen := insert provider call.seen, candidates := queue }
        have unlisted : provider ∉ fresh := fun member =>
          (isNew provider member).1 (Finset.mem_insert_self _ _)
        refine ⟨provider :: fresh, candidates, ?_, ?_, List.nodup_cons.mpr ⟨unlisted, distinct⟩,
          fun peer member => ?_, fun peer member isRemote => ?_⟩
        · rw [result]
          simp [Finset.insert_union, Finset.union_insert]
        · exact (perm.trans (isQueue.append_left fresh)).trans List.perm_middle
        · rcases List.mem_cons.mp member with rfl | later
          · exact ⟨unseen, remote⟩
          · obtain ⟨notSeen, isRemote⟩ := isNew peer later
            exact ⟨fun seen => notSeen (Finset.mem_insert_of_mem seen), isRemote⟩
        · rcases List.mem_cons.mp member with rfl | later
          · exact .inr List.mem_cons_self
          · rcases all peer later isRemote with seen | isFresh
            · rcases Finset.mem_insert.mp seen with rfl | old
              · exact .inr List.mem_cons_self
              · exact .inl old
            · exact .inr (List.mem_cons_of_mem _ isFresh)
    · rw [if_neg remote]
      obtain ⟨fresh, candidates, result, perm, distinct, isNew, all⟩ := inductionHypothesis call
      refine ⟨fresh, candidates, result, perm, distinct, isNew, fun peer member isRemote => ?_⟩
      rcases List.mem_cons.mp member with rfl | later
      · exact absurd isRemote remote
      · exact all peer later isRemote

/-- What a step of its lookup makes of a call. -/
def lookedFor (env : Env) (state : State) (result : GetProvidersResult) (last : Bool) (call : Call) :
    Call :=
  let call := state.queueProviders env call (providersFound result)
  if last then { call with lookupRunning := false } else call

/-- A call that has queued the new ones among some peers. -/
structure Queued (localPeer : PeerId) (named : List PeerId) (call written : Call)
    (fresh : List PeerId) : Prop where
  group : written.group = call.group
  resolved : written.resolved = call.resolved
  inFlight : written.inFlight = call.inFlight
  lastFailure : written.lastFailure = call.lastFailure
  seen : ∀ peer, peer ∈ written.seen ↔ peer ∈ call.seen ∨ peer ∈ fresh
  queue : written.candidates.Perm (fresh ++ call.candidates)
  distinct : fresh.Nodup
  isNew : ∀ peer ∈ fresh, peer ∉ call.seen ∧ peer ≠ localPeer
  all : ∀ peer ∈ named, peer ≠ localPeer → peer ∈ call.seen ∨ peer ∈ fresh

theorem queued_lookedFor (env : Env) (state : State) (result : GetProvidersResult) (last : Bool)
    (call : Call) :
    ∃ fresh, Queued state.localPeer (providersFound result) call
      (state.lookedFor env result last call) fresh := by
  obtain ⟨fresh, candidates, queued, queue, distinct, isNew, all⟩ :=
    queueProviders_fresh env state call (providersFound result)
  refine ⟨fresh, ?_⟩
  rw [lookedFor, queued]
  cases last with
  | true => exact ⟨rfl, rfl, rfl, rfl, by simp, queue, distinct, isNew, all⟩
  | false => exact ⟨rfl, rfl, rfl, rfl, by simp, queue, distinct, isNew, all⟩

/-- The peers a step named are now among those seen. -/
theorem wanted_step {log : List Entry} {nowMs : UInt64} {query : QueryId}
    {result : GetProvidersResult} {last : Bool} {node : Option Key} {peer : PeerId}
    (wanted : Wanted crates localPeer
      (log ++ [.heard nowMs (.swarm (.kad (.progressed query (.getProviders result) last)))]) id
      node peer) :
    Wanted crates localPeer log id node peer ∨ peer ∈ providersFound result ∧ peer ≠ localPeer := by
  cases node with
  | some key => exact .inl wanted
  | none =>
    obtain ⟨⟨other, heardMs, providers, isLast, looks, heard, member⟩, remote⟩ := wanted
    rcases List.mem_append.mp heard with old | isNew
    · exact .inl ⟨⟨other, heardMs, providers, isLast, looksFor_heard looks, old, member⟩, remote⟩
    · have same := List.mem_singleton.mp isNew
      simp only [Entry.heard.injEq, Input.swarm.injEq, SwarmEvent.kad.injEq,
        KadEvent.progressed.injEq, QueryResult.getProviders.injEq] at same
      rw [← same.2.2.1]
      exact .inr ⟨member, remote⟩

theorem story_queueLookup (env : Env) {noted : State} {call : Call} {node : Option Key}
    {nowMs : UInt64} {query : QueryId} {result : GetProvidersResult} {last : Bool}
    (story : Story crates before id call node) (looks : LooksFor before.log query id)
    (isNoted : Noted before noted nowMs
      (.swarm (.kad (.progressed query (.getProviders result) last)))) :
    Story crates (noted.queueLookup env query id result last) id
      (noted.lookedFor env result last call) node := by
  obtain ⟨-, outbound, lookups, home, log⟩ := isNoted
  obtain ⟨fresh, queued⟩ := queued_lookedFor env noted result last call
  generalize noted.lookedFor env result last call = written at queued ⊢
  have grown : (noted.queueLookup env query id result last).log = before.log ++
      [.heard nowMs (.swarm (.kad (.progressed query (.getProviders result) last)))] := log
  have kept : (noted.queueLookup env query id result last).outbound = before.outbound := outbound
  have atHome : (noted.queueLookup env query id result last).localPeer = before.localPeer := home
  have unsent {peer : PeerId} (isFresh : peer ∈ fresh) (request : OutboundRequestId) :
      (request, peer) ∉ sends id before.log := fun sent =>
    (queued.isNew peer isFresh).1 (story.sent request peer sent).1
  refine ⟨?_, fun other pinned placed => ?_, fun peer wanted => ?_, fun byGroup => ?_, ?_,
    fun peer member => ?_, fun request peer member => ?_, fun peer => ?_, fun peer isSeen => ?_,
    fun byGroup => ?_, fun flies => ?_, fun idle => ?_⟩
  · rw [grown, queued.group]
    exact placed_mono story.placed _
  · rw [grown] at placed
    rw [queued.group]
    exact story.only other pinned (placed_heard (by simp [Unplaced]) placed)
  · rw [grown, atHome] at wanted
    rw [queued.seen]
    rcases wanted_step wanted with old | ⟨named, remote⟩
    · exact .inl (story.wanted peer old)
    · exact queued.all peer named (home ▸ remote)
  · rw [atHome, queued.seen]
    rintro (old | isFresh)
    · exact story.notLocal byGroup old
    · exact (queued.isNew _ isFresh).2 home.symm
  · rw [queued.queue.nodup_iff]
    refine List.nodup_append.mpr ⟨queued.distinct, story.distinct, ?_⟩
    rintro peer isFresh _ candidate rfl
    exact (queued.isNew peer isFresh).1 (story.waiting peer candidate).1
  · rw [queued.queue.mem_iff] at member
    rw [grown, sends_heard, queued.seen]
    rcases List.mem_append.mp member with isFresh | candidate
    · exact ⟨.inr isFresh, unsent isFresh⟩
    · exact ⟨.inl (story.waiting peer candidate).1, (story.waiting peer candidate).2⟩
  · rw [grown, sends_heard] at member
    rw [kept, grown, queued.group, queued.seen]
    exact (story.sent_mono member _).imp_left .inl
  · rw [queued.resolved, grown, lookedUp_heard]
    exact story.resolved peer
  · rw [queued.queue.mem_iff, grown, sends_heard, List.mem_append]
    rcases (queued.seen peer).mp isSeen with old | isFresh
    · exact (story.covered_mono old _).imp_left .inr
    · exact .inl (.inl isFresh)
  · cases last with
    | true =>
      refine .inl ⟨query, nowMs, result, ?_, ?_⟩
      · rw [grown]
        exact looksFor_mono looks _
      · rw [grown]
        exact List.mem_append_right _ List.mem_cons_self
    | false =>
      refine (story.lookup byGroup).imp (fun isOver => ?_) ?_
      · rw [grown]
        exact lookupOver_mono isOver _
      · rintro ⟨other, running⟩
        exact ⟨other, (congrArg (AList.lookup other) lookups).trans running⟩
  · rw [grown, sends_heard, kept]
    exact story.flying (queued.inFlight ▸ flies)
  · rw [grown, queued.group, queued.lastFailure]
    exact lastReason_mono (story.reason (queued.inFlight ▸ idle)) rfl

theorem chronicle_queueLookup (env : Env) {noted : State} {nowMs : UInt64} {query : QueryId}
    {result : GetProvidersResult} {last : Bool}
    (chronicle : Chronicle crates localPeer free before)
    (isNoted : Noted before noted nowMs
      (.swarm (.kad (.progressed query (.getProviders result) last))))
    (told : ChronicleBut (fun other => other = id) crates localPeer free noted)
    (inUse : ¬ free id) (owner : before.providerLookups.lookup query = some id) :
    Chronicle crates localPeer free (noted.queueLookup env query id result last) := by
  have erased {other : QueryId} {of : Nat}
      (found : (noted.queueLookup env query id result last).providerLookups.lookup other = some of) :
      noted.providerLookups.lookup other = some of := by
    cases last with
    | true =>
      have inErased : (noted.providerLookups.erase query).lookup other = some of := found
      rw [Table.lookup_erase_if] at inErased
      split at inErased
      · cases inErased
      · exact inErased
    | false => exact found
  refine told.about (fun _ told => told) inUse (fun other different => ?_) rfl
    (files_of_same rfl rfl rfl rfl (fun _ _ => erased) (Adds.refl _ _)) told.verdicts
    (once_of_log (told.once id) rfl rfl) fun written isWritten => ?_
  · refine ⟨?_, fun _ found => found, fun tested found => ?_, rfl, Adds.refl _ _⟩
    · exact (Table.lookup_adjust _ _ _ _).trans (if_neg different)
    · have notOwn : tested ≠ query := by
        rintro rfl
        rw [isNoted.lookups, owner] at found
        exact different (Option.some.inj found).symm
      cases last with
      | true => exact (AList.lookup_erase_ne notOwn).trans found
      | false => exact found
  · have adjusted : (noted.calls.adjust id (noted.lookedFor env result last)).lookup id =
        some written := isWritten
    rw [Table.lookup_adjust, if_pos rfl, isNoted.calls] at adjusted
    obtain ⟨call, found, rfl⟩ := Option.map_eq_some_iff.mp adjusted
    obtain ⟨node, story⟩ := chronicle.stories id call found (by simp)
    exact ⟨node, story_queueLookup env story (chronicle.archive.noted id query owner) isNoted⟩

/-! What a call waited for has ended. -/

theorem chronicle_resume {query : QueryId} (chronicle : Chronicle crates localPeer free before)
    (inUse : ¬ free id) : Chronicle crates localPeer free (before.resume query id) := by
  refine chronicle.about (by simp) inUse (fun other different => ?_) rfl
    (files_of_same rfl rfl rfl rfl (fun _ _ found => found) (Adds.refl _ _)) chronicle.verdicts
    (once_of_log (chronicle.once id) rfl rfl) fun written isWritten => ?_
  · exact ⟨(Table.lookup_adjust _ _ _ _).trans (if_neg different), fun _ found => found,
      fun _ found => found, rfl, Adds.refl _ _⟩
  · have adjusted := (Table.lookup_adjust _ _ _ _).symm.trans isWritten
    rw [if_pos rfl] at adjusted
    obtain ⟨call, found, rfl⟩ := Option.map_eq_some_iff.mp adjusted
    obtain ⟨node, story⟩ := chronicle.stories id call found (by simp)
    exact ⟨node, ⟨story.placed, story.only, story.wanted, story.notLocal, story.distinct,
      story.waiting, story.sent, story.resolved, story.covered, story.lookup, story.flying,
      story.reason⟩⟩

/-- An attempt has ended, for a reason that is in the log. -/
theorem chronicle_attemptFailed {request : OutboundRequestId} {reason : Nat}
    (chronicle : Chronicle crates localPeer free before) (books : Books free before)
    (owner : before.outbound.lookup request = some id)
    (ended : ∀ peer, (request, peer) ∈ sends id before.log → ∀ call,
      before.calls.lookup id = some call →
        AttemptEnded crates before.log call.group request peer reason) :
    Chronicle crates localPeer free (before.attemptFailed request id reason) := by
  have inUse : ¬ free id := fun isFree => (books.unused id isFree).2.outbound request owner
  refine chronicle.about (by simp) inUse (fun other different => ?_) rfl
    (files_of_same rfl rfl rfl rfl (fun _ _ found => found) (Adds.refl _ _)) chronicle.verdicts
    (once_of_log (chronicle.once id) rfl rfl) fun written isWritten => ?_
  · refine ⟨(Table.lookup_adjust _ _ _ _).trans (if_neg different), fun tested found => ?_,
      fun _ found => found, rfl, Adds.refl _ _⟩
    have notOwn : tested ≠ request := by
      rintro rfl
      exact different (Option.some.inj (found.symm.trans owner))
    exact (AList.lookup_erase_ne notOwn).trans found
  · have adjusted := (Table.lookup_adjust _ _ _ _).symm.trans isWritten
    rw [if_pos rfl] at adjusted
    obtain ⟨call, found, rfl⟩ := Option.map_eq_some_iff.mp adjusted
    obtain ⟨node, story⟩ := chronicle.stories id call found (by simp)
    -- The call has one request outstanding, so the one that ended is its last.
    have owes := (books.booked id call found).tally.outbound
    have inFlight : call.inFlight = true := by
      by_contra idle
      rw [Bool.eq_false_iff.mpr idle] at owes
      exact owes request owner
    obtain ⟨last, peer, isLast, underWay⟩ := story.flying inFlight
    rw [inFlight] at owes
    obtain rfl : last = request := owes.unique underWay owner
    refine ⟨node, ⟨story.placed, story.only, story.wanted, story.notLocal, story.distinct,
      story.waiting, fun other asked member => ?_, story.resolved, story.covered, story.lookup,
      by simp, fun _ => .inr ⟨last, peer, isLast, ?_⟩⟩⟩
    · obtain ⟨seen, still | isOver⟩ := story.sent other asked member
      · obtain rfl : other = last := owes.unique still owner
        exact ⟨seen, .inr ⟨reason, ended asked member call found⟩⟩
      · exact ⟨seen, .inr isOver⟩
    · exact ended peer (List.mem_of_getLast? isLast) call found

/-- A call leaves the table with an event that is not a failure, or in a tick. -/
theorem chronicle_end {record : Record} (chronicle : Chronicle crates localPeer free before)
    (inUse : ¬ free id) (calls : after.calls = before.calls.erase id)
    (outbound : ∀ other request, other ≠ id → before.outbound.lookup request = some other →
      after.outbound.lookup request = some other)
    (lookups : after.providerLookups = before.providerLookups) (swarm : after.swarm = before.swarm)
    (home : after.localPeer = before.localPeer)
    (log : after.log = before.log ++ [.did (.emit record)])
    (own : (Entry.did (.emit record)).call? = some id)
    (mild : record.header.kind = .rpcFailed → (inputs before.log).getLast? = some .tick) :
    Chronicle crates localPeer free after := by
  have attempt : ∀ entry ∈ [Entry.did (.emit record)], Attempt id entry := by
    intro entry member
    rw [List.mem_singleton.mp member]
    exact ⟨own, rfl, by simp⟩
  refine chronicle.about (by simp) inUse (fun other different => ?_) home ?_ ?_
    (once_idle (chronicle.once id) home log attempt rfl rfl) fun written isWritten => ?_
  · refine bystander_of_attempts different ?_ (fun request => outbound other request different)
      lookups home log attempt
    rw [calls, AList.lookup_erase_ne different]
  · exact files_of_same (by rw [swarm]) (by rw [swarm]) (by rw [swarm]) (by rw [swarm])
      (fun _ _ found => lookups ▸ found) (Adds.one log trivial)
  · rw [log]
    exact chronicle.verdicts.emit fun failed notTick => absurd (mild failed) notTick
  · rw [calls, AList.lookup_erase] at isWritten
    cases isWritten

end

end Libp2pFfi.State
