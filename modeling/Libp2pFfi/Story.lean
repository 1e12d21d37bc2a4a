import Libp2pFfi.Bookkeeping

/-!
# The story of a call

What happened to a call is written in the log: which peers its lookup named, to
whom its frame was sent and how each attempt ended, whose addresses were looked
up, and who was passed over. `Story` says how the record of a call in progress
goes with this: everyone who was named is waiting, was sent the frame or was
passed over, nobody twice, and the last failure is that of the last attempt.

A step that is not about a call does not change its story. `Bystander` is what
such a step is to the call.
-/

namespace Libp2pFfi

/-! Reading the log. -/

/-- The call a line of the log is about. -/
def Entry.call? : Entry → Option Nat
  | did effect => effect.call?
  | heard _ (.command (.rpc id _ _ _ _ _)) => some id
  | heard _ _ => none

def Entry.sent? (id : Nat) : Entry → Option (OutboundRequestId × PeerId)
  | did (.sendRequest call request peer _) => if call = id then some (request, peer) else none
  | _ => none

def Entry.resolved? (id : Nat) : Entry → Option PeerId
  | did (.getClosestPeers _ target (.resolve call _)) => if call = id then some target else none
  | _ => none

/-- The requests a call's frame went out with, and to whom, oldest first. -/
def sends (id : Nat) (log : List Entry) : List (OutboundRequestId × PeerId) :=
  log.filterMap (Entry.sent? id)

/-- The peers whose addresses were looked up for a call. -/
def lookedUp (id : Nat) (log : List Entry) : List PeerId := log.filterMap (Entry.resolved? id)

/-- A call was made, to a group and possibly to one node of it. -/
def Placed (log : List Entry) (id : Nat) (group : Key) (node : Option Key) : Prop :=
  ∃ protocol payload timeout,
    Input.command (.rpc id group node protocol payload timeout) ∈ inputs log

/-- A query was started to find the providers of a call's group. -/
def LooksFor (log : List Entry) (query : QueryId) (id : Nat) : Prop :=
  ∃ key, .did (.getProviders query key (.lookup id)) ∈ log

/-- The lookup of a call reported a peer. -/
def Named (log : List Entry) (id : Nat) (peer : PeerId) : Prop :=
  ∃ query nowMs providers last, LooksFor log query id ∧
    .heard nowMs (.swarm (.kad (.progressed query (.getProviders (.found providers)) last))) ∈ log ∧
    peer ∈ providers

/-- The lookup of a call delivered its last step. -/
def LookupOver (log : List Entry) (id : Nat) : Prop :=
  ∃ query nowMs result, LooksFor log query id ∧
    .heard nowMs (.swarm (.kad (.progressed query (.getProviders result) true))) ∈ log

/-- After its addresses were looked up, a peer had its turn and was neither
connected nor in the address book. -/
def PassedOver (log : List Entry) (id : Nat) (peer : PeerId) : Prop :=
  ∃ earlier entry later, log = earlier ++ entry :: later ∧ entry.resolved? id = some peer ∧
    .did (.turn id peer false false) ∈ later

/-- An attempt ended, with the reason it leaves behind. -/
inductive AttemptEnded (crates : Crates) (log : List Entry) (group : Key)
    (request : OutboundRequestId) (peer : PeerId) : Nat → Prop where
  | failed (nowMs : UInt64) (error : OutboundFailure)
      (heard : .heard nowMs (.swarm (.rpc (.outboundFailure peer request error))) ∈ log) :
      AttemptEnded crates log group request peer error.reason
  | refused (nowMs : UInt64) (frame : Bytes)
      (heard : .heard nowMs (.swarm (.rpc (.response peer request frame))) ∈ log)
      (unchecked : checkResponse crates nowMs group peer frame = none) :
      AttemptEnded crates log group request peer failRefused

/-- Whom a call should try: the node it is pinned to, or every provider of its
group but this node. -/
def Wanted (crates : Crates) (localPeer : PeerId) (log : List Entry) (id : Nat) :
    Option Key → PeerId → Prop
  | some key, peer => peerId crates key = some peer
  | none, peer => Named log id peer ∧ peer ≠ localPeer

/-- The reason is that of the last attempt, if there was one. -/
def LastReason (crates : Crates) (log : List Entry) (id : Nat) (group : Key) (reason : Nat) : Prop :=
  sends id log = [] ∧ reason = failUnreachable ∨
    ∃ request peer, (sends id log).getLast? = some (request, peer) ∧
      AttemptEnded crates log group request peer reason

/-- A call has nobody left to try. -/
structure Exhausted (crates : Crates) (localPeer : PeerId) (log : List Entry) (id : Nat)
    (group : Key) (node : Option Key) (reason : Nat) : Prop where
  placed : Placed log id group node
  only : ∀ other pinned, Placed log id other pinned → other = group ∧ pinned = node
  lookup : node = none → LookupOver log id
  everyone : ∀ peer, Wanted crates localPeer log id node peer →
    (∃ request ended, (request, peer) ∈ sends id log ∧
      AttemptEnded crates log group request peer ended) ∨ PassedOver log id peer
  reason : LastReason crates log id group reason

/-! The log grows. -/

section

variable {id : Nat} {log extra : List Entry}

theorem Entry.sent?_call {entry : Entry} {attempt : OutboundRequestId × PeerId}
    (sent : entry.sent? id = some attempt) : entry.call? = some id := by
  unfold Entry.sent? at sent
  split at sent
  · split at sent
    · rename_i same
      rw [← same]
      rfl
    · cases sent
  · cases sent

theorem Entry.resolved?_call {entry : Entry} {peer : PeerId}
    (resolved : entry.resolved? id = some peer) : entry.call? = some id := by
  unfold Entry.resolved? at resolved
  split at resolved
  · split at resolved
    · rename_i same
      rw [← same]
      rfl
    · cases resolved
  · cases resolved

theorem sends_append (id : Nat) (log extra : List Entry) :
    sends id (log ++ extra) = sends id log ++ sends id extra :=
  List.filterMap_append

theorem lookedUp_append (id : Nat) (log extra : List Entry) :
    lookedUp id (log ++ extra) = lookedUp id log ++ lookedUp id extra :=
  List.filterMap_append

/-- Lines about other calls are no attempts of this one. -/
theorem sends_foreign (foreign : ∀ entry ∈ extra, entry.call? ≠ some id) : sends id extra = [] :=
  List.filterMap_eq_nil_iff.mpr fun entry member =>
    Option.eq_none_iff_forall_ne_some.mpr fun _ sent => foreign entry member (Entry.sent?_call sent)

theorem lookedUp_foreign (foreign : ∀ entry ∈ extra, entry.call? ≠ some id) :
    lookedUp id extra = [] :=
  List.filterMap_eq_nil_iff.mpr fun entry member =>
    Option.eq_none_iff_forall_ne_some.mpr fun _ resolved =>
      foreign entry member (Entry.resolved?_call resolved)

theorem placed_mono {group : Key} {node : Option Key} (placed : Placed log id group node)
    (extra : List Entry) : Placed (log ++ extra) id group node := by
  obtain ⟨protocol, payload, timeout, member⟩ := placed
  refine ⟨protocol, payload, timeout, ?_⟩
  rw [inputs, List.filterMap_append]
  exact List.mem_append_left _ member

/-- A line about other calls makes no call. -/
theorem placed_foreign {group : Key} {node : Option Key}
    (foreign : ∀ entry ∈ extra, entry.call? ≠ some id)
    (placed : Placed (log ++ extra) id group node) : Placed log id group node := by
  obtain ⟨protocol, payload, timeout, member⟩ := placed
  rw [inputs, List.filterMap_append] at member
  rcases List.mem_append.mp member with old | isNew
  · exact ⟨protocol, payload, timeout, old⟩
  · obtain ⟨entry, inExtra, noted⟩ := List.mem_filterMap.mp isNew
    cases entry with
    | did effect => cases noted
    | heard nowMs input =>
      obtain rfl := Option.some.inj noted
      exact absurd rfl (foreign _ inExtra)

theorem looksFor_mono {query : QueryId} (looks : LooksFor log query id) (extra : List Entry) :
    LooksFor (log ++ extra) query id := by
  obtain ⟨key, member⟩ := looks
  exact ⟨key, List.mem_append_left _ member⟩

theorem looksFor_foreign {query : QueryId} (foreign : ∀ entry ∈ extra, entry.call? ≠ some id)
    (looks : LooksFor (log ++ extra) query id) : LooksFor log query id := by
  obtain ⟨key, member⟩ := looks
  rcases List.mem_append.mp member with old | isNew
  · exact ⟨key, old⟩
  · exact absurd rfl (foreign _ isNew)

theorem lookupOver_mono (isOver : LookupOver log id) (extra : List Entry) :
    LookupOver (log ++ extra) id := by
  obtain ⟨query, nowMs, result, looks, heard⟩ := isOver
  exact ⟨query, nowMs, result, looksFor_mono looks extra, List.mem_append_left _ heard⟩

theorem passedOver_mono {peer : PeerId} (passed : PassedOver log id peer) (extra : List Entry) :
    PassedOver (log ++ extra) id peer := by
  obtain ⟨earlier, entry, later, split, resolved, turn⟩ := passed
  refine ⟨earlier, entry, later ++ extra, ?_, resolved, List.mem_append_left _ turn⟩
  rw [split, List.append_assoc, List.cons_append]

/-- A peer whose addresses were looked up has its turn in vain. -/
theorem passedOver_of_turn {peer : PeerId} (resolved : peer ∈ lookedUp id log)
    (turn : .did (.turn id peer false false) ∈ extra) : PassedOver (log ++ extra) id peer := by
  obtain ⟨entry, member, looked⟩ := List.mem_filterMap.mp resolved
  obtain ⟨earlier, later, split⟩ := List.append_of_mem member
  refine ⟨earlier, entry, later ++ extra, ?_, looked, List.mem_append_right _ turn⟩
  rw [split, List.append_assoc, List.cons_append]

theorem AttemptEnded.mono {crates : Crates} {group : Key} {request : OutboundRequestId}
    {peer : PeerId} {reason : Nat} (ended : AttemptEnded crates log group request peer reason)
    (extra : List Entry) : AttemptEnded crates (log ++ extra) group request peer reason := by
  cases ended with
  | failed nowMs error heard => exact .failed nowMs error (List.mem_append_left _ heard)
  | refused nowMs frame heard unchecked =>
    exact .refused nowMs frame (List.mem_append_left _ heard) unchecked

end

namespace State

/-- How a call in progress goes with the log. -/
structure Story (crates : Crates) (state : State) (id : Nat) (call : Call) (node : Option Key) :
    Prop where
  placed : Placed state.log id call.group node
  only : ∀ group pinned, Placed state.log id group pinned → group = call.group ∧ pinned = node
  wanted : ∀ peer, Wanted crates state.localPeer state.log id node peer → peer ∈ call.seen
  notLocal : node = none → state.localPeer ∉ call.seen
  distinct : call.candidates.Nodup
  waiting : ∀ peer ∈ call.candidates, peer ∈ call.seen ∧
    ∀ request, (request, peer) ∉ sends id state.log
  sent : ∀ request peer, (request, peer) ∈ sends id state.log → peer ∈ call.seen ∧
    (state.outbound.lookup request = some id ∨
      ∃ reason, AttemptEnded crates state.log call.group request peer reason)
  resolved : ∀ peer, peer ∈ call.resolved ↔ peer ∈ lookedUp id state.log
  covered : ∀ peer ∈ call.seen, peer ∈ call.candidates ∨
    (∃ request, (request, peer) ∈ sends id state.log) ∨ PassedOver state.log id peer
  lookup : node = none → LookupOver state.log id ∨
    ∃ query, state.providerLookups.lookup query = some id
  flying : call.inFlight = true → ∃ request peer,
    (sends id state.log).getLast? = some (request, peer) ∧ state.outbound.lookup request = some id
  reason : call.inFlight = false → LastReason crates state.log id call.group call.lastFailure

/-- What stays true of a call after it has ended. -/
structure Once (state : State) (id : Nat) : Prop where
  sent : ((sends id state.log).map Prod.snd).Nodup
  lookedUp : (lookedUp id state.log).Nodup
  notLocal : ∀ group, Placed state.log id group none →
    state.localPeer ∉ (sends id state.log).map Prod.snd

/-- Nothing was done under an id. -/
def Blank (state : State) (id : Nat) : Prop := ∀ entry ∈ state.log, entry.call? ≠ some id

/-- What a step is to a call it is not about. -/
structure Bystander (id : Nat) (before after : State) : Prop where
  call : after.calls.lookup id = before.calls.lookup id
  outbound : ∀ request, before.outbound.lookup request = some id →
    after.outbound.lookup request = some id
  lookups : ∀ query, before.providerLookups.lookup query = some id →
    after.providerLookups.lookup query = some id
  localPeer : after.localPeer = before.localPeer
  adds : Adds (fun entry => entry.call? ≠ some id ∧ entry.input? = none) before after

section

variable {crates : Crates} {before after : State} {id : Nat} {call : Call} {node : Option Key}

/-- A line that notes no input names nobody. -/
theorem named_unheard {log extra : List Entry} {peer : PeerId}
    (foreign : ∀ entry ∈ extra, entry.call? ≠ some id ∧ entry.input? = none)
    (named : Named (log ++ extra) id peer) : Named log id peer := by
  obtain ⟨query, nowMs, providers, last, looks, heard, member⟩ := named
  refine ⟨query, nowMs, providers, last,
    looksFor_foreign (fun entry inExtra => (foreign entry inExtra).1) looks, ?_, member⟩
  rcases List.mem_append.mp heard with old | isNew
  · exact old
  · cases (foreign _ isNew).2

theorem wanted_unheard {localPeer : PeerId} {log extra : List Entry} {peer : PeerId}
    (foreign : ∀ entry ∈ extra, entry.call? ≠ some id ∧ entry.input? = none)
    (wanted : Wanted crates localPeer (log ++ extra) id node peer) :
    Wanted crates localPeer log id node peer := by
  cases node with
  | some key => exact wanted
  | none => exact ⟨named_unheard foreign wanted.1, wanted.2⟩

/-! However the log goes on, what was sent has not been lost and who was seen is covered. -/

theorem Story.sent_mono (story : Story crates before id call node) {request : OutboundRequestId}
    {peer : PeerId} (member : (request, peer) ∈ sends id before.log) (extra : List Entry) :
    peer ∈ call.seen ∧ (before.outbound.lookup request = some id ∨
      ∃ reason, AttemptEnded crates (before.log ++ extra) call.group request peer reason) := by
  obtain ⟨seen, underWay⟩ := story.sent request peer member
  refine ⟨seen, underWay.imp_right ?_⟩
  rintro ⟨reason, ended⟩
  exact ⟨reason, ended.mono extra⟩

theorem Story.covered_mono (story : Story crates before id call node) {peer : PeerId}
    (seen : peer ∈ call.seen) (extra : List Entry) :
    peer ∈ call.candidates ∨ (∃ request, (request, peer) ∈ sends id before.log) ∨
      PassedOver (before.log ++ extra) id peer :=
  (story.covered peer seen).imp_right (Or.imp_right fun passed => passedOver_mono passed extra)

theorem Story.bystander (story : Story crates before id call node)
    (bystander : Bystander id before after) : Story crates after id call node := by
  obtain ⟨-, outbound, lookups, localPeer, extra, grown, foreign⟩ := bystander
  have foreignCall : ∀ entry ∈ extra, entry.call? ≠ some id := fun entry member =>
    (foreign entry member).1
  have sends : sends id after.log = sends id before.log := by
    rw [grown, sends_append, sends_foreign foreignCall, List.append_nil]
  have lookedUp : lookedUp id after.log = lookedUp id before.log := by
    rw [grown, lookedUp_append, lookedUp_foreign foreignCall, List.append_nil]
  refine ⟨?_, fun group pinned placed => ?_, fun peer wanted => ?_, ?_, story.distinct, ?_,
    fun request peer member => ?_, ?_, fun peer seen => ?_, fun byGroup => ?_, fun inFlight => ?_,
    fun idle => ?_⟩
  · rw [grown]
    exact placed_mono story.placed extra
  · rw [grown] at placed
    exact story.only group pinned (placed_foreign foreignCall placed)
  · rw [grown, localPeer] at wanted
    exact story.wanted peer (wanted_unheard foreign wanted)
  · rw [localPeer]
    exact story.notLocal
  · rw [sends]
    exact story.waiting
  · rw [sends] at member
    rw [grown]
    exact (story.sent_mono member extra).imp_right (Or.imp_left (outbound request))
  · rw [lookedUp]
    exact story.resolved
  · rw [sends, grown]
    exact story.covered_mono seen extra
  · rw [grown]
    refine (story.lookup byGroup).imp (fun isOver => lookupOver_mono isOver extra) ?_
    rintro ⟨query, running⟩
    exact ⟨query, lookups query running⟩
  · rw [sends]
    obtain ⟨request, peer, last, underWay⟩ := story.flying inFlight
    exact ⟨request, peer, last, outbound request underWay⟩
  · rw [LastReason, sends]
    refine (story.reason idle).imp_right ?_
    rintro ⟨request, peer, last, ended⟩
    rw [grown]
    exact ⟨request, peer, last, ended.mono extra⟩

theorem Once.bystander (once : Once before id) (bystander : Bystander id before after) :
    Once after id := by
  obtain ⟨-, -, -, localPeer, extra, grown, foreign⟩ := bystander
  have foreignCall : ∀ entry ∈ extra, entry.call? ≠ some id := fun entry member =>
    (foreign entry member).1
  refine ⟨?_, ?_, fun group placed => ?_⟩
  · rw [grown, sends_append, sends_foreign foreignCall, List.append_nil]
    exact once.sent
  · rw [grown, lookedUp_append, lookedUp_foreign foreignCall, List.append_nil]
    exact once.lookedUp
  · rw [grown] at placed ⊢
    rw [sends_append, sends_foreign foreignCall, List.append_nil, localPeer]
    exact once.notLocal group (placed_foreign foreignCall placed)

theorem Blank.bystander (blank : Blank before id) (bystander : Bystander id before after) :
    Blank after id := by
  obtain ⟨extra, grown, foreign⟩ := bystander.adds
  intro entry member
  rw [grown] at member
  rcases List.mem_append.mp member with old | isNew
  · exact blank entry old
  · exact (foreign entry isNew).1

/-- A handler that touches no call is a bystander of all. -/
theorem Aside.bystander {ending : QueryId → Prop} (aside : Aside ending Entry.Quiet before after)
    (id : Nat) : Bystander id before after := by
  obtain ⟨calls, outbound, lookups, -, -, -, localPeer, -⟩ := CallView.mk.inj aside.view
  refine ⟨by rw [calls], ?_, ?_, localPeer, aside.adds.mono fun entry quiet => ?_⟩
  · rw [outbound]
    exact fun _ found => found
  · rw [lookups]
    exact fun _ found => found
  · cases entry with
    | heard => exact quiet.elim
    | did effect =>
      have none : effect.call? = none := quiet
      exact ⟨by simp [Entry.call?, none], rfl⟩

end

/-! What the log knows of libp2p's ids. -/

/-- Requests and lookups are in the log under the ids libp2p has them under. -/
structure Archive (state : State) : Prop where
  sentOld : ∀ id request peer, (request, peer) ∈ sends id state.log →
    request < state.swarm.nextRequest
  sentTo : ∀ id request peer, (request, peer) ∈ sends id state.log →
    ∀ owner, state.swarm.requests.lookup request = some owner → owner = (peer, id)
  looksOld : ∀ id query, LooksFor state.log query id → query < state.swarm.nextQuery
  looksFor : ∀ id query, LooksFor state.log query id →
    ∀ purpose, state.swarm.queries.lookup query = some purpose → purpose = .lookup id
  noted : ∀ id query, state.providerLookups.lookup query = some id → LooksFor state.log query id
  heardOld : ∀ nowMs query result last,
    .heard nowMs (.swarm (.kad (.progressed query result last))) ∈ state.log →
      query < state.swarm.nextQuery

/-- A line that goes into the log with the request or query it is about. -/
def Filed (before after : State) : Entry → Prop
  | .heard _ _ => False
  | .did (.sendRequest id request peer _) =>
    before.swarm.nextRequest ≤ request ∧ request < after.swarm.nextRequest ∧
      after.swarm.requests.lookup request = some (peer, id)
  | .did (.getProviders query _ (.lookup id)) =>
    before.swarm.nextQuery ≤ query ∧ query < after.swarm.nextQuery ∧
      after.swarm.queries.lookup query = some (.lookup id)
  | .did _ => True

/-- What a handler does to libp2p's ids. -/
structure Files (before after : State) : Prop where
  nextRequest : before.swarm.nextRequest ≤ after.swarm.nextRequest
  nextQuery : before.swarm.nextQuery ≤ after.swarm.nextQuery
  requests : ∀ request, request < before.swarm.nextRequest →
    after.swarm.requests.lookup request = before.swarm.requests.lookup request
  queries : ∀ query, query < before.swarm.nextQuery →
    after.swarm.queries.lookup query = before.swarm.queries.lookup query
  lookups : ∀ id query, after.providerLookups.lookup query = some id →
    before.providerLookups.lookup query = some id ∨ LooksFor after.log query id
  adds : Adds (Filed before after) before after

theorem mem_sends {id : Nat} {log : List Entry} {request : OutboundRequestId} {peer : PeerId} :
    (request, peer) ∈ sends id log ↔ ∃ frame, .did (.sendRequest id request peer frame) ∈ log := by
  constructor
  · intro member
    obtain ⟨entry, inLog, sent⟩ := List.mem_filterMap.mp member
    unfold Entry.sent? at sent
    split at sent
    · split at sent
      · rename_i frame same
        obtain ⟨rfl, rfl⟩ := Prod.mk.inj (Option.some.inj sent)
        exact ⟨frame, same ▸ inLog⟩
      · cases sent
    · cases sent
  · rintro ⟨frame, member⟩
    exact List.mem_filterMap.mpr ⟨_, member, by simp [Entry.sent?]⟩

theorem Archive.files {before after : State} (archive : Archive before)
    (files : Files before after) : Archive after := by
  obtain ⟨extra, grown, filed⟩ := files.adds
  have sendsOf {id : Nat} {request : OutboundRequestId} {peer : PeerId}
      (member : (request, peer) ∈ sends id after.log) :
      (request, peer) ∈ sends id before.log ∨ request < after.swarm.nextRequest ∧
        after.swarm.requests.lookup request = some (peer, id) := by
    rw [grown, sends_append] at member
    rcases List.mem_append.mp member with old | isNew
    · exact .inl old
    · obtain ⟨frame, inExtra⟩ := mem_sends.mp isNew
      exact .inr (filed _ inExtra).2
  have looksOf {id : Nat} {query : QueryId} (looks : LooksFor after.log query id) :
      LooksFor before.log query id ∨ query < after.swarm.nextQuery ∧
        after.swarm.queries.lookup query = some (.lookup id) := by
    obtain ⟨key, member⟩ := looks
    rw [grown] at member
    rcases List.mem_append.mp member with old | isNew
    · exact .inl ⟨key, old⟩
    · exact .inr (filed _ isNew).2
  refine ⟨fun id request peer member => ?_, fun id request peer member owner running => ?_,
    fun id query looks => ?_, fun id query looks purpose running => ?_,
    fun id query found => ?_, fun nowMs query result last member => ?_⟩
  · rcases sendsOf member with old | ⟨isNew, -⟩
    · exact (archive.sentOld id request peer old).trans_le files.nextRequest
    · exact isNew
  · rcases sendsOf member with old | ⟨-, isNew⟩
    · rw [files.requests request (archive.sentOld id request peer old)] at running
      exact archive.sentTo id request peer old owner running
    · exact Option.some.inj (running.symm.trans isNew)
  · rcases looksOf looks with old | ⟨isNew, -⟩
    · exact (archive.looksOld id query old).trans_le files.nextQuery
    · exact isNew
  · rcases looksOf looks with old | ⟨-, isNew⟩
    · rw [files.queries query (archive.looksOld id query old)] at running
      exact archive.looksFor id query old purpose running
    · exact Option.some.inj (running.symm.trans isNew)
  · rcases files.lookups id query found with old | isNew
    · rw [grown]
      exact looksFor_mono (archive.noted id query old) extra
    · exact isNew
  · rw [grown] at member
    rcases List.mem_append.mp member with old | isNew
    · exact (archive.heardOld nowMs query result last old).trans_le files.nextQuery
    · exact (filed _ isNew).elim

theorem Aside.files {ending : QueryId → Prop} {before after : State}
    (aside : Aside ending Entry.Quiet before after) : Files before after := by
  obtain ⟨-, -, lookups, -, requests, nextRequest, -, -⟩ := CallView.mk.inj aside.view
  refine ⟨nextRequest.ge, aside.queries.nextQuery, fun _ _ => by rw [requests],
    aside.queries.running, fun id query found => .inl (lookups ▸ found),
    aside.adds.mono fun entry quiet => ?_⟩
  cases entry with
  | heard => exact quiet.elim
  | did effect =>
    have none : effect.call? = none := quiet
    cases effect with
    | sendRequest => cases none
    | getProviders query key purpose =>
      cases purpose with
      | lookup => cases none
      | _ => trivial
    | _ => trivial

end State

end Libp2pFfi
