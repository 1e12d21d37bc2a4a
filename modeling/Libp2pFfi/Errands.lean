import Libp2pFfi.Authenticity
import Libp2pFfi.Failover
import Libp2pFfi.Memory

/-!
# What a call says

A call is made with a group, a protocol, a frame and a deadline, and none of the
four changes while the call goes from candidate to candidate. `Pursues` takes
the handlers apart into the steps that concern calls; what each of these steps
keeps, every handler keeps. From it follows where a frame on the wire comes from:
every request that goes out carries the payload of the one command that made its
call, under a number no other request has.
-/

namespace Libp2pFfi

/-- What a call is made with. -/
structure Errand where
  group : Key
  protocol : Nat
  frame : Bytes
  deadline : Instant

/-- What of a call never changes. -/
def Call.errand (call : Call) : Errand where
  group := call.group
  protocol := call.protocol
  frame := call.frame
  deadline := call.deadline

namespace State

/-- What the call under an id is made with, while it is in progress. -/
def errand? (state : State) (id : Nat) : Option Errand := (state.calls.lookup id).map Call.errand

/-- What a handler does to the calls, in steps. -/
inductive Pursues (env : Env) : State → State → Prop where
  | aside {ending : QueryId → Prop} {before after : State}
      (aside : Aside ending Entry.Quiet before after) : Pursues env before after
  | advance (state : State) (id : Nat) : Pursues env state (state.advance env id)
  | fail (state : State) (id reason : Nat) : Pursues env state (state.failCall id reason)
  /-- What a call waits for changes, and not what it is made with. -/
  | rewrite {before after : State} (errands : after.errand? = before.errand?)
      (requests : after.swarm.requests = before.swarm.requests)
      (nextRequest : after.swarm.nextRequest = before.swarm.nextRequest)
      (log : after.log = before.log) : Pursues env before after
  | answer (state : State) (id : Nat) (call : Call) (peer : PeerId) (node : Key) (payload : Bytes) :
      Pursues env state (state.answered id call peer node payload)
  | trans {first second third : State} (left : Pursues env first second)
      (right : Pursues env second third) : Pursues env first third

/-- Doing nothing pursues every errand. -/
theorem Pursues.refl (env : Env) (state : State) : Pursues env state state :=
  .rewrite rfl rfl rfl rfl

/-- A step that touches no call. -/
theorem Pursues.plain {env : Env} {ending : QueryId → Prop} {before after : State}
    (aside : Aside ending Entry.Plain before after) : Pursues env before after :=
  .aside (aside.mono (fun _ ended => ended) fun _ => Entry.Plain.quiet)

/-- A loop of such steps. -/
theorem Pursues.foldl {α : Type} {env : Env} {step : State → α → State}
    (each : ∀ state item, Pursues env state (step state item)) (items : List α) (state : State) :
    Pursues env state (items.foldl step state) := by
  induction items generalizing state with
  | nil => exact Pursues.refl env state
  | cons item rest inductionHypothesis => exact (each state item).trans (inductionHypothesis _)

/-- A call that is rewritten keeps its errand. -/
theorem errand?_setCall {state : State} {id : Nat} {old call : Call}
    (found : state.calls.lookup id = some old) (same : call.errand = old.errand) :
    (state.setCall id call).errand? = state.errand? := by
  funext other
  rw [errand?, errand?, setCall, Table.lookup_insert_if]
  split
  · rename_i own
    rw [own, found, Option.map_some, Option.map_some, same]
  · rfl

/-- So does one that is adjusted. -/
theorem errand?_adjust {before after : State} {id : Nat} {change : Call → Call}
    (changed : after.calls = before.calls.adjust id change)
    (same : ∀ call, (change call).errand = call.errand) : after.errand? = before.errand? := by
  funext other
  rw [errand?, errand?, changed, Table.lookup_adjust]
  split
  · rw [Option.map_map]
    exact congrArg (Option.map · _) (funext same)
  · rfl

/-- Candidates are no part of an errand. -/
theorem errand?_queueLookup (env : Env) (state : State) (query : QueryId) (id : Nat)
    (result : GetProvidersResult) (last : Bool) :
    (state.queueLookup env query id result last).errand? = state.errand? := by
  refine errand?_adjust rfl fun call => ?_
  obtain ⟨seen, candidates, queued⟩ :=
    queueProviders_spec env state call (providersFound result)
  rw [queued]
  split <;> rfl

/-! Every handler but that of a new call. -/

/-- A tick ends calls, and starts none. -/
theorem pursues_tick (env : Env) (state : State) : Pursues env state (state.tick env) := by
  have failed (state : State) (id : Nat) : Pursues env state (state.failCall id failTimeout) :=
    .fail state id failTimeout
  have expired := Pursues.foldl failed (state.expired env) state
  exact expired.trans (.plain (passive_tick env state))

/-- A query's result moves calls on. -/
theorem pursues_kadEvent (env : Env) (state : State) (event : KadEvent) :
    Pursues env state (state.kadEvent env event) := by
  unfold kadEvent
  split
  · dsimp only
    split <;> exact .rewrite rfl rfl rfl rfl
  · unfold providersReported
    split
    · exact .plain (aside_topicProviders env state _ _ _)
    · split
      · exact .plain (aside_callerProviders env state _ _ _ _)
      · split
        · refine Pursues.trans ?_ (.advance _ _)
          exact .rewrite (errand?_queueLookup env state _ _ _ _) rfl rfl rfl
        · exact Pursues.refl env state
  · rename_i query peers _
    have known : Pursues env state (state.learn peers) := .plain (passive_learn state peers)
    refine known.trans ?_
    unfold closestPeersReported
    dsimp only
    split
    · refine Pursues.trans ?_ (.advance _ _)
      exact .rewrite (errand?_adjust rfl fun _ => rfl) rfl rfl rfl
    · split
      · exact .plain (aside_walked env _ _ _ _)
      · exact Pursues.refl env _
  · exact .plain (aside_bootstrapReported state _ _ _)
  · exact Pursues.refl env state
  · exact Pursues.refl env state

/-- A response ends its call or moves it on. -/
theorem pursues_response (env : Env) (state : State) (peer : PeerId)
    (request : OutboundRequestId) (frame : Bytes) :
    Pursues env state (state.response env peer request frame) := by
  unfold response
  dsimp only
  split
  · exact Pursues.refl env state
  · rename_i id owner
    have ended : Pursues env state { state with outbound := state.outbound.erase request } :=
      .rewrite rfl rfl rfl rfl
    refine ended.trans ?_
    split
    · exact Pursues.refl env _
    · rename_i call found
      split
      · exact .answer _ id call peer _ _
      · refine Pursues.trans ?_ (.advance _ id)
        refine Pursues.trans ?_ (.plain (passive_rememberFailure env _ peer))
        exact .rewrite (errand?_setCall found rfl) rfl rfl rfl

/-- A failure moves its call on. -/
theorem pursues_outboundFailed (env : Env) (state : State) (peer : PeerId)
    (request : OutboundRequestId) (error : OutboundFailure) :
    Pursues env state (state.outboundFailed env peer request error) := by
  have noted : Pursues env state (state.rememberFailure env peer) :=
    .plain (passive_rememberFailure env state peer)
  refine noted.trans ?_
  unfold outboundFailed
  dsimp only
  split
  · exact Pursues.refl env _
  · refine Pursues.trans ?_ (.advance _ _)
    exact .rewrite (errand?_adjust rfl fun _ => rfl) rfl rfl rfl

/-- No event begins an errand. -/
theorem pursues_swarmEvent (env : Env) (state : State) (event : SwarmEvent) :
    Pursues env state (state.swarmEvent env event) := by
  rcases event.quiet_or_ofOwn with quiet | own
  · exact .aside (quiet_swarmEvent env state event quiet)
  · cases own with
    | progressed => exact pursues_kadEvent env state _
    | response => exact pursues_response env state _ _ _
    | outboundFailure => exact pursues_outboundFailed env state _ _ _

/-! What goes out. -/

end State

/-- The number a request goes out under. -/
def Entry.request? : Entry → Option OutboundRequestId
  | did (.sendRequest _ request _ _) => some request
  | _ => none

/-- The numbers of the requests that went out, the oldest first. -/
def requestNumbers (log : List Entry) : List OutboundRequestId := log.filterMap Entry.request?

namespace State

/-- Requests are numbered as they go out. -/
def Numbered (state : State) : Prop :=
  requestNumbers state.log = List.range state.swarm.nextRequest

/-- A line that sends a request sends the frame of a call in progress. -/
def Entrusted (state : State) : Entry → Prop
  | .heard _ _ => False
  | .did (.sendRequest id _ _ frame) =>
    ∃ errand, state.errand? id = some errand ∧ errand.frame = frame
  | .did _ => True

/-- No call is made or changed, and what goes out was given to a call. -/
structure Faithful (before after : State) : Prop where
  errands : ∀ id errand, after.errand? id = some errand → before.errand? id = some errand
  requests : ∀ request peer id, after.swarm.requests.lookup request = some (peer, id) →
    before.swarm.requests.lookup request = some (peer, id) ∨
      ∃ frame, .did (.sendRequest id request peer frame) ∈ after.log
  numbered : before.Numbered → after.Numbered
  adds : Adds before.Entrusted before after

/-- What is entrusted after a faithful step was entrusted before it. -/
theorem Entrusted.earlier {before after : State} (faithful : Faithful before after) {entry : Entry}
    (entrusted : after.Entrusted entry) : before.Entrusted entry := by
  cases entry with
  | heard => exact entrusted
  | did effect =>
    cases effect with
    | sendRequest id request peer frame =>
      obtain ⟨errand, found, same⟩ := entrusted
      exact ⟨errand, faithful.errands id errand found, same⟩
    | _ => trivial

/-- Two faithful steps. -/
theorem Faithful.trans {first second third : State} (left : Faithful first second)
    (right : Faithful second third) : Faithful first third := by
  refine ⟨fun id errand found => left.errands id errand (right.errands id errand found), ?_,
    fun numbered => right.numbered (left.numbered numbered),
    left.adds.trans (right.adds.mono fun _ => Entrusted.earlier left)⟩
  intro request peer id running
  rcases right.requests request peer id running with older | isNew
  · rcases left.requests request peer id older with old | ⟨frame, sent⟩
    · exact .inl old
    · obtain ⟨extra, grown, -⟩ := right.adds
      exact .inr ⟨frame, grown ▸ List.mem_append_left _ sent⟩
  · exact .inr isNew

end State

/-- A line about no call is no request. -/
theorem Entry.Quiet.unnumbered {entry : Entry} (quiet : entry.Quiet) : entry.request? = none := by
  cases entry with
  | heard => exact quiet.elim
  | did effect =>
    cases effect with
    | sendRequest => cases quiet
    | _ => rfl

/-- So nothing is asked of it. -/
theorem Entry.Quiet.entrusted {entry : Entry} (quiet : entry.Quiet) (state : State) :
    state.Entrusted entry := by
  cases entry with
  | heard => exact quiet
  | did effect =>
    cases effect with
    | sendRequest => cases quiet
    | _ => trivial

namespace State

/-- A step that sends nothing. -/
theorem faithful_of_unsent {before after : State} {extra : List Entry}
    (errands : ∀ id errand, after.errand? id = some errand → before.errand? id = some errand)
    (requests : after.swarm.requests = before.swarm.requests)
    (nextRequest : after.swarm.nextRequest = before.swarm.nextRequest)
    (grown : after.log = before.log ++ extra)
    (unsent : ∀ entry ∈ extra, entry.request? = none ∧ before.Entrusted entry) :
    Faithful before after := by
  refine ⟨errands, fun request peer id running => .inl (requests ▸ running), fun numbered => ?_,
    extra, grown, fun entry member => (unsent entry member).2⟩
  rw [Numbered, nextRequest, ← numbered, grown]
  exact filterMap_unseen (fun entry member => (unsent entry member).1) before.log

/-- A look at a candidate is no request either. -/
theorem entrusted_turns (state : State) (id : Nat) (peers : List PeerId) :
    ∀ entry ∈ turns id peers, entry.request? = none ∧ state.Entrusted entry := by
  intro entry member
  obtain ⟨peer, -, rfl⟩ := List.mem_map.mp member
  exact ⟨rfl, trivial⟩

/-- A call that is dropped leaves the errands of the others. -/
theorem errand?_erase {before after : State} (id : Nat)
    (erased : after.calls = before.calls.erase id) (other : Nat) (errand : Errand)
    (found : after.errand? other = some errand) : before.errand? other = some errand := by
  rw [errand?, erased, Table.lookup_erase_if] at found
  split at found
  · cases found
  · exact found

/-- Nor is an event a request. -/
theorem entrusted_emit (state : State) (record : Record) :
    ∀ entry ∈ [Entry.did (.emit record)], entry.request? = none ∧ state.Entrusted entry := by
  intro entry member
  rw [List.mem_singleton.mp member]
  exact ⟨rfl, trivial⟩

/-- A call's frame goes out under the next number. -/
theorem faithful_sends (env : Env) {state : State} {id : Nat} {call : Call}
    (found : state.calls.lookup id = some call) (skipped : List PeerId) (peer : PeerId)
    (rest : List PeerId) :
    Faithful state
      (((state.passOver id skipped).lookAt env id peer).sendCandidate id call peer rest) := by
  have grown := log_sends env state id call skipped peer rest
  have errands : (((state.passOver id skipped).lookAt env id peer).sendCandidate id call peer
      rest).errand? = state.errand? := errand?_setCall found rfl
  refine ⟨fun other errand kept => by rwa [errands] at kept, fun request target owner running => ?_,
    fun numbered => ?_, _, grown, fun entry member => ?_⟩
  · have inserted : (state.swarm.requests.insert state.swarm.nextRequest (peer, id)).lookup request =
        some (target, owner) := running
    rw [Table.lookup_insert_if] at inserted
    split at inserted
    · rename_i own
      obtain ⟨rfl, rfl⟩ := Prod.mk.inj (Option.some.inj inserted)
      refine .inr ⟨call.frame, ?_⟩
      rw [grown, own]
      exact List.mem_append_right _ (by simp [movesOn])
    · exact .inl inserted
  · have passed : (turns id skipped).filterMap Entry.request? = [] :=
      List.filterMap_eq_nil_iff.mpr fun entry member =>
        (entrusted_turns state id skipped entry member).1
    have numbers : requestNumbers state.log = List.range state.swarm.nextRequest := numbered
    rw [requestNumbers] at numbers
    have next : (((state.passOver id skipped).lookAt env id peer).sendCandidate id call peer
        rest).swarm.nextRequest = state.swarm.nextRequest + 1 := rfl
    rw [Numbered, next, grown, requestNumbers, movesOn, List.filterMap_append,
      List.filterMap_append, numbers, passed, List.range_succ]
    rfl
  · rcases List.mem_append.mp member with passed | reached
    · exact (entrusted_turns state id skipped entry passed).2
    · simp only [List.mem_cons, List.not_mem_nil, or_false] at reached
      rcases reached with rfl | rfl
      · trivial
      · refine ⟨call.errand, ?_, rfl⟩
        rw [errand?, found]
        rfl

/-- A call that moves on sends the frame of its errand, under a number that is new. -/
theorem faithful_advance (env : Env) (state : State) (id : Nat) :
    Faithful state (state.advance env id) := by
  have unmoved : Faithful state state :=
    faithful_of_unsent (fun _ _ found => found) rfl rfl (List.append_nil _).symm (by simp)
  have spec := advance_spec env state id
  generalize state.advance env id = after at spec ⊢
  cases spec with
  | missing => exact unmoved
  | busy => exact unmoved
  | waits call found =>
    have same : ((state.passOver id call.candidates).setCall id
        { call with candidates := [] }).errand? = state.errand? := errand?_setCall found rfl
    exact faithful_of_unsent (fun other errand kept => by rwa [same] at kept) rfl rfl rfl
      (entrusted_turns state id call.candidates)
  | fails call found =>
    have grown := log_fails state id call call.candidates call.lastFailure
    rw [List.append_assoc] at grown
    refine faithful_of_unsent (errand?_erase id rfl) rfl rfl grown fun entry member => ?_
    rcases List.mem_append.mp member with passed | reported
    · exact entrusted_turns state id call.candidates entry passed
    · exact entrusted_emit state _ entry reported
  | sends call found idle skipped peer rest => exact faithful_sends env found skipped peer rest
  | resolves call found idle skipped peer rest =>
    have same : (((state.passOver id skipped).lookAt env id peer).resolveCandidate id call peer
        rest).errand? = state.errand? := errand?_setCall found rfl
    refine faithful_of_unsent (fun other errand kept => by rwa [same] at kept) rfl rfl
      (log_resolves env state id call skipped peer rest) fun entry member => ?_
    rcases List.mem_append.mp member with passed | reached
    · exact entrusted_turns state id skipped entry passed
    · simp only [List.mem_cons, List.not_mem_nil, or_false] at reached
      rcases reached with rfl | rfl <;> exact ⟨rfl, trivial⟩

/-- Whatever pursues the errands is faithful to them. -/
theorem Pursues.faithful {env : Env} {before after : State} (pursues : Pursues env before after) :
    Faithful before after := by
  induction pursues with
  | @aside ending before after aside =>
    obtain ⟨calls, -, -, -, requests, nextRequest, -, -⟩ := CallView.mk.inj aside.view
    obtain ⟨extra, grown, quiet⟩ := aside.adds
    refine faithful_of_unsent (fun id errand found => ?_) requests nextRequest grown
      fun entry member => ⟨(quiet entry member).unnumbered, (quiet entry member).entrusted before⟩
    rwa [errand?, calls] at found
  | advance state id => exact faithful_advance env state id
  | fail state id reason =>
    unfold failCall
    split
    · exact faithful_of_unsent (fun _ _ found => found) rfl rfl (List.append_nil _).symm (by simp)
    · exact faithful_of_unsent (errand?_erase id rfl) rfl rfl rfl (entrusted_emit state _)
  | rewrite errands requests nextRequest log =>
    exact faithful_of_unsent (fun id errand found => by rwa [errands] at found) requests nextRequest
      (log.trans (List.append_nil _).symm) (by simp)
  | answer state id call peer node payload =>
    exact faithful_of_unsent (errand?_erase id rfl) rfl rfl rfl (entrusted_emit state _)
  | trans _ _ left right => exact left.trans right

end State

/-! Where a frame comes from. -/

/-- The id a call is made under. -/
def Entry.placed? : Entry → Option Nat
  | heard _ (.command (.rpc id _ _ _ _ _)) => some id
  | _ => none

/-- A call was made under this id, and this is its frame. -/
structure Dispatched (settings : Settings) (log : List Entry) (id : Nat) (group : Key)
    (protocol : Nat) (payload frame : Bytes) : Prop where
  heard : ∃ nowMs node timeout,
    .heard nowMs (.command (.rpc id group node protocol payload timeout)) ∈ log
  frame : frame =
    Wire.encodeRequest settings.delegation (settings.rpcProtocols.getD protocol "") payload

/-- What a node that is set up so sends, it was told to send. -/
structure Sourced (settings : Settings) (state : State) : Prop where
  setUp : state.settings = settings
  once : (state.log.filterMap Entry.placed?).Nodup
  registered : ∀ nowMs id group node protocol payload timeout,
    .heard nowMs (.command (.rpc id group node protocol payload timeout)) ∈ state.log →
      protocol < settings.rpcProtocols.length
  calls : ∀ id errand, state.errand? id = some errand →
    ∃ payload, Dispatched settings state.log id errand.group errand.protocol payload errand.frame
  sent : ∀ id request peer frame, .did (.sendRequest id request peer frame) ∈ state.log →
    ∃ group protocol payload, Dispatched settings state.log id group protocol payload frame
  running : ∀ request peer id, state.swarm.requests.lookup request = some (peer, id) →
    ∃ frame, .did (.sendRequest id request peer frame) ∈ state.log
  numbered : state.Numbered

/-- Lines an observer tells apart are the same line when it sees the same. -/
theorem eq_of_nodup_filterMap {α β : Type} {observe : α → Option β} {lines : List α}
    (distinct : (lines.filterMap observe).Nodup) {first second : α} (isFirst : first ∈ lines)
    (isSecond : second ∈ lines) {seen : β} (sees : observe first = some seen)
    (seesToo : observe second = some seen) : first = second := by
  induction lines with
  | nil => cases isFirst
  | cons line rest inductionHypothesis =>
    have seenIn {other : α} (member : other ∈ rest) (observed : observe other = some seen) :
        seen ∈ rest.filterMap observe := List.mem_filterMap.mpr ⟨other, member, observed⟩
    have restDistinct : (rest.filterMap observe).Nodup := by
      cases observed : observe line with
      | none => rwa [List.filterMap_cons_none observed] at distinct
      | some value =>
        rw [List.filterMap_cons_some observed] at distinct
        exact (List.nodup_cons.mp distinct).2
    have unseen (observed : observe line = some seen) : seen ∉ rest.filterMap observe := by
      rw [List.filterMap_cons_some observed] at distinct
      exact (List.nodup_cons.mp distinct).1
    rcases List.mem_cons.mp isFirst with rfl | inRest
    · rcases List.mem_cons.mp isSecond with rfl | later
      · rfl
      · exact absurd (seenIn later seesToo) (unseen sees)
    · rcases List.mem_cons.mp isSecond with rfl | later
      · exact absurd (seenIn inRest sees) (unseen seesToo)
      · exact inductionHypothesis restDistinct inRest later

section

variable {settings : Settings} {log : List Entry} {id : Nat} {group : Key} {protocol : Nat}
  {payload frame : Bytes}

/-- What was dispatched stays so as the log grows. -/
theorem Dispatched.mono (dispatched : Dispatched settings log id group protocol payload frame)
    {more : List Entry} (grown : ∀ entry ∈ log, entry ∈ more) :
    Dispatched settings more id group protocol payload frame := by
  obtain ⟨nowMs, node, timeout, heard⟩ := dispatched.heard
  exact ⟨⟨nowMs, node, timeout, grown _ heard⟩, dispatched.frame⟩

/-- An id stands for one call. -/
theorem Dispatched.unique (once : (log.filterMap Entry.placed?).Nodup)
    (dispatched : Dispatched settings log id group protocol payload frame) {otherGroup : Key}
    {otherProtocol : Nat} {otherPayload otherFrame : Bytes}
    (dispatchedToo : Dispatched settings log id otherGroup otherProtocol otherPayload otherFrame) :
    group = otherGroup ∧ protocol = otherProtocol ∧ payload = otherPayload ∧ frame = otherFrame := by
  obtain ⟨⟨nowMs, node, timeout, heard⟩, written⟩ := dispatched
  obtain ⟨⟨nowMsToo, nodeToo, timeoutToo, heardToo⟩, writtenToo⟩ := dispatchedToo
  have same := eq_of_nodup_filterMap once heard heardToo rfl rfl
  obtain ⟨-, isSame⟩ := Entry.heard.inj same
  obtain ⟨-, rfl, -, rfl, rfl, -⟩ := Command.rpc.inj (Input.command.inj isSame)
  exact ⟨rfl, rfl, rfl, written.trans writtenToo.symm⟩

end

namespace State

section

variable {settings : Settings} {before after : State}

/-- What goes out for a call in progress was given by a command. -/
theorem Faithful.sourced (faithful : Faithful before after) (sourced : Sourced settings before)
    (setUp : after.settings = before.settings) : Sourced settings after := by
  obtain ⟨extra, grown, entrusted⟩ := faithful.adds
  have kept : ∀ entry ∈ before.log, entry ∈ after.log := by
    intro entry member
    rw [grown]
    exact List.mem_append_left _ member
  have unheard {nowMs : UInt64} {input : Input} (member : .heard nowMs input ∈ after.log) :
      .heard nowMs input ∈ before.log := by
    rw [grown] at member
    rcases List.mem_append.mp member with old | isNew
    · exact old
    · exact (entrusted _ isNew).elim
  have placed : after.log.filterMap Entry.placed? = before.log.filterMap Entry.placed? := by
    rw [grown]
    refine filterMap_unseen (fun entry member => ?_) before.log
    cases entry with
    | heard nowMs input => exact (entrusted _ member).elim
    | did effect => rfl
  refine ⟨setUp.trans sourced.setUp, placed ▸ sourced.once, ?_, ?_, ?_, ?_,
    faithful.numbered sourced.numbered⟩
  · intro nowMs id group node protocol payload timeout member
    exact sourced.registered _ _ _ _ _ _ _ (unheard member)
  · intro id errand found
    obtain ⟨payload, dispatched⟩ := sourced.calls id errand (faithful.errands id errand found)
    exact ⟨payload, dispatched.mono kept⟩
  · intro id request peer frame member
    rw [grown] at member
    rcases List.mem_append.mp member with old | isNew
    · obtain ⟨group, protocol, payload, dispatched⟩ := sourced.sent id request peer frame old
      exact ⟨group, protocol, payload, dispatched.mono kept⟩
    · obtain ⟨errand, found, rfl⟩ := entrusted _ isNew
      obtain ⟨payload, dispatched⟩ := sourced.calls id errand found
      exact ⟨errand.group, errand.protocol, payload, dispatched.mono kept⟩
  · intro request peer id found
    rcases faithful.requests request peer id found with old | isNew
    · obtain ⟨frame, sent⟩ := sourced.running request peer id old
      exact ⟨frame, kept _ sent⟩
    · exact isNew

/-- An input is noted. One that makes a call does so under an id of its own, for a
registered protocol. -/
theorem sourced_heard (sourced : Sourced settings before) (nowMs : UInt64) (input : Input)
    (fresh : ∀ id ∈ (Entry.heard nowMs input).placed?, id ∉ before.log.filterMap Entry.placed?)
    (registered : ∀ id group node protocol payload timeout,
      input = .command (.rpc id group node protocol payload timeout) →
        protocol < settings.rpcProtocols.length) :
    Sourced settings ((before.deliver input).heard nowMs input) := by
  obtain ⟨swarm, delivered, nextRequest, -, requests, -⟩ := deliver_spec before input
  rw [delivered]
  have kept : ∀ entry ∈ before.log, entry ∈ before.log ++ [Entry.heard nowMs input] :=
    fun entry member => List.mem_append_left _ member
  refine ⟨sourced.setUp, ?_, ?_, ?_, ?_, ?_, ?_⟩
  · have noted : (before.log ++ [Entry.heard nowMs input]).filterMap Entry.placed? =
        before.log.filterMap Entry.placed? ++ (Entry.heard nowMs input).placed?.toList := by
      rw [List.filterMap_append, List.filterMap_cons]
      cases (Entry.heard nowMs input).placed? <;> rfl
    rw [heard]
    dsimp only
    rw [noted, List.nodup_append]
    refine ⟨sourced.once, ?_, ?_⟩
    · cases (Entry.heard nowMs input).placed? <;> simp
    · intro old isOld id isNew same
      exact fresh id (Option.mem_toList.mp isNew) (same ▸ isOld)
  · intro otherMs id group node protocol payload timeout member
    rcases List.mem_append.mp member with old | isNew
    · exact sourced.registered _ _ _ _ _ _ _ old
    · obtain ⟨-, same⟩ := Entry.heard.inj (List.mem_singleton.mp isNew)
      exact registered _ _ _ _ _ _ same.symm
  · intro id errand found
    obtain ⟨payload, dispatched⟩ := sourced.calls id errand found
    exact ⟨payload, dispatched.mono kept⟩
  · intro id request peer frame member
    have old : .did (.sendRequest id request peer frame) ∈ before.log := by
      rcases List.mem_append.mp member with old | isNew
      · exact old
      · cases List.mem_singleton.mp isNew
    obtain ⟨group, protocol, payload, dispatched⟩ := sourced.sent id request peer frame old
    exact ⟨group, protocol, payload, dispatched.mono kept⟩
  · intro request peer id found
    obtain ⟨frame, sent⟩ := sourced.running request peer id (requests request _ found)
    exact ⟨frame, kept _ sent⟩
  · rw [Numbered, heard]
    dsimp only
    rw [nextRequest, ← sourced.numbered, requestNumbers, requestNumbers]
    exact filterMap_unseen (by simp [Entry.request?]) before.log

/-- A call that is begun with its own frame. -/
theorem sourced_setCall (sourced : Sourced settings before) {id : Nat} {call : Call} {payload : Bytes}
    (dispatched : Dispatched settings before.log id call.group call.protocol payload call.frame) :
    Sourced settings (before.setCall id call) := by
  refine { sourced with calls := fun other errand found => ?_ }
  rw [errand?, setCall, Table.lookup_insert_if] at found
  split at found
  · rename_i own
    obtain rfl := Option.some.inj found
    exact ⟨payload, own ▸ dispatched⟩
  · exact sourced.calls other errand found

/-- A call begins with the frame of the command that makes it. -/
theorem sourced_startCall (env : Env) (sourced : Sourced settings before) {id : Nat} {group : Key}
    {node : Option Key} {protocol : Nat} {payload : Bytes} {timeout : Duration}
    (noted : .heard env.nowMs (.command (.rpc id group node protocol payload timeout)) ∈ before.log) :
    Sourced settings (before.startCall env id group node protocol payload timeout) := by
  have dispatched : Dispatched settings before.log id group protocol payload
      (Wire.encodeRequest before.delegation (before.rpcProtocols.getD protocol "") payload) := by
    refine ⟨⟨env.nowMs, node, timeout, noted⟩, ?_⟩
    rw [← sourced.setUp]
    rfl
  unfold startCall
  dsimp only
  split
  · split <;> exact sourced_setCall sourced dispatched
  · have looking : Faithful before
        { before.getProviders (Wire.providerKey env.crates group) (.lookup id) with
          providerLookups := before.providerLookups.insert before.swarm.nextQuery id } := by
      refine faithful_of_unsent (fun _ _ found => found) rfl rfl rfl fun entry member => ?_
      rw [List.mem_singleton.mp member]
      exact ⟨rfl, trivial⟩
    exact sourced_setCall (looking.sourced sourced rfl)
      (dispatched.mono fun entry member => List.mem_append_left _ member)

end

end State

/-! Whole runs. -/

/-- At the start there are no calls. -/
theorem sourced_start (config : Config) (localPeer : PeerId) (now : Instant) :
    Sourced (System.start config localPeer now).state.settings
      (System.start config localPeer now).state := by
  refine ⟨rfl, List.nodup_nil, ?_, ?_, ?_, ?_, rfl⟩
  · intro nowMs id group node protocol payload timeout member
    cases member
  · intro id errand found
    cases found
  · intro id request peer frame member
    cases member
  · intro request peer id found
    cases found

/-- Under an id that is free no call was made. -/
theorem State.Blank.unplaced {state : State} {id : Nat} (blank : state.Blank id) :
    id ∉ state.log.filterMap Entry.placed? := by
  intro member
  obtain ⟨entry, inLog, places⟩ := List.mem_filterMap.mp member
  cases entry with
  | did effect => cases places
  | heard nowMs input =>
    unfold Entry.placed? at places
    split at places
    · rename_i same
      rw [same] at inLog
      obtain rfl := Option.some.inj places
      exact blank _ inLog rfl
    · cases places

section

variable {crates : Crates} {localPeer : PeerId} {settings : Settings} {system : System}

/-- The command of a call finds its id unused. -/
theorem sourced_command (chronicled : Chronicled crates localPeer system)
    (sourced : Sourced settings system.state) {env : Env} {sent : Command}
    (enabled : System.Enabled crates system (.handle env (.command sent))) :
    Sourced settings (system.step (.handle env (.command sent))).state := by
  have setUp := (system.settings_step (.handle env (.command sent))).trans sourced.setUp
  by_cases isCall : ∃ id group node protocol payload timeout,
      sent = .rpc id group node protocol payload timeout
  · obtain ⟨id, group, node, protocol, payload, timeout, rfl⟩ := isCall
    obtain ⟨-, -, isDrawn, accepted⟩ := enabled
    have blank := chronicled.chronicle.unused id (.inl (isDrawn id (by simp [Command.ids])))
    have inRange : protocol < settings.rpcProtocols.length := by
      rw [← sourced.setUp]
      exact accepted
    have heard := State.sourced_heard sourced env.nowMs
      (.command (.rpc id group node protocol payload timeout))
      (by simpa [Entry.placed?] using blank.unplaced)
      (fun _ _ _ _ _ _ same => by
        obtain ⟨-, -, -, rfl, -, -⟩ := Command.rpc.inj (Input.command.inj same)
        exact inRange)
    have started := State.sourced_startCall env heard (List.mem_append_right _ List.mem_cons_self)
    exact (State.faithful_advance env _ id).sourced started (setUp.trans started.setUp.symm)
  · have notCall : ∀ id group node protocol payload timeout,
        sent ≠ .rpc id group node protocol payload timeout := by simpa using isCall
    have unplaced : (Entry.heard env.nowMs (.command sent)).placed? = none := by
      cases sent with
      | rpc id group node protocol payload timeout => exact absurd rfl (notCall _ _ _ _ _ _)
      | _ => rfl
    have heard := State.sourced_heard sourced env.nowMs (.command sent) (by simp [unplaced])
      (fun _ _ _ _ _ _ same => absurd (Input.command.inj same) (notCall _ _ _ _ _ _))
    have pursues : State.Pursues env _ _ := .plain (State.passive_command env
      ((system.state.deliver (.command sent)).heard env.nowMs (.command sent)) sent notCall)
    exact pursues.faithful.sourced heard (setUp.trans heard.setUp.symm)

/-- Every action keeps the frames to what was commanded. -/
theorem sourced_step (action : Action) (chronicled : Chronicled crates localPeer system)
    (sourced : Sourced settings system.state) (enabled : System.Enabled crates system action) :
    Sourced settings (system.step action).state := by
  have setUp := (system.settings_step action).trans sourced.setUp
  cases action with
  | draw => exact { sourced with }
  | poll cap => exact { sourced with }
  | internalQuery => exact { sourced with }
  | learn peer address => exact { sourced with }
  | ready env =>
    have pursues : State.Pursues env system.state (system.state.ready env) :=
      .plain (State.passive_ready env system.state)
    exact pursues.faithful.sourced sourced (setUp.trans sourced.setUp.symm)
  | handle env input =>
    cases input with
    | tick =>
      have heard := State.sourced_heard sourced env.nowMs .tick (by simp [Entry.placed?]) (by simp)
      exact (State.pursues_tick env _).faithful.sourced heard (setUp.trans heard.setUp.symm)
    | swarm event =>
      have heard := State.sourced_heard sourced env.nowMs (.swarm event) (by simp [Entry.placed?])
        (by simp)
      exact (State.pursues_swarmEvent env _ event).faithful.sourced heard
        (setUp.trans heard.setUp.symm)
    | command sent => exact sourced_command chronicled sourced enabled

end

end Libp2pFfi
