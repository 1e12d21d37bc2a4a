import Libp2pFfi.Node

/-!
# What the handlers leave alone

Most handlers have nothing to do with calls: they keep the table of calls and
everything a call waits for, and what they append to the log is about no call.
`Aside` says so. It is reflexive and transitive, so that a handler made of
smaller parts is aside because its parts are.

Such a handler may still start queries, or drop the last entry of one that has
ended. What the six query tables say about a query is its `Holders`, and what
they should say follows from the purpose libp2p has it running for.
-/

namespace Libp2pFfi

/-! Which call a line of the log is about. -/

/-- The kinds of event that end a call. -/
def EventKind.endsCall : EventKind → Bool
  | rpcResponse => true
  | rpcFailed => true
  | _ => false

/-- The kinds of event that report who a remote peer is. -/
def EventKind.namesPeer : EventKind → Bool
  | rpcRequest => true
  | rpcResponse => true
  | announcement => true
  | topicMessage => true
  | _ => false

/-- The call an effect is about. -/
def Effect.call? : Effect → Option Nat
  | emit record => if record.header.kind.endsCall then some record.header.id else none
  | turn call _ _ _ => some call
  | sendRequest call _ _ _ => some call
  | getProviders _ _ (.lookup call) => some call
  | getClosestPeers _ _ (.resolve call _) => some call
  | _ => none

/-- Whether an effect reports who a remote peer is. -/
def Effect.namesPeer : Effect → Bool
  | emit record => record.header.kind.namesPeer
  | _ => false

/-- An effect that is about no call. -/
def Entry.Quiet : Entry → Prop
  | heard _ _ => False
  | did effect => effect.call? = none

/-- An effect that is about no call and reports no peer's identity. -/
def Entry.Plain : Entry → Prop
  | heard _ _ => False
  | did effect => effect.call? = none ∧ effect.namesPeer = false

/-- A line that is plain names no call. -/
theorem Entry.Plain.quiet {entry : Entry} (plain : entry.Plain) : entry.Quiet := by
  cases entry with
  | heard => exact plain
  | did effect => exact plain.1

/-- The events that report on a request or a query of the node's own. -/
def SwarmEvent.reports : SwarmEvent → Bool
  | kad (.progressed _ _ _) => true
  | rpc (.response _ _ _) => true
  | rpc (.outboundFailure _ _ _) => true
  | _ => false

/-- What such an event is. -/
inductive SwarmEvent.OfOwn : SwarmEvent → Prop where
  | progressed (query : QueryId) (result : QueryResult) (last : Bool) :
      OfOwn (.kad (.progressed query result last))
  | response (peer : PeerId) (request : OutboundRequestId) (frame : Bytes) :
      OfOwn (.rpc (.response peer request frame))
  | outboundFailure (peer : PeerId) (request : OutboundRequestId) (error : OutboundFailure) :
      OfOwn (.rpc (.outboundFailure peer request error))

/-- Every event reports on a request or a query of the node's own, or it does not. -/
theorem SwarmEvent.quiet_or_ofOwn (event : SwarmEvent) :
    event.reports = false ∨ event.OfOwn := by
  cases event with
  | kad event =>
    cases event with
    | progressed query result last => exact .inr (.progressed query result last)
    | _ => exact .inl rfl
  | rpc event =>
    cases event with
    | response peer request frame => exact .inr (.response peer request frame)
    | outboundFailure peer request error => exact .inr (.outboundFailure peer request error)
    | _ => exact .inl rfl
  | _ => exact .inl rfl

/-! Queries and their owners. -/

/-- What the six query tables say about one query. -/
structure Holders where
  topic : Option Key := none
  find : Option Nat := none
  lookup : Option Nat := none
  resolve : Option Nat := none
  walk : Option Nat := none
  bootstrap : Option Nat := none

/-- What they should say, from the purpose of a running query. -/
def Holders.expected : Option Purpose → Holders
  | some (.topic key) => { topic := some key }
  | some (.find id) => { find := some id }
  | some (.lookup call) => { lookup := some call }
  | some (.resolve call _) => { resolve := some call }
  | some (.walk id) => { walk := some id }
  | some (.bootstrap id) => { bootstrap := some id }
  | some .provide => {}
  | some .internal => {}
  | none => {}

namespace State

/-- What the tables of a state say about a query. -/
def holders (state : State) (query : QueryId) : Holders where
  topic := state.topicLookups.lookup query
  find := state.providerQueries.lookup query
  lookup := state.providerLookups.lookup query
  resolve := state.resolutions.lookup query
  walk := state.walks.lookup query
  bootstrap := state.bootstraps.lookup query

/-- The tables say about a query what they should. -/
def Agrees (state : State) (query : QueryId) : Prop :=
  state.holders query = Holders.expected (state.swarm.queries.lookup query)

/-- Nothing is known of a query. -/
def Clear (state : State) (query : QueryId) : Prop :=
  state.holders query = {} ∧ state.swarm.queries.lookup query = none

/-- What a handler makes of one query: nothing, or it starts it. -/
def QueryKept (before after : State) (query : QueryId) : Prop :=
  (after.holders query = before.holders query ∧
      after.swarm.queries.lookup query = before.swarm.queries.lookup query) ∨
    (before.swarm.nextQuery ≤ query ∧ query < after.swarm.nextQuery ∧
      (before.Clear query → after.Agrees query))

/-- What a handler makes of the queries it is not the end of. It is libp2p that
ends a query. -/
structure QueriesKept (ending : QueryId → Prop) (before after : State) : Prop where
  nextQuery : before.swarm.nextQuery ≤ after.swarm.nextQuery
  kept : ∀ query, ¬ ending query → QueryKept before after query
  running : ∀ query, query < before.swarm.nextQuery →
    after.swarm.queries.lookup query = before.swarm.queries.lookup query

/-- What calls can notice of a state, apart from the queries of others. -/
structure CallView where
  calls : Table Nat Call
  outbound : Table OutboundRequestId Nat
  providerLookups : Table QueryId Nat
  resolutions : Table QueryId Nat
  requests : Table OutboundRequestId (PeerId × Nat)
  nextRequest : OutboundRequestId
  localPeer : PeerId
  rpcProtocols : List String

/-- The calls of a state, with what they wait for. -/
def callView (state : State) : CallView where
  calls := state.calls
  outbound := state.outbound
  providerLookups := state.providerLookups
  resolutions := state.resolutions
  requests := state.swarm.requests
  nextRequest := state.swarm.nextRequest
  localPeer := state.localPeer
  rpcProtocols := state.rpcProtocols

/-- The log grows by entries of one kind. -/
def Adds (allowed : Entry → Prop) (before after : State) : Prop :=
  ∃ extra, after.log = before.log ++ extra ∧ ∀ entry ∈ extra, allowed entry

/-- No call is touched. -/
structure Aside (ending : QueryId → Prop) (allowed : Entry → Prop) (before after : State) : Prop where
  view : after.callView = before.callView
  nextId : before.shared.nextId ≤ after.shared.nextId
  queries : QueriesKept ending before after
  adds : Adds allowed before after

/-! The relations compose. -/

/-- Doing nothing keeps every query. -/
theorem QueryKept.refl (state : State) (query : QueryId) : QueryKept state state query :=
  .inl ⟨rfl, rfl⟩

/-- A query that one of two steps starts is kept by the other, since ids are not used
twice. -/
theorem QueryKept.trans {first second third : State} {query : QueryId}
    (left : QueryKept first second query) (right : QueryKept second third query)
    (grows : first.swarm.nextQuery ≤ second.swarm.nextQuery)
    (growsMore : second.swarm.nextQuery ≤ third.swarm.nextQuery) : QueryKept first third query := by
  rcases left with ⟨holders, running⟩ | ⟨isNew, old, agrees⟩
  · rcases right with ⟨holdersToo, runningToo⟩ | ⟨isNew, begun, agrees⟩
    · exact .inl ⟨holdersToo.trans holders, runningToo.trans running⟩
    · refine .inr ⟨grows.trans isNew, begun, fun clear => agrees ?_⟩
      exact ⟨holders.trans clear.1, running.trans clear.2⟩
  · rcases right with ⟨holdersToo, runningToo⟩ | ⟨isNew', -, -⟩
    · refine .inr ⟨isNew, old.trans_le growsMore, fun clear => ?_⟩
      unfold Agrees
      rw [holdersToo, runningToo]
      exact agrees clear
    · exact absurd old (not_lt.mpr isNew')

/-- Doing nothing keeps all queries. -/
theorem QueriesKept.refl (ending : QueryId → Prop) (state : State) :
    QueriesKept ending state state :=
  ⟨le_refl _, fun query _ => QueryKept.refl state query, fun _ _ => rfl⟩

/-- Two steps keep what each of them keeps. -/
theorem QueriesKept.trans {ending : QueryId → Prop} {first second third : State}
    (left : QueriesKept ending first second) (right : QueriesKept ending second third) :
    QueriesKept ending first third :=
  ⟨left.nextQuery.trans right.nextQuery,
    fun query going =>
      (left.kept query going).trans (right.kept query going) left.nextQuery right.nextQuery,
    fun query old =>
      (right.running query (old.trans_le left.nextQuery)).trans (left.running query old)⟩

/-- Lines an observer of the log does not see leave what it has seen. -/
theorem filterMap_unseen {α : Type} {observe : Entry → Option α} {extra : List Entry}
    (unseen : ∀ entry ∈ extra, observe entry = none) (log : List Entry) :
    (log ++ extra).filterMap observe = log.filterMap observe := by
  rw [List.filterMap_append, List.filterMap_eq_nil_iff.mpr unseen, List.append_nil]

/-- Doing nothing adds no line. -/
theorem Adds.refl (allowed : Entry → Prop) (state : State) : Adds allowed state state :=
  ⟨[], (List.append_nil _).symm, by simp⟩

/-- A step that adds one line. -/
theorem Adds.one {allowed : Entry → Prop} {before after : State} {entry : Entry}
    (grown : after.log = before.log ++ [entry]) (fine : allowed entry) : Adds allowed before after :=
  ⟨[entry], grown, by simpa using fine⟩

/-- Lines of two steps follow each other. -/
theorem Adds.trans {allowed : Entry → Prop} {first second third : State}
    (left : Adds allowed first second) (right : Adds allowed second third) :
    Adds allowed first third := by
  obtain ⟨extra, grown, plain⟩ := left
  obtain ⟨more, grownMore, plainToo⟩ := right
  refine ⟨extra ++ more, by rw [grownMore, grown, List.append_assoc], fun entry member => ?_⟩
  rcases List.mem_append.mp member with early | late
  · exact plain entry early
  · exact plainToo entry late

/-- Lines of one kind are lines of a wider one. -/
theorem Adds.mono {allowed permitted : Entry → Prop} {before after : State}
    (adds : Adds allowed before after) (weaker : ∀ entry, allowed entry → permitted entry) :
    Adds permitted before after := by
  obtain ⟨extra, grown, fine⟩ := adds
  exact ⟨extra, grown, fun entry member => weaker entry (fine entry member)⟩

/-- A loop adds what its rounds add. -/
theorem Adds.foldl {α : Type} {allowed : Entry → Prop} {step : State → α → State}
    (each : ∀ state item, Adds allowed state (step state item)) (items : List α) (state : State) :
    Adds allowed state (items.foldl step state) := by
  induction items generalizing state with
  | nil => exact Adds.refl allowed state
  | cons item rest inductionHypothesis =>
    exact (each state item).trans (inductionHypothesis (step state item))

/-- Doing nothing touches no call. -/
theorem Aside.refl (ending : QueryId → Prop) (allowed : Entry → Prop) (state : State) :
    Aside ending allowed state state :=
  ⟨rfl, le_refl _, QueriesKept.refl ending state, Adds.refl allowed state⟩

/-- Two steps that touch no call. -/
theorem Aside.trans {ending : QueryId → Prop} {allowed : Entry → Prop} {first second third : State}
    (left : Aside ending allowed first second) (right : Aside ending allowed second third) :
    Aside ending allowed first third :=
  ⟨right.view.trans left.view, left.nextId.trans right.nextId, left.queries.trans right.queries,
    left.adds.trans right.adds⟩

/-- A step may be said to end more queries and to write more than it does. -/
theorem Aside.mono {ending stopping : QueryId → Prop} {allowed permitted : Entry → Prop}
    {before after : State} (aside : Aside ending allowed before after)
    (more : ∀ query, ending query → stopping query)
    (weaker : ∀ entry, allowed entry → permitted entry) : Aside stopping permitted before after :=
  ⟨aside.view, aside.nextId,
    ⟨aside.queries.nextQuery,
      fun query going => aside.queries.kept query fun ended => going (more query ended),
      aside.queries.running⟩,
    aside.adds.mono weaker⟩

/-- Touches no call, ends no query and reports nobody's identity. -/
abbrev Passive : State → State → Prop := Aside (fun _ => False) Entry.Plain

/-- What `Aside` looks at. -/
structure Frame where
  view : CallView
  nextId : Nat
  holders : QueryId → Holders
  queries : Table QueryId Purpose
  nextQuery : QueryId
  log : List Entry

/-- The frame of a state. -/
def frame (state : State) : Frame where
  view := state.callView
  nextId := state.shared.nextId
  holders := state.holders
  queries := state.swarm.queries
  nextQuery := state.swarm.nextQuery
  log := state.log

/-! The smallest passive steps. -/

/-- A step that leaves the frame as it was is passive. -/
theorem passive_of_frame {before after : State} (same : after.frame = before.frame) :
    Passive before after := by
  obtain ⟨view, nextId, holders, queries, nextQuery, log⟩ := Frame.mk.inj same
  refine ⟨view, nextId.ge, ⟨nextQuery.ge, fun query _ => .inl ⟨?_, ?_⟩, fun query _ => ?_⟩, [], ?_,
    by simp⟩
  · exact congrFun holders query
  · rw [queries]
  · rw [queries]
  · rw [log, List.append_nil]

/-- An effect that is plain is written and no more. -/
theorem passive_did (state : State) (effect : Effect) (plain : (Entry.did effect).Plain) :
    Passive state (state.did effect) :=
  ⟨rfl, le_refl _, ⟨le_refl _, fun _ _ => .inl ⟨rfl, rfl⟩, fun _ _ => rfl⟩, [.did effect], rfl,
    by simpa using plain⟩

/-- An event of a plain kind. -/
theorem passive_emit (state : State) (record : Record)
    (plain : record.header.kind.endsCall = false ∧ record.header.kind.namesPeer = false) :
    Passive state (state.emit record) := by
  refine ⟨rfl, le_refl _, ⟨le_refl _, fun _ _ => .inl ⟨rfl, rfl⟩, fun _ _ => rfl⟩,
    [.did (.emit record)], rfl, ?_⟩
  simpa [Entry.Plain, Effect.call?, plain.1, Effect.namesPeer] using plain.2

/-- A passive step that ends with a plain effect. -/
theorem Aside.did {before after : State} {effect : Effect} (passive : Passive before after)
    (plain : (Entry.did effect).Plain) : Passive before (after.did effect) :=
  passive.trans (passive_did after effect plain)

/-- A passive step that ends with a plain event. -/
theorem Aside.emit {before after : State} {record : Record} (passive : Passive before after)
    (plain : record.header.kind.endsCall = false ∧ record.header.kind.namesPeer = false) :
    Passive before (after.emit record) :=
  passive.trans (passive_emit after record plain)

/-- A query begins, and its owner's table notes it. -/
theorem passive_begin {before after : State} {purpose : Purpose} {effect : Effect}
    (view : after.callView = before.callView) (nextId : after.shared.nextId = before.shared.nextId)
    (running : after.swarm.queries = before.swarm.queries.insert before.swarm.nextQuery purpose)
    (nextQuery : after.swarm.nextQuery = before.swarm.nextQuery + 1)
    (log : after.log = before.log ++ [.did effect]) (plain : (Entry.did effect).Plain)
    (others : ∀ query, query ≠ before.swarm.nextQuery →
      after.holders query = before.holders query)
    (noted : before.holders before.swarm.nextQuery = {} →
      after.holders before.swarm.nextQuery = Holders.expected (some purpose)) :
    Passive before after := by
  refine ⟨view, nextId.ge, ⟨nextQuery ▸ Nat.le_succ _, fun query _ => ?_, fun query old => ?_⟩,
    [.did effect], log, by simpa using plain⟩
  · by_cases own : query = before.swarm.nextQuery
    · subst own
      refine .inr ⟨le_refl _, nextQuery ▸ Nat.lt_succ_self _, fun clear => ?_⟩
      rw [Agrees, noted clear.1, running, AList.lookup_insert]
    · refine .inl ⟨others query own, ?_⟩
      rw [running, AList.lookup_insert_ne own]
  · rw [running, AList.lookup_insert_ne old.ne]

/-- A loop of steps that are aside is aside. -/
theorem aside_foldl {α : Type} {ending : QueryId → Prop} {allowed : Entry → Prop}
    {step : State → α → State} (each : ∀ state item, Aside ending allowed state (step state item))
    (items : List α) (state : State) : Aside ending allowed state (items.foldl step state) := by
  induction items generalizing state with
  | nil => exact Aside.refl ending allowed state
  | cons item rest inductionHypothesis =>
    exact (each state item).trans (inductionHypothesis (step state item))

/-! The handlers that touch no call. -/

/-- A record is put into the DHT by a query that nobody waits for. -/
theorem passive_startProviding (env : Env) (state : State) (key : Bytes) :
    Passive state (state.startProviding env key) := by
  unfold startProviding
  split
  · exact passive_begin rfl rfl rfl rfl rfl ⟨rfl, rfl⟩ (fun _ _ => rfl) id
  · exact Aside.refl _ _ state

/-- It is withdrawn without one. -/
theorem passive_stopProviding (state : State) (key : Bytes) :
    Passive state (state.stopProviding key) :=
  Aside.did (passive_of_frame rfl) ⟨rfl, rfl⟩

/-- The group's record. -/
theorem passive_provide (env : Env) (state : State) : Passive state (state.provide env) :=
  (passive_startProviding env state _).trans (passive_of_frame rfl)

/-- A peer that failed is remembered outside the calls. Their queues stay as they are. -/
theorem passive_rememberFailure (env : Env) (state : State) (peer : PeerId) :
    Passive state (state.rememberFailure env peer) :=
  passive_of_frame rfl

/-- The swarm's book is outside the calls too. -/
theorem passive_addAddresses (state : State) (peer : PeerId) (addresses : List Multiaddr) :
    Passive state (state.addAddresses peer addresses) :=
  passive_of_frame rfl

/-- A reservation listens or fails to. -/
theorem passive_reserveOn (env : Env) (state : State) (candidate : PeerId × Multiaddr) :
    Passive state (state.reserveOn env candidate) := by
  unfold reserveOn
  dsimp only
  split
  · exact Aside.refl _ _ state
  · split
    · exact Aside.did (passive_of_frame rfl) ⟨rfl, rfl⟩
    · exact Aside.did (passive_of_frame rfl) ⟨rfl, rfl⟩

/-- All reservations of a round. -/
theorem passive_reserve (env : Env) (state : State) : Passive state (state.reserve env) := by
  unfold reserve
  split
  · exact Aside.refl _ _ state
  · exact aside_foldl (passive_reserveOn env) _ state

/-- An announcement is published, refused by gossipsub, or not due. -/
theorem passive_announce (env : Env) (state : State) : Passive state (state.announce env) := by
  unfold announce
  split
  · split
    · exact Aside.refl _ _ state
    · dsimp only
      split
      · exact passive_did _ _ ⟨rfl, rfl⟩
      · exact passive_did _ _ ⟨rfl, rfl⟩
      all_goals exact (passive_did state (.publish _ _ _) ⟨rfl, rfl⟩).trans (passive_of_frame rfl)
  · exact Aside.refl _ _ state

/-- A topic's lookup is noted among the lookups of topics. -/
theorem passive_topicLookup (env : Env) (state : State) (key : Key) :
    Passive state (state.topicLookup env key) := by
  have asked : Passive state
      { state.getProviders (Wire.providerKey env.crates key) (.topic key) with
        topicLookups := state.topicLookups.insert state.swarm.nextQuery key } := by
    refine passive_begin rfl rfl rfl rfl rfl ⟨rfl, rfl⟩ ?_ ?_
    · intro query other
      simp [holders, getProviders, did, beginQuery, AList.lookup_insert_ne other]
    · intro clear
      have others := Holders.mk.inj clear
      simp [holders, getProviders, did, beginQuery, Holders.expected, others]
  refine asked.trans ?_
  unfold topicLookup
  dsimp only
  split
  · exact Aside.refl _ _ _
  · exact passive_of_frame rfl

/-- A topic is followed, provided and looked up. -/
theorem passive_topicSubscribe (env : Env) (state : State) (key : Key) :
    Passive state (state.topicSubscribe env key) := by
  unfold topicSubscribe
  dsimp only
  split
  · exact Aside.refl _ _ state
  · split
    · exact Aside.refl _ _ state
    · refine Aside.trans ?_ (passive_topicLookup env _ key)
      refine Aside.trans ?_ (passive_startProviding env _ _)
      exact (passive_did state (.subscribe (Wire.topicName key)) ⟨rfl, rfl⟩).trans
        (passive_of_frame rfl)

/-- A lookup that runs for a topic when it is left goes on. -/
theorem passive_topicUnsubscribe (env : Env) (state : State) (key : Key) :
    Passive state (state.topicUnsubscribe env key) := by
  unfold topicUnsubscribe
  dsimp only
  split
  · exact Aside.refl _ _ state
  · rename_i topic followed
    have left : Passive state (State.did { state with
        topics := state.topics.erase key
        topicKeys := state.topicKeys.erase topic.topic } (.unsubscribe topic.topic)) :=
      Aside.did (passive_of_frame rfl) ⟨rfl, rfl⟩
    exact (left.trans (passive_stopProviding _ _)).trans (passive_of_frame rfl)

/-- A dial is no request. -/
theorem passive_dialTopicMembers (env : Env) (state : State) (dialed : Nat)
    (providers : List PeerId) : Passive state (state.dialTopicMembers env dialed providers) := by
  induction providers generalizing state dialed with
  | nil => exact Aside.refl _ _ state
  | cons peer rest inductionHypothesis =>
    unfold dialTopicMembers
    split
    · exact Aside.refl _ _ state
    · split
      · exact inductionHypothesis state dialed
      · exact (passive_did state (.dial peer _) ⟨rfl, rfl⟩).trans (inductionHypothesis _ _)

/-- A message on a topic is published or refused. -/
theorem passive_topicPublish (env : Env) (state : State) (key : Key) (payload : Bytes) :
    Passive state (state.topicPublish env key payload) := by
  unfold topicPublish
  dsimp only
  split
  · exact Aside.refl _ _ state
  · rename_i topic followed
    have tried (frame : Bytes) (result : PublishResult) :
        Passive state (state.did (.publish topic.topic frame result)) := passive_did _ _ ⟨rfl, rfl⟩
    split
    · exact (tried _ _).trans (passive_of_frame rfl)
    · exact tried _ _

/-- The report of a refusal is an event that ends no call. -/
theorem passive_reportLimited (env : Env) (state : State) (group node : Key)
    (protocol reason : Nat) :
    Passive state (state.reportLimited env (limitedRecord group node protocol reason)) := by
  unfold reportLimited
  dsimp only
  split
  · exact Aside.emit (passive_of_frame rfl) ⟨rfl, rfl⟩
  · exact passive_of_frame rfl

/-- The role changes under calls without notice. -/
theorem passive_switchReachability (env : Env) (state : State) (next : Reachability) :
    Passive state (state.switchReachability env next) := by
  unfold switchReachability
  dsimp only
  split
  · refine Aside.trans ?_ (passive_reserve env _)
    exact passive_of_frame rfl
  · split
    · have dropped (state : State) (reservation : PeerId × ListenerId) :
          Passive state (state.did (.removeListener reservation.2)) := passive_did _ _ ⟨rfl, rfl⟩
      have restored : Passive state (State.keepExternal { state with
          reachability := next
          swarm := { state.swarm with
            externalAddresses := state.swarm.externalAddresses ∪ state.listening.filter fun address =>
              !(state.listensOnWildcard && isLoopback address) } }
          fun address => !isRelayed address) := passive_of_frame rfl
      exact (restored.trans (aside_foldl dropped _ _)).trans (passive_of_frame rfl)
    · exact passive_of_frame rfl

/-- So does AutoNAT's verdict come. -/
theorem passive_natStatus (env : Env) (state : State) (status : NatStatus) :
    Passive state (state.natStatus env status) := by
  have turned (next : Reachability) : Passive state (natStatus.turnTo env state next) := by
    unfold natStatus.turnTo
    dsimp only
    split
    · exact Aside.refl _ _ state
    · refine Aside.emit ?_ ⟨rfl, rfl⟩
      exact (Aside.did (passive_switchReachability env state next) ⟨rfl, rfl⟩).trans
        (passive_of_frame rfl)
  unfold natStatus
  split
  · exact Aside.refl _ _ state
  · split
    · exact Aside.refl _ _ state
    · exact turned .publicNode
    · exact turned .privateNode

/-- A relay that is lost may have carried a call, which libp2p then reports. -/
theorem passive_relayLost (env : Env) (state : State) (listener : ListenerId) :
    Passive state (state.relayLost env listener) := by
  refine aside_foldl ?_ _ state
  exact fun _ _ => passive_of_frame rfl

/-- A peer that can be a relay is kept as a candidate of another kind. -/
theorem passive_offerRelay (state : State) (peer : PeerId) (info : IdentifyInfo) :
    Passive state (state.offerRelay peer info) := by
  unfold offerRelay
  split
  · split
    · exact passive_of_frame rfl
    · exact Aside.refl _ _ state
  · exact Aside.refl _ _ state

/-- What a peer says of itself starts no call. -/
theorem passive_identified (env : Env) (state : State) (peer : PeerId) (info : IdentifyInfo) :
    Passive state (state.identified env peer info) := by
  have known : Passive state ((state.offerRelay peer info).addAddresses peer info.listenAddrs) :=
    (passive_offerRelay state peer info).trans (passive_addAddresses _ _ _)
  unfold identified
  dsimp only
  refine Aside.trans ?_ (passive_reserve env _)
  split
  · refine known.trans (aside_foldl ?_ _ _)
    exact fun state address => passive_did state (.addAddress peer address) ⟨rfl, rfl⟩
  · exact known

/-- A sample is answered to the caller's thread. -/
theorem passive_routingSample (env : Env) (state : State) (max : Nat) :
    Passive state (state.routingSample env max).1 := by
  unfold routingSample
  dsimp only
  split
  · exact Aside.refl _ _ state
  · exact passive_of_frame rfl

/-- An address that comes up is noted. -/
theorem passive_noteListenAddr (env : Env) (state : State) (address : Multiaddr) :
    Passive state (state.noteListenAddr env address) := by
  unfold noteListenAddr
  dsimp only
  split
  · have external : Passive state
        ((state.addExternalAddress address).did (.identifyPush env.connectedPeers)) :=
      Aside.did (passive_of_frame rfl) ⟨rfl, rfl⟩
    exact external.trans (passive_of_frame rfl)
  · split
    · exact passive_of_frame rfl
    · exact Aside.refl _ _ state

/-- It is also reported. -/
theorem passive_newListenAddr (env : Env) (state : State) (address : Multiaddr) :
    Passive state (state.newListenAddr env address) := by
  unfold newListenAddr
  dsimp only
  refine Aside.emit ?_ ⟨rfl, rfl⟩
  split
  · exact (passive_noteListenAddr env state address).trans (passive_of_frame rfl)
  · exact passive_noteListenAddr env state address

/-- A connection that opens moves no call. A candidate's dial is part of its request. -/
theorem passive_connectionEstablished (env : Env) (state : State) (peer : PeerId)
    (connection : ConnectionId) (numEstablished : Nat) (endpoint : ConnectedPoint) :
    Passive state (state.connectionEstablished env peer connection numEstablished endpoint) := by
  unfold connectionEstablished
  dsimp only
  split
  · refine Aside.emit ?_ ⟨rfl, rfl⟩
    split <;> split <;> (try split) <;> exact passive_of_frame rfl
  · split <;> split <;> (try split) <;> exact passive_of_frame rfl

/-- Nor does one that closes, until libp2p reports the request. -/
theorem passive_connectionClosed (env : Env) (state : State) (peer : PeerId)
    (connection : ConnectionId) (numEstablished : Nat) :
    Passive state (state.connectionClosed env peer connection numEstablished) := by
  unfold connectionClosed
  dsimp only
  split
  · exact Aside.emit (passive_of_frame rfl) ⟨rfl, rfl⟩
  · exact passive_of_frame rfl

/-- Nor does one that replaces a relay's. -/
theorem passive_holePunched (env : Env) (state : State) (peer : PeerId)
    (result : Except Bytes ConnectionId) : Passive state (state.holePunched env peer result) := by
  cases result with
  | ok connection => exact passive_emit _ _ ⟨rfl, rfl⟩
  | error text => exact passive_emit _ _ ⟨rfl, rfl⟩

/-- An answer belongs to an inbound request. -/
theorem passive_respond (state : State) (id : Nat) (payload : Bytes) :
    Passive state (state.respond id payload) := by
  unfold respond
  split
  · exact Aside.refl _ _ state
  · exact Aside.did (passive_of_frame rfl) ⟨rfl, rfl⟩

/-- The caller may give an address a call is looking for, and the call does not notice
before it is looked at. -/
theorem passive_addAddress (env : Env) (state : State) (node : Key) (address : Multiaddr) :
    Passive state (state.addAddress env node address) := by
  unfold addAddress
  split
  · exact Aside.refl _ _ state
  · exact Aside.did (passive_addAddresses _ _ _) ⟨rfl, rfl⟩

/-- The end of an inbound request. -/
theorem passive_inboundEnded (state : State) (request : InboundRequestId) :
    Passive state (state.inboundEnded request) := by
  unfold inboundEnded
  split
  · exact Aside.refl _ _ state
  · exact passive_of_frame rfl

/-- A bootstrap's query is noted among the bootstraps, if it starts. -/
theorem passive_bootstrap (env : Env) (state : State) (id : Nat) :
    Passive state (state.bootstrap env id) := by
  unfold bootstrap
  split
  · refine passive_begin rfl rfl rfl rfl rfl ⟨rfl, rfl⟩ ?_ ?_
    · intro query other
      simp [holders, did, beginQuery, AList.lookup_insert_ne other]
    · intro clear
      have others := Holders.mk.inj clear
      simp [holders, did, beginQuery, Holders.expected, others]
  · exact passive_emit _ _ ⟨rfl, rfl⟩

/-- A walk's is noted among the walks. -/
theorem passive_randomWalk (env : Env) (state : State) (id : Nat) :
    Passive state (state.randomWalk env id) := by
  refine passive_begin rfl rfl rfl rfl rfl ⟨rfl, rfl⟩ ?_ ?_
  · intro query other
    simp [randomWalk, holders, getClosestPeers, did, beginQuery, AList.lookup_insert_ne other]
  · intro clear
    have others := Holders.mk.inj clear
    simp [randomWalk, holders, getClosestPeers, did, beginQuery, Holders.expected, others]

/-- A search's is noted among the caller's. -/
theorem passive_findProviders (env : Env) (state : State) (id : Nat) (key : Key) :
    Passive state (state.findProviders env id key) := by
  refine passive_begin rfl rfl rfl rfl rfl ⟨rfl, rfl⟩ ?_ ?_
  · intro query other
    simp [findProviders, holders, getProviders, did, beginQuery, AList.lookup_insert_ne other]
  · intro clear
    have others := Holders.mk.inj clear
    simp [findProviders, holders, getProviders, did, beginQuery, Holders.expected, others]

/-- The limits are outside the calls. -/
theorem passive_sweepLimits (env : Env) (state : State) :
    Passive state (state.sweepLimits env) := by
  unfold sweepLimits
  split
  · exact passive_of_frame rfl
  · exact Aside.refl _ _ state

/-- So is the record. -/
theorem passive_provideAgain (env : Env) (state : State) :
    Passive state (state.provideAgain env) := by
  unfold provideAgain
  split
  · exact passive_provide env state
  · exact Aside.refl _ _ state

/-- The start of the node. -/
theorem passive_ready (env : Env) (state : State) : Passive state (state.ready env) :=
  Aside.trans (passive_emit state (reachabilityRecord state.configured) ⟨rfl, rfl⟩)
    (passive_provide env _)

/-- Everything a tick does after the calls whose deadline has passed. -/
theorem passive_tick (env : Env) (state : State) :
    Passive ((state.expired env).foldl (fun state id => state.failCall id failTimeout) state)
      (state.tick env) := by
  unfold tick
  dsimp only
  generalize (state.expired env).foldl (fun state id => state.failCall id failTimeout) state = timedOut
  have announced := (passive_reserve env timedOut).trans (passive_announce env _)
  have lookedUp := announced.trans (aside_foldl (passive_topicLookup env)
    (lonely env (announce env (reserve env timedOut))) _)
  exact ((lookedUp.trans (passive_sweepLimits env _)).trans (passive_provideAgain env _)).trans
    (passive_of_frame rfl)

/-! Handlers that report a peer's identity touch no call either. -/

/-- An event that does not end a call. -/
theorem quiet_emit (state : State) (record : Record)
    (quiet : record.header.kind.endsCall = false) :
    Aside (fun _ => False) Entry.Quiet state (state.emit record) := by
  refine ⟨rfl, le_refl _, ⟨le_refl _, fun _ _ => .inl ⟨rfl, rfl⟩, fun _ _ => rfl⟩,
    [.did (.emit record)], rfl, ?_⟩
  simp [Entry.Quiet, Effect.call?, quiet]

/-- A passive step is quiet. -/
theorem Aside.quiet {before after : State} (passive : Passive before after) :
    Aside (fun _ => False) Entry.Quiet before after :=
  passive.mono (fun _ => id) fun _ => Entry.Plain.quiet

/-- A step that leaves the frame as it was is quiet. -/
theorem quiet_of_frame {before after : State} (same : after.frame = before.frame) :
    Aside (fun _ => False) Entry.Quiet before after :=
  (passive_of_frame same).quiet

/-- A message is reported with its sender's identity, and with no call. -/
theorem quiet_topicMessage (env : Env) (state : State) (propagationSource : PeerId)
    (message : GossipMessage) :
    Aside (fun _ => False) Entry.Quiet state
      (state.topicMessage env propagationSource message).1 := by
  unfold topicMessage
  dsimp only
  split
  · exact Aside.refl _ _ state
  · split
    · exact Aside.refl _ _ state
    · split
      · exact Aside.refl _ _ state
      · split
        · refine Aside.trans (Aside.quiet ?_) (passive_reportLimited env _ _ _ _ _).quiet
          exact passive_of_frame rfl
        · refine Aside.trans (Aside.quiet ?_) (quiet_emit _ _ rfl)
          exact passive_of_frame rfl

/-- So is an announcement. -/
theorem quiet_announcementMessage (env : Env) (state : State) (message : GossipMessage) :
    Aside (fun _ => False) Entry.Quiet state (state.announcementMessage env message).1 := by
  unfold announcementMessage
  dsimp only
  split
  · exact Aside.refl _ _ state
  · split
    · exact Aside.refl _ _ state
    · split
      · refine Aside.trans (Aside.quiet ?_) (quiet_emit _ _ rfl)
        exact passive_of_frame rfl
      · exact quiet_of_frame rfl

/-- All of gossipsub's events. -/
theorem quiet_gossipsubEvent (env : Env) (state : State) (event : GossipEvent) :
    Aside (fun _ => False) Entry.Quiet state (state.gossipsubEvent env event) := by
  cases event with
  | subscribed => exact (passive_announce env state).quiet
  | message propagationSource id message =>
    unfold gossipsubEvent
    dsimp only
    split
    · exact (quiet_topicMessage env state propagationSource message).trans
        (passive_did _ _ ⟨rfl, rfl⟩).quiet
    · exact (quiet_announcementMessage env state message).trans (passive_did _ _ ⟨rfl, rfl⟩).quiet
  | other => exact Aside.refl _ _ state

/-- A request is reported under a new id, which is no call's. -/
theorem quiet_inboundRequest (env : Env) (state : State) (peer : PeerId)
    (connection : ConnectionId) (request : InboundRequestId) (frame : Bytes)
    (channel : ResponseChannel) :
    Aside (fun _ => False) Entry.Quiet state
      (state.inboundRequest env peer connection request frame channel) := by
  unfold inboundRequest
  dsimp only
  split
  · exact Aside.refl _ _ state
  · split
    · refine Aside.trans (Aside.quiet ?_) (passive_reportLimited env _ _ _ _ _).quiet
      exact passive_of_frame rfl
    · rename_i node group protocol payload _ _ limits _
      have admitted : Aside (fun _ => False) Entry.Quiet state
          { state with
            limits
            shared :=
              { state.shared with
                nextId := state.shared.nextId + 1, rpcIn := state.shared.rpcIn + 1 } } :=
        ⟨rfl, Nat.le_succ _, ⟨le_refl _, fun _ _ => .inl ⟨rfl, rfl⟩, fun _ _ => rfl⟩, Adds.refl _ _⟩
      exact (admitted.trans (quiet_emit _ (rpcRequest state.shared.nextId group node protocol payload)
        rfl)).trans (quiet_of_frame rfl)

/-! Handlers that end a query. -/

/-- A query that is not new to a handler is as it was. -/
theorem Aside.old {ending : QueryId → Prop} {allowed : Entry → Prop} {before after : State}
    (aside : Aside ending allowed before after) {query : QueryId} (going : ¬ ending query)
    (old : query < before.swarm.nextQuery) :
    after.holders query = before.holders query ∧
      after.swarm.queries.lookup query = before.swarm.queries.lookup query := by
  rcases aside.queries.kept query going with same | ⟨isNew, -, -⟩
  · exact same
  · exact absurd old (not_lt.mpr isNew)

/-- A handler that ends no query is aside whichever query is ending. -/
theorem Aside.ending {ending : QueryId → Prop} {allowed : Entry → Prop} {before after : State}
    (aside : Aside (fun _ => False) allowed before after) : Aside ending allowed before after :=
  aside.mono (fun _ => False.elim) fun _ plain => plain

/-- Dropping what the tables say of one query is aside of all the others. -/
theorem aside_drop {before after : State} {query : QueryId} {ending : QueryId → Prop}
    (view : after.callView = before.callView) (nextId : after.shared.nextId = before.shared.nextId)
    (running : after.swarm.queries = before.swarm.queries)
    (nextQuery : after.swarm.nextQuery = before.swarm.nextQuery) (log : after.log = before.log)
    (others : ∀ other, other ≠ query → after.holders other = before.holders other)
    (ends : ending query) : Aside ending Entry.Plain before after := by
  refine ⟨view, nextId.ge, ⟨nextQuery.ge, fun other going => .inl ⟨?_, ?_⟩, fun other _ => ?_⟩, [],
    ?_, by simp⟩
  · exact others other fun same => going (same ▸ ends)
  · rw [running]
  · rw [running]
  · rw [log, List.append_nil]

/-- The last step of a topic's lookup ends it. -/
theorem aside_topicProviders (env : Env) (state : State) (query : QueryId)
    (result : GetProvidersResult) (last : Bool) :
    Aside (fun other => last = true ∧ other = query) Entry.Plain state
      (state.topicProviders env query result last) := by
  have dialed := passive_dialTopicMembers env state 0 (providersFound result)
  unfold topicProviders
  dsimp only
  split
  · rename_i isLast
    refine dialed.ending.trans ?_
    refine aside_drop rfl rfl rfl rfl rfl (fun other different => ?_) ⟨isLast, rfl⟩
    simp [holders, AList.lookup_erase_ne different]
  · exact dialed.ending

/-- Providers found for the caller are reported under the caller's id. -/
theorem passive_reportProviders (env : Env) (id : Nat) (providers : List PeerId) (state : State) :
    Passive state (providers.foldl
      (fun state provider => state.emit
        (discovered env.crates id provider (state.swarm.addressBook.addressesOf provider))) state) :=
  aside_foldl (fun state provider => passive_emit state
    (discovered env.crates id provider (state.swarm.addressBook.addressesOf provider)) ⟨rfl, rfl⟩)
    providers state

/-- The last step of a search ends it. -/
theorem aside_callerProviders (env : Env) (state : State) (query : QueryId) (id : Nat)
    (result : GetProvidersResult) (last : Bool) :
    Aside (fun other => last = true ∧ other = query) Entry.Plain state
      (state.callerProviders env query id result last) := by
  have reported := passive_reportProviders env id (providersFound result) state
  unfold callerProviders
  dsimp only
  split
  · rename_i isLast
    refine Aside.trans ?_ (passive_emit _ (dhtResult id 0) ⟨rfl, rfl⟩).ending
    refine reported.ending.trans ?_
    refine aside_drop rfl rfl rfl rfl rfl (fun other different => ?_) ⟨isLast, rfl⟩
    simp [holders, AList.lookup_erase_ne different]
  · exact reported.ending

/-- So are the peers of a walk, and then the walk itself. -/
theorem passive_reportWalked (env : Env) (id : Nat) (peers : List PeerInfo) (state : State) :
    Passive state ((peers.foldl
      (fun state info => state.emit (discovered env.crates id info.peer info.addrs)) state).emit
        (dhtResult id 0)) := by
  refine Aside.emit (aside_foldl ?_ peers state) ⟨rfl, rfl⟩
  exact fun state info => passive_emit state _ ⟨rfl, rfl⟩

/-- A walk has one step, which ends it. -/
theorem aside_walked (env : Env) (state : State) (query : QueryId) (id : Nat)
    (peers : List PeerInfo) :
    Aside (fun other => other = query) Entry.Plain state (state.walked env query id peers) := by
  have dropped : Aside (fun other => other = query) Entry.Plain state
      { state with walks := state.walks.erase query } := by
    refine aside_drop rfl rfl rfl rfl rfl (fun other different => ?_) (Eq.refl query)
    simp [holders, AList.lookup_erase_ne different]
  exact dropped.trans (passive_reportWalked env id peers _).ending

/-- A bootstrap has several, of which the last ends it. -/
theorem aside_bootstrapReported (state : State) (query : QueryId) (ok last : Bool) :
    Aside (fun other => last = true ∧ other = query) Entry.Plain state
      (state.bootstrapReported query ok last) := by
  unfold bootstrapReported
  dsimp only
  split
  · rename_i isLast
    split
    · refine Aside.ending ?_
      exact passive_of_frame rfl
    · rename_i id found
      have dropped : Aside (fun other => last = true ∧ other = query) Entry.Plain state
          { state with bootstraps := state.bootstraps.erase query } := by
        refine aside_drop rfl rfl rfl rfl rfl (fun other different => ?_) ⟨isLast, rfl⟩
        simp [holders, AList.lookup_erase_ne different]
      have reported := passive_emit { state with bootstraps := state.bootstraps.erase query }
        (dhtResult id (if ok then 0 else failTimeout)) ⟨rfl, rfl⟩
      refine dropped.trans (Aside.ending ?_)
      exact reported.trans (passive_of_frame rfl)
  · exact Aside.refl _ _ state

/-! Commands and events. -/

/-- Every command but the one that starts a call touches none. -/
theorem passive_command (env : Env) (state : State) (command : Command)
    (notCall : ∀ id group node protocol payload timeout,
      command ≠ .rpc id group node protocol payload timeout) :
    Passive state (state.command env command) := by
  cases command with
  | rpc id group node protocol payload timeout =>
    exact absurd rfl (notCall id group node protocol payload timeout)
  | respond => exact passive_respond state _ _
  | reject => exact passive_of_frame rfl
  | addAddress => exact passive_addAddress env state _ _
  | bootstrap => exact passive_bootstrap env state _
  | randomWalk => exact passive_randomWalk env state _
  | setClass => exact passive_of_frame rfl
  | announceSetPayload =>
    refine Aside.trans ?_ (passive_announce env _)
    exact passive_of_frame rfl
  | setLimit => exact passive_of_frame rfl
  | topicSubscribe => exact passive_topicSubscribe env state _
  | topicUnsubscribe => exact passive_topicUnsubscribe env state _
  | topicPublish => exact passive_topicPublish env state _ _
  | topicPeers => exact passive_did state _ ⟨rfl, rfl⟩
  | provide key stop =>
    unfold State.command
    dsimp only
    split
    · exact passive_stopProviding state _
    · exact passive_startProviding env state _
  | findProviders => exact passive_findProviders env state _ _
  | routingSample max => exact (passive_routingSample env state max).did ⟨rfl, rfl⟩
  | shutdown => exact Aside.refl _ _ state

/-- Events that report on nothing of the node's own. -/
theorem quiet_swarmEvent (env : Env) (state : State) (event : SwarmEvent)
    (quiet : event.reports = false) :
    Aside (fun _ => False) Entry.Quiet state (state.swarmEvent env event) := by
  cases event with
  | newListenAddr => exact (passive_newListenAddr env state _).quiet
  | expiredListenAddr => exact quiet_of_frame rfl
  | listenerClosed => exact (passive_relayLost env state _).quiet
  | listenerError => exact (passive_relayLost env state _).quiet
  | connectionEstablished => exact (passive_connectionEstablished env state _ _ _ _).quiet
  | connectionClosed => exact (passive_connectionClosed env state _ _ _).quiet
  | kad event =>
    cases event with
    | routingUpdated peer addresses isNewPeer =>
      unfold swarmEvent kadEvent
      dsimp only
      split <;> exact quiet_of_frame rfl
    | progressed => cases quiet
    | other => exact Aside.refl _ _ state
  | identified => exact (passive_identified env state _ _).quiet
  | rpc event =>
    cases event with
    | request => exact quiet_inboundRequest env state _ _ _ _ _
    | response => cases quiet
    | outboundFailure => cases quiet
    | inboundFailure => exact (passive_inboundEnded state _).quiet
    | responseSent => exact (passive_inboundEnded state _).quiet
  | gossipsub event => exact quiet_gossipsubEvent env state event
  | dcutr => exact (passive_holePunched env state _ _).quiet
  | autonat => exact (passive_natStatus env state _).quiet
  | other => exact Aside.refl _ _ state

end State

end Libp2pFfi
