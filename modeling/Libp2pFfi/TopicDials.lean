import Libp2pFfi.EventLoop
import Mathlib.Algebra.Order.BigOperators.Group.List

/-!
# Dials on behalf of a topic's lookup

A lookup of a topic's members reports its providers in batches, and of each batch a few
are dialed. The number of dials is counted within the batch; the next batch of the same
lookup starts from zero. So a lookup makes as many dials as its batches allow, six for
each of them, and six altogether only if the batches are few or small.
-/

namespace Libp2pFfi

/-! Numbers that are cut off. -/

/-- Nothing comes of what is zero. -/
theorem sum_min_filter (cap : Nat) (counts : List Nat) :
    (counts.map (min cap)).sum = ((counts.filter (0 < ·)).map (min cap)).sum := by
  induction counts with
  | nil => rfl
  | cons count rest inductionHypothesis =>
    by_cases positive : 0 < count
    · rw [List.filter_cons_of_pos (by simpa using positive), List.map_cons, List.map_cons,
        List.sum_cons, List.sum_cons, inductionHypothesis]
    · obtain rfl : count = 0 := by omega
      rw [List.filter_cons_of_neg (by simp), List.map_cons, List.sum_cons, inductionHypothesis,
        Nat.min_zero, Nat.zero_add]

/-- A number that is cut leaves nothing for others. -/
theorem length_of_cut {cap large : Nat} {counts : List Nat} (some : 0 < cap)
    (positive : ∀ count ∈ counts, 0 < count) (member : large ∈ counts) (cut : cap < large)
    (bounded : (counts.map (min cap)).sum ≤ cap) : counts.length = 1 := by
  obtain ⟨before, behind, rfl⟩ := List.append_of_mem member
  have each (part : List Nat) (within : ∀ count ∈ part, 0 < count) :
      part.length ≤ (part.map (min cap)).sum := by
    have ones := List.length_le_sum_of_one_le (part.map (min cap)) (by
      intro value isValue
      obtain ⟨count, counted, rfl⟩ := List.mem_map.mp isValue
      have := within count counted
      omega)
    rwa [List.length_map] at ones
  have first := each before fun count counted => positive count (List.mem_append_left _ counted)
  have last := each behind fun count counted =>
    positive count (List.mem_append_right _ (List.mem_cons_of_mem _ counted))
  rw [List.map_append, List.map_cons, List.sum_append, List.sum_cons,
    Nat.min_eq_left cut.le] at bounded
  rw [List.length_append, List.length_cons]
  omega

/-- Numbers of which each is cut off at `cap` add up to no more than `cap` exactly if
they do so uncut, or all but one of them are zero. -/
theorem sum_min_le_iff {cap : Nat} (some : 0 < cap) (counts : List Nat) :
    (counts.map (min cap)).sum ≤ cap ↔
      counts.sum ≤ cap ∨ (counts.filter (0 < ·)).length ≤ 1 := by
  constructor
  · intro bounded
    by_cases uncut : ∀ count ∈ counts, count ≤ cap
    · have same : counts.map (min cap) = counts := by
        conv_rhs => rw [← List.map_id counts]
        exact List.map_congr_left fun count member => Nat.min_eq_right (uncut count member)
      rw [same] at bounded
      exact .inl bounded
    · push Not at uncut
      obtain ⟨large, member, cut⟩ := uncut
      have positive : ∀ count ∈ counts.filter (0 < ·), 0 < count := by
        intro count counted
        simpa using (List.mem_filter.mp counted).2
      have counted : large ∈ counts.filter (0 < ·) :=
        List.mem_filter.mpr ⟨member, decide_eq_true (by omega)⟩
      rw [sum_min_filter] at bounded
      exact .inr (length_of_cut some positive counted cut bounded).le
  · rintro (uncut | single)
    · have each : (counts.map (min cap)).sum ≤ (counts.map id).sum :=
        List.sum_le_sum fun count _ => Nat.min_le_right cap count
      rw [List.map_id] at each
      exact each.trans uncut
    · rw [sum_min_filter]
      cases positives : counts.filter (0 < ·) with
      | nil => exact Nat.zero_le cap
      | cons count rest =>
        rw [positives, List.length_cons] at single
        obtain rfl : rest = [] := List.eq_nil_of_length_eq_zero (by omega)
        simp

/-! One batch. -/

/-- The peer of a dial that libp2p took on. -/
def Entry.dialed? : Entry → Option PeerId
  | did (.dial peer true) => some peer
  | _ => none

/-- A provider that is dialed if its turn comes: another node, not connected, that libp2p
can dial. -/
def State.dialable (env : Env) (state : State) (peer : PeerId) : Bool :=
  peer ≠ state.localPeer && !env.isConnected peer && env.dials peer

/-- The first few of those in a batch are dialed. -/
theorem State.dialTopicMembers_log (env : Env) (state : State) (dialed : Nat)
    (providers : List PeerId) :
    ∃ entries, (state.dialTopicMembers env dialed providers).log = state.log ++ entries ∧
      entries.filterMap Entry.dialed? =
        (providers.filter (state.dialable env)).take (topicDials - dialed) := by
  induction providers generalizing dialed state with
  | nil => exact ⟨[], (List.append_nil _).symm, by simp⟩
  | cons peer rest inductionHypothesis =>
    unfold dialTopicMembers
    by_cases enough : dialed ≥ topicDials
    · rw [if_pos enough, Nat.sub_eq_zero_of_le enough, List.take_zero]
      exact ⟨[], (List.append_nil _).symm, rfl⟩
    · rw [if_neg enough]
      by_cases skipped : peer = state.localPeer ∨ env.isConnected peer = true
      · have not : state.dialable env peer = false := by
          rcases skipped with isLocal | connected
          · simp [dialable, isLocal]
          · simp [dialable, connected]
        rw [if_pos skipped, List.filter_cons_of_neg (by rw [not]; exact Bool.false_ne_true)]
        exact inductionHypothesis state dialed
      · rw [if_neg skipped]
        obtain ⟨other, unconnected⟩ := not_or.mp skipped
        have dials : state.dialable env peer = env.dials peer := by
          simp [dialable, other, unconnected]
        obtain ⟨entries, log, taken⟩ := inductionHypothesis
          (state.did (.dial peer (env.dials peer))) (if env.dials peer then dialed + 1 else dialed)
        refine ⟨.did (.dial peer (env.dials peer)) :: entries, ?_, ?_⟩
        · rw [log, State.did, List.append_assoc]
          rfl
        · have same : (state.did (.dial peer (env.dials peer))).dialable env = state.dialable env :=
            rfl
          rw [same] at taken
          cases ok : env.dials peer with
          | true =>
            have room : topicDials - dialed = topicDials - (dialed + 1) + 1 := by omega
            rw [ok, if_pos rfl] at taken
            rw [List.filter_cons_of_pos (dials.trans ok), room, List.take_succ_cons, ← taken]
            rfl
          | false =>
            rw [ok, if_neg Bool.false_ne_true] at taken
            rw [List.filter_cons_of_neg (by rw [dials, ok]; exact Bool.false_ne_true), ← taken]
            rfl

/-! A lookup. -/

/-- A step of a lookup of a topic's members: what it found, and the swarm at the time. -/
def System.batch? (query : QueryId) (system : System) : Action → Option (Env × List PeerId)
  | .handle env (.swarm (.kad (.progressed progressed (.getProviders result) _))) =>
    if progressed = query ∧ (system.state.topicLookups.lookup query).isSome then
      some (env, State.providersFound result)
    else none
  | _ => none

/-- A dial that libp2p took on, and what the node and the swarm knew of its peer. -/
structure TopicDial where
  peer : PeerId
  isLocal : Bool
  isConnected : Bool

/-- The dials one action makes on behalf of a lookup, as the log has them. -/
def System.batchDials (query : QueryId) (system : System) (action : Action) : List TopicDial :=
  match system.batch? query action with
  | some (env, _) =>
    (((system.step action).state.log.drop system.state.log.length).filterMap Entry.dialed?).map
      fun peer =>
        { peer, isLocal := peer = system.state.localPeer, isConnected := env.isConnected peer }
  | none => []

/-- The dials of a lookup over a whole run. -/
def System.lookupDials (query : QueryId) : System → List Action → List TopicDial
  | _, [] => []
  | system, action :: later =>
    system.batchDials query action ++ lookupDials query (system.step action) later

/-- How many dialable providers each batch of a lookup has. -/
def System.dialableCounts (query : QueryId) : System → List Action → List Nat
  | _, [] => []
  | system, action :: later =>
    (system.batch? query action).toList.map (fun batch =>
        (batch.2.filter (system.state.dialable batch.1)).length) ++
      dialableCounts query (system.step action) later

/-- What the comment on `TOPIC_DIALS` promises of a lookup. -/
structure DialsFew (dials : List TopicDial) : Prop where
  few : dials.length ≤ topicDials
  strangers : ∀ dial ∈ dials, dial.isLocal = false ∧ dial.isConnected = false

theorem System.batch?_eq_some {query : QueryId} {system : System} {action : Action} {env : Env}
    {providers : List PeerId} (batch : system.batch? query action = some (env, providers)) :
    ∃ result last, action =
        .handle env (.swarm (.kad (.progressed query (.getProviders result) last))) ∧
      (system.state.topicLookups.lookup query).isSome ∧
      providers = State.providersFound result := by
  unfold System.batch? at batch
  split at batch
  · rename_i swarm progressed result last
    split at batch
    · rename_i step
      obtain ⟨rfl, lookup⟩ := step
      obtain ⟨rfl, rfl⟩ := Prod.mk.inj (Option.some.inj batch)
      exact ⟨result, last, rfl, lookup, rfl⟩
    · cases batch
  · cases batch

/-- What is handed over does not touch the node itself. -/
theorem State.deliver_progressed (state : State) (query : QueryId) (result : QueryResult)
    (last : Bool) :
    ∃ swarm, state.deliver (.swarm (.kad (.progressed query result last))) =
      { state with swarm } := by
  cases last with
  | true => exact ⟨_, rfl⟩
  | false => exact ⟨state.swarm, rfl⟩

/-- Such a step is the lookup's alone, and does nothing but dial. -/
theorem State.handle_progressed (env : Env) (state : State) {query : QueryId}
    (lookup : (state.topicLookups.lookup query).isSome) (result : GetProvidersResult) (last : Bool) :
    let input := .swarm (.kad (.progressed query (.getProviders result) last))
    (state.handle env input).log =
      ((state.heard env.nowMs input).dialTopicMembers env 0 (providersFound result)).log := by
  intro input
  have shape : state.handle env input =
      (state.heard env.nowMs input).topicProviders env query result last := if_pos lookup
  rw [shape, topicProviders]
  cases last <;> rfl

/-- The log of a step of a topic's lookup. -/
theorem System.batch_log {query : QueryId} {system : System} {action : Action} {env : Env}
    {providers : List PeerId} (batch : system.batch? query action = some (env, providers)) :
    ((system.step action).state.log.drop system.state.log.length).filterMap Entry.dialed? =
      (providers.filter (system.state.dialable env)).take topicDials := by
  obtain ⟨result, last, rfl, lookup, rfl⟩ := System.batch?_eq_some batch
  obtain ⟨swarm, delivered⟩ := system.state.deliver_progressed query (.getProviders result) last
  have handled := State.handle_progressed env { system.state with swarm } lookup result last
  obtain ⟨entries, log, taken⟩ := State.dialTopicMembers_log env
    (State.heard { system.state with swarm } env.nowMs
      (.swarm (.kad (.progressed query (.getProviders result) last)))) 0
    (State.providersFound result)
  show (((system.state.deliver _).handle env _).log.drop _).filterMap _ = _
  rw [delivered, handled, log, State.heard, List.append_assoc, List.drop_left]
  exact taken

/-- A batch makes a dial for each dialable provider, up to the limit. -/
theorem System.batchDials_eq (query : QueryId) (system : System) (action : Action) :
    (system.batchDials query action).length =
        (((system.batch? query action).toList.map fun batch =>
          (batch.2.filter (system.state.dialable batch.1)).length).map (min topicDials)).sum ∧
      ∀ dial ∈ system.batchDials query action, dial.isLocal = false ∧ dial.isConnected = false := by
  unfold System.batchDials
  cases batch : system.batch? query action with
  | none => simp
  | some found =>
    obtain ⟨env, providers⟩ := found
    dsimp only
    rw [System.batch_log batch]
    constructor
    · simp [List.length_take]
    · intro dial member
      obtain ⟨peer, taken, rfl⟩ := List.mem_map.mp member
      have dialable := (List.mem_filter.mp (List.mem_of_mem_take taken)).2
      simp only [State.dialable, Bool.and_eq_true, decide_eq_true_eq, Bool.not_eq_true'] at dialable
      simp [dialable]

/-- Over a whole run: one dial for each dialable provider, up to the limit in each batch. -/
theorem System.lookupDials_eq (query : QueryId) (system : System) (actions : List Action) :
    (system.lookupDials query actions).length =
        ((system.dialableCounts query actions).map (min topicDials)).sum ∧
      ∀ dial ∈ system.lookupDials query actions,
        dial.isLocal = false ∧ dial.isConnected = false := by
  induction actions generalizing system with
  | nil => exact ⟨rfl, nofun⟩
  | cons action later inductionHypothesis =>
    obtain ⟨count, strangers⟩ := system.batchDials_eq query action
    obtain ⟨laterCount, laterStrangers⟩ := inductionHypothesis (system.step action)
    rw [lookupDials, dialableCounts]
    constructor
    · rw [List.length_append, List.map_append, List.sum_append, count, laterCount]
    · intro dial member
      rcases List.mem_append.mp member with now | after
      · exact strangers dial now
      · exact laterStrangers dial after

/-- A lookup keeps to the limit exactly if at most one of its batches has a provider that
can be dialed, or all of them together have no more than the limit. -/
theorem topic_dials_iff (query : QueryId) (system : System) (actions : List Action) :
    DialsFew (system.lookupDials query actions) ↔
      (system.dialableCounts query actions).sum ≤ topicDials ∨
        ((system.dialableCounts query actions).filter (0 < ·)).length ≤ 1 := by
  obtain ⟨count, strangers⟩ := system.lookupDials_eq query actions
  rw [← sum_min_le_iff (by decide), ← count]
  exact ⟨DialsFew.few, fun few => ⟨few, strangers⟩⟩

/-! Two batches of one lookup. -/

/-- Six providers, each under a number of its own. -/
def Sample.members (first : UInt8) : List PeerId :=
  (List.range 6).map fun index => ⟨0, [first + UInt8.ofNat index]⟩

/-- The node starts and follows a topic, and the lookup of the topic's members, its third
query, finds six providers and then six others. -/
def Sample.twoBatches : List Action :=
  [.ready Sample.env, .handle Sample.env (.command (.topicSubscribe Sample.topic)),
    .handle Sample.env
      (.swarm (.kad (.progressed 2 (.getProviders (.found (Sample.members 0))) false))),
    .handle Sample.env
      (.swarm (.kad (.progressed 2 (.getProviders (.found (Sample.members 6))) true)))]

theorem twelve_dials_for_a_lookup :
    System.Run Sample.crates Sample.config Sample.peer 0 Sample.twoBatches ∧
      ((System.start Sample.config Sample.peer 0).lookupDials 2 Sample.twoBatches).length = 12 ∧
      ¬ DialsFew ((System.start Sample.config Sample.peer 0).lookupDials 2 Sample.twoBatches) := by
  have count : ((System.start Sample.config Sample.peer 0).lookupDials 2
      Sample.twoBatches).length = 12 := by
    decide +kernel
  refine ⟨?_, count, fun kept => absurd (count ▸ kept.few) (by decide)⟩
  simp only [System.Run, Sample.twoBatches, Runs.admissible_cons, Runs.admissible_nil, and_true]
  refine ⟨⟨rfl, rfl⟩, ⟨rfl, rfl, ?_, trivial⟩, ⟨rfl, .topic Sample.topic, ?_, trivial⟩, rfl,
    .topic Sample.topic, ?_, trivial⟩ <;> decide +kernel

end Libp2pFfi
