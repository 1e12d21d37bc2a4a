import Libp2pFfi.FrameFormat
import Libp2pFfi.Latest
import Libp2pFfi.Memory

/-!
# Announcing a payload

A payload is published when it is set, and while gossipsub refuses it, again at every
tick and whenever a peer subscribes. The node remembers what it published last and does
not publish that again. It is a publisher of the latest value: `State.publisher` reads
one off the node and its log, and each action that announces is an occasion of it.
-/

namespace Libp2pFfi

open Latest

/-- `lp2p_announce_set_payload`: the command it sends, or the status it answers instead. -/
def lp2pAnnounceSetPayload (config : Config) (payload : Bytes) : Except Int Command :=
  match config.announce with
  | none => .error errUnavailable
  | some announce =>
    if payload.length > announce.maxPayloadBytes then .error errInvalidArgument
    else .ok (.announceSetPayload payload)

def PublishResult.isOk : PublishResult → Bool
  | ok => true
  | _ => false

/-- Whether the node is done with a payload that got this answer. -/
def PublishResult.settles : PublishResult → Bool
  | noPeersSubscribedToTopic => false
  | allQueuesFull => false
  | _ => true

/-- The payload that a publication carries, and whether it went out. -/
def Entry.publication? : Entry → Option (Bytes × Bool)
  | did (.publish _ frame result) =>
    (Wire.decodeAnnouncement frame).map fun decoded => (decoded.payload, result.isOk)
  | _ => none

/-- Every publication that was tried, the oldest first. -/
def publications (log : List Entry) : List (Bytes × Bool) := log.filterMap Entry.publication?

/-- The payload that an action sets. -/
def Action.payload? : Action → Option Bytes
  | handle _ (.command (.announceSetPayload payload)) => some payload
  | _ => none

/-- The payload set most recently. -/
def payloadSet (actions : List Action) : Option Bytes := (actions.filterMap Action.payload?).getLast?

theorem announce_of_accepted {config : Config} {payload : Bytes} {command : Command}
    (accepted : lp2pAnnounceSetPayload config payload = .ok command) :
    ∃ announce, config.announce = some announce ∧ command = .announceSetPayload payload := by
  unfold lp2pAnnounceSetPayload at accepted
  cases isOn : config.announce with
  | none =>
    rw [isOn] at accepted
    cases accepted
  | some announce =>
    simp only [isOn] at accepted
    split at accepted
    · cases accepted
    · exact ⟨announce, rfl, (Except.ok.inj accepted).symm⟩

/-- gossipsub takes every publication or refuses it for the moment. -/
def Env.Transient (env : Env) : Prop :=
  ∀ topic frame, env.publishes topic frame = .ok ∨
    env.publishes topic frame = .noPeersSubscribedToTopic ∨
    env.publishes topic frame = .allQueuesFull

/-- The commands that set a payload, ticks and subscriptions of peers. What goes on outside
the event loop may happen in between. -/
def Action.Announces (config : Config) : Action → Prop
  | handle env (.command command) =>
    env.Transient ∧ ∃ payload, lp2pAnnounceSetPayload config payload = .ok command
  | handle env .tick => env.Transient
  | handle env (.swarm (.gossipsub .subscribed)) => env.Transient
  | handle _ _ => False
  | _ => True

/-- What is handled is a payload that was let through, a tick or a subscription. -/
theorem Action.Announces.input {config : Config} {env : Env} {input : Input}
    (announces : Announces config (.handle env input)) :
    env.Transient ∧
      ((∃ payload announce, config.announce = some announce ∧
          input = .command (.announceSetPayload payload)) ∨
        input = .tick ∨ input = .swarm (.gossipsub .subscribed)) := by
  cases input with
  | command command =>
    obtain ⟨transient, payload, accepted⟩ := announces
    obtain ⟨announce, on, rfl⟩ := announce_of_accepted accepted
    exact ⟨transient, .inl ⟨payload, announce, on, rfl⟩⟩
  | tick => exact ⟨announces, .inr (.inl rfl)⟩
  | swarm event =>
    cases event with
    | gossipsub event =>
      cases event with
      | subscribed => exact ⟨announces, .inr (.inr rfl)⟩
      | _ => exact announces.elim
    | _ => exact announces.elim

/-- What an action means for the publisher. -/
def Action.occasion? (config : Config) (action : Action) : Option (Occasion Bytes) :=
  config.announce.bind fun announce =>
    let takes (env : Env) (payload : Bytes) : Bool :=
      (env.publishes announce.topic
        (Wire.encodeAnnouncement config.delegation.toBytes payload)).isOk
    match action with
    | handle env (.command (.announceSetPayload payload)) => some (.want payload (takes env))
    | handle env .tick => some (.again (takes env))
    | handle env (.swarm (.gossipsub .subscribed)) => some (.again (takes env))
    | _ => none

theorem payloadSet_concat (actions : List Action) (action : Action) :
    payloadSet (actions ++ [action]) = action.payload?.or (payloadSet actions) := by
  rw [payloadSet, List.filterMap_append]
  cases sets : action.payload? with
  | none => simp [sets, payloadSet]
  | some payload => simp [sets]

/-- An occasion brings the payload that its action sets. -/
theorem Action.value_occasion {config : Config} {action : Action}
    (announces : action.Announces config) :
    (action.occasion? config).bind Occasion.value? = action.payload? := by
  cases action with
  | handle env input =>
    obtain ⟨-, ⟨payload, announce, on, rfl⟩ | rfl | rfl⟩ := Announces.input announces
    · simp [occasion?, on, Occasion.value?, payload?]
    · unfold occasion?
      cases config.announce <;> rfl
    · unfold occasion?
      cases config.announce <;> rfl
  | _ =>
    unfold occasion?
    cases config.announce <;> rfl

/-- A payload is only set where announcements are on. -/
theorem announce_of_payloadSet {config : Config} {actions : List Action}
    (announces : ∀ action ∈ actions, action.Announces config) {payload : Bytes}
    (set : payloadSet actions = some payload) : ∃ announce, config.announce = some announce := by
  obtain ⟨action, member, sets⟩ := List.mem_filterMap.mp (List.mem_of_getLast? set)
  have occasion := Action.value_occasion (announces action member)
  rw [sets] at occasion
  cases on : config.announce with
  | none => simp [Action.occasion?, on] at occasion
  | some announce => exact ⟨announce, rfl⟩

namespace State

/-- The node as a publisher of its payload. -/
def publisher (state : State) : Publisher Bytes where
  wanted := state.announcePayload
  taken := state.announcePublished
  offers := publications state.log

/-! Most of a tick has nothing to do with it. -/

theorem publisher_of_line {before after : State} {entry : Entry}
    (payload : after.announcePayload = before.announcePayload)
    (published : after.announcePublished = before.announcePublished)
    (log : after.log = before.log ++ [entry]) (silent : entry.publication? = none) :
    after.publisher = before.publisher := by
  have offers : publications after.log = publications before.log := by
    simp [log, publications, silent]
  rw [publisher, publisher, payload, published, offers]

theorem publisher_startProviding (env : Env) (state : State) (key : Bytes) :
    (state.startProviding env key).publisher = state.publisher := by
  unfold startProviding
  split
  · exact publisher_of_line rfl rfl rfl rfl
  · rfl

theorem publisher_failCall (state : State) (id reason : Nat) :
    (state.failCall id reason).publisher = state.publisher := by
  unfold failCall
  split
  · rfl
  · exact publisher_of_line rfl rfl rfl rfl

theorem publisher_reserve (env : Env) (state : State) :
    (state.reserve env).publisher = state.publisher := by
  have each (state : State) (candidate : PeerId × Multiaddr) :
      (state.reserveOn env candidate).publisher = state.publisher := by
    unfold reserveOn
    dsimp only
    split
    · rfl
    · split <;> exact publisher_of_line rfl rfl rfl rfl
  unfold reserve
  split
  · rfl
  · exact Runs.unchanged _ state publisher each _

theorem publisher_topicLookup (env : Env) (state : State) (key : Key) :
    (state.topicLookup env key).publisher = state.publisher := by
  unfold topicLookup
  dsimp only
  split <;> exact publisher_of_line rfl rfl rfl rfl

theorem publisher_sweepLimits (env : Env) (state : State) :
    (state.sweepLimits env).publisher = state.publisher := by
  unfold sweepLimits
  split <;> rfl

theorem publisher_provideAgain (env : Env) (state : State) :
    (state.provideAgain env).publisher = state.publisher := by
  unfold provideAgain
  split
  · exact publisher_startProviding env state _
  · rfl

theorem publisher_heard (state : State) (nowMs : UInt64) (input : Input) :
    (state.heard nowMs input).publisher = state.publisher :=
  publisher_of_line rfl rfl rfl rfl

/-! Announcing. -/

/-- A publication carries the payload its frame was made of. -/
theorem publication_encodeAnnouncement {delegation : Bytes} (sized : delegation.length = 136)
    (topic : String) (payload : Bytes) (result : PublishResult) :
    (Entry.did (.publish topic (Wire.encodeAnnouncement delegation payload) result)).publication? =
      some (payload, result.isOk) := by
  have decoded : Wire.decodeAnnouncement (Wire.encodeAnnouncement delegation payload) =
      some { delegation, payload } := Wire.decodeResponse_parts sized
  rw [Entry.publication?, decoded]
  rfl

theorem announce_off {env : Env} {state : State} (off : state.announceTopic = none) :
    state.announce env = state := by
  unfold announce
  rw [off]

/-- Without a payload, or with the one published last, nothing is tried. Otherwise the
payload is, and it counts as published unless gossipsub refuses it for the moment. -/
theorem announce_cases (env : Env) {state : State} {topic : String}
    (on : state.announceTopic = some topic) :
    (state.announce env = state ∧
        ∀ payload, state.announcePayload = some payload → state.announcePublished = some payload) ∨
      ∃ payload, state.announcePayload = some payload ∧ state.announcePublished ≠ some payload ∧
        ∃ result, env.publishes topic (Wire.encodeAnnouncement state.delegation payload) = result ∧
          state.announce env =
            { state.did (.publish topic (Wire.encodeAnnouncement state.delegation payload) result) with
              announcePublished :=
                if result.settles then some payload else state.announcePublished } := by
  unfold announce
  rw [on]
  cases set : state.announcePayload with
  | none => exact .inl ⟨rfl, by simp⟩
  | some payload =>
    by_cases same : state.announcePublished = some payload
    · refine .inl ⟨if_pos same, fun other isOther => ?_⟩
      rw [same, isOther]
    · refine .inr ⟨payload, rfl, same, _, rfl, ?_⟩
      dsimp only
      rw [if_neg same]
      cases env.publishes topic (Wire.encodeAnnouncement state.delegation payload) <;> rfl

section

variable {state : State} {topic : String} (on : state.announceTopic = some topic)
  (sized : state.delegation.length = 136)

include on sized

/-- What `announce` tries is what the publisher offers, whatever the answer. -/
theorem offers_announce (env : Env) :
    (state.announce env).publisher.offers =
      (state.publisher.offer fun payload =>
        (env.publishes topic (Wire.encodeAnnouncement state.delegation payload)).isOk).offers := by
  rcases announce_cases env on with ⟨same, idle⟩ | ⟨payload, set, other, result, rfl, shape⟩
  · rw [same, Publisher.offer_idle idle]
  · rw [shape, Publisher.offer_due set other]
    simp [publisher, did, publications, publication_encodeAnnouncement sized]

/-- Where gossipsub takes the publication or refuses it for the moment, the node
remembers what the publisher does. -/
theorem publisher_announce {env : Env} (transient : env.Transient) :
    (state.announce env).publisher =
      state.publisher.offer fun payload =>
        (env.publishes topic (Wire.encodeAnnouncement state.delegation payload)).isOk := by
  have offers := offers_announce on sized env
  rcases announce_cases env on with ⟨same, idle⟩ | ⟨payload, set, other, result, answer, shape⟩
  · rw [same, Publisher.offer_idle idle]
  · have settles : result.settles = result.isOk := by
      rcases transient topic (Wire.encodeAnnouncement state.delegation payload) with
        taken | nobody | full
      · rw [← answer, taken]
        rfl
      · rw [← answer, nobody]
        rfl
      · rw [← answer, full]
        rfl
    refine Publisher.ext ?_ ?_ offers
    · rw [shape, Publisher.offer_due set other]
      rfl
    · rw [shape, Publisher.offer_due set other, settles, answer]
      rfl

end

/-- A tick announces, and what else it does changes nothing of the publisher. -/
theorem publisher_tick (env : Env) (state : State) :
    ∃ before : State, before.publisher = state.publisher ∧ before.settings = state.settings ∧
      (state.tick env).publisher = (before.announce env).publisher := by
  unfold tick
  dsimp only
  generalize expires : (state.expired env).foldl
    (fun state id => state.failCall id failTimeout) state = late
  refine ⟨late.reserve env, ?_, ?_, ?_⟩
  · rw [publisher_reserve, ← expires]
    exact Runs.unchanged _ state publisher (fun state id => publisher_failCall state id _) _
  · have reserved := congrArg (fun background => background.memory.settings)
      (background_reserve env late)
    refine reserved.trans (expires ▸ ?_)
    exact congrArg (fun background => background.memory.settings)
      (Runs.unchanged _ state background (fun state id => background_failCall state id _) _)
  · generalize (late.reserve env).announce env = told
    have lookedUp : ((told.lonely env).foldl (topicLookup env) told).publisher = told.publisher :=
      Runs.unchanged _ told publisher (fun state key => publisher_topicLookup env state key) _
    exact (publisher_provideAgain env _).trans ((publisher_sweepLimits env _).trans lookedUp)

/-- The settings that announcing depends on are those of the configuration. -/
structure Announcer (config : Config) (state : State) : Prop where
  topic : state.announceTopic = config.announce.map AnnounceConfig.topic
  delegation : state.delegation = config.delegation.toBytes

theorem Announcer.of_settings {config : Config} {before after : State}
    (announcer : Announcer config before) (same : after.settings = before.settings) :
    Announcer config after where
  topic := (congrArg Settings.announceTopic same).trans announcer.topic
  delegation := (congrArg Settings.delegation same).trans announcer.delegation

theorem Announcer.sized {config : Config} {state : State} (announcer : Announcer config state) :
    state.delegation.length = 136 :=
  announcer.delegation ▸ config.delegation.toBytes_length

/-- Announcing is an occasion of the publisher, if announcements are on. -/
theorem Announcer.again {config : Config} {state : State} (announcer : Announcer config state)
    {env : Env} (transient : env.Transient) :
    (state.announce env).publisher =
      (Action.occasion? config (.handle env .tick)).elim state.publisher state.publisher.step := by
  have topic := announcer.topic
  cases announces : config.announce with
  | none =>
    rw [announces] at topic
    rw [announce_off topic, Action.occasion?, announces]
    rfl
  | some announce =>
    rw [announces] at topic
    rw [publisher_announce topic announcer.sized transient, Action.occasion?, announces,
      announcer.delegation]
    rfl

/-- And so is handling a payload, a tick or a subscription. -/
theorem publisher_handle {config : Config} {state : State} (announcer : Announcer config state)
    {env : Env} {input : Input} (announces : Action.Announces config (.handle env input)) :
    (state.handle env input).publisher =
      (Action.occasion? config (.handle env input)).elim state.publisher state.publisher.step := by
  have heard : Announcer config (state.heard env.nowMs input) := announcer.of_settings rfl
  obtain ⟨transient, ⟨payload, announce, on, rfl⟩ | rfl | rfl⟩ := announces.input
  · have set : Announcer config { state.heard env.nowMs (.command (.announceSetPayload payload)) with
        announcePayload := some payload } := heard.of_settings rfl
    have wants : { state.heard env.nowMs (.command (.announceSetPayload payload)) with
        announcePayload := some payload }.publisher =
          { state.publisher with wanted := some payload } :=
      congrArg (fun publisher => { publisher with wanted := some payload })
        (publisher_heard state env.nowMs _)
    refine (set.again transient).trans ?_
    rw [wants, Action.occasion?, Action.occasion?, on]
    rfl
  · obtain ⟨before, publisher, settings, ticked⟩ :=
      publisher_tick env (state.heard env.nowMs .tick)
    rw [handle, ticked, (heard.of_settings settings).again transient, publisher, publisher_heard]
  · refine (heard.again transient).trans ?_
    rw [publisher_heard]
    rfl

end State

/-! Every run. -/

namespace System

/-- libp2p forgets nothing with an input that announces. -/
theorem deliver_of_announces {config : Config} (state : State) {env : Env} {input : Input}
    (announces : Action.Announces config (.handle env input)) : state.deliver input = state := by
  obtain ⟨-, ⟨payload, announce, -, rfl⟩ | rfl | rfl⟩ := announces.input <;> rfl

theorem publisher_step {config : Config} {system : System}
    (announcer : system.state.Announcer config) {action : Action}
    (announces : action.Announces config) :
    (system.step action).state.publisher =
      (action.occasion? config).elim system.state.publisher system.state.publisher.step := by
  cases action with
  | handle env input =>
    rw [step, deliver_of_announces system.state announces]
    exact State.publisher_handle announcer announces
  | ready env =>
    have emitted : (system.state.emit (reachabilityRecord system.state.configured)).publisher =
        system.state.publisher := State.publisher_of_line rfl rfl rfl rfl
    have none : Action.occasion? config (.ready env) = none := by
      unfold Action.occasion?
      cases config.announce <;> rfl
    rw [none]
    exact (State.publisher_startProviding env _ _).trans emitted
  | _ =>
    unfold Action.occasion?
    cases config.announce <;> rfl

theorem announcer_after (config : Config) (localPeer : PeerId) (now : Instant)
    (actions : List Action) : (after config localPeer now actions).state.Announcer config := by
  have start : (start config localPeer now).state.Announcer config := ⟨rfl, rfl⟩
  exact start.of_settings (settings_after config localPeer now actions)

/-- The node follows the publisher through every run. -/
theorem publisher_after (config : Config) (localPeer : PeerId) (now : Instant)
    {actions : List Action} (announces : ∀ action ∈ actions, action.Announces config) :
    (after config localPeer now actions).state.publisher =
      (actions.filterMap (Action.occasion? config)).foldl Publisher.step {} := by
  induction actions using List.reverseRecOn with
  | nil => rfl
  | append_singleton actions action inductionHypothesis =>
    have earlier := inductionHypothesis fun other member =>
      announces other (List.mem_append_left _ member)
    have stepped := publisher_step (announcer_after config localPeer now actions)
      (announces action (List.mem_append_right _ List.mem_cons_self))
    rw [after_append_singleton, stepped, List.filterMap_append, List.foldl_append, ← earlier]
    cases occasion : action.occasion? config with
    | none => simp [occasion]
    | some occasion => simp [occasion]

/-- The payload the node has is the one set most recently. -/
theorem wanted_after (config : Config) (localPeer : PeerId) (now : Instant)
    {actions : List Action} (announces : ∀ action ∈ actions, action.Announces config) :
    (after config localPeer now actions).state.publisher.wanted = payloadSet actions := by
  induction actions using List.reverseRecOn with
  | nil => rfl
  | append_singleton actions action inductionHypothesis =>
    have earlier := inductionHypothesis fun other member =>
      announces other (List.mem_append_left _ member)
    have last := announces action (List.mem_append_right _ List.mem_cons_self)
    have stepped := publisher_step (announcer_after config localPeer now actions) last
    rw [payloadSet_concat, ← Action.value_occasion last, ← earlier, after_append_singleton, stepped]
    cases action.occasion? config with
    | none => rfl
    | some occasion => exact Publisher.wanted_step _ occasion

/-- The next tick tries the payload that is due, whatever gossipsub answers. -/
theorem tried_tick {config : Config} {system : System} (announcer : system.state.Announcer config)
    {announce : AnnounceConfig} (on : config.announce = some announce) (env : Env) :
    ∃ takes, (system.step (.handle env .tick)).state.publisher.offers =
      (system.state.publisher.offer takes).offers := by
  obtain ⟨before, publisher, settings, ticked⟩ :=
    State.publisher_tick env (system.state.heard env.nowMs .tick)
  have announcing : before.Announcer config :=
    (announcer.of_settings rfl).of_settings settings
  have topic : before.announceTopic = some announce.topic := by
    rw [announcing.topic, on]
    rfl
  have tried := State.offers_announce topic announcing.sized env
  rw [publisher, State.publisher_heard] at tried
  exact ⟨_, (congrArg Publisher.offers ticked).trans tried⟩

end System

/-- The publications that were tried after these actions. -/
def System.tried (config : Config) (localPeer : PeerId) (now : Instant) (actions : List Action) :
    List (Bytes × Bool) :=
  publications (System.after config localPeer now actions).state.log

/-- A payload is announced once per change, and none is forgotten. -/
structure AnnouncedOnce (config : Config) (localPeer : PeerId) (now : Instant)
    (actions : List Action) : Prop where
  /-- Two publications that went out one after the other carry different payloads. -/
  changes : (sent (System.tried config localPeer now actions)).IsChain (· ≠ ·)
  /-- Every publication carries the payload that was set most recently. -/
  latest : ∀ before action, before ++ [action] <+: actions →
    ∃ new, System.tried config localPeer now (before ++ [action]) =
        System.tried config localPeer now before ++ new ∧
      ∀ publication ∈ new, payloadSet (before ++ [action]) = some publication.1
  /-- Nothing is published before a payload was set. -/
  unset : ∀ before, before <+: actions → payloadSet before = none →
    System.tried config localPeer now before = []
  /-- The payload set most recently was published last, or the next tick tries it. -/
  kept : ∀ before, before <+: actions → ∀ payload, payloadSet before = some payload →
    (sent (System.tried config localPeer now before)).getLast? = some payload ∨
      ∀ env, ∃ took, System.tried config localPeer now (before ++ [.handle env .tick]) =
        System.tried config localPeer now before ++ [(payload, took)]

/-- Through every run of payloads set, ticks and subscriptions of peers, with gossipsub taking
a publication or refusing it for the moment, each payload is announced once per change. -/
theorem announced_once_per_change (config : Config) (localPeer : PeerId) (now : Instant)
    {actions : List Action} (announces : ∀ action ∈ actions, action.Announces config) :
    AnnouncedOnce config localPeer now actions := by
  have within {before : List Action} (initial : before <+: actions) :
      ∀ action ∈ before, action.Announces config :=
    fun action member => announces action (initial.subset member)
  have sound {before : List Action} (initial : before <+: actions) :
      (System.after config localPeer now before).state.publisher.Sound := by
    rw [System.publisher_after config localPeer now (within initial)]
    exact Publisher.sound_run _
  constructor
  · exact (sound List.prefix_rfl).changes
  · intro before action initial
    have wanted := System.wanted_after config localPeer now (within initial)
    have stepped := System.publisher_step (System.announcer_after config localPeer now before)
      (within initial action (List.mem_append_right _ List.mem_cons_self))
    rw [System.after_append_singleton, stepped] at wanted
    rw [System.tried, System.after_append_singleton, ← wanted]
    cases occurs : action.occasion? config with
    | none =>
      rw [occurs] at stepped
      refine ⟨[], (congrArg Publisher.offers stepped).trans (List.append_nil _).symm, by simp⟩
    | some occasion =>
      rw [occurs] at stepped
      obtain ⟨new, offers, latest⟩ := Publisher.offers_step _ occasion
      exact ⟨new, (congrArg Publisher.offers stepped).trans offers, latest⟩
  · intro before initial none
    apply (sound initial).unwanted
    rw [System.wanted_after config localPeer now (within initial), none]
  · intro before initial payload set
    have wanted := (System.wanted_after config localPeer now (within initial)).trans set
    rcases Publisher.taken_or_due wanted with published | due
    · exact .inl ((sound initial).last.symm.trans published)
    · obtain ⟨announce, on⟩ := announce_of_payloadSet (within initial) set
      refine .inr fun env => ?_
      obtain ⟨takes, tried⟩ :=
        System.tried_tick (System.announcer_after config localPeer now before) on env
      refine ⟨takes payload, ?_⟩
      rw [System.tried, System.after_append_singleton]
      exact tried.trans (due takes)

/-- A node with announcements on. -/
def Sample.announcing : Config :=
  { Sample.config with announce := some { topic := "/lp2p/kad/1/announce", maxPayloadBytes := 1024 } }

/-- No peer is subscribed. -/
def Sample.unheardEnv : Env :=
  { Sample.env with publishes := fun _ _ => .noPeersSubscribedToTopic }

/-- A payload waits for a peer to subscribe. The next one is replaced by the first, which
is published already, and set again. -/
def Sample.twoPayloads : List Action :=
  let set (payload : Bytes) : Input := .command (.announceSetPayload payload)
  [.ready Sample.env, .handle Sample.unheardEnv (set [1]),
    .handle Sample.env (.swarm (.gossipsub .subscribed)), .handle Sample.env .tick,
    .handle Sample.unheardEnv (set [2]), .handle Sample.env (set [1]),
    .handle Sample.unheardEnv (set [2]), .handle Sample.env .tick]

theorem announced_once_per_change_two_payloads :
    AnnouncedOnce Sample.announcing Sample.peer 0 Sample.twoPayloads ∧
      System.tried Sample.announcing Sample.peer 0 Sample.twoPayloads =
        [([1], false), ([1], true), ([2], false), ([2], false), ([2], true)] := by
  refine ⟨announced_once_per_change Sample.announcing Sample.peer 0 ?_, by decide +kernel⟩
  have taken : Sample.env.Transient := fun _ _ => .inl rfl
  have refused : Sample.unheardEnv.Transient := fun _ _ => .inr (.inl rfl)
  simp only [Sample.twoPayloads, List.forall_mem_cons, List.not_mem_nil, false_imp_iff,
    implies_true, and_true]
  exact ⟨trivial, ⟨refused, [1], rfl⟩, taken, taken, ⟨refused, [2], rfl⟩, ⟨taken, [1], rfl⟩,
    ⟨refused, [2], rfl⟩, taken⟩

end Libp2pFfi
