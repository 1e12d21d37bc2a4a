import Libp2pFfi.Memory
import Libp2pFfi.Parts

/-!
# Subscriptions from many threads

A caller's thread compares a counter with the limit on subscriptions and then
sends its command; the runtime thread takes the commands one by one, compares
again, and moves the counter. What a command finds when it is applied is decided
by the commands sent before it, which the counter does not show yet.

`Subscriptions` is the table of topics as a machine on its own. Replaying the
commands that are still under way on it tells, at the time a call answers,
whether its subscription will be held. The calls that answer and are then
dropped are those that do not fit at that time, exactly.
-/

namespace Libp2pFfi

/-- The topics a node follows, and how many it may. -/
structure Subscriptions where
  limit : Nat
  followed : Finset Key

namespace Subscriptions

/-- There is room for the topic, or it is followed already. -/
def fits (subscriptions : Subscriptions) (key : Key) : Bool :=
  key ∈ subscriptions.followed || subscriptions.followed.card < subscriptions.limit

/-- A topic that fits is followed from then on. One that does not changes nothing. -/
def subscribe (subscriptions : Subscriptions) (key : Key) : Subscriptions :=
  if subscriptions.fits key then
    { subscriptions with followed := insert key subscriptions.followed }
  else subscriptions

/-- A topic that is not followed any more makes room. -/
def unsubscribe (subscriptions : Subscriptions) (key : Key) : Subscriptions :=
  { subscriptions with followed := subscriptions.followed.erase key }

/-- What a command does to them; most do nothing. -/
def apply (subscriptions : Subscriptions) : Command → Subscriptions
  | .topicSubscribe key => subscriptions.subscribe key
  | .topicUnsubscribe key => subscriptions.unsubscribe key
  | _ => subscriptions

/-- For the subscriptions among some commands, whether they will fit when their
turn comes. -/
def promises (subscriptions : Subscriptions) : List Command → List (Key × Bool)
  | [] => []
  | .topicSubscribe key :: rest =>
    (key, subscriptions.fits key) :: promises (subscriptions.apply (.topicSubscribe key)) rest
  | command :: rest => promises (subscriptions.apply command) rest

/-- One command, as far as promises go. -/
def promise (subscriptions : Subscriptions) : Command → List (Key × Bool)
  | .topicSubscribe key => [(key, subscriptions.fits key)]
  | _ => []

/-- The promises of a longer queue are those of its front and then of the rest. -/
theorem promises_cons (subscriptions : Subscriptions) (command : Command) (rest : List Command) :
    subscriptions.promises (command :: rest) =
      subscriptions.promise command ++ (subscriptions.apply command).promises rest := by
  cases command <;> rfl

/-- A command that is sent last is promised what the others leave. -/
theorem promises_append (subscriptions : Subscriptions) (channel : List Command)
    (command : Command) :
    subscriptions.promises (channel ++ [command]) =
      subscriptions.promises channel ++
        (channel.foldl apply subscriptions).promise command := by
  induction channel generalizing subscriptions with
  | nil => simp [promises_cons, promises]
  | cons first rest inductionHypothesis =>
    rw [List.cons_append, promises_cons, inductionHypothesis, promises_cons, List.append_assoc]
    rfl

/-- A subscription is held afterwards exactly if it fits. -/
theorem mem_subscribe (subscriptions : Subscriptions) (key : Key) :
    key ∈ (subscriptions.subscribe key).followed ↔ subscriptions.fits key = true := by
  unfold subscribe
  constructor
  · intro member
    by_contra unfit
    rw [if_neg unfit] at member
    exact unfit (by simp [fits, member])
  · intro fit
    rw [if_pos fit]
    exact Finset.mem_insert_self key _

end Subscriptions

/-- No event of the swarm is about topics. -/
theorem SwarmEvent.topics_notMem (event : SwarmEvent) : .topics ∉ event.parts := by
  cases event with
  | kad event => cases event <;> simp [SwarmEvent.parts]
  | rpc event => cases event <;> simp [SwarmEvent.parts]
  | _ => simp [SwarmEvent.parts]

namespace State

def subscriptions (state : State) : Subscriptions where
  limit := state.topicMaxSubscriptions
  followed := state.topics.keySet

/-- A handler that leaves the topics alone. -/
theorem subscriptions_of_topics {before after : State}
    (same : after.topicsPart = before.topicsPart) : after.subscriptions = before.subscriptions := by
  obtain ⟨topics, limit, -⟩ := TopicsPart.mk.inj same
  simp only [subscriptions, topics, limit]

/-- A lookup only notes when it was made. -/
theorem subscriptions_topicLookup (env : Env) (state : State) (key : Key) :
    (state.topicLookup env key).subscriptions = state.subscriptions := by
  unfold topicLookup
  dsimp only
  split
  · rfl
  · rename_i topic found
    have known : key ∈ state.topics.keySet := Table.mem_keySet.mpr (Option.isSome_of_mem found)
    refine congrArg (Subscriptions.mk _ ·) ?_
    exact (Table.keySet_insert _ _ _).trans (Finset.insert_eq_of_mem known)

/-- The handler of the command does what it is said to do. -/
theorem subscriptions_topicSubscribe (env : Env) (state : State) (key : Key)
    (succeeds : env.subscribes (Wire.topicName key) = true) :
    (state.topicSubscribe env key).subscriptions = state.subscriptions.subscribe key := by
  unfold topicSubscribe Subscriptions.subscribe
  dsimp only
  by_cases known : (state.topics.lookup key).isSome = true
  · have member : key ∈ state.subscriptions.followed := Table.mem_keySet.mpr known
    rw [if_pos (by simp [known]), if_pos (by simp [Subscriptions.fits, member])]
    exact congrArg (Subscriptions.mk _ ·) (Finset.insert_eq_of_mem member).symm
  · have absent : key ∉ state.subscriptions.followed := fun member =>
      known (Table.mem_keySet.mp member)
    have count : state.subscriptions.followed.card = state.topics.len := Table.card_keySet _
    have limit : state.subscriptions.limit = state.topicMaxSubscriptions := rfl
    by_cases full : state.topics.len ≥ state.topicMaxSubscriptions
    · have unfit : ¬ state.subscriptions.fits key = true := by
        simpa [Subscriptions.fits, absent, count, limit] using full
      rw [if_pos (by simp [full]), if_neg unfit]
    · have fit : state.subscriptions.fits key = true := by
        simpa [Subscriptions.fits, absent, count, limit] using full
      rw [if_neg (by simp [known, full]), if_neg (by simp [succeeds]), if_pos fit,
        subscriptions_topicLookup]
      have provided := subscriptions_of_topics
        ((confined_startProviding env { state.did (.subscribe (Wire.topicName key)) with
            topicKeys := state.topicKeys.insert (Wire.topicName key) key
            topics := state.topics.insert key { topic := Wire.topicName key }
            shared := { state.shared with
              topicsSubscribed :=
                Table.len (state.topics.insert key { topic := Wire.topicName key }) } }
          (Wire.providerKey env.crates key)).topics (by simp))
      refine provided.trans (congrArg (Subscriptions.mk _ ·) ?_)
      exact Table.keySet_insert _ _ _

/-- And that of its counterpart. -/
theorem subscriptions_topicUnsubscribe (env : Env) (state : State) (key : Key) :
    (state.topicUnsubscribe env key).subscriptions = state.subscriptions.unsubscribe key := by
  unfold topicUnsubscribe Subscriptions.unsubscribe
  split
  · rename_i unknown
    have absent : key ∉ state.subscriptions.followed := by
      intro member
      have found := Table.mem_keySet.mp member
      rw [unknown] at found
      cases found
    exact congrArg (Subscriptions.mk _ ·) (Finset.erase_eq_of_notMem absent).symm
  · exact congrArg (Subscriptions.mk _ ·) (Table.keySet_erase _ _)

/-- Applying a command does what the machine does, if libp2p lets the node
subscribe. -/
theorem subscriptions_command (env : Env) (state : State) (command : Command)
    (succeeds : ∀ topic, env.subscribes topic = true) :
    (state.command env command).subscriptions = state.subscriptions.apply command := by
  have aside (elsewhere : .topics ∉ command.parts) :
      (state.command env command).subscriptions = state.subscriptions :=
    subscriptions_of_topics ((confined_command env state command).topics elsewhere)
  cases command with
  | topicSubscribe key => exact subscriptions_topicSubscribe env state key (succeeds _)
  | topicUnsubscribe key => exact subscriptions_topicUnsubscribe env state key
  | _ => exact aside (by simp [Command.parts])

/-- A tick does to the topics what some lookups do. -/
theorem topics_tick (env : Env) (state : State) :
    ∃ (keys : List Key) (late : State),
      late.topicsPart = state.topicsPart ∧ late.topicKeys = state.topicKeys ∧
      (state.tick env).topicsPart = (keys.foldl (topicLookup env) late).topicsPart := by
  have timedOut : Confined [] state
      ((state.expired env).foldl (fun state id => state.failCall id failTimeout) state) := by
    apply confined_foldl
    exact fun state id => confined_failCall state id failTimeout
  have expired : ((state.expired env).foldl (fun state id => state.failCall id failTimeout)
      state).background = state.background :=
    Runs.unchanged _ state background (fun state id => background_failCall state id failTimeout) _
  unfold tick
  dsimp only
  generalize (state.expired env).foldl (fun state id => state.failCall id failTimeout) state = late
    at timedOut expired ⊢
  have announced : ((late.reserve env).announce env).topicsPart = state.topicsPart :=
    ((timedOut.widen.trans (confined_reserve env late)).trans
      (confined_announce env _).widen).topics (by simp)
  have names : ((late.reserve env).announce env).background = state.background := by
    rw [background_announce, background_reserve, expired]
  refine ⟨((late.reserve env).announce env).lonely env, (late.reserve env).announce env,
    announced, congrArg (fun background => background.memory.topicKeys) names, ?_⟩
  exact ((confined_sweepLimits env _).trans (confined_provideAgain env _)).topics (by simp)

/-- Time alone follows nothing. -/
theorem subscriptions_tick (env : Env) (state : State) :
    (state.tick env).subscriptions = state.subscriptions := by
  obtain ⟨keys, late, same, -, lookedUp⟩ := topics_tick env state
  calc (state.tick env).subscriptions
      = (keys.foldl (topicLookup env) late).subscriptions := subscriptions_of_topics lookedUp
    _ = late.subscriptions :=
        Runs.unchanged _ late subscriptions (fun state key => subscriptions_topicLookup env state key) _
    _ = state.subscriptions := subscriptions_of_topics same

/-- Nor does anything another node says. -/
theorem subscriptions_swarmEvent (env : Env) (state : State) (event : SwarmEvent) :
    (state.swarmEvent env event).subscriptions = state.subscriptions :=
  subscriptions_of_topics ((confined_swarmEvent env state event).topics
    (SwarmEvent.topics_notMem event))

end State

/-- Whether an action is the event loop taking a command. -/
def Action.takesCommand : Action → Bool
  | .handle _ (.command _) => true
  | _ => false

/-- So they change at commands only. -/
theorem System.subscriptions_step (system : System) (action : Action)
    (notCommand : action.takesCommand = false) :
    (system.step action).state.subscriptions = system.state.subscriptions := by
  cases action with
  | handle env input =>
    have delivered : (system.state.deliver input).subscriptions = system.state.subscriptions := by
      unfold State.deliver
      split <;> rfl
    cases input with
    | command => cases notCommand
    | tick => exact (State.subscriptions_tick env _).trans delivered
    | swarm event => exact (State.subscriptions_swarmEvent env _ event).trans delivered
  | ready env =>
    exact State.subscriptions_of_topics
      ((State.confined_provide env (system.state.emit _)).topics (by simp))
  | draw => rfl
  | poll => rfl
  | internalQuery => rfl
  | learn => rfl

/-! The counter. -/

namespace State

/-- The counter the callers look at shows the followed topics. -/
def Counted (state : State) : Prop := state.shared.topicsSubscribed = state.topics.len

/-- The counter and the table belong to one part of the state. -/
theorem Counted.of_topics {before after : State} (counted : before.Counted)
    (same : after.topicsPart = before.topicsPart) : after.Counted := by
  obtain ⟨topics, -, counter⟩ := TopicsPart.mk.inj same
  unfold Counted
  rw [topics, counter]
  exact counted

/-- A topic that is looked up is not counted. -/
theorem counted_topicLookup (env : Env) (state : State) (key : Key) (counted : state.Counted) :
    (state.topicLookup env key).Counted := by
  unfold topicLookup
  dsimp only
  split
  · exact counted
  · rename_i topic found
    have known : key ∈ state.topics := AList.lookup_isSome.mp (Option.isSome_of_mem found)
    have size (topic : TopicState) :
        Table.len (state.topics.insert key topic) = state.topics.len := by
      rw [Table.len_insert, if_pos known, Nat.add_zero]
    exact counted.trans (size _).symm

/-- A topic is counted as it enters the table. -/
theorem counted_topicSubscribe (env : Env) (state : State) (key : Key) (counted : state.Counted) :
    (state.topicSubscribe env key).Counted := by
  unfold topicSubscribe
  dsimp only
  split
  · exact counted
  · split
    · exact counted
    · apply counted_topicLookup
      apply Counted.of_topics _ ((confined_startProviding env _ _).topics (by simp))
      rfl

/-- No other command leaves the counter behind. -/
theorem counted_command (env : Env) (state : State) (command : Command) (counted : state.Counted) :
    (state.command env command).Counted := by
  have aside (elsewhere : .topics ∉ command.parts) : (state.command env command).Counted :=
    counted.of_topics ((confined_command env state command).topics elsewhere)
  cases command with
  | topicSubscribe key => exact counted_topicSubscribe env state key counted
  | topicUnsubscribe key =>
    unfold State.command topicUnsubscribe
    dsimp only
    split
    · exact counted
    · rfl
  | _ => exact aside (by simp [Command.parts])

/-- Nor does a tick. -/
theorem counted_tick (env : Env) (state : State) (counted : state.Counted) :
    (state.tick env).Counted := by
  obtain ⟨keys, late, same, -, lookedUp⟩ := topics_tick env state
  have lookups (keys : List Key) (state : State) (counted : state.Counted) :
      (keys.foldl (topicLookup env) state).Counted := by
    induction keys generalizing state with
    | nil => exact counted
    | cons key rest inductionHypothesis =>
      exact inductionHypothesis _ (counted_topicLookup env state key counted)
  exact (lookups keys late (counted.of_topics same)).of_topics lookedUp

end State

/-- So no action does. -/
theorem System.counted_step (system : System) (action : Action) (counted : system.state.Counted) :
    (system.step action).state.Counted := by
  cases action with
  | handle env input =>
    have delivered : (system.state.deliver input).Counted := by
      apply counted.of_topics
      unfold State.deliver
      split <;> rfl
    cases input with
    | command command => exact State.counted_command env _ command delivered
    | tick => exact State.counted_tick env _ delivered
    | swarm event =>
      apply State.Counted.of_topics delivered
      exact (State.confined_swarmEvent env _ event).topics (SwarmEvent.topics_notMem event)
  | ready env =>
    exact counted.of_topics ((State.confined_provide env (system.state.emit _)).topics (by simp))
  | draw => exact counted
  | poll => exact counted
  | internalQuery => exact counted
  | learn => exact counted

/-! The callers' threads. -/

/-- The node, the calls of `lp2p_topic_subscribe` between their check and their
command, and the commands on their way to the runtime thread. -/
structure Callers where
  system : System
  checked : List Key := []
  channel : List Command := []

inductive CallerAction where
  /-- A call of `lp2p_topic_subscribe` compares the counter with the limit. -/
  | check (key : Key)
  /-- A call that was not refused sends its command. -/
  | subscribe (key : Key)
  /-- `lp2p_topic_unsubscribe`. -/
  | unsubscribe (key : Key)
  /-- Another call sends its command. -/
  | send (command : Command)
  /-- The runtime thread takes the next command. -/
  | apply (env : Env)
  /-- Something that is no command happens. -/
  | other (action : Action)

namespace Callers

/-- What `lp2p_topic_subscribe` sees of the limit. -/
def refuses (callers : Callers) : Bool :=
  callers.system.state.shared.topicsSubscribed ≥ callers.system.state.topicMaxSubscriptions

/-- What a call of `lp2p_topic_subscribe` answers at this point, if it does. -/
def answer (callers : Callers) : CallerAction → Option Int
  | .check _ => if callers.refuses then some errLimited else none
  | .subscribe _ => some statusOk
  | _ => none

def step (callers : Callers) : CallerAction → Callers
  | .check key =>
    if callers.refuses then callers else { callers with checked := key :: callers.checked }
  | .subscribe key =>
    { callers with
      checked := callers.checked.erase key
      channel := callers.channel ++ [.topicSubscribe key] }
  | .unsubscribe key => { callers with channel := callers.channel ++ [.topicUnsubscribe key] }
  | .send command => { callers with channel := callers.channel ++ [command] }
  | .apply env =>
    match callers.channel with
    | [] => callers
    | command :: rest =>
      { callers with
        system := callers.system.step (.handle env (.command command))
        channel := rest }
  | .other action => { callers with system := callers.system.step action }

/-- Whether an action can happen. -/
def Enabled (crates : Crates) (callers : Callers) : CallerAction → Prop
  | .check _ => True
  | .subscribe key => key ∈ callers.checked
  | .unsubscribe _ => True
  | .send command => .topics ∉ command.parts
  | .apply env =>
    ∃ command rest, callers.channel = command :: rest ∧
      System.Enabled crates callers.system (.handle env (.command command))
  | .other action =>
    action.takesCommand = false ∧ System.Enabled crates callers.system action

def start (config : Config) (localPeer : PeerId) (now : Instant) : Callers where
  system := System.start config localPeer now

def Run (crates : Crates) (config : Config) (localPeer : PeerId) (now : Instant)
    (actions : List CallerAction) : Prop :=
  Runs.Admissible step (start config localPeer now) (Enabled crates) actions

/-- The topics as they will be once everything under way is applied. -/
def expected (callers : Callers) : Subscriptions :=
  callers.channel.foldl Subscriptions.apply callers.system.state.subscriptions

/-- The subscriptions that are answered with `LP2P_OK`, and whether they fit
behind everything that is under way. -/
def accepted (callers : Callers) : CallerAction → List (Key × Bool)
  | .subscribe key => [(key, callers.expected.fits key)]
  | _ => []

/-- The subscriptions that are applied, and whether the topic is followed then. -/
def applied (callers : Callers) : CallerAction → List (Key × Bool)
  | .apply env =>
    match callers.channel with
    | .topicSubscribe key :: _ =>
      [(key, ((callers.step (.apply env)).system.state.topics.lookup key).isSome)]
    | _ => []
  | _ => []

/-- What the commands under way will come to. -/
def underWay (callers : Callers) : List (Key × Bool) :=
  callers.system.state.subscriptions.promises callers.channel

end Callers

/-- libp2p lets the node subscribe. -/
def CallerAction.Succeeds : CallerAction → Prop
  | .apply env => ∀ topic, env.subscribes topic = true
  | _ => True

namespace Callers

/-- A command that is no subscription is promised nothing. -/
theorem promise_elsewhere {command : Command} (elsewhere : .topics ∉ command.parts)
    (subscriptions : Subscriptions) : subscriptions.promise command = [] := by
  cases command with
  | topicSubscribe => simp [Command.parts] at elsewhere
  | _ => rfl

/-- Taking a command keeps the promise it was given. -/
theorem underWay_apply (callers : Callers) {env : Env} {command : Command} {rest : List Command}
    (next : callers.channel = command :: rest) (succeeds : ∀ topic, env.subscribes topic = true) :
    callers.underWay = callers.applied (.apply env) ++ (callers.step (.apply env)).underWay := by
  have taken : callers.step (.apply env) =
      { callers with
        system := callers.system.step (.handle env (.command command))
        channel := rest } := by
    unfold step
    rw [next]
  have moved : (callers.step (.apply env)).system.state.subscriptions =
      callers.system.state.subscriptions.apply command := by
    rw [taken]
    exact State.subscriptions_command env _ command succeeds
  have left : (callers.step (.apply env)).underWay =
      (callers.system.state.subscriptions.apply command).promises rest := by
    rw [underWay, moved, taken]
  rw [underWay, left, next, Subscriptions.promises_cons]
  congr 1
  unfold applied
  rw [next]
  cases command with
  | topicSubscribe key =>
    have held : ((callers.step (.apply env)).system.state.topics.lookup key).isSome = true ↔
        callers.system.state.subscriptions.fits key = true := by
      rw [← Table.mem_keySet, ← Subscriptions.mem_subscribe]
      exact iff_of_eq (congrArg (key ∈ Subscriptions.followed ·) moved)
    exact congrArg (fun fits => [(key, fits)]) (Bool.eq_iff_iff.mpr held.symm)
  | _ => rfl

/-- What is accepted is promised, and what was promised first is applied first. -/
theorem underWay_step {callers : Callers} {action : CallerAction} {crates : Crates}
    (enabled : callers.Enabled crates action) (succeeds : action.Succeeds) :
    callers.underWay ++ callers.accepted action =
      callers.applied action ++ (callers.step action).underWay := by
  cases action with
  | check key =>
    have same : (callers.step (.check key)).underWay = callers.underWay := by
      unfold step
      dsimp only
      split <;> rfl
    rw [same]
    exact List.append_nil _
  | subscribe key =>
    exact (Subscriptions.promises_append _ callers.channel (.topicSubscribe key)).symm
  | unsubscribe key =>
    exact (Subscriptions.promises_append _ callers.channel (.topicUnsubscribe key)).symm
  | send command =>
    have appended := Subscriptions.promises_append callers.system.state.subscriptions
      callers.channel command
    rw [promise_elsewhere enabled] at appended
    exact appended.symm
  | apply env =>
    obtain ⟨command, rest, next, -⟩ := enabled
    exact (List.append_nil _).trans (underWay_apply callers next succeeds)
  | other action =>
    have same : (callers.step (.other action)).underWay = callers.underWay :=
      congrArg (Subscriptions.promises · callers.channel)
        (System.subscriptions_step callers.system action enabled.1)
    rw [same]
    exact List.append_nil _

/-- What is under way and what is accepted is, in this order, what was applied and what
is under way still. -/
theorem underWay_run {callers : Callers} {actions : List CallerAction} {crates : Crates}
    (admissible : Runs.Admissible step callers (Enabled crates) actions)
    (succeeds : ∀ action ∈ actions, action.Succeeds) :
    callers.underWay ++ Runs.trace step accepted callers actions =
      Runs.trace step applied callers actions ++ (actions.foldl step callers).underWay := by
  induction actions generalizing callers with
  | nil => exact List.append_nil _
  | cons action rest inductionHypothesis =>
    obtain ⟨enabled, later⟩ := (Runs.admissible_cons _ _ _ _ _).mp admissible
    have now := underWay_step enabled (succeeds action List.mem_cons_self)
    have run := inductionHypothesis later fun action member =>
      succeeds action (List.mem_cons_of_mem _ member)
    simp only [Runs.trace, List.foldl_cons]
    rw [← List.append_assoc, now, List.append_assoc, run, List.append_assoc]

end Callers

/-- After every run of the callers and the node the counter is the number of topics
followed. -/
theorem Callers.counted_run (config : Config) (localPeer : PeerId) (now : Instant)
    (actions : List CallerAction) :
    (actions.foldl Callers.step (Callers.start config localPeer now)).system.state.Counted := by
  induction actions using List.reverseRecOn with
  | nil => rfl
  | append_singleton actions action inductionHypothesis =>
    rw [List.foldl_append, List.foldl_cons, List.foldl_nil]
    generalize actions.foldl Callers.step (Callers.start config localPeer now) = callers
      at inductionHypothesis ⊢
    cases action with
    | check key =>
      unfold Callers.step
      dsimp only
      split <;> exact inductionHypothesis
    | apply env =>
      unfold Callers.step
      dsimp only
      split
      · exact inductionHypothesis
      · exact System.counted_step _ _ inductionHypothesis
    | other action => exact System.counted_step _ action inductionHypothesis
    | _ => exact inductionHypothesis

/-- With nothing under way the callers' check is right: a call for a new topic is
answered with `LP2P_ERR_LIMITED` exactly if the topic does not fit. -/
theorem Callers.limited_idle (config : Config) (localPeer : PeerId) (now : Instant)
    (actions : List CallerAction) {key : Key}
    (idle : (actions.foldl Callers.step (Callers.start config localPeer now)).channel = [])
    (isNew : key ∉ (actions.foldl Callers.step
      (Callers.start config localPeer now)).system.state.subscriptions.followed) :
    (actions.foldl Callers.step (Callers.start config localPeer now)).answer (.check key) =
        some errLimited ↔
      (actions.foldl Callers.step (Callers.start config localPeer now)).expected.fits key =
        false := by
  have counted := Callers.counted_run config localPeer now actions
  generalize actions.foldl Callers.step (Callers.start config localPeer now) = callers
    at idle isNew counted ⊢
  have count : callers.system.state.subscriptions.followed.card =
      callers.system.state.topics.len := Table.card_keySet _
  have limit : callers.system.state.subscriptions.limit =
      callers.system.state.topicMaxSubscriptions := rfl
  unfold State.Counted at counted
  simp [Callers.answer, Callers.refuses, Callers.expected, idle, Subscriptions.fits, isNew, count,
    limit, counted]

/-- In every interleaving, subscriptions are applied in the order in which they
were answered with `LP2P_OK`. Those that have been applied were all followed when
they were applied, if and only if each of them fitted behind the commands that
were under way when it was answered. Where none were under way, a call for a new
topic is answered with `LP2P_ERR_LIMITED` exactly if the topic does not fit. -/
theorem subscriptions_held_iff {crates : Crates} {config : Config} {localPeer : PeerId}
    {now : Instant} {actions : List CallerAction}
    (run : Callers.Run crates config localPeer now actions)
    (succeeds : ∀ action ∈ actions, action.Succeeds) :
    let start := Callers.start config localPeer now
    let accepted := Runs.trace Callers.step Callers.accepted start actions
    let applied := Runs.trace Callers.step Callers.applied start actions
    applied.map Prod.fst = (accepted.take applied.length).map Prod.fst ∧
      ((∀ subscription ∈ applied, subscription.2 = true) ↔
        ∀ subscription ∈ accepted.take applied.length, subscription.2 = true) ∧
      ∀ before, before <+: actions →
        let callers := before.foldl Callers.step start
        callers.channel = [] → ∀ key, key ∉ callers.system.state.subscriptions.followed →
          (callers.answer (.check key) = some errLimited ↔ callers.expected.fits key = false) := by
  intro start accepted applied
  have promised : accepted = applied ++ (actions.foldl Callers.step start).underWay :=
    Callers.underWay_run run succeeds
  have earlier : accepted.take applied.length = applied := by
    rw [promised]
    exact List.take_left
  rw [earlier]
  refine ⟨rfl, Iff.rfl, ?_⟩
  intro before inside callers idle key isNew
  exact Callers.limited_idle config localPeer now before idle isNew

/-- Another topic. -/
def Sample.otherTopic : Key := Key.filled 2

/-- Two threads subscribe before the first command is applied. -/
def Sample.subscribeTwice : List CallerAction :=
  [.other (.ready Sample.env), .check Sample.topic, .subscribe Sample.topic,
    .check Sample.otherTopic, .subscribe Sample.otherTopic, .apply Sample.env, .apply Sample.env]

/-- A node that may follow one topic. -/
def Sample.oneTopic : Config := { Sample.config with topicMaxSubscriptions := 1 }

theorem Sample.subscribeTwice_run :
    Callers.Run Sample.crates Sample.oneTopic Sample.peer 0 Sample.subscribeTwice := by
  simp only [Callers.Run, Sample.subscribeTwice, Runs.admissible_cons, Runs.admissible_nil,
    and_true]
  refine ⟨⟨rfl, rfl, rfl⟩, trivial, List.mem_cons_self, trivial, List.mem_cons_self,
    ⟨_, _, rfl, rfl, rfl, ?_, trivial⟩, ⟨_, _, rfl, rfl, rfl, ?_, trivial⟩⟩ <;>
    simp [Command.ids]

theorem Sample.subscribeTwice_applied :
    Runs.trace Callers.step Callers.applied (Callers.start Sample.oneTopic Sample.peer 0)
      Sample.subscribeTwice = [(Sample.topic, true), (Sample.otherTopic, false)] := by
  decide +kernel

/-- The second of them did not fit when it was answered. -/
theorem subscriptions_held_iff_twice :
    ¬ ∀ subscription ∈ (Runs.trace Callers.step Callers.accepted
        (Callers.start Sample.oneTopic Sample.peer 0) Sample.subscribeTwice).take 2,
      subscription.2 = true := by
  have held := (subscriptions_held_iff Sample.subscribeTwice_run
    (by simp [Sample.subscribeTwice, CallerAction.Succeeds, Sample.env])).2.1
  rw [Sample.subscribeTwice_applied] at held
  intro fitted
  simpa using held.mpr fitted

/-- Both calls are answered with `LP2P_OK`, and the second topic is not followed
when its command is applied. -/
theorem accepted_subscription_lost :
    Callers.Run Sample.crates Sample.oneTopic Sample.peer 0 Sample.subscribeTwice ∧
      (∀ action ∈ Sample.subscribeTwice, action.Succeeds) ∧
      Runs.trace Callers.step (fun callers action => (callers.answer action).toList)
        (Callers.start Sample.oneTopic Sample.peer 0) Sample.subscribeTwice =
          [statusOk, statusOk] ∧
      Runs.trace Callers.step Callers.applied (Callers.start Sample.oneTopic Sample.peer 0)
        Sample.subscribeTwice = [(Sample.topic, true), (Sample.otherTopic, false)] := by
  refine ⟨Sample.subscribeTwice_run, ?_, by decide +kernel, Sample.subscribeTwice_applied⟩
  simp [Sample.subscribeTwice, CallerAction.Succeeds, Sample.env]

end Libp2pFfi
