import Libp2pFfi.Subscriptions

/-!
# The two tables of topics

A topic is found by the key the caller named it with, and by the name gossipsub
knows it under. The two tables are written in separate statements, with returns
between them, and only one of the two is asked before an entry of the other is
removed. They agree because a name determines its key: two hexadecimal digits a
byte, for all thirty-two bytes.

`Listed` is the invariant. It is kept by every action of a run, whatever
gossipsub answers, so it needs no assumption about the run at all.
-/

namespace Libp2pFfi

namespace Wire

/-- A hexadecimal digit determines its value. -/
theorem digitChar_injective : ∀ first second : Fin 16,
    Nat.digitChar first = Nat.digitChar second → first = second := by
  decide

/-- Two digits determine their byte. -/
theorem hexByte_injective : Function.Injective hexByte := by
  intro first second same
  obtain ⟨highSame, lowSame⟩ : Nat.digitChar (first.toNat / 16) = Nat.digitChar (second.toNat / 16) ∧
      Nat.digitChar (first.toNat % 16) = Nat.digitChar (second.toNat % 16) := by
    simpa [hexByte] using same
  have bound := first.toNat_lt
  have boundToo := second.toNat_lt
  have high : first.toNat / 16 = second.toNat / 16 :=
    Fin.mk.inj (digitChar_injective ⟨first.toNat / 16, by omega⟩ ⟨second.toNat / 16, by omega⟩
      highSame)
  have low : first.toNat % 16 = second.toNat % 16 :=
    Fin.mk.inj (digitChar_injective ⟨first.toNat % 16, by omega⟩ ⟨second.toNat % 16, by omega⟩
      lowSame)
  exact UInt8.toNat.inj (by omega)

/-- Digits written one after the other determine their bytes. -/
theorem hexBytes_injective : Function.Injective fun bytes : Bytes => bytes.flatMap hexByte := by
  intro first second same
  induction first generalizing second with
  | nil =>
    cases second with
    | nil => rfl
    | cons byte rest => simp [hexByte] at same
  | cons byte rest inductionHypothesis =>
    cases second with
    | nil => simp [hexByte] at same
    | cons other others =>
      have sized : (hexByte byte).length = (hexByte other).length := rfl
      obtain ⟨here, later⟩ := List.append_inj
        (by simpa only [List.flatMap_cons] using same : hexByte byte ++ rest.flatMap hexByte =
          hexByte other ++ others.flatMap hexByte) sized
      rw [hexByte_injective here, inductionHypothesis later]

/-- No two keys have the same topic. -/
theorem topicName_injective : Function.Injective topicName := by
  intro first second same
  have digits : first.toList.flatMap hexByte = second.toList.flatMap hexByte := by
    have chars := congrArg String.toList same
    simp only [topicName, String.toList_append, String.toList_ofList] at chars
    exact List.append_cancel_left chars
  exact List.Vector.eq first second (hexBytes_injective digits)

end Wire

namespace State

/-- The tables of topics agree with each other, with the limit and with the
counter the callers see. -/
structure Listed (state : State) : Prop where
  inverse : Table.Indexes Wire.topicName state.topicKeys state.topics
  named : ∀ key topic, state.topics.lookup key = some topic → topic.topic = Wire.topicName key
  bounded : state.topics.len ≤ state.topicMaxSubscriptions
  counted : state.Counted

variable {before after : State}

/-- A handler that leaves the topics alone. -/
theorem Listed.of_same (listed : before.Listed) (topics : after.topicsPart = before.topicsPart)
    (names : after.topicKeys = before.topicKeys) : after.Listed := by
  have counted := listed.counted.of_topics topics
  obtain ⟨table, limit, -⟩ := TopicsPart.mk.inj topics
  constructor
  · rw [names, table]
    exact listed.inverse
  · rw [table]
    exact listed.named
  · rw [table, limit]
    exact listed.bounded
  · exact counted

/-- A lookup notes when it was made, under the same name. -/
theorem listed_topicLookup (env : Env) (state : State) (key : Key) (listed : state.Listed) :
    (state.topicLookup env key).Listed := by
  have counted := counted_topicLookup env state key listed.counted
  unfold topicLookup at counted ⊢
  dsimp only at counted ⊢
  split at counted
  · exact ⟨listed.inverse, listed.named, listed.bounded, counted⟩
  · rename_i topic found
    have present : (state.topics.lookup key).isSome = true := Option.isSome_of_mem found
    have size (topic : TopicState) :
        Table.len (state.topics.insert key topic) = state.topics.len := by
      rw [Table.len_insert, if_pos (AList.lookup_isSome.mp present), Nat.add_zero]
    refine ⟨listed.inverse.update present _, ?_, ?_, counted⟩
    · intro other named lookedUp
      rw [Table.lookup_insert_if] at lookedUp
      split at lookedUp
      · rename_i own
        obtain rfl := Option.some.inj lookedUp
        rw [own]
        exact listed.named key topic found
      · exact listed.named other named lookedUp
    · exact (size _).le.trans listed.bounded

theorem listed_topicSubscribe (env : Env) (state : State) (key : Key) (listed : state.Listed) :
    (state.topicSubscribe env key).Listed := by
  unfold topicSubscribe
  dsimp only
  split
  · exact listed
  · rename_i fits
    obtain ⟨isNew, room⟩ : state.topics.lookup key = none ∧
        state.topics.len < state.topicMaxSubscriptions := by simpa using fits
    split
    · exact listed
    · apply listed_topicLookup
      have followed : State.Listed { state.did (.subscribe (Wire.topicName key)) with
          topicKeys := state.topicKeys.insert (Wire.topicName key) key
          topics := state.topics.insert key { topic := Wire.topicName key }
          shared := { state.shared with
            topicsSubscribed :=
              Table.len (state.topics.insert key { topic := Wire.topicName key }) } } := by
        constructor
        · exact listed.inverse.insert Wire.topicName_injective key _
        · intro other topic found
          rw [Table.lookup_insert_if] at found
          split at found
          · rename_i own
            obtain rfl := Option.some.inj found
            rw [own]
          · exact listed.named other topic found
        · have absent : key ∉ state.topics := AList.lookup_eq_none.mp isNew
          show Table.len (state.topics.insert key _) ≤ state.topicMaxSubscriptions
          rw [Table.len_insert, if_neg absent]
          omega
        · rfl
      apply followed.of_same
      · exact (confined_startProviding env _ _).topics (by simp)
      · exact congrArg (fun background => background.memory.topicKeys)
          (background_startProviding env _ _)

theorem listed_topicUnsubscribe (env : Env) (state : State) (key : Key) (listed : state.Listed) :
    (state.topicUnsubscribe env key).Listed := by
  unfold topicUnsubscribe
  split
  · exact listed
  · rename_i topic found
    have name := listed.named key topic found
    constructor
    · rw [name]
      exact listed.inverse.erase Wire.topicName_injective key
    · intro other kept lookedUp
      have still : (state.topics.erase key).lookup other = some kept := lookedUp
      rw [Table.lookup_erase_if] at still
      split at still
      · cases still
      · exact listed.named other kept still
    · exact (Table.len_erase_le state.topics key).trans listed.bounded
    · rfl

theorem listed_tick (env : Env) (state : State) (listed : state.Listed) :
    (state.tick env).Listed := by
  have names := congrArg (fun background => background.memory.topicKeys)
    (background_tick env state)
  obtain ⟨keys, late, same, namesToo, lookedUp⟩ := topics_tick env state
  have lookups (keys : List Key) (state : State) (listed : state.Listed) :
      (keys.foldl (topicLookup env) state).Listed ∧
        (keys.foldl (topicLookup env) state).topicKeys = state.topicKeys := by
    refine ⟨?_, congrArg (fun background => background.memory.topicKeys)
      (Runs.unchanged _ state background
        (fun state key => background_topicLookup env state key) keys)⟩
    induction keys generalizing state with
    | nil => exact listed
    | cons key rest inductionHypothesis =>
      exact inductionHypothesis _ (listed_topicLookup env state key listed)
  obtain ⟨stillListed, sameNames⟩ := lookups keys late (listed.of_same same namesToo)
  exact stillListed.of_same lookedUp ((names.trans namesToo.symm).trans sameNames.symm)

end State

namespace System

/-- Noting an input is not about topics. -/
theorem listed_heard (system : System) (env : Env) (input : Input) (listed : system.state.Listed) :
    ((system.state.deliver input).heard env.nowMs input).Listed := by
  apply listed.of_same
  · unfold State.deliver
    split <;> rfl
  · exact congrArg (fun background => background.memory.topicKeys)
      (State.background_deliver system.state input)

theorem listed_step (system : System) (action : Action) (listed : system.state.Listed) :
    (system.step action).state.Listed := by
  have names := system.topicKeys_step action
  cases action with
  | handle env input =>
    have heard := system.listed_heard env input listed
    cases input with
    | command command =>
      have aside (elsewhere : .topics ∉ command.parts)
          (other : (Action.handle env (.command command)).writes ≠ .topicKeys) :
          (system.step (.handle env (.command command))).state.Listed :=
        listed.of_same ((State.confined_command env _ command).topics elsewhere) (names other)
      cases command with
      | topicSubscribe key => exact State.listed_topicSubscribe env _ key heard
      | topicUnsubscribe key => exact State.listed_topicUnsubscribe env _ key heard
      | _ => exact aside (by simp [Command.parts]) (by simp [Action.writes, Input.writes])
    | tick => exact State.listed_tick env _ heard
    | swarm event =>
      have other : (Action.handle env (.swarm event)).writes ≠ .topicKeys := by
        cases event with
        | rpc event => cases event <;> simp [Action.writes, Input.writes]
        | _ => simp [Action.writes, Input.writes]
      apply State.Listed.of_same listed _ (names other)
      have swarm := (State.confined_swarmEvent env
        ((system.state.deliver (.swarm event)).heard env.nowMs (.swarm event)) event).topics
        (SwarmEvent.topics_notMem event)
      refine swarm.trans ?_
      unfold State.deliver
      split <;> rfl
  | ready env =>
    apply listed.of_same
    · exact (State.confined_provide env (system.state.emit _)).topics (by simp)
    · exact names (by simp [Action.writes])
  | draw => exact listed.of_same rfl rfl
  | poll => exact listed.of_same rfl rfl
  | internalQuery => exact listed.of_same rfl rfl
  | learn => exact listed.of_same rfl rfl

theorem listed_after (config : Config) (localPeer : PeerId) (now : Instant)
    (actions : List Action) : (after config localPeer now actions).state.Listed := by
  induction actions using List.reverseRecOn with
  | nil =>
    refine ⟨Table.Indexes.empty _, fun key topic found => ?_, Nat.zero_le _, rfl⟩
    have nothing : (∅ : Table Key TopicState).lookup key = none := AList.lookup_empty key
    cases nothing.symm.trans found
  | append_singleton actions action inductionHypothesis =>
    rw [after_append_singleton]
    exact listed_step _ action inductionHypothesis

end System

/-- A subscription is refused: the topic is followed already, there is no room,
or gossipsub does not let it through. -/
def State.Refuses (env : Env) (state : State) (key : Key) : Prop :=
  (state.topics.lookup key).isSome = true ∨ state.topicMaxSubscriptions ≤ state.topics.len ∨
    env.subscribes (Wire.topicName key) = false

theorem State.topicSubscribe_refused {env : Env} {state : State} {key : Key}
    (refuses : state.Refuses env key) : state.topicSubscribe env key = state := by
  unfold topicSubscribe
  dsimp only
  rcases refuses with known | full | fails
  · rw [if_pos (by simp [known])]
  · rw [if_pos (by simp [full])]
  · rw [if_pos (by simp [fails] : (!env.subscribes (Wire.topicName key)) = true)]
    exact ite_self _

/-- The two tables of topics are inverse to each other in every state a node
reaches, whatever is subscribed to and left in whatever order and whatever
gossipsub answers: a name is listed exactly for a followed key that has it, and no
two keys share a name. The table stays within its limit, which is what the node
was started with, and the counter shows its size. A subscription that is refused
or fails leaves the tables, the counter and the provided keys as they were. -/
theorem topic_tables_inverse (config : Config) (localPeer : PeerId) (now : Instant)
    (actions : List Action) :
    Function.Injective Wire.topicName ∧
      (System.after config localPeer now actions).state.Listed ∧
      (System.after config localPeer now actions).state.topicMaxSubscriptions =
        config.topicMaxSubscriptions ∧
      ∀ env key, (System.after config localPeer now actions).state.Refuses env key →
        let before := (System.after config localPeer now actions).state
        let after := (System.after config localPeer now
          (actions ++ [.handle env (.command (.topicSubscribe key))])).state
        after.topics = before.topics ∧ after.topicKeys = before.topicKeys ∧
          after.shared.topicsSubscribed = before.shared.topicsSubscribed ∧
          after.swarm.provided = before.swarm.provided := by
  have settings := System.settings_after config localPeer now actions
  refine ⟨Wire.topicName_injective, System.listed_after config localPeer now actions,
    congrArg Settings.topicMaxSubscriptions settings, ?_⟩
  intro env key refuses
  have handled : (System.after config localPeer now
      (actions ++ [.handle env (.command (.topicSubscribe key))])).state =
        (System.after config localPeer now actions).state.heard env.nowMs
          (.command (.topicSubscribe key)) := by
    rw [System.after_append_singleton]
    exact State.topicSubscribe_refused refuses
  rw [handled]
  exact ⟨rfl, rfl, rfl, rfl⟩

end Libp2pFfi
