import Libp2pFfi.Upkeep

/-!
# When topics are looked up

Gossipsub never dials for a mesh of its own, so the node asks the DHT who else
follows a topic: when it subscribes, and on ticks as long as nobody is in the
topic's mesh, but not within half a minute of the last time. Only that last time is
remembered, and it is forgotten with the subscription. Over whole runs it decides
which ticks look a topic up.
-/

namespace Libp2pFfi

def Note.ofTopic (key : Key) : Note → Bool
  | follow other _ => key = other
  | leave other => key = other
  | lookUp other _ => key = other
  | _ => false

/-- What a note about a topic makes of it. -/
def Note.onTopic (topic : Option TopicState) : Note → Option TopicState
  | follow _ name => some { topic := name }
  | leave _ => none
  | lookUp _ now => topic.map fun topic => { topic with lastLookup := some now }
  | _ => topic

theorem Agenda.topic_note (agenda : Agenda) (note : Note) (key : Key) :
    (agenda.note note).topics.lookup key =
      if note.ofTopic key then note.onTopic (agenda.topics.lookup key)
      else agenda.topics.lookup key := by
  cases note with
  | follow other name =>
    simp only [Agenda.note, Note.ofTopic, Note.onTopic, Table.lookup_insert_if, decide_eq_true_eq]
  | leave other =>
    simp only [Agenda.note, Note.ofTopic, Note.onTopic, Table.lookup_erase_if, decide_eq_true_eq]
  | lookUp other now =>
    unfold Agenda.note
    simp only [Note.ofTopic, Note.onTopic, decide_eq_true_eq]
    by_cases own : key = other
    · subst own
      rw [if_pos rfl]
      cases followed : agenda.topics.lookup key with
      | none => exact followed
      | some topic => exact (Table.lookup_insert_if _ _ _ _).trans (if_pos rfl)
    · rw [if_neg own]
      split
      · rfl
      · exact (Table.lookup_insert_if _ _ _ _).trans (if_neg own)
  | _ => rfl

theorem Agenda.topic_notes (notes : List Note) (agenda : Agenda) (key : Key) :
    (notes.foldl Agenda.note agenda).topics.lookup key =
      (notes.filter (Note.ofTopic key)).foldl Note.onTopic (agenda.topics.lookup key) := by
  induction notes generalizing agenda with
  | nil => rfl
  | cons note rest inductionHypothesis =>
    rw [List.foldl_cons, inductionHypothesis, Agenda.topic_note, List.filter_cons]
    split <;> rfl

theorem count_lookedUp (notes : List Note) (key : Key) :
    (notes.filterMap Note.line?).count (.lookedUp key) =
      ((notes.filter (Note.ofTopic key)).filterMap Note.line?).count (.lookedUp key) := by
  induction notes with
  | nil => rfl
  | cons note rest inductionHypothesis =>
    by_cases own : note.ofTopic key = true
    · rw [List.filter_cons_of_pos own]
      cases note <;> simp [List.filterMap_cons, Note.line?, List.count_cons, inductionHypothesis]
    · rw [List.filter_cons_of_neg own, ← inductionHypothesis]
      cases note with
      | lookUp other now =>
        refine List.count_cons_of_ne fun same => own ?_
        exact decide_eq_true (Line.lookedUp.inj same).symm
      | _ => simp [List.filterMap_cons, Note.line?]

namespace State

theorem mem_lonely {env : Env} {state : State} {key : Key} :
    key ∈ state.lonely env ↔ ∃ topic, state.topics.lookup key = some topic ∧
      waited env.now topicLookupInterval topic.lastLookup = true ∧
        env.meshPeers topic.topic = 0 := by
  rw [lonely, (env.order_perm _).mem_iff]
  simp only [List.mem_map, List.mem_filter, Bool.and_eq_true, beq_iff_eq, Prod.exists]
  constructor
  · rintro ⟨other, topic, ⟨listed, lonely⟩, rfl⟩
    exact ⟨topic, Table.mem_toList.mp listed, lonely⟩
  · rintro ⟨topic, found, lonely⟩
    exact ⟨key, topic, ⟨Table.mem_toList.mpr found, lonely⟩, rfl⟩

/-- A tick looks a topic up at most once. -/
theorem nodup_lonely (env : Env) (state : State) : (state.lonely env).Nodup := by
  have keys : (state.topics.toList.map Prod.fst).Nodup := by
    have same : state.topics.toList.map Prod.fst = state.topics.keys := by
      simp [Table.toList, AList.keys, List.keys]
    rw [same]
    exact state.topics.keys_nodup
  rw [lonely, (env.order_perm _).nodup_iff]
  exact (List.Sublist.map Prod.fst List.filter_sublist).nodup keys

end State

namespace System

/-- What an action notes about a topic. -/
def topicNotes (key : Key) (system : System) : Action → List Note
  | .handle env .tick => if key ∈ system.state.lonely env then [.lookUp key env.now] else []
  | .handle env (.command (.topicSubscribe other)) =>
    if key = other ∧ system.state.follows env key = true then
      [.follow key (Wire.topicName key), .lookUp key env.now]
    else []
  | .handle _ (.command (.topicUnsubscribe other)) =>
    if key = other ∧ (system.state.topics.lookup key).isSome = true then [.leave key] else []
  | _ => []

theorem filter_topic (key : Key) (system : System) (action : Action) :
    (system.notes action).filter (Note.ofTopic key) = system.topicNotes key action := by
  have asked : (if system.asks action then [Note.ask] else []).filter (Note.ofTopic key) = [] := by
    split <;> rfl
  rw [filter_plans (fun note own => by cases note <;> first | rfl | cases own)]
  cases action with
  | ready env => rfl
  | handle env input =>
    cases input with
    | command sent =>
      cases sent with
      | topicSubscribe other =>
        change (if system.state.follows env other then _ else _ : List Note).filter
          (Note.ofTopic key) = if key = other ∧ _ then _ else _
        by_cases own : key = other
        · subst own
          by_cases follows : system.state.follows env key = true
          · rw [if_pos follows, if_pos ⟨rfl, follows⟩]
            simp [Note.ofTopic]
          · rw [if_neg follows, if_neg fun both => follows both.2]
            rfl
        · have none : ¬ (key = other ∧ system.state.follows env key = true) :=
            fun both => own both.1
          rw [if_neg none]
          split <;> simp [Note.ofTopic, own]
      | topicUnsubscribe other =>
        change (system.state.unsubscribeNotes other).filter (Note.ofTopic key) =
          if key = other ∧ _ then _ else _
        unfold State.unsubscribeNotes
        by_cases own : key = other
        · subst own
          by_cases follows : (system.state.topics.lookup key).isSome = true
          · rw [if_pos follows, if_pos ⟨rfl, follows⟩]
            simp [Note.ofTopic]
          · rw [if_neg follows, if_neg fun both => follows both.2]
            rfl
        · have none : ¬ (key = other ∧ (system.state.topics.lookup key).isSome = true) :=
            fun both => own both.1
          rw [if_neg none]
          split <;> simp [Note.ofTopic, own]
      | _ => rfl
    | swarm event => exact asked
    | tick =>
      have looksUp : ((system.state.lonely env).map fun other => Note.lookUp other env.now).filter
          (Note.ofTopic key) =
            if key ∈ system.state.lonely env then [.lookUp key env.now] else [] := by
        have once := (State.nodup_lonely env system.state).count (a := key)
        rw [List.filter_map]
        change ((system.state.lonely env).filter fun other => decide (key = other)).map _ = _
        simp only [eq_comm (a := key), List.filter_eq, once, List.map_replicate]
        split <;> rfl
      change (system.plans (.handle env .tick)).filter (Note.ofTopic key) =
        if key ∈ system.state.lonely env then _ else _
      rw [plans, List.filter_append, looksUp]
      refine (congrArg _ ?_).trans (List.append_nil _)
      split <;> rfl
  | _ => rfl

/-- What an action makes of a topic. -/
theorem topic_step (key : Key) (system : System) (action : Action) :
    (system.step action).state.topics.lookup key =
      (system.topicNotes key action).foldl Note.onTopic (system.state.topics.lookup key) := by
  refine (congrArg (fun agenda => agenda.topics.lookup key)
    (writes_step system action).agenda).trans ?_
  rw [Agenda.topic_notes, filter_topic]
  rfl

theorem lookups_step (key : Key) (system : System) (action : Action) :
    lookups key (system.step action).state.log =
      lookups key system.state.log +
        ((system.topicNotes key action).filterMap Note.line?).count (.lookedUp key) := by
  unfold lookups
  rw [(writes_step system action).lines, List.count_append, count_lookedUp, filter_topic]

/-- When an action looks a topic up. -/
def looksUpAt (key : Key) (system : System) : Action → Option Instant
  | .handle env .tick => if key ∈ system.state.lonely env then some env.now else none
  | .handle env (.command (.topicSubscribe other)) =>
    if key = other ∧ system.state.follows env key = true then some env.now else none
  | _ => none

/-- An action looks a topic up. -/
def LooksUp (key : Key) (system : System) (action : Action) : Prop :=
  lookups key system.state.log < lookups key (system.step action).state.log

/-- Every lookup has its note, and there is at most one in a step. -/
theorem count_topicNotes (key : Key) (system : System) (action : Action) :
    ((system.topicNotes key action).filterMap Note.line?).count (.lookedUp key) =
      if (system.looksUpAt key action).isSome then 1 else 0 := by
  cases action with
  | handle env input =>
    cases input with
    | tick =>
      unfold topicNotes looksUpAt
      dsimp only
      split <;> simp [Note.line?]
    | command sent =>
      cases sent with
      | topicSubscribe other =>
        unfold topicNotes looksUpAt
        dsimp only
        split <;> simp [Note.line?, List.filterMap_cons]
      | topicUnsubscribe other =>
        unfold topicNotes looksUpAt
        dsimp only
        split <;> rfl
      | _ => rfl
    | _ => rfl
  | _ => rfl

theorem looksUp_iff {key : Key} {system : System} {action : Action} :
    system.LooksUp key action ↔ (system.looksUpAt key action).isSome = true := by
  unfold LooksUp
  rw [lookups_step, count_topicNotes, Nat.lt_add_right_iff_pos]
  split <;> simp [*]

theorem time_of_looksUpAt {key : Key} {system : System} {action : Action} {time : Instant}
    (looked : system.looksUpAt key action = some time) : action.time? = some time := by
  have kept {condition : Prop} [Decidable condition] {now : Instant}
      (made : (if condition then some now else none) = some time) : some now = some time := by
    split at made
    · exact made
    · cases made
  cases action with
  | handle env input =>
    cases input with
    | tick => exact kept looked
    | command sent =>
      cases sent with
      | topicSubscribe other => exact kept looked
      | _ => cases looked
    | _ => cases looked
  | _ => cases looked

end System

/-- The caller ends its subscription. -/
def Action.leaves (key : Key) : Action → Bool
  | .handle _ (.command (.topicUnsubscribe other)) => key = other
  | _ => false

namespace System

/-- A topic is looked up, which it remembers, or it is left, or nothing happens to it. -/
theorem topic_moves (key : Key) (system : System) (action : Action) :
    (∃ time topic, system.looksUpAt key action = some time ∧ action.leaves key = false ∧
      (system.step action).state.topics.lookup key = some { topic, lastLookup := some time } ∧
        (topic = Wire.topicName key ∨
          ∃ kept, system.state.topics.lookup key = some kept ∧ kept.topic = topic)) ∨
      system.looksUpAt key action = none ∧
        (system.step action).state.topics.lookup key =
          if action.leaves key then none else system.state.topics.lookup key := by
  rw [topic_step]
  cases action with
  | handle env input =>
    cases input with
    | tick =>
      unfold topicNotes looksUpAt
      dsimp only
      by_cases lonely : key ∈ system.state.lonely env
      · obtain ⟨kept, followed, -⟩ := State.mem_lonely.mp lonely
        rw [if_pos lonely, if_pos lonely, followed]
        exact .inl ⟨env.now, kept.topic, rfl, rfl, rfl, .inr ⟨kept, rfl, rfl⟩⟩
      · rw [if_neg lonely, if_neg lonely]
        exact .inr ⟨rfl, rfl⟩
    | command sent =>
      cases sent with
      | topicSubscribe other =>
        unfold topicNotes looksUpAt
        dsimp only
        by_cases made : key = other ∧ system.state.follows env key = true
        · rw [if_pos made, if_pos made]
          exact .inl ⟨env.now, _, rfl, rfl, rfl, .inl rfl⟩
        · rw [if_neg made, if_neg made]
          exact .inr ⟨rfl, rfl⟩
      | topicUnsubscribe other =>
        refine .inr ⟨rfl, ?_⟩
        unfold topicNotes Action.leaves
        by_cases own : key = other
        · subst own
          cases followed : system.state.topics.lookup key with
          | none => simp
          | some topic => simp [Note.onTopic]
        · simp [own]
      | _ => exact .inr ⟨rfl, rfl⟩
    | _ => exact .inr ⟨rfl, rfl⟩
  | _ => exact .inr ⟨rfl, rfl⟩

/-- When a topic was last looked up, if it is followed. -/
def lastLookup (key : Key) (system : System) : Option Instant :=
  (system.state.topics.lookup key).bind TopicState.lastLookup

theorem lastLookup_of_followed {key : Key} {system : System} {topic : TopicState}
    (followed : system.state.topics.lookup key = some topic) :
    system.lastLookup key = topic.lastLookup := by
  rw [lastLookup, followed]
  rfl

/-- A topic remembers when it was last looked up, as long as it is followed. -/
theorem remembers_lookUp (key : Key) :
    Runs.Remembers step (lastLookup key) (looksUpAt key)
      fun _ action => action.leaves key = true := by
  refine ⟨fun system action time looked => ?_, fun system action idle stays => ?_,
    fun system action left => ?_⟩
  · obtain ⟨moment, topic, isTime, -, remembered, -⟩ | ⟨idle, -⟩ := topic_moves key system action
    · obtain rfl := Option.some.inj (isTime.symm.trans looked)
      exact lastLookup_of_followed remembered
    · cases idle.symm.trans looked
  · obtain ⟨moment, -, isTime, -⟩ | ⟨-, same⟩ := topic_moves key system action
    · cases isTime.symm.trans idle
    · rw [lastLookup, same, if_neg stays]
      rfl
  · obtain ⟨-, -, -, stays, -⟩ | ⟨-, gone⟩ := topic_moves key system action
    · cases stays.symm.trans left
    · rw [lastLookup, gone, if_pos left]
      rfl

/-- A topic that is followed has its name, and was looked up. -/
theorem followed_after (config : Config) (localPeer : PeerId) (now : Instant)
    (actions : List Action) (key : Key) :
    ∀ topic, (after config localPeer now actions).state.topics.lookup key = some topic →
      topic.topic = Wire.topicName key ∧ topic.lastLookup ≠ none := by
  induction actions using List.reverseRecOn with
  | nil =>
    intro topic followed
    cases followed
  | append_singleton actions action inductionHypothesis =>
    intro topic followed
    rw [after_append_singleton] at followed
    obtain ⟨moment, name, -, -, remembered, origin⟩ | ⟨-, same⟩ :=
      topic_moves key (after config localPeer now actions) action
    · obtain rfl := Option.some.inj (remembered.symm.trans followed)
      refine ⟨?_, Option.some_ne_none moment⟩
      obtain named | ⟨kept, before, rfl⟩ := origin
      · exact named
      · exact (inductionHypothesis kept before).1
    · rw [same] at followed
      split at followed
      · cases followed
      · exact inductionHypothesis topic followed

/-- A topic was looked up at some time, and has not been left since. -/
def LookedUp (key : Key) (config : Config) (localPeer : PeerId) (now : Instant)
    (actions : List Action) (time : Instant) : Prop :=
  ∃ earlier made later, actions = earlier ++ made :: later ∧
    (after config localPeer now earlier).LooksUp key made ∧ made.time? = some time ∧
      ∀ action ∈ later, action.leaves key = false

section

variable {key : Key} {config : Config} {localPeer : PeerId} {now : Instant} {actions : List Action}

theorem lookedUp_iff {time : Instant} :
    LookedUp key config localPeer now actions time ↔
      ∃ earlier made later, actions = earlier ++ made :: later ∧
        (after config localPeer now earlier).looksUpAt key made = some time ∧
          Runs.Admissible step ((after config localPeer now earlier).step made)
            (fun _ action => ¬ action.leaves key = true) later := by
  constructor
  · rintro ⟨earlier, made, later, rfl, looked, isTime, stays⟩
    obtain ⟨moment, lookedAt⟩ := Option.isSome_iff_exists.mp (looksUp_iff.mp looked)
    obtain rfl := Option.some.inj ((time_of_looksUpAt lookedAt).symm.trans isTime)
    refine ⟨earlier, made, later, rfl, lookedAt, fun before action inside => ?_⟩
    exact Bool.eq_false_iff.mp (stays action (Runs.mem_iff_taken.mpr ⟨before, inside⟩))
  · rintro ⟨earlier, made, later, rfl, lookedAt, stays⟩
    have looked : (after config localPeer now earlier).LooksUp key made :=
      looksUp_iff.mpr (Option.isSome_of_eq_some lookedAt)
    refine ⟨earlier, made, later, rfl, looked, time_of_looksUpAt lookedAt, fun action member => ?_⟩
    obtain ⟨before, inside⟩ := Runs.mem_iff_taken.mp member
    exact Bool.eq_false_iff.mpr (stays before action inside)

/-- A topic is followed exactly if it was looked up and has not been left since. -/
theorem followed_iff (clocked : Clocked now actions) :
    (∃ topic, (after config localPeer now actions).state.topics.lookup key = some topic) ↔
      ∃ time, LookedUp key config localPeer now actions time := by
  constructor
  · rintro ⟨topic, followed⟩
    obtain ⟨time, last⟩ := Option.ne_none_iff_exists'.mp (followed_after _ _ _ _ _ _ followed).2
    have initially : (start config localPeer now).lastLookup key = none := rfl
    have known : (after config localPeer now actions).lastLookup key = some time :=
      (lastLookup_of_followed followed).trans last
    exact ⟨time, lookedUp_iff.mpr ((remembers_lookUp key).was_done initially known)⟩
  · rintro ⟨time, lookedUp⟩
    obtain ⟨earlier, made, later, rfl, lookedAt, stays⟩ := lookedUp_iff.mp lookedUp
    obtain ⟨latest, known, -⟩ :=
      (remembers_lookUp key).not_before (clocked.inOrder fun _ _ _ => time_of_looksUpAt) lookedAt
        stays
    obtain ⟨topic, followed, -⟩ := Option.bind_eq_some_iff.mp known
    exact ⟨topic, followed⟩

/-- A topic has waited exactly if it has since every lookup. -/
theorem waited_lookups_iff {topic : TopicState} {moment : Instant} (clocked : Clocked now actions)
    (followed : (after config localPeer now actions).state.topics.lookup key = some topic) :
    waited moment topicLookupInterval topic.lastLookup = true ↔
      ∀ time, LookedUp key config localPeer now actions time →
        time + topicLookupInterval ≤ moment := by
  rw [← lastLookup_of_followed followed, waited_all_iff (remembers_lookUp key) rfl
    (fun _ _ _ => time_of_looksUpAt) clocked (by decide)]
  constructor
  · intro old time lookedUp
    obtain ⟨earlier, made, later, split, lookedAt, stays⟩ := lookedUp_iff.mp lookedUp
    exact old earlier made later time split lookedAt stays
  · intro old earlier made later time split lookedAt stays
    exact old time (lookedUp_iff.mpr ⟨earlier, made, later, split, lookedAt, stays⟩)

/-- A tick looks a topic up if it is followed, lonely, and has waited. -/
theorem tick_looksUp_iff {env : Env} (clocked : Clocked now actions) :
    (after config localPeer now actions).LooksUp key (.handle env .tick) ↔
      env.meshPeers (Wire.topicName key) = 0 ∧
        (∃ time, LookedUp key config localPeer now actions time) ∧
          ∀ time, LookedUp key config localPeer now actions time →
            time + topicLookupInterval ≤ env.now := by
  have looks : (after config localPeer now actions).LooksUp key (.handle env .tick) ↔
      key ∈ (after config localPeer now actions).state.lonely env := by
    rw [looksUp_iff, looksUpAt, Option.isSome_ite]
  rw [looks, State.mem_lonely, ← followed_iff clocked]
  constructor
  · rintro ⟨topic, followed, waits, lonely⟩
    obtain ⟨named, -⟩ := followed_after _ _ _ _ _ _ followed
    exact ⟨named ▸ lonely, ⟨topic, followed⟩, (waited_lookups_iff clocked followed).mp waits⟩
  · rintro ⟨lonely, ⟨topic, followed⟩, waits⟩
    obtain ⟨named, -⟩ := followed_after _ _ _ _ _ _ followed
    exact ⟨topic, followed, (waited_lookups_iff clocked followed).mpr waits, named ▸ lonely⟩

/-- A subscription looks its topic up if it is made. -/
theorem subscribe_looksUp_iff {env : Env} {other : Key} (clocked : Clocked now actions) :
    (after config localPeer now actions).LooksUp key
        (.handle env (.command (.topicSubscribe other))) ↔
      key = other ∧ (∀ time, ¬ LookedUp key config localPeer now actions time) ∧
        (after config localPeer now actions).state.topics.len <
            (after config localPeer now actions).state.topicMaxSubscriptions ∧
          env.subscribes (Wire.topicName key) = true := by
  have looks : (after config localPeer now actions).LooksUp key
      (.handle env (.command (.topicSubscribe other))) ↔
        key = other ∧ (after config localPeer now actions).state.follows env key = true := by
    rw [looksUp_iff, looksUpAt, Option.isSome_ite]
  have unknown : ((after config localPeer now actions).state.topics.lookup key).isSome = false ↔
      ∀ time, ¬ LookedUp key config localPeer now actions time := by
    rw [← not_exists, ← followed_iff clocked, ← Option.isSome_iff_exists, Bool.not_eq_true]
  rw [looks, ← unknown, State.follows]
  simp [and_assoc]

end

/-- A node looks a topic up when the caller's subscription to it is made, which needs that
it does not follow it already, and on every tick that finds nobody in its mesh, half a
minute after the last lookup at the earliest. -/
theorem lookups_paced {config : Config} {localPeer : PeerId} {now : Instant} {before : List Action}
    {action : Action} (clocked : Clocked now (before ++ [action])) (key : Key) :
    let system := after config localPeer now before
    lookups key (system.step action).state.log ≤ lookups key system.state.log + 1 ∧
      (∀ env, action = .handle env .tick →
        (system.LooksUp key action ↔
          env.meshPeers (Wire.topicName key) = 0 ∧
            (∃ time, LookedUp key config localPeer now before time) ∧
              ∀ time, LookedUp key config localPeer now before time →
                time + topicLookupInterval ≤ env.now)) ∧
      (∀ env other, action = .handle env (.command (.topicSubscribe other)) →
        (system.LooksUp key action ↔
          key = other ∧ (∀ time, ¬ LookedUp key config localPeer now before time) ∧
            system.state.topics.len < system.state.topicMaxSubscriptions ∧
              env.subscribes (Wire.topicName key) = true)) ∧
      (system.LooksUp key action →
        (∃ env, action = .handle env .tick) ∨
          ∃ env, action = .handle env (.command (.topicSubscribe key))) := by
  intro system
  have passed : Clocked now before := clocked.take (List.prefix_append before _)
  refine ⟨?_, ?_, ?_, ?_⟩
  · rw [lookups_step, count_topicNotes]
    split <;> simp
  · rintro env rfl
    exact tick_looksUp_iff passed
  · rintro env other rfl
    exact subscribe_looksUp_iff passed
  · intro looksUp
    have looked : (system.looksUpAt key action).isSome = true := looksUp_iff.mp looksUp
    cases action with
    | handle env input =>
      cases input with
      | tick => exact .inl ⟨env, rfl⟩
      | command sent =>
        cases sent with
        | topicSubscribe other =>
          obtain ⟨rfl, -⟩ := (subscribe_looksUp_iff passed).mp looksUp
          exact .inr ⟨env, rfl⟩
        | _ => cases looked
      | _ => cases looked
    | _ => cases looked

end System

/-- Half a minute after the start. -/
def Sample.patient : Env := { Sample.env with now := topicLookupInterval }

/-- The caller follows a topic. -/
def Sample.followed : List Action :=
  [.ready Sample.env, .handle Sample.env (.command (.topicSubscribe Sample.topic))]

/-- A tick looks it up again, since the lookup before is long ago. -/
theorem System.lookups_paced_again :
    (after Sample.config Sample.peer 0 Sample.followed).LooksUp Sample.topic
        (.handle Sample.patient .tick) ∧
      ∀ time, LookedUp Sample.topic Sample.config Sample.peer 0 Sample.followed time →
        time + topicLookupInterval ≤ Sample.patient.now := by
  have looks : (after Sample.config Sample.peer 0 Sample.followed).LooksUp Sample.topic
      (.handle Sample.patient .tick) := by
    unfold LooksUp
    decide
  have clocked : Clocked 0 (Sample.followed ++ [.handle Sample.patient .tick]) := by
    simp [Clocked, Sample.followed, Action.time?, Sample.env]
  obtain ⟨-, ticks, -⟩ := @System.lookups_paced Sample.config Sample.peer _ _ _ clocked Sample.topic
  exact ⟨looks, ((ticks _ rfl).mp looks).2.2⟩

end Libp2pFfi
