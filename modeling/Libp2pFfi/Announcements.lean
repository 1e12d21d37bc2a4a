import Libp2pFfi.Authenticity
import Libp2pFfi.Gossip
import Libp2pFfi.Topics

/-!
# Which topic an announcement came from

Gossip messages are told apart when they are handled, by the topics followed at
that time: what is on a followed topic is a topic message, and everything else
is taken for an announcement. A message waits in a queue of gossipsub's before it
is handled. If its topic is left in the meantime, it is on a topic that is neither
followed nor the announcement topic, and it is still taken for an announcement,
also by a node that has announcements turned off.

`Traced` is what should hold of every action. It holds of every action of a run
exactly if no such message was admitted.
-/

namespace Libp2pFfi

/-- The handling of one gossip message. -/
def Action.gossip (env : Env) (source : PeerId) (id : MessageId) (message : GossipMessage) : Action :=
  .handle env (.swarm (.gossipsub (.message source id message)))

theorem Action.gossip_inj {env otherEnv : Env} {source otherSource : PeerId}
    {id otherId : MessageId} {message other : GossipMessage}
    (same : gossip env source id message = gossip otherEnv otherSource otherId other) :
    env = otherEnv ∧ source = otherSource ∧ id = otherId ∧ message = other := by
  simpa [gossip] using same

/-- A topic the node follows. -/
def State.FollowsTopic (state : State) (topic : String) : Prop :=
  ∃ key, (state.topics.lookup key).isSome = true ∧ topic = Wire.topicName key

/-- What an action reports of gossip is from the topic it is reported for, and a
message on another topic causes nothing. -/
structure Traced (announceTopic : Option String) (state : State) (action : Action)
    (extra : List Entry) : Prop where
  announcement : ∀ record, .did (.emit record) ∈ extra → record.header.kind = .announcement →
    ∃ env source id message, action = .gossip env source id message ∧
      announceTopic = some message.topic
  topicMessage : ∀ record, .did (.emit record) ∈ extra → record.header.kind = .topicMessage →
    ∃ env source id message key payload, action = .gossip env source id message ∧
      (state.topics.lookup key).isSome = true ∧ message.topic = Wire.topicName key ∧
        record.data = key.toList ++ payload
  stranger : ∀ env source id message, action = .gossip env source id message →
    ¬ state.FollowsTopic message.topic → announceTopic ≠ some message.topic →
      (∀ record, .did (.emit record) ∉ extra) ∧ .did (.validate id source .accept) ∉ extra

/-- A message on a topic that is neither followed nor the announcement topic, and
that the node admits as an announcement: its frame verifies for its publisher, the
group is not blocked, and the publisher has not announced too often. -/
structure Stray (announceTopic : Option String) (env : Env) (state : State)
    (message : GossipMessage) : Prop where
  left : ¬ state.FollowsTopic message.topic
  other : announceTopic ≠ some message.topic
  admits : State.AnnouncementAdmits env state message

namespace State

variable {state : State}

/-- With the tables in order, a topic has a key exactly if it is followed. -/
theorem Listed.lookup_eq_none (listed : state.Listed) (topic : String) :
    state.topicKeys.lookup topic = none ↔ ¬ state.FollowsTopic topic := by
  constructor
  · rintro missing ⟨key, followed, rfl⟩
    cases missing.symm.trans ((listed.inverse.lookup_name key).mpr followed)
  · intro strange
    cases found : state.topicKeys.lookup topic with
    | none => rfl
    | some key => exact absurd ⟨key, (listed.inverse topic key).mp found⟩ strange

/-- The path of announcements emits and passes on exactly what it admits. -/
theorem announcementMessage_cases (env : Env) (state : State) (message : GossipMessage) :
    (AnnouncementAdmits env state message ∧
        (∃ record, record.header.kind = .announcement ∧
          (state.announcementMessage env message).1.log = state.log ++ [.did (.emit record)]) ∧
        (state.announcementMessage env message).2 = .accept) ∨
      (¬ AnnouncementAdmits env state message ∧
        (state.announcementMessage env message).1.log = state.log ∧
        (state.announcementMessage env message).2 ≠ .accept) := by
  unfold announcementMessage
  cases checked : checkAnnouncement env.crates env.nowMs message with
  | none =>
    refine .inr ⟨?_, rfl, by simp⟩
    rintro ⟨publisher, node, group, payload, genuine, -⟩
    exact not_genuine checked genuine
  | some found =>
    obtain ⟨publisher, node, group, payload⟩ := found
    have genuine := checkAnnouncement_eq_some.mp checked
    dsimp only
    by_cases blocked : state.limits.classOf group = classBlocked
    · rw [if_pos blocked]
      refine .inr ⟨fun admits => ?_, rfl, by simp⟩
      exact ((announcementAdmits_iff genuine).mp admits).1 blocked
    · rw [if_neg blocked]
      by_cases allowed : (state.announceRate.allow publisher env.now).2 = true
      · rw [if_pos allowed]
        have admits := (announcementAdmits_iff genuine).mpr ⟨blocked, allowed⟩
        exact .inl ⟨admits, ⟨_, rfl, rfl⟩, rfl⟩
      · rw [if_neg allowed]
        refine .inr ⟨fun admits => ?_, rfl, by simp⟩
        exact allowed ((announcementAdmits_iff genuine).mp admits).2

end State

/-- Only the handling of a gossip message reports one. -/
theorem System.gossip_of_emitted {system : System} {action : Action} {extra : List Entry}
    (grown : (system.step action).state.log = system.state.log ++ extra) {record : Record}
    (emitted : .did (.emit record) ∈ extra)
    (kind : record.header.kind = .announcement ∨ record.header.kind = .topicMessage) :
    ∃ env source id message, action = .gossip env source id message := by
  have silent (same : (system.step action).state.log = system.state.log) : False := by
    rw [grown] at same
    rw [List.append_right_eq_self.mp same] at emitted
    cases emitted
  cases action with
  | handle env input =>
    have named : record.header.kind.namesPeer = true := by
      rcases kind with kind | kind <;> simp [kind, EventKind.namesPeer]
    have log : (system.state.deliver input).log = system.state.log := by
      unfold State.deliver
      split <;> rfl
    have handled : ((system.state.deliver input).handle env input).log =
        (system.state.deliver input).log ++ extra := by
      rw [log]
      exact grown
    have reported := State.reported_of_emitted handled emitted named
    cases reported with
    | announcement => exact ⟨env, _, _, _, rfl⟩
    | topicMessage => exact ⟨env, _, _, _, rfl⟩
    | request delegation name nameLen isRequest =>
      rcases kind with kind | kind <;> simp [kind] at isRequest
    | response delegation call isResponse =>
      rcases kind with kind | kind <;> simp [kind] at isResponse
  | ready env =>
    obtain ⟨more, later, plain⟩ := (State.passive_ready env system.state).adds
    have inMore : Entry.did (.emit record) ∈ more := by
      rwa [← List.append_cancel_left (grown.symm.trans later)]
    have anonymous : record.header.kind.namesPeer = false := (plain _ inMore).2
    rcases kind with kind | kind <;> simp [kind, EventKind.namesPeer] at anonymous
  | draw => exact (silent rfl).elim
  | poll => exact (silent rfl).elim
  | internalQuery => exact (silent rfl).elim
  | learn => exact (silent rfl).elim

/-- An action that handles no gossip message is traced. -/
theorem System.traced_other {announceTopic : Option String} {system : System} {action : Action}
    {extra : List Entry} (grown : (system.step action).state.log = system.state.log ++ extra)
    (other : ∀ env source id message, action ≠ .gossip env source id message) :
    Traced announceTopic system.state action extra := by
  constructor
  · intro record emitted kind
    obtain ⟨env, source, id, message, handled⟩ := gossip_of_emitted grown emitted (.inl kind)
    exact absurd handled (other env source id message)
  · intro record emitted kind
    obtain ⟨env, source, id, message, handled⟩ := gossip_of_emitted grown emitted (.inr kind)
    exact absurd handled (other env source id message)
  · intro env source id message handled
    exact absurd handled (other env source id message)

section

variable {announceTopic : Option String} {system : System} {env : Env} {source : PeerId}
  {id : MessageId} {message : GossipMessage} {extra : List Entry}

/-- A message on a followed topic is traced. -/
theorem System.traced_followed {key : Key}
    (grown : (system.step (.gossip env source id message)).state.log = system.state.log ++ extra)
    (listed : system.state.Listed)
    (followed : system.state.topicKeys.lookup message.topic = some key) :
    Traced announceTopic system.state (.gossip env source id message) extra := by
  let input : Input := .swarm (.gossipsub (.message source id message))
  let heard := system.state.heard env.nowMs input
  have onTopic : heard.topicKeys.lookup message.topic = some key := followed
  have settled : State.Settled env heard source message (heard.topicMessage env source message) :=
    State.settled_topicMessage onTopic
  obtain ⟨lines, log, -, judged⟩ := settled
  have whole : extra = .heard env.nowMs input :: lines ++
      [.did (.validate id source (heard.topicMessage env source message).2)] := by
    have handled : (system.step (.gossip env source id message)).state =
        (heard.topicMessage env source message).1.did
          (.validate id source (heard.topicMessage env source message).2) :=
      if_pos (Option.isSome_of_mem followed)
    rw [handled, State.did, log] at grown
    simpa [heard, State.heard] using grown.symm
  have tells {record : Record} (emitted : .did (.emit record) ∈ extra)
      (kind : record.header.kind = .topicMessage ∨ record.header.kind = .announcement) :
      State.Tells env heard message record := by
    apply judged.told
    rw [List.mem_filterMap]
    refine ⟨.did (.emit record), ?_, if_pos kind⟩
    simpa [whole] using emitted
  constructor
  · intro record emitted kind
    cases tells emitted (.inr kind) with
    | topic => cases kind
    | announcement publisher node group payload other => cases other.symm.trans onTopic
  · intro record emitted kind
    cases tells emitted (.inl kind) with
    | topic own publisher node group payload found =>
      obtain ⟨present, named⟩ := (listed.inverse message.topic own).mp found
      exact ⟨env, source, id, message, own, payload, rfl, present, named, rfl⟩
    | announcement => cases kind
  · intro otherEnv otherSource otherId otherMessage same strange
    obtain ⟨-, -, -, rfl⟩ := Action.gossip_inj same
    exact absurd ⟨key, (listed.inverse message.topic key).mp followed⟩ strange

/-- What the handling of a message on another topic adds to the log. -/
theorem System.lines_unfollowed
    (grown : (system.step (.gossip env source id message)).state.log = system.state.log ++ extra)
    (missing : system.state.topicKeys.lookup message.topic = none) :
    (State.AnnouncementAdmits env system.state message ∧
        ∃ input record, record.header.kind = .announcement ∧
          extra = [.heard env.nowMs input, .did (.emit record), .did (.validate id source .accept)]) ∨
      (¬ State.AnnouncementAdmits env system.state message ∧
        ∃ input acceptance, acceptance ≠ .accept ∧
          extra = [.heard env.nowMs input, .did (.validate id source acceptance)]) := by
  let input : Input := .swarm (.gossipsub (.message source id message))
  let heard := system.state.heard env.nowMs input
  have unnamed : ¬ (heard.topicKeys.lookup message.topic).isSome = true := by
    rw [show heard.topicKeys.lookup message.topic = none from missing]
    simp
  have handled : (system.step (.gossip env source id message)).state =
      (heard.announcementMessage env message).1.did
        (.validate id source (heard.announcementMessage env message).2) :=
    if_neg unnamed
  rw [handled, State.did] at grown
  rcases State.announcementMessage_cases env heard message with
    ⟨admits, ⟨record, kind, log⟩, accepted⟩ | ⟨refused, log, unaccepted⟩
  · refine .inl ⟨⟨admits.admits⟩, input, record, kind, ?_⟩
    rw [log, accepted] at grown
    simpa [heard, State.heard] using grown.symm
  · refine .inr ⟨fun admits => refused ⟨admits.admits⟩, input, _, unaccepted, ?_⟩
    rw [log] at grown
    simpa [heard, State.heard] using grown.symm

/-- A message on another topic is traced exactly if it is not a stray one. -/
theorem System.traced_unfollowed_iff
    (grown : (system.step (.gossip env source id message)).state.log = system.state.log ++ extra)
    (listed : system.state.Listed)
    (missing : system.state.topicKeys.lookup message.topic = none) :
    Traced announceTopic system.state (.gossip env source id message) extra ↔
      ¬ Stray announceTopic env system.state message := by
  have strange := (listed.lookup_eq_none message.topic).mp missing
  rcases lines_unfollowed grown missing with
    ⟨admits, input, record, kind, rfl⟩ | ⟨refused, input, acceptance, unaccepted, rfl⟩
  · constructor
    · intro traced stray
      exact (traced.stranger env source id message rfl strange stray.other).1 record (by simp)
    · intro notStray
      have announced : announceTopic = some message.topic := by
        by_contra other
        exact notStray ⟨strange, other, admits⟩
      constructor
      · intro _ _ _
        exact ⟨env, source, id, message, rfl, announced⟩
      · intro other emitted otherKind
        obtain rfl : other = record := by simpa using emitted
        cases kind.symm.trans otherKind
      · intro otherEnv otherSource otherId otherMessage same _ other
        obtain ⟨-, -, -, rfl⟩ := Action.gossip_inj same
        exact absurd announced other
  · refine iff_of_true ?_ fun stray => refused stray.admits
    constructor
    · intro record emitted
      simp at emitted
    · intro record emitted
      simp at emitted
    · intro otherEnv otherSource otherId otherMessage same _ _
      obtain ⟨-, rfl, rfl, rfl⟩ := Action.gossip_inj same
      refine ⟨by simp, ?_⟩
      simpa using Ne.symm unaccepted

end

/-- One action is traced exactly if it does not handle a stray message. -/
theorem System.traced_iff {announceTopic : Option String} {system : System} {action : Action}
    {extra : List Entry} (listed : system.state.Listed)
    (grown : (system.step action).state.log = system.state.log ++ extra) :
    Traced announceTopic system.state action extra ↔
      ∀ env source id message, action = .gossip env source id message →
        ¬ Stray announceTopic env system.state message := by
  by_cases handles : ∃ env source id message, action = .gossip env source id message
  · obtain ⟨env, source, id, message, rfl⟩ := handles
    have one : (∀ otherEnv otherSource otherId other,
        Action.gossip env source id message = .gossip otherEnv otherSource otherId other →
          ¬ Stray announceTopic otherEnv system.state other) ↔
        ¬ Stray announceTopic env system.state message := by
      constructor
      · intro all
        exact all env source id message rfl
      · intro notStray otherEnv otherSource otherId other same
        obtain ⟨rfl, -, -, rfl⟩ := Action.gossip_inj same
        exact notStray
    rw [one]
    cases topic : system.state.topicKeys.lookup message.topic with
    | none => exact traced_unfollowed_iff grown listed topic
    | some key =>
      refine iff_of_true (traced_followed grown listed topic) fun stray => stray.left ?_
      exact ⟨key, (listed.inverse message.topic key).mp topic⟩
  · push Not at handles
    refine iff_of_true (traced_other grown handles) ?_
    intro env source id message handled
    exact absurd handled (handles env source id message)

theorem System.gossip_grows (system : System) (env : Env) (source : PeerId) (id : MessageId)
    (message : GossipMessage) :
    ∃ extra, (system.step (.gossip env source id message)).state.log = system.state.log ++ extra := by
  obtain ⟨more, grown, -⟩ := State.vouched_handle env system.state
    (.swarm (.gossipsub (.message source id message)))
  rw [State.heard, List.append_assoc] at grown
  exact ⟨_, grown⟩

/-- The topic a node announces on, if it does. -/
def Config.announceTopic (config : Config) : Option String := config.announce.map AnnounceConfig.topic

/-- Every action of every run reports gossip only for the topic it came from, and
makes nothing of a message on any other topic, exactly if no action of the run
handles a stray message: one on a topic that is neither followed at that moment nor
the announcement topic, and that would be admitted as an announcement. -/
theorem gossip_traced_iff (config : Config) (localPeer : PeerId) (now : Instant)
    (actions : List Action) :
    (∀ before action extra, before ++ [action] <+: actions →
        (System.after config localPeer now (before ++ [action])).state.log =
          (System.after config localPeer now before).state.log ++ extra →
        Traced config.announceTopic (System.after config localPeer now before).state action extra) ↔
      ∀ before env source id message, before ++ [.gossip env source id message] <+: actions →
        ¬ Stray config.announceTopic env (System.after config localPeer now before).state
          message := by
  constructor
  · intro traced before env source id message inside
    obtain ⟨extra, grown⟩ :=
      (System.after config localPeer now before).gossip_grows env source id message
    have one := traced before _ extra inside
      (by rw [System.after_append_singleton, grown])
    exact (System.traced_iff (System.listed_after config localPeer now before) grown).mp one
      env source id message rfl
  · intro noStray before action extra inside grown
    rw [System.after_append_singleton] at grown
    apply (System.traced_iff (System.listed_after config localPeer now before) grown).mpr
    rintro env source id message rfl
    exact noStray before env source id message inside

/-- A topic is followed and left again. -/
def Sample.leaving : List Action :=
  [.ready Sample.env, .handle Sample.env (.command (.topicSubscribe Sample.topic)),
    .handle Sample.env (.command (.topicUnsubscribe Sample.topic))]

/-- What the remote node published on the topic before. -/
def Sample.published : GossipMessage where
  source := some Sample.remotePeer
  data := Wire.encodeAnnouncement Sample.remoteDelegation.toBytes [5, 6]
  topic := Wire.topicName Sample.topic

/-- The message was waiting when the topic was left. -/
def Sample.late : Action := .gossip Sample.env Sample.remotePeer [1] Sample.published

theorem Sample.late_stray :
    Stray Sample.config.announceTopic Sample.env
      (System.after Sample.config Sample.peer 0 Sample.leaving).state Sample.published := by
  have unnamed : (System.after Sample.config Sample.peer 0 Sample.leaving).state.topicKeys.lookup
      (Wire.topicName Sample.topic) = none := by decide +kernel
  have checked : checkAnnouncement Sample.crates 1 Sample.published =
      some (Sample.remotePeer, Sample.remote, Sample.group, [5, 6]) := by decide +kernel
  constructor
  · exact ((System.listed_after _ _ _ _).lookup_eq_none _).mp unnamed
  · exact nofun
  · refine ⟨Sample.remotePeer, Sample.remote, Sample.group, [5, 6],
      checkAnnouncement_eq_some.mp checked, ?_, ?_⟩
    · decide +kernel
    · decide +kernel

/-- A node that does not announce follows a topic and leaves it. A message that
was published while it followed is handled afterwards and reported as an
announcement. -/
theorem left_topic_announced :
    System.Run Sample.crates Sample.config Sample.peer 0 (Sample.leaving ++ [Sample.late]) ∧
      .did (.subscribe (Wire.topicName Sample.topic)) ∈
        (System.after Sample.config Sample.peer 0 Sample.leaving).state.log ∧
      ¬ ∀ before action extra, before ++ [action] <+: Sample.leaving ++ [Sample.late] →
        (System.after Sample.config Sample.peer 0 (before ++ [action])).state.log =
          (System.after Sample.config Sample.peer 0 before).state.log ++ extra →
        Traced Sample.config.announceTopic (System.after Sample.config Sample.peer 0 before).state
          action extra := by
  refine ⟨?_, ?_, ?_⟩
  · simp only [System.Run, Sample.leaving, Sample.late, List.cons_append, List.nil_append,
      Runs.admissible_cons, Runs.admissible_nil, and_true]
    refine ⟨⟨rfl, rfl⟩, ⟨rfl, rfl, ?_, trivial⟩, ⟨rfl, rfl, ?_, trivial⟩, rfl, trivial⟩ <;>
      simp [Command.ids]
  · have fourth : (System.after Sample.config Sample.peer 0 Sample.leaving).state.log[3]? =
        some (.did (.subscribe (Wire.topicName Sample.topic))) := rfl
    exact List.mem_of_getElem? fourth
  · intro traced
    obtain ⟨extra, grown⟩ := (System.after Sample.config Sample.peer 0 Sample.leaving).gossip_grows
      Sample.env Sample.remotePeer [1] Sample.published
    have one := traced Sample.leaving Sample.late extra (List.prefix_refl _) grown
    exact (System.traced_iff (System.listed_after _ _ _ _) grown).mp one _ _ _ _ rfl Sample.late_stray

end Libp2pFfi
