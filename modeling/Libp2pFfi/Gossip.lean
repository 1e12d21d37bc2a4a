import Libp2pFfi.Node

/-!
# What becomes of a gossip message

A message on a followed topic and one on the announcement topic take two paths
that are written separately. On both the node decides at once whether the
message is reported to the caller, whether it is passed on to others, and whose
tokens it costs. `Genuine` is what both paths ask of the frame, without the
decoder's order of looking at it; `topicMessage` and `announcementMessage` are
then followed case by case, and `Judged` says what the cases have in common.
-/

namespace Libp2pFfi

/-- The frame decodes, and its delegation verifies for the publisher. -/
structure Genuine (crates : Crates) (nowMs : UInt64) (message : GossipMessage) (publisher : PeerId)
    (node group : Key) (payload : Bytes) : Prop where
  published : message.source = some publisher
  key : keyOf crates publisher = some node
  frame : ∃ frame delegation, Wire.decodeAnnouncement message.data = some frame ∧
    Delegation.parse frame.delegation = .ok delegation ∧
    Delegation.verifyFor crates delegation node nowMs = .ok () ∧
    delegation.group = group ∧ frame.payload = payload

theorem toOption_eq_some {ε α : Type} {result : Except ε α} {value : α} :
    result.toOption = some value ↔ result = .ok value := by
  cases result <;> simp [Except.toOption]

/-- The check of both paths finds exactly the genuine messages. -/
theorem checkAnnouncement_eq_some {crates : Crates} {nowMs : UInt64} {message : GossipMessage}
    {publisher : PeerId} {node group : Key} {payload : Bytes} :
    checkAnnouncement crates nowMs message = some (publisher, node, group, payload) ↔
      Genuine crates nowMs message publisher node group payload := by
  simp only [checkAnnouncement, Option.bind_eq_bind, Option.bind_eq_some_iff, Option.some.injEq,
    Prod.mk.injEq, toOption_eq_some]
  constructor
  · rintro ⟨source, published, key, ofPeer, frame, decoded, delegation, parsed, ⟨⟩, verified, rfl,
      rfl, rfl, rfl⟩
    exact ⟨published, ofPeer, frame, delegation, decoded, parsed, verified, rfl, rfl⟩
  · rintro ⟨published, ofPeer, frame, delegation, decoded, parsed, verified, rfl, rfl⟩
    exact ⟨publisher, published, node, ofPeer, frame, decoded, delegation, parsed, (), verified, rfl,
      rfl, rfl, rfl⟩

/-- A message is genuine in one way. -/
theorem Genuine.unique {crates : Crates} {nowMs : UInt64} {message : GossipMessage}
    {publisher otherPublisher : PeerId} {node group otherNode otherGroup : Key}
    {payload otherPayload : Bytes}
    (genuine : Genuine crates nowMs message publisher node group payload)
    (other : Genuine crates nowMs message otherPublisher otherNode otherGroup otherPayload) :
    otherPublisher = publisher ∧ otherNode = node ∧ otherGroup = group ∧ otherPayload = payload := by
  have same := (checkAnnouncement_eq_some.mpr other).symm.trans (checkAnnouncement_eq_some.mpr genuine)
  simpa using same

/-! Reading the log. -/

/-- The record by which a line of the log reports a gossip message. -/
def Entry.gossip? : Entry → Option Record
  | did (.emit record) =>
    if record.header.kind = .topicMessage ∨ record.header.kind = .announcement then some record
    else none
  | _ => none

/-- What a line of the log tells gossipsub about a message. -/
def Entry.validation? : Entry → Option (MessageId × PeerId × MessageAcceptance)
  | did (.validate message source acceptance) => some (message, source, acceptance)
  | _ => none

namespace State

/-- What the limits are asked about a message that a peer passed on. -/
def passedOn (state : State) (propagationSource : PeerId) (group : Key) : LimitRequest where
  group
  peer := propagationSource
  ip := state.peerIps.lookup propagationSource
  protocol := protocolTopics

/-- A message on a followed topic that may be passed on. -/
structure TopicAdmits (env : Env) (state : State) (propagationSource : PeerId)
    (message : GossipMessage) : Prop where
  admits : ∃ publisher node group payload,
    Genuine env.crates env.nowMs message publisher node group payload ∧
      payload.length ≤ state.topicMaxMessageBytes ∧ state.limits.classOf group ≠ classBlocked ∧
      (state.limits.check (state.passedOn propagationSource group) message.data.length env.now).2 =
        .ok ()

/-- A message on another topic that may be passed on. -/
structure AnnouncementAdmits (env : Env) (state : State) (message : GossipMessage) : Prop where
  admits : ∃ publisher node group payload,
    Genuine env.crates env.nowMs message publisher node group payload ∧
      state.limits.classOf group ≠ classBlocked ∧
      (state.announceRate.allow publisher env.now).2 = true

/-- A message that is no announcement at all, or too large for its topic. -/
def Invalid (env : Env) (state : State) (message : GossipMessage) : Prop :=
  ∀ publisher node group payload,
    Genuine env.crates env.nowMs message publisher node group payload →
      (state.topicKeys.lookup message.topic).isSome = true ∧
        state.topicMaxMessageBytes < payload.length

/-- The record that reports a message says who published what. -/
inductive Tells (env : Env) (state : State) (message : GossipMessage) : Record → Prop where
  | topic (key : Key) (publisher : PeerId) (node group : Key) (payload : Bytes)
      (followed : state.topicKeys.lookup message.topic = some key)
      (genuine : Genuine env.crates env.nowMs message publisher node group payload) :
      Tells env state message
        ((((EventBuilder.new .topicMessage).group group).node node).data (key.toList ++ payload))
  | announcement (publisher : PeerId) (node group : Key) (payload : Bytes)
      (other : state.topicKeys.lookup message.topic = none)
      (genuine : Genuine env.crates env.nowMs message publisher node group payload) :
      Tells env state message ((((EventBuilder.new .announcement).group group).node node).data payload)

/-- How a message is judged, and what the judgement costs. -/
structure Judged (env : Env) (state after : State) (propagationSource : PeerId)
    (message : GossipMessage) (acceptance : MessageAcceptance) (reports : List Record) : Prop where
  /-- It is passed on exactly if it is reported, once. -/
  forwarded : acceptance = .accept ↔ ∃ record, reports = [record]
  unreported : acceptance ≠ .accept → reports = []
  told : ∀ record ∈ reports, Tells env state message record
  followed : (state.topicKeys.lookup message.topic).isSome = true →
    (acceptance = .accept ↔ TopicAdmits env state propagationSource message)
  announced : state.topicKeys.lookup message.topic = none →
    (acceptance = .accept ↔ AnnouncementAdmits env state message)
  /-- A blocked group is neither heard nor helped, and costs nobody a token. -/
  blocked : ∀ publisher node group payload,
    Genuine env.crates env.nowMs message publisher node group payload →
      state.limits.classOf group = classBlocked →
        acceptance ≠ .accept ∧ reports = [] ∧ after.limits.buckets = state.limits.buckets ∧
          after.announceRate = state.announceRate
  /-- An invalid message costs nothing at all. -/
  invalid : Invalid env state message →
    after.limits = state.limits ∧ after.announceRate = state.announceRate

/-- The limits refuse a blocked group before they look at any bucket. -/
theorem check_blocked {limits : Limits} {request : LimitRequest}
    (blocked : limits.classOf request.group = classBlocked) (bytes : Nat) (now : Instant) :
    limits.check request bytes now = (limits, .error limitedBlocked) := by
  have unswept : limits.checkUnswept request bytes now = (limits, .error limitedBlocked) :=
    if_pos blocked
  rw [Limits.check, unswept]

/-- Counting the reports of refusals takes no tokens. -/
theorem mayReport_buckets (limits : Limits) (now : Instant) :
    (limits.mayReport now).1.buckets = limits.buckets := by
  unfold Limits.mayReport
  dsimp only
  split
  · rfl
  · split <;> rfl

theorem reportLimited_keeps (env : Env) (state : State) (record : Record) :
    (state.reportLimited env record).limits.buckets = state.limits.buckets ∧
      (state.reportLimited env record).announceRate = state.announceRate ∧
      ((state.reportLimited env record).log = state.log ∨
        (state.reportLimited env record).log = state.log ++ [.did (.emit record)]) := by
  unfold reportLimited
  dsimp only
  split
  · exact ⟨mayReport_buckets _ _, rfl, .inr rfl⟩
  · exact ⟨mayReport_buckets _ _, rfl, .inl rfl⟩

/-- What a path leaves behind: its own lines in the log, and its judgement. -/
structure Settled (env : Env) (state : State) (propagationSource : PeerId) (message : GossipMessage)
    (result : State × MessageAcceptance) : Prop where
  settled : ∃ extra, result.1.log = state.log ++ extra ∧ extra.filterMap Entry.validation? = [] ∧
    Judged env state result.1 propagationSource message result.2 (extra.filterMap Entry.gossip?)

section

variable {env : Env} {state : State} {propagationSource : PeerId} {message : GossipMessage}

/-! Of a genuine message, only one publisher, group and payload have to be asked about. -/

theorem topicAdmits_iff {publisher : PeerId} {node group : Key} {payload : Bytes}
    (genuine : Genuine env.crates env.nowMs message publisher node group payload) :
    TopicAdmits env state propagationSource message ↔
      payload.length ≤ state.topicMaxMessageBytes ∧ state.limits.classOf group ≠ classBlocked ∧
        (state.limits.check (state.passedOn propagationSource group) message.data.length
          env.now).2 = .ok () := by
  constructor
  · rintro ⟨_, _, _, _, genuineToo, admitted⟩
    obtain ⟨-, -, rfl, rfl⟩ := genuine.unique genuineToo
    exact admitted
  · intro admitted
    exact ⟨publisher, node, group, payload, genuine, admitted⟩

theorem announcementAdmits_iff {publisher : PeerId} {node group : Key} {payload : Bytes}
    (genuine : Genuine env.crates env.nowMs message publisher node group payload) :
    AnnouncementAdmits env state message ↔
      state.limits.classOf group ≠ classBlocked ∧
        (state.announceRate.allow publisher env.now).2 = true := by
  constructor
  · rintro ⟨_, _, _, _, genuineToo, admitted⟩
    obtain ⟨rfl, -, rfl, -⟩ := genuine.unique genuineToo
    exact admitted
  · intro admitted
    exact ⟨publisher, node, group, payload, genuine, admitted⟩

theorem not_genuine (checked : checkAnnouncement env.crates env.nowMs message = none)
    {publisher : PeerId} {node group : Key} {payload : Bytes} :
    ¬ Genuine env.crates env.nowMs message publisher node group payload := by
  intro genuine
  cases checked.symm.trans (checkAnnouncement_eq_some.mpr genuine)

/-- A genuine message of a group that is not blocked is of no other group that is. -/
theorem unblocked_of_genuine {publisher : PeerId} {node group : Key} {payload : Bytes}
    (genuine : Genuine env.crates env.nowMs message publisher node group payload)
    (unblocked : state.limits.classOf group ≠ classBlocked)
    {otherPublisher : PeerId} {otherNode otherGroup : Key} {otherPayload : Bytes}
    (genuineToo : Genuine env.crates env.nowMs message otherPublisher otherNode otherGroup
      otherPayload) :
    state.limits.classOf otherGroup ≠ classBlocked := by
  obtain ⟨-, -, rfl, -⟩ := genuine.unique genuineToo
  exact unblocked

/-- A genuine announcement is not invalid, whatever its size. -/
theorem not_invalid_of_other {publisher : PeerId} {node group : Key} {payload : Bytes}
    (other : state.topicKeys.lookup message.topic = none)
    (genuine : Genuine env.crates env.nowMs message publisher node group payload) :
    ¬ Invalid env state message := by
  intro isInvalid
  have isFollowed := (isInvalid publisher node group payload genuine).1
  rw [other] at isFollowed
  cases isFollowed

/-- A message that is refused for what it is, before anything is counted. -/
theorem settled_refused {acceptance : MessageAcceptance} (refused : acceptance ≠ .accept)
    (followed : (state.topicKeys.lookup message.topic).isSome = true →
      ¬ TopicAdmits env state propagationSource message)
    (announced : state.topicKeys.lookup message.topic = none →
      ¬ AnnouncementAdmits env state message) :
    Settled env state propagationSource message (state, acceptance) := by
  refine ⟨[], (List.append_nil _).symm, rfl, ?_⟩
  exact
    { forwarded := iff_of_false refused (by simp)
      unreported := fun _ => rfl
      told := by simp
      followed := fun isFollowed => iff_of_false refused (followed isFollowed)
      announced := fun isOther => iff_of_false refused (announced isOther)
      blocked := fun _ _ _ _ _ _ => ⟨refused, rfl, rfl, rfl⟩
      invalid := fun _ => ⟨rfl, rfl⟩ }

/-- The limits refuse a message on a followed topic. -/
theorem settled_limited {key : Key} {publisher : PeerId} {node group : Key} {payload : Bytes}
    {limits : Limits} {reason : Nat} {after : State} {record : Record}
    (followed : state.topicKeys.lookup message.topic = some key)
    (genuine : Genuine env.crates env.nowMs message publisher node group payload)
    (small : payload.length ≤ state.topicMaxMessageBytes)
    (checked : state.limits.check (state.passedOn propagationSource group) message.data.length
      env.now = (limits, .error reason))
    (buckets : after.limits.buckets = limits.buckets)
    (rate : after.announceRate = state.announceRate)
    (log : after.log = state.log ∨ after.log = state.log ++ [.did (.emit record)])
    (kind : record.header.kind = .limited) :
    Settled env state propagationSource message (after, .ignore) := by
  have silent : ∃ extra, after.log = state.log ++ extra ∧ extra.filterMap Entry.validation? = [] ∧
      extra.filterMap Entry.gossip? = [] := by
    rcases log with same | grown
    · exact ⟨[], by rw [same, List.append_nil], rfl, rfl⟩
    · exact ⟨_, grown, rfl, by simp [Entry.gossip?, kind]⟩
  have refused : ¬ TopicAdmits env state propagationSource message := by
    rw [topicAdmits_iff genuine, checked]
    rintro ⟨-, -, admitted⟩
    cases admitted
  obtain ⟨extra, grown, unvalidated, unreported⟩ := silent
  refine ⟨extra, grown, unvalidated, ?_⟩
  rw [unreported]
  exact
    { forwarded := by simp
      unreported := fun _ => rfl
      told := by simp
      followed := fun _ => iff_of_false (by simp) refused
      announced := fun isOther => by
        rw [followed] at isOther
        cases isOther
      blocked := by
        intro other otherNode otherGroup otherPayload genuineToo isBlocked
        obtain ⟨-, -, rfl, -⟩ := genuine.unique genuineToo
        have untouched := check_blocked (show state.limits.classOf
          (state.passedOn propagationSource otherGroup).group = classBlocked from isBlocked)
          message.data.length env.now
        have same : limits = state.limits := congrArg Prod.fst (checked.symm.trans untouched)
        exact ⟨by simp, rfl, by rw [buckets, same], rate⟩
      invalid := fun isInvalid =>
        absurd small (not_le.mpr (isInvalid publisher node group payload genuine).2) }

/-- A message on a followed topic is admitted. -/
theorem settled_admitted {key : Key} {publisher : PeerId} {node group : Key} {payload : Bytes}
    {limits : Limits} {after : State}
    (followed : state.topicKeys.lookup message.topic = some key)
    (genuine : Genuine env.crates env.nowMs message publisher node group payload)
    (small : payload.length ≤ state.topicMaxMessageBytes)
    (checked : state.limits.check (state.passedOn propagationSource group) message.data.length
      env.now = (limits, .ok ()))
    (log : after.log = state.log ++ [.did (.emit
      ((((EventBuilder.new .topicMessage).group group).node node).data (key.toList ++ payload)))]) :
    Settled env state propagationSource message (after, .accept) := by
  have unblocked : state.limits.classOf group ≠ classBlocked := by
    intro isBlocked
    have refused := check_blocked (show state.limits.classOf
      (state.passedOn propagationSource group).group = classBlocked from isBlocked)
      message.data.length env.now
    cases checked.symm.trans refused
  have admits : TopicAdmits env state propagationSource message :=
    (topicAdmits_iff genuine).mpr ⟨small, unblocked, by rw [checked]⟩
  refine ⟨_, log, rfl, ?_⟩
  exact
    { forwarded := iff_of_true rfl ⟨_, rfl⟩
      unreported := fun refused => absurd rfl refused
      told := by
        intro record member
        rw [List.mem_singleton.mp member]
        exact .topic key publisher node group payload followed genuine
      followed := fun _ => iff_of_true rfl admits
      announced := fun isOther => by
        rw [followed] at isOther
        cases isOther
      blocked := fun _ _ _ _ genuineToo isBlocked =>
        absurd isBlocked (unblocked_of_genuine genuine unblocked genuineToo)
      invalid := fun isInvalid =>
        absurd small (not_le.mpr (isInvalid publisher node group payload genuine).2) }

theorem settled_topicMessage {key : Key}
    (followed : state.topicKeys.lookup message.topic = some key) :
    Settled env state propagationSource message
      (state.topicMessage env propagationSource message) := by
  have notOther (isOther : state.topicKeys.lookup message.topic = none) :
      ¬ AnnouncementAdmits env state message := by
    rw [followed] at isOther
    cases isOther
  unfold topicMessage
  rw [followed]
  dsimp only
  cases checked : checkAnnouncement env.crates env.nowMs message with
  | none =>
    refine settled_refused (by simp) (fun _ => ?_) notOther
    rintro ⟨publisher, node, group, payload, genuine, -⟩
    exact not_genuine checked genuine
  | some found =>
    obtain ⟨publisher, node, group, payload⟩ := found
    have genuine := checkAnnouncement_eq_some.mp checked
    dsimp only
    by_cases large : payload.length > state.topicMaxMessageBytes
    · rw [if_pos large]
      refine settled_refused (by simp) (fun _ admits => ?_) notOther
      exact absurd ((topicAdmits_iff genuine).mp admits).1 (not_le.mpr large)
    · rw [if_neg large]
      have small := not_lt.mp large
      split
      · rename_i limits reason refused
        obtain ⟨buckets, rate, log⟩ := reportLimited_keeps env
          { state with
            limits
            shared := { state.shared with topicLimited := state.shared.topicLimited + 1 } }
          (limitedRecord group node protocolTopics reason)
        exact settled_limited followed genuine small refused buckets rate log rfl
      · rename_i limits admitted
        exact settled_admitted followed genuine small admitted rfl

/-- An announcement that comes too soon after others of its publisher. -/
theorem settled_throttled {publisher : PeerId} {node group : Key} {payload : Bytes} {after : State}
    (other : state.topicKeys.lookup message.topic = none)
    (genuine : Genuine env.crates env.nowMs message publisher node group payload)
    (unblocked : state.limits.classOf group ≠ classBlocked)
    (refused : ¬ (state.announceRate.allow publisher env.now).2 = true)
    (log : after.log = state.log) :
    Settled env state propagationSource message (after, .ignore) := by
  have admitsNot : ¬ AnnouncementAdmits env state message := fun admits =>
    refused ((announcementAdmits_iff genuine).mp admits).2
  refine ⟨[], by rw [log, List.append_nil], rfl, ?_⟩
  exact
    { forwarded := by simp
      unreported := fun _ => rfl
      told := by simp
      followed := fun isFollowed => by
        rw [other] at isFollowed
        cases isFollowed
      announced := fun _ => iff_of_false (by simp) admitsNot
      blocked := fun _ _ _ _ genuineToo isBlocked =>
        absurd isBlocked (unblocked_of_genuine genuine unblocked genuineToo)
      invalid := fun isInvalid => absurd isInvalid (not_invalid_of_other other genuine) }

/-- An announcement is admitted. -/
theorem settled_allowed {publisher : PeerId} {node group : Key} {payload : Bytes} {after : State}
    (other : state.topicKeys.lookup message.topic = none)
    (genuine : Genuine env.crates env.nowMs message publisher node group payload)
    (unblocked : state.limits.classOf group ≠ classBlocked)
    (allowed : (state.announceRate.allow publisher env.now).2 = true)
    (log : after.log = state.log ++ [.did (.emit
      ((((EventBuilder.new .announcement).group group).node node).data payload))]) :
    Settled env state propagationSource message (after, .accept) := by
  refine ⟨_, log, rfl, ?_⟩
  exact
    { forwarded := iff_of_true rfl ⟨_, rfl⟩
      unreported := fun refused => absurd rfl refused
      told := by
        intro record member
        rw [List.mem_singleton.mp member]
        exact .announcement publisher node group payload other genuine
      followed := fun isFollowed => by
        rw [other] at isFollowed
        cases isFollowed
      announced := fun _ =>
        iff_of_true rfl ((announcementAdmits_iff genuine).mpr ⟨unblocked, allowed⟩)
      blocked := fun _ _ _ _ genuineToo isBlocked =>
        absurd isBlocked (unblocked_of_genuine genuine unblocked genuineToo)
      invalid := fun isInvalid => absurd isInvalid (not_invalid_of_other other genuine) }

theorem settled_announcementMessage (other : state.topicKeys.lookup message.topic = none) :
    Settled env state propagationSource message (state.announcementMessage env message) := by
  have notFollowed (isFollowed : (state.topicKeys.lookup message.topic).isSome = true) :
      ¬ TopicAdmits env state propagationSource message := by
    rw [other] at isFollowed
    cases isFollowed
  unfold announcementMessage
  cases checked : checkAnnouncement env.crates env.nowMs message with
  | none =>
    apply settled_refused (by simp) notFollowed
    rintro - ⟨publisher, node, group, payload, genuine, -⟩
    exact not_genuine checked genuine
  | some found =>
    obtain ⟨publisher, node, group, payload⟩ := found
    have genuine := checkAnnouncement_eq_some.mp checked
    dsimp only
    by_cases blocked : state.limits.classOf group = classBlocked
    · rw [if_pos blocked]
      apply settled_refused (by simp) notFollowed
      intro _ admits
      exact ((announcementAdmits_iff genuine).mp admits).1 blocked
    · rw [if_neg blocked]
      by_cases allowed : (state.announceRate.allow publisher env.now).2 = true
      · rw [if_pos allowed]
        exact settled_allowed other genuine blocked allowed rfl
      · rw [if_neg allowed]
        exact settled_throttled other genuine blocked allowed rfl

/-- Handing the judgement to gossipsub adds one line, which is no report. -/
theorem Settled.validated {result : State × MessageAcceptance}
    (settled : Settled env state propagationSource message result) (id : MessageId) :
    ∃ extra acceptance,
      (result.1.did (.validate id propagationSource result.2)).log = state.log ++ extra ∧
        extra.filterMap Entry.validation? = [(id, propagationSource, acceptance)] ∧
          Judged env state (result.1.did (.validate id propagationSource result.2))
            propagationSource message acceptance (extra.filterMap Entry.gossip?) := by
  obtain ⟨extra, grown, unvalidated, judged⟩ := settled
  refine ⟨extra ++ [.did (.validate id propagationSource result.2)], result.2, ?_, ?_, ?_⟩
  · simp only [did, grown, List.append_assoc]
  · simp [unvalidated, Entry.validation?]
  · simp only [List.filterMap_append, List.filterMap_cons, Entry.gossip?, List.filterMap_nil,
      List.append_nil]
    exact ⟨judged.forwarded, judged.unreported, judged.told, judged.followed, judged.announced,
      judged.blocked, judged.invalid⟩

end

/-- Every gossip message is judged once, on the path its topic belongs to. -/
theorem message_judged (env : Env) (state : State) (propagationSource : PeerId) (id : MessageId)
    (message : GossipMessage) :
    ∃ extra acceptance,
      (state.gossipsubEvent env (.message propagationSource id message)).log = state.log ++ extra ∧
        extra.filterMap Entry.validation? = [(id, propagationSource, acceptance)] ∧
          Judged env state (state.gossipsubEvent env (.message propagationSource id message))
            propagationSource message acceptance (extra.filterMap Entry.gossip?) := by
  have paths : state.gossipsubEvent env (.message propagationSource id message) =
      if (state.topicKeys.lookup message.topic).isSome = true then
        (state.topicMessage env propagationSource message).1.did (.validate id propagationSource
          (state.topicMessage env propagationSource message).2)
      else
        (state.announcementMessage env message).1.did (.validate id propagationSource
          (state.announcementMessage env message).2) :=
    rfl
  cases topic : state.topicKeys.lookup message.topic with
  | none =>
    rw [paths, if_neg (by simp [topic])]
    exact (settled_announcementMessage topic).validated id
  | some key =>
    rw [paths, if_pos (by simp [topic])]
    exact (settled_topicMessage topic).validated id

end State

end Libp2pFfi
