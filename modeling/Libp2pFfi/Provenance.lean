import Libp2pFfi.Admissions
import Libp2pFfi.Errands
import Libp2pFfi.Inbound
import Libp2pFfi.Publications
import Libp2pFfi.Topics

/-!
# Where the lines of the log come from

What a node reports and what it sends rests on what it has heard: an event on a
frame from outside, a response on an answer of the caller's, a publication on a
command. `Backed` says for each such line of the log which other lines it rests
on. Lines are never taken back, so that a line that is backed stays so, and it is
enough to look at the lines one handler adds.
-/

namespace Libp2pFfi

/-- The request of this channel was reported under this id. -/
def CarriedOn (log : List Entry) (id : Nat) (channel : ResponseChannel) : Prop :=
  (log.foldl Desk.note {}).Carried id channel

/-- An inbound request was heard on this channel and reported with this event. -/
structure Took (crates : Crates) (settings : Settings) (log : List Entry) (record : Record)
    (peer : PeerId) (frame : Bytes) (channel : ResponseChannel) : Prop where
  kind : record.header.kind = .rpcRequest
  emitted : .did (.emit record) ∈ log
  carried : CarriedOn log record.header.id channel
  heard : ∃ nowMs connection,
    .heard nowMs (.swarm (.rpc (.request peer connection channel.request frame channel))) ∈ log ∧
      checkRequest crates nowMs settings.rpcProtocols peer frame =
        some (record.header.node, record.header.group, record.header.protocol, record.data)

/-- A response to a request of the node's own was heard and reported with this
event. -/
structure Replied (crates : Crates) (settings : Settings) (log : List Entry) (record : Record)
    (peer : PeerId) (request : OutboundRequestId) (frame sent payload : Bytes) : Prop where
  heard : ∃ nowMs, .heard nowMs (.swarm (.rpc (.response peer request frame))) ∈ log ∧
    checkResponse crates nowMs record.header.group peer frame =
      some (record.header.node, record.data)
  went : .did (.sendRequest record.header.id request peer sent) ∈ log
  dispatched : Dispatched settings log record.header.id record.header.group
    record.header.protocol payload sent

/-- The caller answered the request that was reported with this event. -/
structure Responded (crates : Crates) (settings : Settings) (log : List Entry)
    (channel : ResponseChannel) (frame : Bytes) (record : Record) (payload : Bytes) : Prop where
  commanded : ∃ nowMs, .heard nowMs (.command (.respond record.header.id payload)) ∈ log
  frame : frame = Wire.encodeResponse settings.delegation payload
  took : ∃ peer sent, Took crates settings log record peer sent channel

/-- A gossip message was heard and reported with this event. -/
def Overheard (crates : Crates) (log : List Entry) (record : Record) (message : GossipMessage)
    (payload : Bytes) : Prop :=
  ∃ nowMs source id publisher,
    .heard nowMs (.swarm (.gossipsub (.message source id message))) ∈ log ∧
      checkAnnouncement crates nowMs message =
        some (publisher, record.header.node, record.header.group, payload)

/-- The caller had this frame published, on one of its topics or as its
announcement. -/
def Published (settings : Settings) (log : List Entry) (topic : String) (frame : Bytes) : Prop :=
  ∃ payload, frame = Wire.encodeAnnouncement settings.delegation payload ∧
    ((∃ nowMs key, .heard nowMs (.command (.topicPublish key payload)) ∈ log ∧
        topic = Wire.topicName key) ∨
      (settings.announceTopic = some topic ∧
        ∃ nowMs, .heard nowMs (.command (.announceSetPayload payload)) ∈ log))

/-- What an event rests on. -/
structure Record.Backed (crates : Crates) (settings : Settings) (log : List Entry)
    (record : Record) : Prop where
  request : record.header.kind = .rpcRequest →
    ∃ peer frame channel, Took crates settings log record peer frame channel
  response : record.header.kind = .rpcResponse →
    ∃ peer request frame sent payload,
      Replied crates settings log record peer request frame sent payload
  message : record.header.kind = .topicMessage → ∃ key message payload,
    Overheard crates log record message payload ∧ message.topic = Wire.topicName key ∧
      record.data = key.toList ++ payload
  announcement : record.header.kind = .announcement →
    ∃ message, Overheard crates log record message record.data

/-- What a line of the log rests on. -/
def Entry.Backed (crates : Crates) (settings : Settings) (log : List Entry) : Entry → Prop
  | did (.emit record) => record.Backed crates settings log
  | did (.sendResponse channel frame) =>
    ∃ record payload, Responded crates settings log channel frame record payload
  | did (.publish topic frame _) => Published settings log topic frame
  | _ => True

/-- The request that a line of the log hands over. -/
def Entry.arrival? : Entry → Option InboundRequestId
  | heard _ (.swarm (.rpc (.request _ _ request _ _))) => some request
  | _ => none

/-! What is backed stays backed. -/

/-- The desk forgets no event. -/
theorem Desk.events_note (desk : Desk) (entry : Entry) : desk.events ⊆ (desk.note entry).events := by
  unfold Desk.note
  split
  · unfold Desk.hear
    split <;> exact List.Subset.refl _
  · split
    · exact List.subset_append_left _ _
    · exact List.Subset.refl _
  · exact List.Subset.refl _
  · exact List.Subset.refl _

theorem CarriedOn.mono {log more : List Entry} (kept : log <+: more) {id : Nat}
    {channel : ResponseChannel} (carried : CarriedOn log id channel) : CarriedOn more id channel := by
  obtain ⟨extra, rfl⟩ := kept
  unfold CarriedOn at carried ⊢
  rw [List.foldl_append]
  generalize log.foldl Desk.note {} = desk at carried ⊢
  induction extra generalizing desk with
  | nil => exact carried
  | cons entry rest inductionHypothesis =>
    exact inductionHypothesis (desk.note entry) (desk.events_note entry carried)

section

variable {crates : Crates} {settings : Settings} {log more : List Entry} {record : Record}
  (kept : log <+: more)

include kept

theorem Took.mono {peer : PeerId} {frame : Bytes} {channel : ResponseChannel}
    (took : Took crates settings log record peer frame channel) :
    Took crates settings more record peer frame channel := by
  obtain ⟨nowMs, connection, heard, checked⟩ := took.heard
  exact ⟨took.kind, kept.subset took.emitted, took.carried.mono kept, nowMs, connection,
    kept.subset heard, checked⟩

theorem Replied.mono {peer : PeerId} {request : OutboundRequestId} {frame sent payload : Bytes}
    (replied : Replied crates settings log record peer request frame sent payload) :
    Replied crates settings more record peer request frame sent payload := by
  obtain ⟨nowMs, heard, checked⟩ := replied.heard
  exact ⟨⟨nowMs, kept.subset heard, checked⟩, kept.subset replied.went,
    replied.dispatched.mono kept.subset⟩

theorem Responded.mono {channel : ResponseChannel} {frame payload : Bytes}
    (answered : Responded crates settings log channel frame record payload) :
    Responded crates settings more channel frame record payload := by
  obtain ⟨nowMs, commanded⟩ := answered.commanded
  obtain ⟨peer, sent, took⟩ := answered.took
  exact ⟨⟨nowMs, kept.subset commanded⟩, answered.frame, peer, sent, took.mono kept⟩

theorem Overheard.mono {message : GossipMessage} {payload : Bytes}
    (overheard : Overheard crates log record message payload) :
    Overheard crates more record message payload := by
  obtain ⟨nowMs, source, id, publisher, heard, checked⟩ := overheard
  exact ⟨nowMs, source, id, publisher, kept.subset heard, checked⟩

theorem Published.mono {topic : String} {frame : Bytes}
    (published : Published settings log topic frame) : Published settings more topic frame := by
  obtain ⟨payload, written, ⟨nowMs, key, heard, named⟩ | ⟨isTopic, nowMs, heard⟩⟩ := published
  · exact ⟨payload, written, .inl ⟨nowMs, key, kept.subset heard, named⟩⟩
  · exact ⟨payload, written, .inr ⟨isTopic, nowMs, kept.subset heard⟩⟩

theorem Record.Backed.mono (backed : record.Backed crates settings log) :
    record.Backed crates settings more := by
  refine ⟨fun kind => ?_, fun kind => ?_, fun kind => ?_, fun kind => ?_⟩
  · obtain ⟨peer, frame, channel, took⟩ := backed.request kind
    exact ⟨peer, frame, channel, took.mono kept⟩
  · obtain ⟨peer, request, frame, sent, payload, replied⟩ := backed.response kind
    exact ⟨peer, request, frame, sent, payload, replied.mono kept⟩
  · obtain ⟨key, message, payload, overheard, named, told⟩ := backed.message kind
    exact ⟨key, message, payload, overheard.mono kept, named, told⟩
  · obtain ⟨message, overheard⟩ := backed.announcement kind
    exact ⟨message, overheard.mono kept⟩

theorem Entry.Backed.mono {entry : Entry} (backed : entry.Backed crates settings log) :
    entry.Backed crates settings more := by
  cases entry with
  | heard => trivial
  | did effect =>
    cases effect with
    | emit record => exact Record.Backed.mono kept backed
    | sendResponse channel frame =>
      obtain ⟨record, payload, answered⟩ := backed
      exact ⟨record, payload, answered.mono kept⟩
    | publish topic frame result => exact Published.mono kept backed
    | _ => trivial

end

/-- An event that reports nobody's identity rests on nothing. -/
theorem Record.backed_of_nameless {crates : Crates} {settings : Settings} {log : List Entry}
    {record : Record} (nameless : record.header.kind.namesPeer = false) :
    record.Backed crates settings log := by
  constructor <;> intro kind <;> rw [kind] at nameless <;> cases nameless

/-- A line that answers nobody and publishes nothing. -/
def Entry.Bare : Entry → Prop
  | heard _ _ => False
  | did (.sendResponse _ _) => False
  | did (.publish _ _ _) => False
  | did _ => True

theorem Entry.Routine.bare {entry : Entry} (routine : entry.Routine) : entry.Bare := by
  cases entry with
  | heard => exact routine
  | did effect =>
    cases effect with
    | sendResponse => cases routine
    | publish => cases routine
    | _ => trivial

theorem Entry.Bare.input {entry : Entry} (bare : entry.Bare) : entry.input? = none := by
  cases entry with
  | heard => exact bare.elim
  | did => rfl

/-- A line that publishes the payload that was set. -/
def Entry.Announces (meter : Meter) (entry : Entry) : Prop :=
  ∃ topic payload result,
    entry = .did (.publish topic (Wire.encodeAnnouncement meter.delegation payload) result) ∧
      meter.announceTopic = some topic ∧ meter.announcePayload = some payload

/-- Nor does a line that neither answers nor publishes and reports nobody. -/
theorem Entry.backed_of_bare {crates : Crates} {settings : Settings} {log : List Entry}
    {entry : Entry} (bare : entry.Bare) (nameless : entry.Nameless) :
    entry.Backed crates settings log := by
  cases entry with
  | heard => trivial
  | did effect =>
    cases effect with
    | emit record =>
      apply Record.backed_of_nameless
      by_contra named
      simp [Entry.Nameless, Entry.named?, Bool.of_not_eq_false named] at nameless
    | sendResponse => exact bare.elim
    | publish => exact bare.elim
    | _ => trivial

theorem Entry.eq_of_named {entry : Entry} {record : Record} (named : entry.named? = some record) :
    entry = .did (.emit record) := by
  unfold Entry.named? at named
  split at named
  · split at named
    · rw [Option.some.inj named]
    · cases named
  · cases named

/-- The inputs that bring a frame from outside. -/
def Input.brings : Input → Bool
  | swarm (.rpc (.request _ _ _ _ _)) => true
  | swarm (.rpc (.response _ _ _)) => true
  | swarm (.gossipsub (.message _ _ _)) => true
  | _ => false

/-- Without a frame from outside nobody's identity is reported. -/
theorem Entry.Vouched.nameless {env : Env} {state : State} {input : Input} {entry : Entry}
    (vouched : entry.Vouched env state input) (nothing : input.brings = false) :
    entry.Nameless := by
  cases named : entry.named? with
  | none => exact named
  | some record =>
    cases vouched record named <;> cases nothing

namespace State

theorem Adds.and {allowed permitted : Entry → Prop} {before after : State}
    (left : Adds allowed before after) (right : Adds permitted before after) :
    Adds (fun entry => allowed entry ∧ permitted entry) before after := by
  obtain ⟨extra, grown, fine⟩ := left
  obtain ⟨more, grownToo, fineToo⟩ := right
  obtain rfl : extra = more := List.append_cancel_left (grown.symm.trans grownToo)
  exact ⟨extra, grown, fun entry member => ⟨fine entry member, fineToo entry member⟩⟩

/-- What the log and the tables of a node rest on. -/
structure Evident (crates : Crates) (settings : Settings) (state : State) : Prop where
  backed : ∀ entry ∈ state.log, entry.Backed crates settings state.log
  waiting : ∀ id channel, state.inbound.lookup id = some channel →
    ∃ record peer frame, Took crates settings state.log record peer frame channel ∧
      record.header.id = id
  arrivals : (state.log.filterMap Entry.arrival?).Nodup
  seen : ∀ request ∈ state.log.filterMap Entry.arrival?, request ∈ state.swarm.inboundSeen
  wanted : ∀ payload, state.announcePayload = some payload →
    ∃ nowMs, .heard nowMs (.command (.announceSetPayload payload)) ∈ state.log

section

variable {crates : Crates} {settings : Settings} {before after : State}

/-- A handler adds lines that are backed. -/
theorem Evident.grow (evident : Evident crates settings before) {extra : List Entry}
    (grown : after.log = before.log ++ extra) (effects : ∀ entry ∈ extra, entry.input? = none)
    (backed : ∀ entry ∈ extra, entry.Backed crates settings after.log)
    (waiting : ∀ id channel, after.inbound.lookup id = some channel →
      before.inbound.lookup id = some channel ∨
        ∃ record peer frame, Took crates settings after.log record peer frame channel ∧
          record.header.id = id)
    (seen : after.swarm.inboundSeen = before.swarm.inboundSeen)
    (wanted : after.announcePayload = before.announcePayload) :
    Evident crates settings after := by
  have kept : before.log <+: after.log := ⟨extra, grown.symm⟩
  have arrivals : after.log.filterMap Entry.arrival? = before.log.filterMap Entry.arrival? := by
    rw [grown]
    refine filterMap_unseen (fun entry member => ?_) before.log
    cases entry with
    | heard nowMs input => cases effects _ member
    | did => rfl
  refine ⟨fun entry member => ?_, fun id channel found => ?_, arrivals ▸ evident.arrivals, ?_, ?_⟩
  · rw [grown] at member
    rcases List.mem_append.mp member with old | isNew
    · exact (evident.backed entry old).mono kept
    · exact backed entry isNew
  · rcases waiting id channel found with old | isNew
    · obtain ⟨record, peer, frame, took, same⟩ := evident.waiting id channel old
      exact ⟨record, peer, frame, took.mono kept, same⟩
    · exact isNew
  · rw [arrivals, seen]
    exact evident.seen
  · intro payload isWanted
    rw [wanted] at isWanted
    obtain ⟨nowMs, heard⟩ := evident.wanted payload isWanted
    exact ⟨nowMs, kept.subset heard⟩

/-- An input is noted. -/
theorem Evident.heard (evident : Evident crates settings before) (nowMs : UInt64) {input : Input}
    (fresh : ∀ request ∈ (Entry.heard nowMs input).arrival?, request ∉ before.swarm.inboundSeen) :
    Evident crates settings ((before.deliver input).heard nowMs input) := by
  have kept : before.log <+: before.log ++ [Entry.heard nowMs input] := List.prefix_append _ _
  have log : ((before.deliver input).heard nowMs input).log =
      before.log ++ [Entry.heard nowMs input] := (noted_heard before nowMs input).log
  have arrivals : (before.log ++ [Entry.heard nowMs input]).filterMap Entry.arrival? =
      before.log.filterMap Entry.arrival? ++ (Entry.heard nowMs input).arrival?.toList := by
    rw [List.filterMap_append, List.filterMap_cons]
    cases (Entry.heard nowMs input).arrival? <;> rfl
  have more : before.swarm.inboundSeen ⊆
      ((before.deliver input).heard nowMs input).swarm.inboundSeen := by
    unfold deliver
    split <;> simp [State.heard]
  have inserted : ∀ request ∈ (Entry.heard nowMs input).arrival?,
      request ∈ ((before.deliver input).heard nowMs input).swarm.inboundSeen := by
    intro request arrives
    unfold Entry.arrival? at arrives
    split at arrives
    · rename_i same
      obtain ⟨-, rfl⟩ := Entry.heard.inj same
      obtain rfl := Option.some.inj arrives
      exact Finset.mem_insert_self _ _
    · cases arrives
  have same : ((before.deliver input).heard nowMs input).inbound = before.inbound ∧
      ((before.deliver input).heard nowMs input).announcePayload = before.announcePayload := by
    obtain ⟨swarm, delivered, -⟩ := deliver_spec before input
    rw [delivered]
    exact ⟨rfl, rfl⟩
  constructor
  · rw [log]
    intro entry member
    rcases List.mem_append.mp member with old | isNew
    · exact (evident.backed entry old).mono kept
    · rw [List.mem_singleton.mp isNew]
      trivial
  · rw [log, same.1]
    intro id channel found
    obtain ⟨record, peer, frame, took, isId⟩ := evident.waiting id channel found
    exact ⟨record, peer, frame, took.mono kept, isId⟩
  · rw [log, arrivals, List.nodup_append]
    refine ⟨evident.arrivals, ?_, ?_⟩
    · cases (Entry.heard nowMs input).arrival? <;> simp
    · intro old isOld request isNew isSame
      exact fresh request (Option.mem_toList.mp isNew) (isSame ▸ evident.seen old isOld)
  · rw [log, arrivals]
    intro request member
    rcases List.mem_append.mp member with old | isNew
    · exact more (evident.seen request old)
    · exact inserted request (Option.mem_toList.mp isNew)
  · rw [log, same.2]
    intro payload isWanted
    obtain ⟨heardMs, heard⟩ := evident.wanted payload isWanted
    exact ⟨heardMs, kept.subset heard⟩

/-- A handler that neither answers, publishes nor brings anything in. -/
theorem Evident.bare (evident : Evident crates settings before)
    (adds : Adds (fun entry => entry.Bare ∧ entry.Nameless) before after)
    (waiting : ∀ id channel, after.inbound.lookup id = some channel →
      before.inbound.lookup id = some channel)
    (seen : after.swarm.inboundSeen = before.swarm.inboundSeen)
    (wanted : after.announcePayload = before.announcePayload) :
    Evident crates settings after := by
  obtain ⟨extra, grown, fine⟩ := adds
  exact evident.grow grown (fun entry member => (fine entry member).1.input)
    (fun entry member => Entry.backed_of_bare (fine entry member).1 (fine entry member).2)
    (fun id channel found => .inl (waiting id channel found)) seen wanted

/-! Publications. -/

/-- `announce` publishes the payload that was set. -/
theorem announces_announce (env : Env) (state : State) :
    Adds (Entry.Announces state.meter) state (state.announce env) := by
  cases on : state.announceTopic with
  | none =>
    rw [announce_off on]
    exact Adds.refl _ state
  | some topic =>
    rcases announce_cases env on with ⟨same, -⟩ | ⟨payload, set, -, result, -, shape⟩
    · rw [same]
      exact Adds.refl _ state
    · rw [shape]
      exact Adds.one rfl ⟨topic, payload, result, rfl, on, set⟩

/-- The payload that is published was set by the caller. -/
theorem Evident.announcing (evident : Evident crates settings before)
    (setUp : before.settings = settings)
    (adds : Adds (fun entry => entry.Bare ∧ entry.Nameless ∨ entry.Announces before.meter) before
      after)
    (part : after.inboxPart = before.inboxPart)
    (wanted : after.announcePayload = before.announcePayload) :
    Evident crates settings after := by
  obtain ⟨extra, grown, fine⟩ := adds
  obtain ⟨inbound, -, seen, -⟩ := InboxPart.mk.inj part
  refine evident.grow grown (fun entry member => ?_) (fun entry member => ?_)
    (fun id channel found => .inl (inbound ▸ found)) seen wanted
  · rcases fine entry member with ⟨bare, -⟩ | ⟨topic, payload, result, rfl, -⟩
    · exact bare.input
    · rfl
  · rcases fine entry member with ⟨bare, nameless⟩ | ⟨topic, payload, result, rfl, on, set⟩
    · exact Entry.backed_of_bare bare nameless
    · obtain ⟨nowMs, heard⟩ := evident.wanted payload set
      refine ⟨payload, by rw [← setUp]; rfl, .inr ⟨by rw [← setUp]; exact on, nowMs, ?_⟩⟩
      rw [grown]
      exact List.mem_append_left _ heard

/-- A payload for a followed topic is published under the topic's name. -/
theorem evident_topicPublish (env : Env) (setUp : before.settings = settings)
    (evident : Evident crates settings before) (listed : before.Listed) {key : Key} {payload : Bytes}
    {nowMs : UInt64}
    (heard : .heard nowMs (.command (.topicPublish key payload)) ∈ before.log) :
    Evident crates settings (before.topicPublish env key payload) := by
  unfold topicPublish
  split
  · exact evident
  · rename_i topic followed
    have tried : Evident crates settings (before.did (.publish topic.topic
        (Wire.encodeAnnouncement before.delegation payload)
        (env.publishes topic.topic (Wire.encodeAnnouncement before.delegation payload)))) := by
      refine evident.grow rfl (by simp [Entry.input?]) ?_ (fun _ _ found => .inl found) rfl rfl
      intro entry member
      rw [List.mem_singleton.mp member]
      refine ⟨payload, by rw [← setUp]; rfl, .inl ⟨nowMs, key, ?_, listed.named key topic followed⟩⟩
      exact List.mem_append_left _ heard
    dsimp only
    split
    · exact { tried with }
    · exact tried

/-! Requests and responses. -/

/-- The event of a response names the call it ends and what was checked for it. -/
theorem replies_response (env : Env) (state : State) (peer : PeerId) (request : OutboundRequestId)
    (frame : Bytes) :
    Adds (fun entry => ∀ record, entry.named? = some record →
      ∃ id call node payload, state.outbound.lookup request = some id ∧
        state.calls.lookup id = some call ∧
        checkResponse env.crates env.nowMs call.group peer frame = some (node, payload) ∧
        record = rpcResponse id call.group node call.protocol payload)
      state (state.response env peer request frame) := by
  have silent {first second : State} (anonymous : Anonymous first second)
      {allowed : Record → Prop} :
      Adds (fun entry => ∀ record, entry.named? = some record → allowed record) first second := by
    refine Adds.mono anonymous fun entry nameless record named => ?_
    cases nameless.symm.trans named
  unfold response
  dsimp only
  split
  · exact Adds.refl _ state
  · rename_i id owner
    split
    · exact silent (anonymous_of_same rfl)
    · rename_i call found
      split
      · rename_i node payload checked
        refine Adds.one rfl fun record named => ?_
        obtain rfl := Option.some.inj named
        exact ⟨id, call, node, payload, owner, found, checked, rfl⟩
      · refine silent (Adds.trans ?_ (anonymous_advance env _ id))
        exact anonymous_of_same rfl

/-- Reporting a refusal brings nothing in. -/
theorem evident_reportLimited (env : Env) (evident : Evident crates settings before)
    (group node : Key) (protocol reason : Nat) :
    Evident crates settings
      (before.reportLimited env (limitedRecord group node protocol reason)) := by
  unfold reportLimited
  dsimp only
  split
  · exact evident.bare (Adds.one rfl ⟨trivial, rfl⟩) (fun _ _ found => found) rfl rfl
  · exact { evident with }

/-- A request that is let in waits under the id of its event. -/
theorem evident_inboundRequest {env : Env} (ofRun : env.crates = crates)
    (setUp : before.settings = settings) (evident : Evident crates settings before) {peer : PeerId}
    {connection : ConnectionId} {frame : Bytes} {channel : ResponseChannel}
    (heard : .heard env.nowMs (.swarm (.rpc (.request peer connection channel.request frame
      channel))) ∈ before.log) (arriving : before.desk.arriving = some channel) :
    Evident crates settings
      (before.inboundRequest env peer connection channel.request frame channel) := by
  have spec := arrival env before peer connection channel.request frame channel
  generalize before.inboundRequest env peer connection channel.request frame channel = after at spec ⊢
  cases spec with
  | unproven => exact evident
  | refused node group protocol payload limits reason =>
    have spent : Evident crates settings
        { before with
          limits
          shared := { before.shared with rpcLimited := before.shared.rpcLimited + 1 } } :=
      { evident with }
    exact evident_reportLimited env spent group node protocol reason
  | admitted node group protocol payload limits checked =>
    have took : Took crates settings
        (before.receive limits channel.request channel group node protocol payload).log
        (rpcRequest before.shared.nextId group node protocol payload) peer frame channel := by
      refine ⟨rfl, List.mem_append_right _ List.mem_cons_self, ?_, env.nowMs, connection,
        List.mem_append_left _ heard, ?_⟩
      · have noted : (before.receive limits channel.request channel group node protocol payload).desk =
            before.desk.carry before.shared.nextId := List.foldl_append
        change (before.receive limits channel.request channel group node protocol payload).desk.Carried
          _ channel
        rw [noted, Attends.carried_carry arriving]
        exact .inr ⟨rfl, rfl⟩
      · rw [← ofRun, ← setUp]
        exact checked
    refine evident.grow rfl (by simp [Entry.input?]) ?_ ?_ rfl rfl
    · intro entry member
      rw [List.mem_singleton.mp member]
      refine ⟨fun _ => ⟨peer, frame, channel, took⟩, ?_, ?_, ?_⟩ <;> intro kind <;> cases kind
    · intro id other found
      have inserted : (before.inbound.insert before.shared.nextId channel).lookup id = some other :=
        found
      rw [Table.lookup_insert_if] at inserted
      split at inserted
      · rename_i own
        obtain rfl := Option.some.inj inserted
        exact .inr ⟨_, peer, frame, took, own.symm⟩
      · exact .inl inserted

/-- An answer goes out on the channel of the request it is for. -/
theorem evident_respond (setUp : before.settings = settings)
    (evident : Evident crates settings before) {id : Nat} {payload : Bytes} {nowMs : UInt64}
    (heard : .heard nowMs (.command (.respond id payload)) ∈ before.log) :
    Evident crates settings (before.respond id payload) := by
  unfold respond
  split
  · exact evident
  · rename_i channel waits
    obtain ⟨record, peer, frame, took, rfl⟩ := evident.waiting id channel waits
    refine evident.grow rfl (by simp [Entry.input?]) ?_ ?_ rfl rfl
    · intro entry member
      rw [List.mem_singleton.mp member]
      refine ⟨record, payload, ⟨nowMs, List.mem_append_left _ heard⟩, by rw [← setUp]; rfl, peer,
        frame, took.mono (List.prefix_append _ _)⟩
    · intro other found isWaiting
      have erased : (before.inbound.erase record.header.id).lookup other = some found := isWaiting
      rw [Table.lookup_erase_if] at erased
      split at erased
      · cases erased
      · exact .inl erased

/-- A gossip message is reported for the topic it came on. -/
theorem evident_hearing {env : Env} (ofRun : env.crates = crates)
    (evident : Evident crates settings before) (listed : before.Listed) {source : PeerId}
    {id : MessageId} {message : GossipMessage} {acceptance : MessageAcceptance}
    (heard : .heard env.nowMs (.swarm (.gossipsub (.message source id message))) ∈ before.log)
    (hearing : Hearing env before source message after acceptance) :
    Evident crates settings after := by
  cases hearing with
  | unheard => exact evident
  | limited key node group publisher payload limits reason =>
    have spent : Evident crates settings
        { before with
          limits
          shared := { before.shared with topicLimited := before.shared.topicLimited + 1 } } :=
      { evident with }
    exact evident_reportLimited env spent group node protocolTopics reason
  | told key node group publisher payload limits followed checked =>
    refine evident.grow rfl (by simp [Entry.input?]) ?_ (fun _ _ found => .inl found) rfl rfl
    intro entry member
    rw [List.mem_singleton.mp member]
    refine ⟨?_, ?_, fun _ => ⟨key, message, payload, ⟨env.nowMs, source, id, publisher,
      List.mem_append_left _ heard, ofRun ▸ checked⟩, ?_, rfl⟩, ?_⟩
    · intro kind
      cases kind
    · intro kind
      cases kind
    · exact ((listed.inverse message.topic key).mp followed).2
    · intro kind
      cases kind
  | throttled => exact { evident with }
  | announced node group publisher payload strange checked =>
    refine evident.grow rfl (by simp [Entry.input?]) ?_ (fun _ _ found => .inl found) rfl rfl
    intro entry member
    rw [List.mem_singleton.mp member]
    refine ⟨?_, ?_, ?_, fun _ => ⟨message, env.nowMs, source, id, publisher,
      List.mem_append_left _ heard, ofRun ▸ checked⟩⟩ <;> intro kind <;> cases kind

/-! Handlers. -/

/-- A change of who is connected is reported and nothing else. -/
theorem bare_connection {before after : State} {reported : Prop} [Decidable reported]
    {record : Record}
    (log : after.log = before.log ++ if reported then [.did (.emit record)] else []) :
    Adds Entry.Bare before after := by
  refine ⟨_, log, fun entry member => ?_⟩
  split at member
  · rw [List.mem_singleton.mp member]
    trivial
  · cases member

theorem announcePayload_announce (env : Env) (state : State) :
    (state.announce env).announcePayload = state.announcePayload := by
  unfold announce
  split
  · split
    · rfl
    · dsimp only
      split <;> rfl
  · rfl

theorem announces_tick (env : Env) (state : State) :
    Adds (fun entry => entry.Bare ∨ entry.Announces state.meter) state (state.tick env) ∧
      (state.tick env).announcePayload = state.announcePayload := by
  obtain ⟨reserved, lookedUp, first, second, third⟩ := tick_spec env state
  have announced : Adds (Entry.Announces state.meter) reserved (reserved.announce env) := by
    rw [← first.meter]
    exact announces_announce env reserved
  have kept := announcePayload_announce env reserved
  have swept : (lookedUp.sweepLimits env).log = lookedUp.log ∧
      (lookedUp.sweepLimits env).announcePayload = lookedUp.announcePayload := by
    unfold sweepLimits
    split <;> exact ⟨rfl, rfl⟩
  have bare {first second : State} (routine : Routine first second) :
      Adds (fun entry => entry.Bare ∨ entry.Announces state.meter) first second :=
    routine.adds.mono fun _ isRoutine => .inl isRoutine.bare
  constructor
  · refine (bare first).trans ((announced.mono fun _ => .inr).trans ((bare second).trans ?_))
    refine Adds.trans ⟨[], ?_, by simp⟩ (bare third)
    rw [swept.1, List.append_nil]
  · have last := congrArg Meter.announcePayload third.meter
    have middle := congrArg Meter.announcePayload second.meter
    have start := congrArg Meter.announcePayload first.meter
    exact last.trans (swept.2.trans (middle.trans (kept.trans start)))

end

end State

/-! Whole runs. -/

/-- Calls, topics and the log of a node agree, and the log rests on what was heard. -/
structure Vetted (crates : Crates) (localPeer : PeerId) (settings : Settings) (system : System) :
    Prop where
  chronicled : Chronicled crates localPeer system
  attended : system.Attended
  sourced : Sourced settings system.state
  listed : system.state.Listed
  evident : system.state.Evident crates settings

section

variable {crates : Crates} {localPeer : PeerId} {settings : Settings} {system : System}

/-- Noting an input leaves what it does not bring. -/
theorem Vetted.noted (vetted : Vetted crates localPeer settings system) (env : Env) {input : Input}
    (enabled : System.Enabled crates system (.handle env input)) :
    ((system.state.deliver input).heard env.nowMs input).Evident crates settings := by
  refine vetted.evident.heard env.nowMs fun request arrives => ?_
  unfold Entry.arrival? at arrives
  split at arrives
  · rename_i same
    obtain ⟨-, rfl⟩ := Entry.heard.inj same
    obtain rfl := Option.some.inj arrives
    exact enabled.2.1
  · cases arrives

/-- The input that is handled is the last line. -/
theorem State.mem_noted (state : State) (nowMs : UInt64) (input : Input) :
    .heard nowMs input ∈ ((state.deliver input).heard nowMs input).log :=
  List.mem_append_right _ List.mem_cons_self

theorem Vetted.listed_noted (vetted : Vetted crates localPeer settings system) (nowMs : UInt64)
    (input : Input) : ((system.state.deliver input).heard nowMs input).Listed := by
  obtain ⟨swarm, delivered, -⟩ := State.deliver_spec system.state input
  rw [delivered]
  exact vetted.listed.of_same rfl rfl

theorem Vetted.setUp_noted (vetted : Vetted crates localPeer settings system) (nowMs : UInt64)
    (input : Input) : ((system.state.deliver input).heard nowMs input).settings = settings := by
  obtain ⟨swarm, delivered, -⟩ := State.deliver_spec system.state input
  rw [delivered]
  exact vetted.sourced.setUp

theorem Vetted.evident_command (vetted : Vetted crates localPeer settings system) {env : Env}
    {sent : Command} (enabled : System.Enabled crates system (.handle env (.command sent))) :
    (system.step (.handle env (.command sent))).state.Evident crates settings := by
  have noted := vetted.noted env enabled
  have setUp := vetted.setUp_noted env.nowMs (.command sent)
  have listed := vetted.listed_noted env.nowMs (.command sent)
  have isHeard := system.state.mem_noted env.nowMs (.command sent)
  have anonymous := State.anonymous_command env
    ((system.state.deliver (.command sent)).heard env.nowMs (.command sent)) sent
  have confined := State.confined_command env
    ((system.state.deliver (.command sent)).heard env.nowMs (.command sent)) sent
  change State.Evident crates settings (State.command env
    ((system.state.deliver (.command sent)).heard env.nowMs (.command sent)) sent)
  generalize (system.state.deliver (.command sent)).heard env.nowMs (.command sent) = before
    at noted setUp listed isHeard anonymous confined ⊢
  by_cases routine : sent.routine = true
  · have bare := (State.routine_command env before sent routine).adds.mono fun _ =>
      Entry.Routine.bare
    have meter := (State.routine_command env before sent routine).meter
    have wanted := congrArg Meter.announcePayload meter
    by_cases inbox : .inbox ∈ sent.parts
    · cases sent with
      | reject id =>
        refine noted.bare (bare.and anonymous) (fun other channel found => ?_) rfl rfl
        have erased : (before.inbound.erase id).lookup other = some channel := found
        rw [Table.lookup_erase_if] at erased
        split at erased
        · cases erased
        · exact erased
      | _ => simp [Command.parts, Command.routine] at inbox routine
    · obtain ⟨inbound, -, seen, -⟩ := InboxPart.mk.inj (confined.inbox inbox)
      exact noted.bare (bare.and anonymous) (fun _ _ found => inbound ▸ found) seen wanted
  · cases sent with
    | respond id payload => exact State.evident_respond setUp noted isHeard
    | setClass group peerClass => exact { noted with }
    | setLimit id rate => exact { noted with }
    | topicPublish key payload =>
      exact State.evident_topicPublish env setUp noted listed isHeard
    | announceSetPayload payload =>
      have set : State.Evident crates settings { before with announcePayload := some payload } := by
        refine { noted with wanted := fun other isSet => ?_ }
        obtain rfl := Option.some.inj isSet
        exact ⟨env.nowMs, isHeard⟩
      refine set.announcing setUp ((State.announces_announce env _).mono fun _ => .inr) ?_ ?_
      · exact (State.confined_announce env _).inbox (by simp)
      · exact State.announcePayload_announce env _
    | _ => exact absurd rfl routine

/-- A response is reported with the call whose request it answers. -/
theorem Vetted.evident_response (vetted : Vetted crates localPeer settings system) {env : Env}
    {peer : PeerId} {request : OutboundRequestId} {frame : Bytes}
    (enabled : System.Enabled crates system
      (.handle env (.swarm (.rpc (.response peer request frame))))) :
    (system.step (.handle env (.swarm (.rpc (.response peer request frame))))).state.Evident crates
      settings := by
  have noted := vetted.noted env enabled
  have isHeard := system.state.mem_noted env.nowMs (.swarm (.rpc (.response peer request frame)))
  have log := (State.noted_heard system.state env.nowMs
    (.swarm (.rpc (.response peer request frame)))).log
  obtain ⟨ofRun, owner, running⟩ := enabled
  -- The request is the one that went out for the call the response is reported for.
  have own : system.state.outbound.lookup request = some owner := by
    rw [vetted.chronicled.balanced.ledger.requests request (by simp), running]
    rfl
  obtain ⟨sent, went⟩ := vetted.sourced.running request peer owner running
  obtain ⟨group, protocol, payload, dispatched⟩ := vetted.sourced.sent owner request peer sent went
  have routine := State.routine_response env ((system.state.deliver
    (.swarm (.rpc (.response peer request frame)))).heard env.nowMs
      (.swarm (.rpc (.response peer request frame)))) peer request frame
  have confined := State.confined_response env ((system.state.deliver
    (.swarm (.rpc (.response peer request frame)))).heard env.nowMs
      (.swarm (.rpc (.response peer request frame)))) peer request frame
  obtain ⟨inbound, -, seen, -⟩ := InboxPart.mk.inj (confined.inbox (by simp))
  have wanted := congrArg Meter.announcePayload routine.meter
  obtain ⟨extra, grown, fine⟩ := routine.adds.and (State.replies_response env _ peer request frame)
  refine noted.grow grown (fun entry member => (fine entry member).1.bare.input) ?_
    (fun _ _ found => .inl (inbound ▸ found)) seen wanted
  intro entry member
  obtain ⟨isRoutine, replies⟩ := fine entry member
  cases named : entry.named? with
  | none => exact Entry.backed_of_bare isRoutine.bare named
  | some record =>
    obtain ⟨id, call, node, answer, isOwner, found, checked, rfl⟩ := replies record named
    have same := State.noted_heard system.state env.nowMs
      (.swarm (.rpc (.response peer request frame)))
    rw [same.outbound, own] at isOwner
    obtain rfl := Option.some.inj isOwner
    rw [same.calls] at found
    have errand : system.state.errand? owner = some call.errand := by
      rw [State.errand?, found]
      rfl
    obtain ⟨given, ofCall⟩ := vetted.sourced.calls owner call.errand errand
    obtain ⟨rfl, rfl, -, -⟩ := Dispatched.unique vetted.sourced.once dispatched ofCall
    have kept : ∀ entry ∈ system.state.log, entry ∈ (system.step
        (.handle env (.swarm (.rpc (.response peer request frame))))).state.log := by
      intro entry old
      refine grown ▸ List.mem_append_left _ ?_
      rw [log]
      exact List.mem_append_left _ old
    rw [Entry.eq_of_named named]
    refine ⟨?_, fun _ => ⟨peer, request, frame, sent, payload, ⟨env.nowMs, ?_, ?_⟩, kept _ went,
      dispatched.mono kept⟩, ?_, ?_⟩
    · intro kind
      cases kind
    · exact grown ▸ List.mem_append_left _ isHeard
    · rw [← ofRun]
      exact checked
    · intro kind
      cases kind
    · intro kind
      cases kind

/-- An event that brings no frame changes nothing that was noted. -/
theorem Vetted.evident_quiet (vetted : Vetted crates localPeer settings system) {env : Env}
    {event : SwarmEvent} (enabled : System.Enabled crates system (.handle env (.swarm event)))
    (nothing : (Input.swarm event).brings = false)
    (bare : State.Adds Entry.Bare
      ((system.state.deliver (.swarm event)).heard env.nowMs (.swarm event))
      (system.step (.handle env (.swarm event))).state)
    (waiting : ∀ id channel,
      (system.step (.handle env (.swarm event))).state.inbound.lookup id = some channel →
        ((system.state.deliver (.swarm event)).heard env.nowMs (.swarm event)).inbound.lookup id =
          some channel)
    (seen : (system.step (.handle env (.swarm event))).state.swarm.inboundSeen =
      ((system.state.deliver (.swarm event)).heard env.nowMs (.swarm event)).swarm.inboundSeen)
    (wanted : (system.step (.handle env (.swarm event))).state.announcePayload =
      ((system.state.deliver (.swarm event)).heard env.nowMs (.swarm event)).announcePayload) :
    (system.step (.handle env (.swarm event))).state.Evident crates settings := by
  have vouched := State.vouched_handle env (system.state.deliver (.swarm event)) (.swarm event)
  have nameless := vouched.mono fun _ isVouched => Entry.Vouched.nameless isVouched nothing
  exact (vetted.noted env enabled).bare (bare.and nameless) waiting seen wanted

/-- The end of a request takes its channel away. -/
theorem State.inboundEnded_waiting (state : State) (request : InboundRequestId) :
    (∀ id channel, (state.inboundEnded request).inbound.lookup id = some channel →
        state.inbound.lookup id = some channel) ∧
      (state.inboundEnded request).swarm.inboundSeen = state.swarm.inboundSeen := by
  unfold State.inboundEnded
  split
  · exact ⟨fun _ _ found => found, rfl⟩
  · refine ⟨fun id channel found => ?_, rfl⟩
    rw [Table.lookup_erase_if] at found
    split at found
    · cases found
    · exact found

theorem Vetted.evident_request (vetted : Vetted crates localPeer settings system) {env : Env}
    {peer : PeerId} {connection : ConnectionId} {request : InboundRequestId} {frame : Bytes}
    {channel : ResponseChannel}
    (enabled : System.Enabled crates system
      (.handle env (.swarm (.rpc (.request peer connection request frame channel))))) :
    (system.step (.handle env (.swarm (.rpc (.request peer connection request frame
      channel))))).state.Evident crates settings := by
  have noted := vetted.noted env enabled
  obtain ⟨ofRun, -, rfl⟩ := enabled
  refine State.evident_inboundRequest ofRun (vetted.setUp_noted env.nowMs _) noted
    (system.state.mem_noted env.nowMs _) ?_
  rw [State.desk_heard]
  rfl

theorem Vetted.evident_gossip (vetted : Vetted crates localPeer settings system) {env : Env}
    {event : GossipEvent}
    (enabled : System.Enabled crates system (.handle env (.swarm (.gossipsub event)))) :
    (system.step (.handle env (.swarm (.gossipsub event)))).state.Evident crates settings := by
  have noted := vetted.noted env enabled
  cases event with
  | subscribed =>
    refine noted.announcing (vetted.setUp_noted env.nowMs _)
      ((State.announces_announce env _).mono fun _ => .inr) ?_ ?_
    · exact (State.confined_announce env _).inbox (by simp)
    · exact State.announcePayload_announce env _
  | message source id message =>
    obtain ⟨after, acceptance, hearing, handled⟩ := State.hearing env
      ((system.state.deliver (.swarm (.gossipsub (.message source id message)))).heard env.nowMs
        (.swarm (.gossipsub (.message source id message)))) source id message
    have told := State.evident_hearing enabled.1 noted (vetted.listed_noted env.nowMs _)
      (system.state.mem_noted env.nowMs _) hearing
    change State.Evident crates settings (State.gossipsubEvent env _ (.message source id message))
    rw [handled]
    exact told.bare (State.Adds.one rfl ⟨trivial, rfl⟩) (fun _ _ found => found) rfl rfl
  | other => exact noted

theorem Vetted.evident_event (vetted : Vetted crates localPeer settings system) {env : Env}
    {event : SwarmEvent} (enabled : System.Enabled crates system (.handle env (.swarm event))) :
    (system.step (.handle env (.swarm event))).state.Evident crates settings := by
  have confined := State.confined_swarmEvent env
    ((system.state.deliver (.swarm event)).heard env.nowMs (.swarm event)) event
  -- Most events touch neither the inbox nor what is announced.
  have plain (routine : event.routine = true) (nothing : (Input.swarm event).brings = false)
      (elsewhere : .inbox ∉ event.parts) :
      (system.step (.handle env (.swarm event))).state.Evident crates settings := by
    have isRoutine := State.routine_swarmEvent env
      ((system.state.deliver (.swarm event)).heard env.nowMs (.swarm event)) event routine
    obtain ⟨inbound, -, seen, -⟩ := InboxPart.mk.inj (confined.inbox elsewhere)
    exact vetted.evident_quiet enabled nothing (isRoutine.adds.mono fun _ => Entry.Routine.bare)
      (fun _ _ found => inbound ▸ found) seen (congrArg Meter.announcePayload isRoutine.meter)
  cases event with
  | connectionEstablished peer connection numEstablished endpoint =>
    obtain ⟨meter, -, log⟩ := State.connectionEstablished_spec env
      ((system.state.deliver _).heard env.nowMs _) peer connection numEstablished endpoint
    obtain ⟨inbound, -, seen, -⟩ := InboxPart.mk.inj (confined.inbox (by simp [SwarmEvent.parts]))
    exact vetted.evident_quiet enabled rfl
      (State.bare_connection log) (fun _ _ found => inbound ▸ found) seen
      (congrArg Meter.announcePayload meter)
  | connectionClosed peer connection numEstablished =>
    obtain ⟨meter, -, log⟩ := State.connectionClosed_spec env
      ((system.state.deliver _).heard env.nowMs _) peer connection numEstablished
    obtain ⟨inbound, -, seen, -⟩ := InboxPart.mk.inj (confined.inbox (by simp [SwarmEvent.parts]))
    exact vetted.evident_quiet enabled rfl
      (State.bare_connection log) (fun _ _ found => inbound ▸ found) seen
      (congrArg Meter.announcePayload meter)
  | kad event =>
    cases event with
    | progressed => exact plain rfl rfl (by simp [SwarmEvent.parts])
    | _ => exact plain rfl rfl (by simp [SwarmEvent.parts])
  | rpc event =>
    cases event with
    | request => exact vetted.evident_request enabled
    | response => exact vetted.evident_response enabled
    | outboundFailure => exact plain rfl rfl (by simp [SwarmEvent.parts])
    | inboundFailure request =>
      obtain ⟨waiting, seen⟩ := State.inboundEnded_waiting
        (system.state.heard env.nowMs (.swarm (.rpc (.inboundFailure request)))) request
      have routine := State.routine_inboundEnded
        (system.state.heard env.nowMs (.swarm (.rpc (.inboundFailure request)))) request
      exact vetted.evident_quiet enabled rfl (routine.adds.mono fun _ => Entry.Routine.bare) waiting
        seen (congrArg Meter.announcePayload routine.meter)
    | responseSent request =>
      obtain ⟨waiting, seen⟩ := State.inboundEnded_waiting
        (system.state.heard env.nowMs (.swarm (.rpc (.responseSent request)))) request
      have routine := State.routine_inboundEnded
        (system.state.heard env.nowMs (.swarm (.rpc (.responseSent request)))) request
      exact vetted.evident_quiet enabled rfl (routine.adds.mono fun _ => Entry.Routine.bare) waiting
        seen (congrArg Meter.announcePayload routine.meter)
  | gossipsub event => exact vetted.evident_gossip enabled
  | _ => exact plain rfl rfl (by simp [SwarmEvent.parts])

theorem Vetted.evident_tick (vetted : Vetted crates localPeer settings system) {env : Env}
    (enabled : System.Enabled crates system (.handle env .tick)) :
    (system.step (.handle env .tick)).state.Evident crates settings := by
  obtain ⟨adds, wanted⟩ := State.announces_tick env
    ((system.state.deliver .tick).heard env.nowMs .tick)
  have anonymous := State.anonymous_tick env ((system.state.deliver .tick).heard env.nowMs .tick)
  have confined := State.confined_tick env ((system.state.deliver .tick).heard env.nowMs .tick)
  refine (vetted.noted env enabled).announcing (vetted.setUp_noted env.nowMs .tick)
    ((adds.and anonymous).mono fun entry fine => ?_) (confined.inbox (by simp)) wanted
  exact fine.1.imp_left fun bare => ⟨bare, fine.2⟩

theorem vetted_step (action : Action) (vetted : Vetted crates localPeer settings system)
    (enabled : System.Enabled crates system action) :
    Vetted crates localPeer settings (system.step action) := by
  refine ⟨chronicled_step system action vetted.chronicled enabled,
    attended_step system action vetted.attended enabled,
    sourced_step action vetted.chronicled vetted.sourced enabled,
    System.listed_step system action vetted.listed, ?_⟩
  cases action with
  | draw => exact { vetted.evident with }
  | poll cap => exact { vetted.evident with }
  | internalQuery => exact { vetted.evident with }
  | learn peer address => exact { vetted.evident with }
  | ready env =>
    have routine := State.routine_ready env system.state
    have nameless := (State.passive_ready env system.state).anonymous
    obtain ⟨inbound, -, seen, -⟩ := InboxPart.mk.inj
      ((State.confined_ready env system.state).inbox (by simp))
    exact vetted.evident.bare ((routine.adds.mono fun _ => Entry.Routine.bare).and nameless)
      (fun _ _ found => inbound ▸ found) seen (congrArg Meter.announcePayload routine.meter)
  | handle env input =>
    cases input with
    | tick => exact vetted.evident_tick enabled
    | command sent => exact vetted.evident_command enabled
    | swarm event => exact vetted.evident_event enabled

end

theorem vetted_start (crates : Crates) (config : Config) (localPeer : PeerId) (now : Instant) :
    Vetted crates localPeer (System.start config localPeer now).state.settings
      (System.start config localPeer now) := by
  refine ⟨chronicled_start crates config localPeer now, attended_start config localPeer now,
    sourced_start config localPeer now,
    System.listed_after config localPeer now [], ?_⟩
  refine ⟨?_, ?_, List.nodup_nil, ?_, ?_⟩
  · intro entry member
    cases member
  · intro id channel found
    cases found
  · intro request member
    cases member
  · intro payload isWanted
    cases isWanted

end Libp2pFfi
