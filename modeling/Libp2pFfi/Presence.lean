import Libp2pFfi.Admissions
import Libp2pFfi.Connections
import Libp2pFfi.Tidings

/-!
# Who is there

A caller that follows `LP2P_EV_PEER_CONNECTED` and `LP2P_EV_PEER_DISCONNECTED`
knows who is there. The node reports the first connection of a peer and the end
of the last, and looks at nothing but the count that libp2p gives with each. As
long as that count is right, the two kinds of events alternate for every peer,
however many connections to it open and close in whatever order, and the last of
them says whether one is open.
-/

namespace Libp2pFfi

/-- Whether an event says that a node has come, or that it has gone. -/
def Record.presence? (node : Key) (record : Record) : Option Bool :=
  if record.header.node = node then
    match record.header.kind with
    | .peerConnected => some true
    | .peerDisconnected => some false
    | _ => none
  else none

theorem Record.presence?_connected (node who : Key) (data : Bytes) :
    (((EventBuilder.new .peerConnected).node who).data data).presence? node =
      if who = node then some true else none := rfl

theorem Record.presence?_disconnected (node who : Key) :
    ((EventBuilder.new .peerDisconnected).node who).build.presence? node =
      if who = node then some false else none := rfl

/-- What the lines of a log say about a node's coming and going, the oldest first. -/
def presence (node : Key) (log : List Entry) : List Bool :=
  (emitted log).filterMap (Record.presence? node)

/-- Somebody comes first, and comes and goes in turn. -/
inductive Alternates : List Bool → Bool → Prop where
  | absent : Alternates [] false
  | comes {told : List Bool} (earlier : Alternates told false) : Alternates (told ++ [true]) true
  | goes {told : List Bool} (earlier : Alternates told true) : Alternates (told ++ [false]) false

theorem presence_append (node : Key) (first second : List Entry) :
    presence node (first ++ second) = presence node first ++ presence node second := by
  rw [presence, emitted, List.filterMap_append, List.filterMap_append]
  rfl

/-- An event that says nothing about who is there. -/
def EventKind.impersonal : EventKind → Bool
  | peerConnected => false
  | peerDisconnected => false
  | _ => true

theorem EventKind.impersonal_of_routine {kind : EventKind} (routine : kind.routine = true) :
    kind.impersonal = true := by
  cases kind with
  | peerConnected => cases routine
  | peerDisconnected => cases routine
  | _ => rfl

def Entry.Impersonal : Entry → Prop
  | heard _ _ => True
  | did (.emit record) => record.header.kind.impersonal = true
  | did _ => True

theorem Entry.Routine.impersonal {entry : Entry} (routine : entry.Routine) : entry.Impersonal := by
  cases entry with
  | heard => trivial
  | did effect =>
    cases effect with
    | emit record => exact EventKind.impersonal_of_routine routine
    | _ => trivial

theorem presence_impersonal (node : Key) {log : List Entry}
    (impersonal : ∀ entry ∈ log, entry.Impersonal) : presence node log = [] := by
  rw [presence, List.filterMap_eq_nil_iff]
  intro record member
  obtain ⟨entry, isEntry, reported⟩ := List.mem_filterMap.mp member
  have silent := impersonal entry isEntry
  cases entry with
  | heard => cases reported
  | did effect =>
    cases effect with
    | emit told =>
      obtain rfl := Option.some.inj reported
      have isSilent : told.header.kind.impersonal = true := silent
      unfold Record.presence?
      split
      · split
        · rename_i kind
          rw [kind] at isSilent
          cases isSilent
        · rename_i kind
          rw [kind] at isSilent
          cases isSilent
        · rfl
      · rfl
    | _ => cases reported

namespace State

/-- A handler that says nothing about who is there. -/
def Unseen (before after : State) : Prop := Adds Entry.Impersonal before after

theorem Routine.unseen {before after : State} (routine : Routine before after) :
    Unseen before after := routine.adds.mono fun _ quiet => quiet.impersonal

theorem unseen_line {before after : State} {effect : Effect}
    (log : after.log = before.log ++ [.did effect]) (impersonal : (Entry.did effect).Impersonal) :
    Unseen before after :=
  ⟨_, log, fun entry member => by rw [List.mem_singleton.mp member]; exact impersonal⟩

theorem unseen_announce (env : Env) (state : State) : Unseen state (state.announce env) := by
  unfold announce
  split
  · split
    · exact Adds.refl _ state
    · dsimp only
      split <;> exact unseen_line rfl trivial
  · exact Adds.refl _ state

theorem unseen_reportLimited {before counted : State} (env : Env) (group node : Key)
    (protocol reason : Nat) (log : counted.log = before.log) :
    Unseen before (counted.reportLimited env (limitedRecord group node protocol reason)) := by
  unfold reportLimited
  dsimp only
  split
  · exact unseen_line (congrArg (· ++ _) log) rfl
  · exact ⟨[], log.trans (List.append_nil _).symm, fun _ member => by cases member⟩

theorem unseen_inboundRequest (env : Env) (state : State) (peer : PeerId)
    (connection : ConnectionId) (request : InboundRequestId) (frame : Bytes)
    (channel : ResponseChannel) :
    Unseen state (state.inboundRequest env peer connection request frame channel) := by
  have outcome := arrival env state peer connection request frame channel
  generalize state.inboundRequest env peer connection request frame channel = after at outcome ⊢
  cases outcome with
  | unproven => exact Adds.refl _ state
  | refused => exact unseen_reportLimited env _ _ _ _ rfl
  | admitted => exact unseen_line rfl rfl

theorem unseen_gossipsubEvent (env : Env) (state : State) (event : GossipEvent) :
    Unseen state (state.gossipsubEvent env event) := by
  cases event with
  | subscribed => exact unseen_announce env state
  | other => exact Adds.refl _ state
  | message source id message =>
    obtain ⟨after, acceptance, outcome, handled⟩ := hearing env state source id message
    rw [handled]
    refine Adds.trans ?_ (unseen_line rfl trivial)
    cases outcome with
    | unheard => exact Adds.refl _ state
    | limited => exact unseen_reportLimited env _ _ _ _ rfl
    | told => exact unseen_line rfl rfl
    | throttled => exact ⟨[], (List.append_nil _).symm, fun _ member => by cases member⟩
    | announced => exact unseen_line rfl rfl

theorem unseen_command (env : Env) (state : State) (sent : Command) :
    Unseen state (state.command env sent) := by
  by_cases routine : sent.routine = true
  · exact (routine_command env state sent routine).unseen
  · cases sent with
    | respond id payload =>
      change Unseen state (state.respond id payload)
      unfold respond
      split
      · exact Adds.refl _ state
      · exact unseen_line rfl trivial
    | setClass => exact ⟨[], (List.append_nil _).symm, fun _ member => by cases member⟩
    | setLimit => exact ⟨[], (List.append_nil _).symm, fun _ member => by cases member⟩
    | announceSetPayload payload =>
      exact unseen_announce env { state with announcePayload := some payload }
    | topicPublish key payload =>
      change Unseen state (state.topicPublish env key payload)
      unfold topicPublish
      split
      · exact Adds.refl _ state
      · dsimp only
        split <;> exact unseen_line rfl trivial
    | _ => exact absurd rfl routine

theorem unseen_tick (env : Env) (state : State) : Unseen state (state.tick env) := by
  obtain ⟨reserved, lookedUp, early, later, last⟩ := tick_spec env state
  have swept : Unseen lookedUp (lookedUp.sweepLimits env) := by
    unfold sweepLimits
    split
    · exact ⟨[], (List.append_nil _).symm, fun _ member => by cases member⟩
    · exact Adds.refl _ lookedUp
  exact (((early.unseen.trans (unseen_announce env reserved)).trans later.unseen).trans swept).trans
    last.unseen

theorem unseen_swarmEvent (env : Env) (state : State) (event : SwarmEvent)
    (opens : ∀ peer connection count endpoint,
      event ≠ .connectionEstablished peer connection count endpoint)
    (closes : ∀ peer connection count, event ≠ .connectionClosed peer connection count) :
    Unseen state (state.swarmEvent env event) := by
  by_cases routine : event.routine = true
  · exact (routine_swarmEvent env state event routine).unseen
  · cases event with
    | connectionEstablished => exact absurd rfl (opens _ _ _ _)
    | connectionClosed => exact absurd rfl (closes _ _ _)
    | rpc event =>
      cases event with
      | request peer connection request frame channel =>
        exact unseen_inboundRequest env state peer connection request frame channel
      | _ => exact absurd rfl routine
    | gossipsub event => exact unseen_gossipsubEvent env state event
    | _ => exact absurd rfl routine

end State

namespace Links

/-- A connection to the peer is open. -/
def Connected (links : Links) (peer : PeerId) : Prop :=
  ∃ connection endpoint, links.lookup connection = some (peer, endpoint)

theorem connected_iff {links : Links} {peer : PeerId} :
    Connected links peer ↔ numEstablished links peer ≠ 0 := by
  constructor
  · rintro ⟨connection, endpoint, found⟩ none
    exact lookup_of_numEstablished_eq_zero none connection endpoint found
  · intro some
    have nonempty : (links.toList.filter fun link => link.2.1 = peer) ≠ [] :=
      fun none => some (congrArg List.length none)
    obtain ⟨⟨connection, other, endpoint⟩, member⟩ := List.exists_mem_of_ne_nil _ nonempty
    obtain ⟨listed, isPeer⟩ := List.mem_filter.mp member
    obtain rfl : other = peer := by simpa using isPeer
    exact ⟨connection, endpoint, Table.mem_toList.mp listed⟩

/-- Another peer's connections open and close without it. -/
theorem connected_step {links : Links} {peer other : PeerId} (different : other ≠ peer)
    {connection : ConnectionId} (own : ∀ link, links.lookup connection = some link → link.1 = peer) :
    (∀ endpoint, Connected (links.insert connection (peer, endpoint)) other ↔
      Connected links other) ∧
      (Connected (links.erase connection) other ↔ Connected links other) := by
  have elsewhere {tested : ConnectionId} {endpoint : ConnectedPoint}
      (found : links.lookup tested = some (other, endpoint)) : tested ≠ connection := by
    rintro rfl
    exact different (own _ found)
  constructor
  · intro endpoint
    constructor
    · rintro ⟨tested, shown, found⟩
      rw [Table.lookup_insert_if] at found
      split at found
      · obtain ⟨rfl, -⟩ := Prod.mk.inj (Option.some.inj found)
        exact absurd rfl different
      · exact ⟨tested, shown, found⟩
    · rintro ⟨tested, shown, found⟩
      refine ⟨tested, shown, ?_⟩
      rw [Table.lookup_insert_if, if_neg (elsewhere found)]
      exact found
  · constructor
    · rintro ⟨tested, shown, found⟩
      rw [Table.lookup_erase_if] at found
      split at found
      · cases found
      · exact ⟨tested, shown, found⟩
    · rintro ⟨tested, shown, found⟩
      refine ⟨tested, shown, ?_⟩
      rw [Table.lookup_erase_if, if_neg (elsewhere found)]
      exact found

end Links

/-- What was told of a peer is how things are. -/
def Told (crates : Crates) (peer : PeerId) (links : Links) (log : List Entry) : Prop :=
  ∃ online, Alternates (presence (peerKey crates peer) log) online ∧
    (online = true ↔ links.Connected peer)

section

variable {crates : Crates} {peer : PeerId} {links : Links} {system : System}

/-- Nothing is said about the peer, and its connections stay open. -/
theorem Told.silent {log extra : List Entry} {after : Links} (told : Told crates peer links log)
    (silent : presence (peerKey crates peer) extra = [])
    (same : after.Connected peer ↔ links.Connected peer) :
    Told crates peer after (log ++ extra) := by
  obtain ⟨online, alternates, isOnline⟩ := told
  refine ⟨online, ?_, isOnline.trans same.symm⟩
  rw [presence_append, silent, List.append_nil]
  exact alternates

/-- The lines that a handler writes. -/
theorem log_handle (system : System) (env : Env) (event : SwarmEvent)
    {extra : List Entry} (grown : (State.swarmEvent env
      ((system.state.deliver (.swarm event)).heard env.nowMs (.swarm event)) event).log =
      ((system.state.deliver (.swarm event)).heard env.nowMs (.swarm event)).log ++ extra) :
    (system.step (.handle env (.swarm event))).state.log =
      system.state.log ++ .heard env.nowMs (.swarm event) :: extra := by
  obtain ⟨swarm, delivered, -⟩ := system.state.deliver_spec (.swarm event)
  change (State.swarmEvent env _ event).log = _
  rw [grown, delivered, State.heard, List.append_assoc]
  rfl

/-- One event, and what it says of a node. -/
theorem presence_report (node : Key) (nowMs : UInt64) (input : Input) (record : Record) :
    presence node [.heard nowMs input, .did (.emit record)] = (record.presence? node).toList := by
  change List.filterMap (Record.presence? node) [record] = _
  rw [List.filterMap_cons]
  cases record.presence? node <;> rfl

/-- A peer's first connection is reported, and no other peer's is taken for it. -/
theorem told_established (told : Told crates peer links system.state.log)
    (only : ∀ other, peerKey crates other = peerKey crates peer → other = peer) (env : Env)
    (ofRun : env.crates = crates) (came : PeerId) (connection : ConnectionId) (count : Nat)
    (endpoint : ConnectedPoint)
    (reports : Links.Reports links
      (.handle env (.swarm (.connectionEstablished came connection count endpoint)))) :
    Told crates peer (links.insert connection (came, endpoint))
      (system.step (.handle env (.swarm
        (.connectionEstablished came connection count endpoint)))).state.log := by
  obtain ⟨unused, counted⟩ := reports
  obtain ⟨-, -, grown⟩ := State.connectionEstablished_spec env
    ((system.state.deliver (.swarm (.connectionEstablished came connection count endpoint))).heard
      env.nowMs (.swarm (.connectionEstablished came connection count endpoint)))
    came connection count endpoint
  rw [log_handle system env (.connectionEstablished came connection count endpoint) grown, ofRun]
  by_cases isPeer : came = peer
  · subst isPeer
    have isOpen : Links.Connected (links.insert connection (came, endpoint)) came :=
      ⟨connection, endpoint, by rw [Table.lookup_insert_if, if_pos rfl]⟩
    by_cases first : count = 1
    · -- The peer was away: its first connection is reported.
      obtain ⟨online, alternates, isOnline⟩ := told
      have away : ¬links.Connected came := by
        rw [Links.connected_iff]
        omega
      obtain rfl : online = false := by simpa using fun isTrue => away (isOnline.mp isTrue)
      refine ⟨true, ?_, fun _ => isOpen, fun _ => rfl⟩
      rw [presence_append, if_pos first, presence_report, Record.presence?_connected, if_pos rfl]
      exact alternates.comes
    · have already : links.Connected came := by
        rw [Links.connected_iff]
        omega
      refine told.silent ?_ ⟨fun _ => already, fun _ => isOpen⟩
      rw [if_neg first]
      rfl
  · have own : ∀ link, links.lookup connection = some link → link.1 = came := by simp [unused]
    refine told.silent ?_ ((Links.connected_step (Ne.symm isPeer) own).1 endpoint)
    split
    · rw [presence_report, Record.presence?_connected,
        if_neg fun same => isPeer (only came same)]
      rfl
    · rfl

/-- The end of a peer's last connection is reported. -/
theorem told_closed (told : Told crates peer links system.state.log)
    (only : ∀ other, peerKey crates other = peerKey crates peer → other = peer) (env : Env)
    (ofRun : env.crates = crates) (left : PeerId) (connection : ConnectionId) (count : Nat)
    (reports : Links.Reports links
      (.handle env (.swarm (.connectionClosed left connection count)))) :
    Told crates peer (links.erase connection)
      (system.step (.handle env (.swarm
        (.connectionClosed left connection count)))).state.log := by
  obtain ⟨⟨endpoint, owned⟩, counted⟩ := reports
  obtain ⟨-, -, grown⟩ := State.connectionClosed_spec env
    ((system.state.deliver (.swarm (.connectionClosed left connection count))).heard
      env.nowMs (.swarm (.connectionClosed left connection count)))
    left connection count
  rw [log_handle system env (.connectionClosed left connection count) grown, ofRun]
  by_cases isPeer : left = peer
  · subst isPeer
    have wasOpen : links.Connected left := ⟨connection, endpoint, owned⟩
    by_cases last : count = 0
    · -- Nothing is open to the peer any more.
      obtain ⟨online, alternates, isOnline⟩ := told
      obtain rfl : online = true := isOnline.mpr wasOpen
      have gone : ¬Links.Connected (links.erase connection) left := by
        rw [Links.connected_iff]
        omega
      refine ⟨false, ?_, iff_of_false Bool.false_ne_true gone⟩
      rw [presence_append, if_pos last, presence_report, Record.presence?_disconnected, if_pos rfl]
      exact alternates.goes
    · have others : Links.Connected (links.erase connection) left := by
        rw [Links.connected_iff]
        omega
      refine told.silent ?_ ⟨fun _ => wasOpen, fun _ => others⟩
      rw [if_neg last]
      rfl
  · have own : ∀ link, links.lookup connection = some link → link.1 = left := by
      intro link found
      rw [← Option.some.inj (owned.symm.trans found)]
    refine told.silent ?_ (Links.connected_step (Ne.symm isPeer) own).2
    split
    · rw [presence_report, Record.presence?_disconnected,
        if_neg fun same => isPeer (only left same)]
      rfl
    · rfl

/-- A handler that says nothing about who is there leaves what was told. -/
theorem Told.unseen {before after : State} (told : Told crates peer links before.log)
    (unseen : State.Unseen before after) : Told crates peer links after.log := by
  obtain ⟨extra, log, impersonal⟩ := unseen
  rw [log]
  exact told.silent (presence_impersonal _ impersonal) Iff.rfl

/-- An input is delivered and noted without a word to the caller. -/
theorem Told.noted (told : Told crates peer links system.state.log) (nowMs : UInt64)
    (input : Input) :
    Told crates peer links ((system.state.deliver input).heard nowMs input).log := by
  obtain ⟨swarm, delivered, -⟩ := system.state.deliver_spec input
  rw [delivered]
  exact told.silent rfl Iff.rfl

theorem told_step (action : Action) (told : Told crates peer links system.state.log)
    (only : ∀ other, peerKey crates other = peerKey crates peer → other = peer)
    (enabled : system.Enabled crates action) (reports : Links.Reports links action) :
    Told crates peer (links.step action) (system.step action).state.log := by
  cases action with
  | draw => exact told
  | poll => exact told
  | internalQuery => exact told
  | learn => exact told
  | ready env => exact told.unseen (State.routine_ready env system.state).unseen
  | handle env input =>
    have noted := told.noted env.nowMs input
    cases input with
    | command command => exact noted.unseen (State.unseen_command env _ command)
    | tick => exact noted.unseen (State.unseen_tick env _)
    | swarm event =>
      cases event with
      | connectionEstablished came connection count endpoint =>
        exact told_established told only env enabled.1 came connection count endpoint reports
      | connectionClosed left connection count =>
        exact told_closed told only env enabled.1 left connection count reports
      | _ =>
        refine noted.unseen (State.unseen_swarmEvent env _ _ ?_ ?_)
        · intro came connection count endpoint same
          cases same
        · intro left connection count same
          cases same

end

/-- However connections to a peer open and close, a caller hears that it came and
that it went in turn, and heard last that it came exactly while one is open. -/
theorem System.presence_alternates {crates : Crates} {config : Config} {localPeer : PeerId}
    {now : Instant} {actions : List Action} (run : Run crates config localPeer now actions)
    (honest : Runs.Admissible Links.step ∅ Links.Reports actions) (peer : PeerId)
    (only : ∀ other, peerKey crates other = peerKey crates peer → other = peer) :
    ∃ online, Alternates
        (presence (peerKey crates peer) (after config localPeer now actions).state.log) online ∧
      (online = true ↔ (Links.along actions).Connected peer) := by
  change Told crates peer (Links.along actions) (after config localPeer now actions).state.log
  induction actions using List.reverseRecOn with
  | nil =>
    refine ⟨false, .absent, iff_of_false Bool.false_ne_true ?_⟩
    rintro ⟨connection, endpoint, found⟩
    cases found
  | append_singleton before action inductionHypothesis =>
    have earlier : before <+: before ++ [action] := List.prefix_append before [action]
    have told := inductionHypothesis (run.take earlier) (honest.take _ _ earlier)
    rw [after_append_singleton, Links.along, List.foldl_append]
    exact told_step action told only (run before action (List.prefix_refl _))
      (honest before action (List.prefix_refl _))

/-- The remote node is dialed, reaches the node through a relay as well, and
leaves. -/
def Sample.comesAndGoes : List Action :=
  [Sample.opens 1 1 (.dialer Sample.direct), Sample.opens 2 2 (.listener Sample.relayedAddress),
    Sample.closes 1 1, Sample.closes 2 0]

theorem Sample.remotePeer_only (other : PeerId)
    (same : peerKey Sample.crates other = peerKey Sample.crates Sample.remotePeer) :
    other = Sample.remotePeer := by
  have remote : peerKey Sample.crates Sample.remotePeer = Sample.remote := by decide +kernel
  rw [remote, peerKey, keyOf] at same
  split at same
  · exact absurd same (by decide +kernel)
  · rename_i identity
    have code : other.code = 0 := by simpa using identity
    simp only [Sample.crates] at same
    split at same
    · exact absurd same (by decide +kernel)
    · split at same
      · rename_i digest
        obtain ⟨_, _⟩ := other
        rw [Sample.remotePeer, ← digest, ← code]
      · exact absurd same (by decide +kernel)

/-- Four connection events, and two words about the peer. -/
theorem System.presence_alternates_relayed :
    presence Sample.remote
        (System.after Sample.config Sample.peer 0 Sample.comesAndGoes).state.log = [true, false] ∧
      ∃ online, Alternates [true, false] online ∧
        (online = true ↔ (Links.along Sample.comesAndGoes).Connected Sample.remotePeer) := by
  have told : presence Sample.remote
      (System.after Sample.config Sample.peer 0 Sample.comesAndGoes).state.log = [true, false] := by
    decide +kernel
  have remote : peerKey Sample.crates Sample.remotePeer = Sample.remote := by decide +kernel
  have run : System.Run Sample.crates Sample.config Sample.peer 0 Sample.comesAndGoes := by
    simp only [System.Run, Sample.comesAndGoes, Runs.admissible_cons, Runs.admissible_nil, and_true]
    exact ⟨⟨rfl, trivial⟩, ⟨rfl, trivial⟩, ⟨rfl, trivial⟩, rfl, trivial⟩
  have honest : Runs.Admissible Links.step ∅ Links.Reports Sample.comesAndGoes := by
    simp only [Sample.comesAndGoes, Runs.admissible_cons, Runs.admissible_nil, and_true]
    refine ⟨⟨rfl, ?_⟩, ⟨rfl, ?_⟩, ⟨⟨_, rfl⟩, ?_⟩, ⟨_, rfl⟩, ?_⟩ <;> decide +kernel
  have alternates := System.presence_alternates run honest Sample.remotePeer Sample.remotePeer_only
  rw [remote, told] at alternates
  exact ⟨told, alternates⟩

end Libp2pFfi
