import Libp2pFfi.Memory

/-!
# Connections and what is remembered of them

A peer may have several connections, direct ones and ones through a relay, and
they come and go in any order. The node keeps the address of every connection.
By peer it keeps the IP of a direct connection, which a limit on a network prefix
needs, and the address it dialed the peer on. A new connection overwrites what is
kept by peer, and only the end of the last one clears it.

`Links` are the connections that are open, as libp2p reports them. What is kept by
peer is about an open connection in every state of a run exactly if no connection
closes that it was about while the peer keeps others, none of which shows the
same.
-/

namespace Libp2pFfi

/-- The open connections, each with its peer and how it came about. -/
abbrev Links := Table ConnectionId (PeerId × ConnectedPoint)

namespace Links

/-- How many connections to a peer are open. -/
def numEstablished (links : Links) (peer : PeerId) : Nat :=
  (links.toList.filter fun link => link.2.1 = peer).length

def step (links : Links) : Action → Links
  | .handle _ (.swarm (.connectionEstablished peer connection _ endpoint)) =>
    links.insert connection (peer, endpoint)
  | .handle _ (.swarm (.connectionClosed _ connection _)) => links.erase connection
  | _ => links

/-- What libp2p promises of its reports: a connection opens under an id that is
not in use, it closes once and for the peer it was opened for, and either report
says how many connections to the peer there are now. -/
def Reports (links : Links) : Action → Prop
  | .handle _ (.swarm (.connectionEstablished peer connection numEstablished _)) =>
    links.lookup connection = none ∧ numEstablished = Links.numEstablished links peer + 1
  | .handle _ (.swarm (.connectionClosed peer connection numEstablished)) =>
    (∃ endpoint, links.lookup connection = some (peer, endpoint)) ∧
      numEstablished = Links.numEstablished (links.erase connection) peer
  | _ => True

/-- The connections that are open after some actions. -/
def along (actions : List Action) : Links := actions.foldl step ∅

/-- Nothing is open to a peer without a connection. -/
theorem lookup_of_numEstablished_eq_zero {links : Links} {peer : PeerId}
    (none : numEstablished links peer = 0) (connection : ConnectionId) (endpoint : ConnectedPoint) :
    links.lookup connection ≠ some (peer, endpoint) := by
  intro found
  have listed : (connection, peer, endpoint) ∈ links.toList := Table.mem_toList.mpr found
  have member : (connection, peer, endpoint) ∈
      links.toList.filter fun link => link.2.1 = peer := by simp [listed]
  rw [List.length_eq_zero_iff.mp none] at member
  cases member

end Links

/-- The IP a connection shows of its peer. Through a relay it shows none. -/
def ConnectedPoint.shownIp (endpoint : ConnectedPoint) : Option IpAddr :=
  if isRelayed endpoint.remoteAddress then none else ipOf endpoint.remoteAddress

/-- The address a peer was dialed on, not through a relay. -/
def ConnectedPoint.dialedOn (endpoint : ConnectedPoint) : Option Multiaddr :=
  if endpoint.isDialer && !isRelayed endpoint.remoteAddress then some endpoint.remoteAddress
  else none

/-- What is kept of connections is about open ones: the addresses are those of the
open connections, an IP is shown by an open direct connection of the peer, and an
address was dialed for an open connection of the peer. -/
structure Grounded (links : Links) (contacts : Contacts) : Prop where
  connections : ∀ connection, contacts.connections.lookup connection =
    (links.lookup connection).map fun link => link.2.remoteAddress
  peerIps : Table.Backed ConnectedPoint.shownIp links contacts.peerIps
  dialed : Table.Backed ConnectedPoint.dialedOn links contacts.dialed

/-- A connection that closes while its peer keeps others is not the only one the
remembered IP was seen on, nor the only one dialed on the remembered address. -/
def Spares (links : Links) (contacts : Contacts) : Action → Prop
  | .handle _ (.swarm (.connectionClosed peer connection numEstablished)) =>
    numEstablished = 0 ∨
      (∀ ip, contacts.peerIps.lookup peer = some ip → ∃ other endpoint, other ≠ connection ∧
        links.lookup other = some (peer, endpoint) ∧ endpoint.shownIp = some ip) ∧
      (∀ address, contacts.dialed.lookup peer = some address → ∃ other endpoint,
        other ≠ connection ∧ links.lookup other = some (peer, endpoint) ∧
          endpoint.dialedOn = some address)
  | _ => True

namespace State

theorem contacts_connectionEstablished (env : Env) (state : State) (peer : PeerId)
    (connection : ConnectionId) (numEstablished : Nat) (endpoint : ConnectedPoint) :
    (state.connectionEstablished env peer connection numEstablished endpoint).contacts =
      { connections := state.connections.insert connection endpoint.remoteAddress
        peerIps := Table.jot ConnectedPoint.shownIp state.peerIps peer endpoint
        dialed := Table.jot ConnectedPoint.dialedOn state.dialed peer endpoint } := by
  unfold connectionEstablished Table.jot ConnectedPoint.shownIp ConnectedPoint.dialedOn
  dsimp only
  cases ip : ipOf endpoint.remoteAddress <;> cases relayed : isRelayed endpoint.remoteAddress <;>
    cases dialer : endpoint.isDialer <;> by_cases first : numEstablished = 1 <;>
    simp [first] <;> rfl

theorem contacts_connectionClosed (env : Env) (state : State) (peer : PeerId)
    (connection : ConnectionId) (numEstablished : Nat) :
    (state.connectionClosed env peer connection numEstablished).contacts =
      if numEstablished = 0 then
        { connections := state.connections.erase connection
          peerIps := state.peerIps.erase peer
          dialed := state.dialed.erase peer }
      else { state.contacts with connections := state.connections.erase connection } := by
  unfold connectionClosed
  dsimp only
  split <;> rfl

end State

section

variable {links : Links} {contacts : Contacts}

/-- A connection that opens is as good as those before it. -/
theorem Grounded.opened (grounded : Grounded links contacts) {connection : ConnectionId}
    (isNew : links.lookup connection = none) (peer : PeerId) (endpoint : ConnectedPoint) :
    Grounded (links.insert connection (peer, endpoint))
      { connections := contacts.connections.insert connection endpoint.remoteAddress
        peerIps := Table.jot ConnectedPoint.shownIp contacts.peerIps peer endpoint
        dialed := Table.jot ConnectedPoint.dialedOn contacts.dialed peer endpoint } := by
  constructor
  · intro tested
    dsimp only
    rw [Table.lookup_insert_if, Table.lookup_insert_if, grounded.connections tested]
    split <;> rfl
  · exact grounded.peerIps.insert isNew peer endpoint
  · exact grounded.dialed.insert isNew peer endpoint

theorem Grounded.connections_erase (grounded : Grounded links contacts)
    (connection tested : ConnectionId) :
    (contacts.connections.erase connection).lookup tested =
      ((links.erase connection).lookup tested).map fun link => link.2.remoteAddress := by
  rw [Table.lookup_erase_if, Table.lookup_erase_if, grounded.connections tested]
  split <;> rfl

/-- The last connection of a peer closes. -/
theorem Grounded.closed_last (grounded : Grounded links contacts) {connection : ConnectionId}
    {peer : PeerId} {endpoint : ConnectedPoint}
    (owned : links.lookup connection = some (peer, endpoint))
    (last : Links.numEstablished (links.erase connection) peer = 0) :
    Grounded (links.erase connection)
      { connections := contacts.connections.erase connection
        peerIps := contacts.peerIps.erase peer
        dialed := contacts.dialed.erase peer } := by
  have gone := Links.lookup_of_numEstablished_eq_zero last
  constructor
  · exact grounded.connections_erase connection
  · exact grounded.peerIps.erase_last owned gone
  · exact grounded.dialed.erase_last owned gone

/-- A connection closes while its peer keeps others. -/
theorem Grounded.closed_iff (grounded : Grounded links contacts) {connection : ConnectionId}
    {peer : PeerId} {endpoint : ConnectedPoint}
    (owned : links.lookup connection = some (peer, endpoint)) :
    Grounded (links.erase connection)
        { contacts with connections := contacts.connections.erase connection } ↔
      (∀ ip, contacts.peerIps.lookup peer = some ip → ∃ other endpoint, other ≠ connection ∧
        links.lookup other = some (peer, endpoint) ∧ endpoint.shownIp = some ip) ∧
      (∀ address, contacts.dialed.lookup peer = some address → ∃ other endpoint,
        other ≠ connection ∧ links.lookup other = some (peer, endpoint) ∧
          endpoint.dialedOn = some address) := by
  rw [← grounded.peerIps.erase_iff owned, ← grounded.dialed.erase_iff owned]
  constructor
  · intro still
    exact ⟨still.peerIps, still.dialed⟩
  · rintro ⟨peerIps, dialed⟩
    exact ⟨grounded.connections_erase connection, peerIps, dialed⟩

end

/-- One action keeps the contacts grounded exactly if it spares what they are
about. -/
theorem System.grounded_step_iff {system : System} {links : Links} {action : Action}
    (honest : Links.Reports links action) (grounded : Grounded links system.state.contacts) :
    Grounded (Links.step links action) (system.step action).state.contacts ↔
      Spares links system.state.contacts action := by
  have untouched (other : action.writes ≠ .contacts) (same : Links.step links action = links)
      (spares : Spares links system.state.contacts action) :
      Grounded (Links.step links action) (system.step action).state.contacts ↔
        Spares links system.state.contacts action := by
    rw [system.contacts_step action other, same]
    exact iff_of_true grounded spares
  cases action with
  | handle env input =>
    cases input with
    | command command =>
      cases command <;> exact untouched (by simp [Action.writes, Input.writes]) rfl trivial
    | tick => exact untouched (by simp [Action.writes, Input.writes]) rfl trivial
    | swarm event =>
      cases event with
      | connectionEstablished peer connection numEstablished endpoint =>
        refine iff_of_true ?_ trivial
        have contacts := State.contacts_connectionEstablished env
          (system.state.heard env.nowMs
            (.swarm (.connectionEstablished peer connection numEstablished endpoint)))
          peer connection numEstablished endpoint
        exact contacts ▸ grounded.opened honest.1 peer endpoint
      | connectionClosed peer connection numEstablished =>
        obtain ⟨⟨endpoint, owned⟩, counted⟩ := honest
        have contacts := State.contacts_connectionClosed env
          (system.state.heard env.nowMs (.swarm (.connectionClosed peer connection numEstablished)))
          peer connection numEstablished
        by_cases last : numEstablished = 0
        · rw [if_pos last] at contacts
          refine iff_of_true ?_ (.inl last)
          exact contacts ▸ grounded.closed_last owned (counted.symm.trans last)
        · rw [if_neg last] at contacts
          refine Iff.trans ?_ (or_iff_right last).symm
          exact contacts ▸ grounded.closed_iff owned
      | rpc event =>
        cases event <;> exact untouched (by simp [Action.writes, Input.writes]) rfl trivial
      | _ => exact untouched (by simp [Action.writes, Input.writes]) rfl trivial
  | _ => exact untouched (by simp [Action.writes]) rfl trivial

/-- The node beside the connections that are open. -/
def System.watch (watched : System × Links) (action : Action) : System × Links :=
  (watched.1.step action, Links.step watched.2 action)

theorem System.foldl_watch (actions : List Action) (system : System) (links : Links) :
    actions.foldl watch (system, links) =
      (actions.foldl step system, actions.foldl Links.step links) := by
  induction actions generalizing system links with
  | nil => rfl
  | cons action rest inductionHypothesis => exact inductionHypothesis _ _

/-- In every state of a run what is kept of connections is about open ones,
exactly if no connection closes that the remembered IP or dialed address of its
peer rests on alone, while the peer keeps other connections. -/
theorem contacts_grounded_iff {config : Config} {localPeer : PeerId} {now : Instant}
    {actions : List Action} (honest : Runs.Admissible Links.step ∅ Links.Reports actions) :
    (∀ before, before <+: actions → Grounded (Links.along before)
        (System.after config localPeer now before).state.contacts) ↔
      ∀ before action, before ++ [action] <+: actions → Spares (Links.along before)
        (System.after config localPeer now before).state.contacts action := by
  have initially : Grounded ∅ (System.start config localPeer now).state.contacts := by
    refine ⟨fun connection => ?_, fun peer ip noted => ?_, fun peer address noted => ?_⟩
    · rw [AList.lookup_empty]
      exact AList.lookup_empty connection
    · cases (AList.lookup_empty peer).symm.trans noted
    · cases (AList.lookup_empty peer).symm.trans noted
  have watched (before : List Action) :
      before.foldl System.watch (System.start config localPeer now, ∅) =
        (System.after config localPeer now before, Links.along before) :=
    System.foldl_watch before _ _
  have exactly := @Runs.all_states_iff_all_steps _ _ System.watch
    (System.start config localPeer now, ∅)
    (fun watched => Grounded watched.2 watched.1.state.contacts)
    (fun watched => Spares watched.2 watched.1.state.contacts) actions initially
  simp only [watched] at exactly
  apply exactly
  intro before action inside grounded
  have step : Links.along (before ++ [action]) = Links.step (Links.along before) action := by
    rw [Links.along, List.foldl_append]
    rfl
  rw [step, System.after_append_singleton]
  exact System.grounded_step_iff (honest before action inside) grounded

/-- Where the remote node is reached. -/
def Sample.direct : Multiaddr := [.ip4 ⟨[192, 0, 2, 7], rfl⟩, .other "/tcp/4001"]

/-- The remote node through a relay. -/
def Sample.relayedAddress : Multiaddr :=
  [.ip4 ⟨[192, 0, 2, 9], rfl⟩, .other "/tcp/4001", .p2pCircuit]

def Sample.opens (connection : ConnectionId) (numEstablished : Nat) (endpoint : ConnectedPoint) :
    Action :=
  .handle Sample.env (.swarm
    (.connectionEstablished Sample.remotePeer connection numEstablished endpoint))

def Sample.closes (connection : ConnectionId) (numEstablished : Nat) : Action :=
  .handle Sample.env (.swarm (.connectionClosed Sample.remotePeer connection numEstablished))

/-- A peer is dialed twice on the same address, and the first connection closes. -/
def Sample.dialedTwice : List Action :=
  [Sample.opens 1 1 (.dialer Sample.direct), Sample.opens 2 2 (.dialer Sample.direct),
    Sample.closes 1 1]

theorem contacts_grounded_iff_dialed :
    Grounded (Links.along Sample.dialedTwice)
        (System.after Sample.config Sample.peer 0 Sample.dialedTwice).state.contacts ∧
      (System.after Sample.config Sample.peer 0
        Sample.dialedTwice).state.contacts.peerIps.lookup Sample.remotePeer =
          some (.v4 ⟨[192, 0, 2, 7], rfl⟩) ∧
      (System.after Sample.config Sample.peer 0
        Sample.dialedTwice).state.contacts.dialed.lookup Sample.remotePeer =
          some Sample.direct := by
  have honest : Runs.Admissible Links.step ∅ Links.Reports Sample.dialedTwice := by
    simp only [Sample.dialedTwice, Runs.admissible_cons, Runs.admissible_nil, and_true]
    refine ⟨⟨rfl, ?_⟩, ⟨rfl, ?_⟩, ⟨_, rfl⟩, ?_⟩ <;> decide +kernel
  have spared : Runs.Admissible System.watch (System.start Sample.config Sample.peer 0, ∅)
      (fun watched => Spares watched.2 watched.1.state.contacts) Sample.dialedTwice := by
    simp only [Sample.dialedTwice, Runs.admissible_cons, Runs.admissible_nil, and_true]
    -- The second connection shows what is remembered of the first.
    refine ⟨trivial, trivial, .inr ⟨?_, ?_⟩⟩
    · intro ip noted
      exact ⟨2, .dialer Sample.direct, by decide, rfl, noted⟩
    · intro address noted
      exact ⟨2, .dialer Sample.direct, by decide, rfl, noted⟩
  refine ⟨(contacts_grounded_iff honest).mpr ?_ _ (List.prefix_refl _), rfl, rfl⟩
  intro before action inside
  have spares := spared before action inside
  rw [System.foldl_watch] at spares
  exact spares

/-- A direct connection is followed by one through a relay, and closes first. -/
def Sample.relayedAfter : List Action :=
  [Sample.opens 1 1 (.dialer Sample.direct), Sample.opens 2 2 (.listener Sample.relayedAddress),
    Sample.closes 1 1]

/-- A peer whose only connection goes through a relay is still known under an IP. -/
theorem relayed_peer_keeps_ip :
    Runs.Admissible Links.step ∅ Links.Reports Sample.relayedAfter ∧
      System.Run Sample.crates Sample.config Sample.peer 0 Sample.relayedAfter ∧
      ¬ ∀ before, before <+: Sample.relayedAfter → Grounded (Links.along before)
        (System.after Sample.config Sample.peer 0 before).state.contacts := by
  refine ⟨?_, ?_, fun always => ?_⟩
  · simp only [Sample.relayedAfter, Runs.admissible_cons, Runs.admissible_nil, and_true]
    refine ⟨⟨rfl, ?_⟩, ⟨rfl, ?_⟩, ⟨_, rfl⟩, ?_⟩ <;> decide +kernel
  · simp only [System.Run, Sample.relayedAfter, Runs.admissible_cons, Runs.admissible_nil, and_true]
    exact ⟨⟨rfl, trivial⟩, ⟨rfl, trivial⟩, rfl, trivial⟩
  · have noted : (System.after Sample.config Sample.peer 0
        Sample.relayedAfter).state.contacts.peerIps.lookup Sample.remotePeer =
          some (.v4 ⟨[192, 0, 2, 7], rfl⟩) := by decide +kernel
    obtain ⟨connection, endpoint, found, shown⟩ :=
      (always _ (List.prefix_refl _)).peerIps _ _ noted
    have left : Links.along Sample.relayedAfter =
        (AList.insert (2 : ConnectionId)
          (Sample.remotePeer, ConnectedPoint.listener Sample.relayedAddress) ∅ : Links) := rfl
    rw [left, Table.lookup_insert_if] at found
    split at found
    · obtain ⟨-, rfl⟩ := Prod.mk.inj (Option.some.inj found)
      cases shown
    · rw [AList.lookup_empty] at found
      cases found

end Libp2pFfi
