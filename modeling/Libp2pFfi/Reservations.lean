import Libp2pFfi.PollBuffer
import Libp2pFfi.Relays

/-!
# Reservations

How many reservations there are, on which relays, and when there are none. The
bounds hold in every state, and after every tick a private node has as many
reservations as it may have or nobody left to ask.

A node that needs relays should not be one. The relay server is decided once,
from the configuration, while AutoNAT may find the node private at any time
later; the two agree unless it does.
-/

namespace Libp2pFfi

/-! What holds of the relays in every state. -/

structure RelaysKept (network : NetworkPart) : Prop where
  few : network.reservations.len ≤ maxReservations
  needed : ∀ relay listener, network.reservations.lookup relay = some listener →
    network.reachability = .privateNode ∧ network.relayClient = true
  reserved : ∀ relay listener, network.reservations.lookup relay = some listener →
    (network.relayCandidates.lookup relay).isSome = true
  failed : ∀ relay time, network.relayFailed.lookup relay = some time →
    (network.relayCandidates.lookup relay).isSome = true
  fewCandidates : network.relayCandidates.len ≤ maxRelayCandidates
  direct : ∀ relay address, network.relayCandidates.lookup relay = some address →
    isRelayed address = false
  dialed : ∀ peer address, network.dialed.lookup peer = some address → isRelayed address = false

/-- Nobody but a private node holds reservations. -/
theorem RelaysKept.unreserved {network : NetworkPart} (kept : RelaysKept network)
    (isPublic : network.reachability ≠ .privateNode) (relay : PeerId) :
    network.reservations.lookup relay = none := by
  cases held : network.reservations.lookup relay with
  | none => rfl
  | some listener => exact absurd (kept.needed relay listener held).1 isPublic

/-- What the node listens on and announces is another matter. -/
theorem RelaysKept.addresses {network : NetworkPart} (kept : RelaysKept network)
    (listening externalAddresses : Finset Multiaddr) :
    RelaysKept { network with listening, externalAddresses } :=
  ⟨kept.few, kept.needed, kept.reserved, kept.failed, kept.fewCandidates, kept.direct, kept.dialed⟩

namespace State

/-- A relay that is asked becomes reserved or failed, and it is a candidate. -/
theorem Asks.kept {env : Env} {state after : State} {relay : PeerId}
    (asks : Asks env state relay after) (kept : RelaysKept state.networkPart)
    (isPrivate : state.reachability = .privateNode) (isClient : state.relayClient = true)
    (isCandidate : (state.relayCandidates.lookup relay).isSome = true) :
    RelaysKept after.networkPart := by
  cases asks with
  | full => exact kept
  | granted circuit isRelay room =>
    refine ⟨?_, fun _ _ _ => ⟨isPrivate, isClient⟩, ?_, kept.failed, kept.fewCandidates, kept.direct,
      kept.dialed⟩
    · have grown := Table.len_insert state.reservations relay state.swarm.nextListener
      refine grown.trans_le ?_
      split <;> omega
    · intro other listener held
      have held : (state.reservations.insert relay state.swarm.nextListener).lookup other =
          some listener := held
      rw [Table.lookup_insert_if] at held
      split at held
      · rename_i same
        exact same ▸ isCandidate
      · exact kept.reserved other listener held
  | refused circuit isRelay room =>
    refine ⟨kept.few, kept.needed, kept.reserved, ?_, kept.fewCandidates, kept.direct, kept.dialed⟩
    intro other time lost
    have lost : (state.relayFailed.insert relay env.now).lookup other = some time := lost
    rw [Table.lookup_insert_if] at lost
    split at lost
    · rename_i same
      exact same ▸ isCandidate
    · exact kept.failed other time lost

/-- A question changes neither what the node is nor whom it knows. -/
theorem Asks.same {env : Env} {state after : State} {relay : PeerId}
    (asks : Asks env state relay after) :
    after.reachability = state.reachability ∧ after.relayClient = state.relayClient ∧
      after.relayCandidates = state.relayCandidates := by
  cases asks <;> exact ⟨rfl, rfl, rfl⟩

theorem kept_questions (env : Env) (candidates : List (PeerId × Multiaddr)) (state : State)
    (kept : RelaysKept state.networkPart) (isPrivate : state.reachability = .privateNode)
    (isClient : state.relayClient = true)
    (known : ∀ candidate ∈ candidates, (state.relayCandidates.lookup candidate.1).isSome = true) :
    RelaysKept (candidates.foldl (reserveOn env) state).networkPart := by
  induction candidates generalizing state with
  | nil => exact kept
  | cons candidate rest inductionHypothesis =>
    have asks := asks_reserveOn env state candidate
    obtain ⟨reachability, relayClient, relayCandidates⟩ := asks.same
    apply inductionHypothesis
    · exact asks.kept kept isPrivate isClient (known candidate List.mem_cons_self)
    · rw [reachability, isPrivate]
    · rw [relayClient, isClient]
    · intro other member
      rw [relayCandidates]
      exact known other (List.mem_cons_of_mem _ member)

theorem kept_reserve (env : Env) (state : State) (kept : RelaysKept state.networkPart) :
    RelaysKept (state.reserve env).networkPart := by
  rw [reserve_eq]
  split
  · exact kept
  · rename_i allowed
    simp only [Bool.or_eq_true, Bool.not_eq_true', decide_eq_true_eq, not_or,
      Bool.not_eq_false] at allowed
    obtain ⟨⟨isPrivate, isClient⟩, -⟩ := allowed
    apply kept_questions env _ state kept (beq_iff_eq.mp isPrivate) isClient
    intro candidate member
    rw [(mem_askable.mp member).1]
    rfl

theorem kept_switchReachability (env : Env) (state : State) (next : Reachability)
    (differs : next ≠ state.reachability) (kept : RelaysKept state.networkPart) :
    RelaysKept (state.switchReachability env next).networkPart := by
  unfold switchReachability
  dsimp only
  split
  · rename_i isPrivate
    apply kept_reserve
    have wasPublic : state.networkPart.reachability ≠ .privateNode := by
      rw [isPrivate] at differs
      exact differs.symm
    refine ⟨kept.few, ?_, kept.reserved, kept.failed, kept.fewCandidates, kept.direct, kept.dialed⟩
    intro relay listener held
    cases (kept.unreserved wasPublic relay).symm.trans held
  · split
    · rw [removeListeners_eq]
      refine ⟨Nat.zero_le _, ?_, ?_, kept.failed, kept.fewCandidates, kept.direct, kept.dialed⟩
      · intro relay listener held
        cases held
      · intro relay listener held
        cases held
    · rename_i wasPublic
      refine ⟨kept.few, ?_, kept.reserved, kept.failed, kept.fewCandidates, kept.direct, kept.dialed⟩
      intro relay listener held
      cases (kept.unreserved (fun isPrivate => wasPublic (beq_iff_eq.mpr isPrivate)) relay).symm.trans
        held

theorem kept_natStatus (env : Env) (state : State) (status : NatStatus)
    (kept : RelaysKept state.networkPart) : RelaysKept (state.natStatus env status).networkPart := by
  have turned (next : Reachability) : RelaysKept (natStatus.turnTo env state next).networkPart := by
    unfold natStatus.turnTo
    split
    · exact kept
    · rename_i differs
      exact kept_switchReachability env state next differs kept
  unfold natStatus
  split
  · exact kept
  · split
    · exact kept
    · exact turned _
    · exact turned _

theorem kept_relayLost (env : Env) (state : State) (listener : ListenerId)
    (kept : RelaysKept state.networkPart) :
    RelaysKept (state.relayLost env listener).networkPart := by
  have each (relays : List PeerId) (state : State) (kept : RelaysKept state.networkPart)
      (known : ∀ relay ∈ relays, (state.relayCandidates.lookup relay).isSome = true) :
      RelaysKept (relays.foldl
        (fun state peer =>
          { state with
            reservations := state.reservations.erase peer
            relayFailed := state.relayFailed.insert peer env.now })
        state).networkPart := by
    induction relays generalizing state with
    | nil => exact kept
    | cons relay rest inductionHypothesis =>
      apply inductionHypothesis
      · have fewer (other : PeerId) (found : ListenerId)
            (held : (state.reservations.erase relay).lookup other = some found) :
            state.reservations.lookup other = some found := by
          rw [Table.lookup_erase_if] at held
          split at held
          · cases held
          · exact held
        refine ⟨(Table.len_erase_le _ _).trans kept.few,
          fun other found held => kept.needed other found (fewer other found held),
          fun other found held => kept.reserved other found (fewer other found held), ?_,
          kept.fewCandidates, kept.direct, kept.dialed⟩
        intro other time lost
        have lost : (state.relayFailed.insert relay env.now).lookup other = some time := lost
        rw [Table.lookup_insert_if] at lost
        split at lost
        · rename_i same
          exact same ▸ known relay List.mem_cons_self
        · exact kept.failed other time lost
      · exact fun other member => known other (List.mem_cons_of_mem _ member)
  apply each _ state kept
  intro relay member
  obtain ⟨⟨other, found⟩, inTable, rfl⟩ := List.mem_map.mp ((env.order_perm _).mem_iff.mp member)
  exact kept.reserved other found (Table.mem_toList.mp (List.mem_of_mem_filter inTable))

theorem kept_offerRelay (state : State) (peer : PeerId) (info : IdentifyInfo)
    (kept : RelaysKept state.networkPart) :
    RelaysKept (state.offerRelay peer info).networkPart := by
  unfold offerRelay
  split
  · rename_i offered
    split
    · rename_i address chosen
      have isDirect : isRelayed address = false := by
        rcases Option.or_eq_some_iff.mp chosen with wasDialed | ⟨-, listens⟩
        · exact kept.dialed peer address wasDialed
        · have suits := List.find?_some listens
          simp only [Bool.and_eq_true, Bool.not_eq_true'] at suits
          exact suits.1
      have lookup (relay : PeerId) :
          (state.relayCandidates.insert peer address).lookup relay =
            if relay = peer then some address else state.relayCandidates.lookup relay :=
        Table.lookup_insert_if _ _ _ _
      have more (relay : PeerId) (known : (state.relayCandidates.lookup relay).isSome = true) :
          ((state.relayCandidates.insert peer address).lookup relay).isSome = true := by
        rw [lookup]
        split
        · rfl
        · exact known
      refine ⟨kept.few, kept.needed, fun relay listener held => more relay (kept.reserved relay _ held),
        fun relay time lost => more relay (kept.failed relay _ lost), ?_, ?_, kept.dialed⟩
      · refine (Table.len_insert state.relayCandidates peer address).trans_le ?_
        have room := offered.2
        split <;> omega
      · intro relay found member
        have member : (state.relayCandidates.insert peer address).lookup relay = some found := member
        rw [lookup] at member
        split at member
        · exact Option.some.inj member ▸ isDirect
        · exact kept.direct relay found member
    · exact kept
  · exact kept

theorem kept_identified (env : Env) (state : State) (peer : PeerId) (info : IdentifyInfo)
    (kept : RelaysKept state.networkPart) :
    RelaysKept (state.identified env peer info).networkPart := by
  have offered : RelaysKept
      ((state.offerRelay peer info).addAddresses peer info.listenAddrs).networkPart :=
    kept_offerRelay state peer info kept
  unfold identified
  dsimp only
  apply kept_reserve
  split
  · rw [Runs.unchanged _ _ networkPart]
    · exact offered
    · exact fun _ _ => rfl
  · exact offered

theorem kept_connectionEstablished (env : Env) (state : State) (peer : PeerId)
    (connection : ConnectionId) (numEstablished : Nat) (endpoint : ConnectedPoint)
    (kept : RelaysKept state.networkPart) :
    RelaysKept (state.connectionEstablished env peer connection numEstablished
      endpoint).networkPart := by
  have dialed : (state.connectionEstablished env peer connection numEstablished
      endpoint).networkPart =
      { state.networkPart with
        dialed :=
          if endpoint.isDialer && !isRelayed endpoint.remoteAddress then
            state.dialed.insert peer endpoint.remoteAddress
          else state.dialed } := by
    unfold connectionEstablished
    dsimp only
    by_cases dials : (endpoint.isDialer && !isRelayed endpoint.remoteAddress) = true
    · rw [if_pos dials, if_pos dials]
      split <;> split <;> (try split) <;> rfl
    · rw [if_neg dials, if_neg dials]
      split <;> split <;> (try split) <;> rfl
  rw [dialed]
  refine ⟨kept.few, kept.needed, kept.reserved, kept.failed, kept.fewCandidates, kept.direct, ?_⟩
  intro other address found
  dsimp only at found
  split at found
  · rename_i dials
    rw [Table.lookup_insert_if] at found
    split at found
    · cases found
      rw [Bool.and_eq_true, Bool.not_eq_true'] at dials
      exact dials.2
    · exact kept.dialed other address found
  · exact kept.dialed other address found

theorem kept_connectionClosed (env : Env) (state : State) (peer : PeerId)
    (connection : ConnectionId) (numEstablished : Nat) (kept : RelaysKept state.networkPart) :
    RelaysKept (state.connectionClosed env peer connection numEstablished).networkPart := by
  unfold connectionClosed
  dsimp only
  split
  · refine ⟨kept.few, kept.needed, kept.reserved, kept.failed, kept.fewCandidates, kept.direct, ?_⟩
    intro other address found
    have found : (state.dialed.erase peer).lookup other = some address := found
    rw [Table.lookup_erase_if] at found
    split at found
    · cases found
    · exact kept.dialed other address found
  · exact kept

theorem kept_newListenAddr (env : Env) (state : State) (address : Multiaddr)
    (kept : RelaysKept state.networkPart) :
    RelaysKept (state.newListenAddr env address).networkPart := by
  have noted : RelaysKept (state.noteListenAddr env address).networkPart := by
    unfold noteListenAddr
    split
    · exact kept.addresses _ _
    · split
      · exact kept.addresses _ _
      · exact kept
  unfold newListenAddr
  dsimp only
  split
  · exact noted.addresses _ _
  · exact noted

theorem kept_tick (env : Env) (state : State) (kept : RelaysKept state.networkPart) :
    RelaysKept (state.tick env).networkPart := by
  obtain ⟨late, before, after⟩ := tick_around env state
  rw [after.network (by simp)]
  apply kept_reserve
  rwa [before.network (by simp)]

theorem kept_handle (env : Env) (state : State) (input : Input)
    (kept : RelaysKept state.networkPart) : RelaysKept (state.handle env input).networkPart := by
  have aside (elsewhere : .network ∉ input.parts) :
      RelaysKept (state.handle env input).networkPart := by
    rw [(confined_handle env state input).network elsewhere]
    exact kept
  cases input with
  | command command => exact aside (by cases command <;> simp [Input.parts, Command.parts])
  | tick => exact kept_tick env _ kept
  | swarm event =>
    cases event with
    | newListenAddr listener address => exact kept_newListenAddr env _ address kept
    | expiredListenAddr => exact kept.addresses _ _
    | listenerClosed listener => exact kept_relayLost env _ listener kept
    | listenerError listener => exact kept_relayLost env _ listener kept
    | connectionEstablished peer connection numEstablished endpoint =>
      exact kept_connectionEstablished env _ peer connection numEstablished endpoint kept
    | connectionClosed peer connection numEstablished =>
      exact kept_connectionClosed env _ peer connection numEstablished kept
    | identified peer info => exact kept_identified env _ peer info kept
    | autonat status => exact kept_natStatus env _ status kept
    | kad event => exact aside (by cases event <;> simp [Input.parts, SwarmEvent.parts])
    | rpc event => exact aside (by cases event <;> simp [Input.parts, SwarmEvent.parts])
    | gossipsub => exact aside (by simp [Input.parts, SwarmEvent.parts])
    | dcutr => exact aside (by simp [Input.parts, SwarmEvent.parts])
    | other => exact aside (by simp [Input.parts, SwarmEvent.parts])

/-! Nobody left to ask. -/

/-- A private node has all the reservations it wants, or every relay it knows is
reserved or waits for its next turn. -/
def Saturated (now : Instant) (state : State) : Prop :=
  maxReservations ≤ state.reservations.len ∨
    ∀ relay address, state.relayCandidates.lookup relay = some address →
      (state.reservations.lookup relay).isSome = true ∨
        ∃ time, state.relayFailed.lookup relay = some time ∧ now - time < relayRetry

theorem not_free_iff {state : State} {relay : PeerId} {now : Instant} :
    ¬ state.book.Free relay now ↔
      (state.reservations.lookup relay).isSome = true ∨
        ∃ time, state.relayFailed.lookup relay = some time ∧ now - time < relayRetry := by
  have held : state.book.held relay = state.reservations.lookup relay := rfl
  have failed : state.book.failed relay = state.relayFailed.lookup relay := rfl
  rw [RelayBook.Free, not_and_or, held, failed, ← Option.ne_none_iff_isSome]
  push Not
  rfl

/-- A relay that was asked cannot be asked again at once. -/
theorem Asks.asked {env : Env} {state after : State} {relay : PeerId}
    (asks : Asks env state relay after) :
    maxReservations ≤ state.reservations.len ∨ ¬ after.book.Free relay env.now := by
  cases asks with
  | full enough => exact .inl enough
  | granted =>
    refine .inr (not_free_iff.mpr (.inl ?_))
    simp [did]
  | refused =>
    refine .inr (not_free_iff.mpr (.inr ⟨env.now, ?_, ?_⟩))
    · simp [did]
    · rw [Nat.sub_self]
      decide

/-- Who could not be asked before a question cannot be asked after it. -/
theorem Asks.still {env : Env} {state after : State} {relay other : PeerId}
    (asks : Asks env state relay after) (taken : ¬ state.book.Free other env.now) :
    ¬ after.book.Free other env.now := by
  by_cases same : other = relay
  · subst same
    cases asks with
    | full => exact taken
    | granted =>
      rw [not_free_iff]
      simp [did]
    | refused =>
      rw [not_free_iff]
      refine .inr ⟨env.now, by simp [did], ?_⟩
      rw [Nat.sub_self]
      decide
  · rwa [asks.others same]

theorem Asks.more {env : Env} {state after : State} {relay : PeerId}
    (asks : Asks env state relay after) : state.reservations.len ≤ after.reservations.len := by
  cases asks with
  | full => exact le_refl _
  | granted =>
    refine le_trans ?_ (Table.len_insert state.reservations relay state.swarm.nextListener).ge
    exact Nat.le_add_right _ _
  | refused => exact le_refl _

/-- After the loop there are enough reservations, or none of them can be asked
again. -/
theorem questions_asked (env : Env) (candidates : List (PeerId × Multiaddr)) (state : State) :
    state.reservations.len ≤ (candidates.foldl (reserveOn env) state).reservations.len ∧
      (∀ relay, ¬ state.book.Free relay env.now →
        ¬ (candidates.foldl (reserveOn env) state).book.Free relay env.now) ∧
      (maxReservations ≤ (candidates.foldl (reserveOn env) state).reservations.len ∨
        ∀ candidate ∈ candidates,
          ¬ (candidates.foldl (reserveOn env) state).book.Free candidate.1 env.now) := by
  induction candidates generalizing state with
  | nil => exact ⟨le_refl _, fun _ => id, .inr (by simp)⟩
  | cons candidate rest inductionHypothesis =>
    have asks := asks_reserveOn env state candidate
    obtain ⟨more, still, outcome⟩ := inductionHypothesis (state.reserveOn env candidate)
    refine ⟨asks.more.trans more, fun relay taken => still relay (asks.still taken), ?_⟩
    rcases outcome with enough | asked
    · exact .inl enough
    · rcases asks.asked with full | taken
      · exact .inl (full.trans (asks.more.trans more))
      · refine .inr fun other member => ?_
        rcases List.mem_cons.mp member with rfl | later
        · exact still _ taken
        · exact asked other later

theorem saturated_reserve (env : Env) (state : State) (isPrivate : state.isPrivate = true)
    (isClient : state.relayClient = true) : Saturated env.now (state.reserve env) := by
  by_cases full : maxReservations ≤ state.reservations.len
  · rw [reserve_eq, if_pos (by simp [full])]
    exact .inl full
  · rw [reserve_eq, if_neg (by simp [isPrivate, isClient, full])]
    obtain ⟨-, still, asked⟩ := questions_asked env (state.askable env) state
    rcases asked with enough | asked
    · exact .inl enough
    · right
      intro relay address known
      rw [← not_free_iff]
      have same : ((state.askable env).foldl (reserveOn env) state).relayCandidates =
          state.relayCandidates :=
        Runs.unchanged _ state State.relayCandidates
          (fun state candidate => (asks_reserveOn env state candidate).same.2.2) _
      rw [same] at known
      by_cases free : state.book.Free relay env.now
      · exact asked (relay, address) (mem_askable.mpr ⟨known, free⟩)
      · exact still relay free

theorem saturated_of_network {now : Instant} {before after : State}
    (same : after.networkPart = before.networkPart) (saturated : Saturated now before) :
    Saturated now after := by
  obtain ⟨-, -, -, -, -, -, relayCandidates, reservations, relayFailed, -, -⟩ :=
    NetworkPart.mk.inj same
  unfold Saturated
  rw [relayCandidates, reservations, relayFailed]
  exact saturated

/-- Right after a tick there is nobody left to ask. -/
theorem saturated_tick (env : Env) (state : State) (isPrivate : state.isPrivate = true)
    (isClient : state.relayClient = true) : Saturated env.now (state.tick env) := by
  obtain ⟨late, before, after⟩ := tick_around env state
  obtain ⟨-, reachability, -, -, -, relayClient, -⟩ := NetworkPart.mk.inj (before.network (by simp))
  apply saturated_of_network (after.network (by simp))
  apply saturated_reserve
  · rw [State.isPrivate, reachability]
    exact isPrivate
  · rw [relayClient, isClient]

end State

namespace System

/-- The events an observer sees during one action. -/
def relayEvents (system : System) : Action → List RelayEvent
  | .handle env input => (system.state.deliver input).relayEvents env input
  | _ => []

/-- The events of a run. -/
def relayTrace (system : System) (actions : List Action) : List RelayEvent :=
  Runs.trace step relayEvents system actions

/-- The node's tables are the observer's book. -/
theorem book_step (system : System) (action : Action) :
    (system.step action).state.book =
        (system.relayEvents action).foldl RelayBook.note system.state.book ∧
      Runs.Admissible RelayBook.note system.state.book RelayBook.Permits
        (system.relayEvents action) := by
  cases action with
  | handle env input =>
    have delivered : (system.state.deliver input).book = system.state.book := by
      unfold State.deliver
      split <;> rfl
    obtain ⟨book, permitted⟩ := State.observed_handle env (system.state.deliver input) input
    rw [delivered] at book permitted
    exact ⟨book, permitted⟩
  | ready env =>
    refine ⟨?_, Runs.admissible_nil _ _ _⟩
    exact congrArg NetworkPart.book
      ((State.confined_provide env (system.state.emit _)).network (by simp))
  | draw => exact ⟨rfl, Runs.admissible_nil _ _ _⟩
  | poll => exact ⟨rfl, Runs.admissible_nil _ _ _⟩
  | internalQuery => exact ⟨rfl, Runs.admissible_nil _ _ _⟩
  | learn => exact ⟨rfl, Runs.admissible_nil _ _ _⟩

theorem book_run (system : System) (actions : List Action) :
    (actions.foldl step system).state.book =
        (system.relayTrace actions).foldl RelayBook.note system.state.book ∧
      Runs.Admissible RelayBook.note system.state.book RelayBook.Permits
        (system.relayTrace actions) := by
  induction actions generalizing system with
  | nil => exact ⟨rfl, Runs.admissible_nil _ _ _⟩
  | cons action rest inductionHypothesis =>
    obtain ⟨book, permitted⟩ := book_step system action
    obtain ⟨laterBook, laterPermitted⟩ := inductionHypothesis (system.step action)
    rw [relayTrace, Runs.trace, List.foldl_append, Runs.admissible_append, ← book]
    exact ⟨laterBook, permitted, laterPermitted⟩

theorem kept_step (system : System) (action : Action) (kept : RelaysKept system.state.networkPart) :
    RelaysKept (system.step action).state.networkPart := by
  cases action with
  | handle env input =>
    apply State.kept_handle
    have delivered : (system.state.deliver input).networkPart = system.state.networkPart := by
      unfold State.deliver
      split <;> rfl
    rwa [delivered]
  | ready env =>
    have same : (system.state.ready env).networkPart = system.state.networkPart :=
      (State.confined_provide env (system.state.emit _)).network (by simp)
    exact same ▸ kept
  | draw => exact kept
  | poll => exact kept
  | internalQuery => exact kept
  | learn => exact kept

theorem kept_after (config : Config) (localPeer : PeerId) (now : Instant) (actions : List Action) :
    RelaysKept (after config localPeer now actions).state.networkPart := by
  induction actions using List.reverseRecOn with
  | nil =>
    refine ⟨Nat.zero_le _, ?_, ?_, ?_, Nat.zero_le _, ?_, ?_⟩
    all_goals
      intro key value found
      cases found
  | append_singleton actions action inductionHypothesis =>
    unfold after at inductionHypothesis ⊢
    rw [List.foldl_append]
    exact kept_step _ action inductionHypothesis

end System

/-- The reservations of every run. They are few, there are none unless the node
is private and may use relays, and they are on relays it knows; every relay was
asked only while it was not reserved and long enough after its last refused or
lost reservation; and after a tick of a private node nobody is left to ask. -/
theorem reservations_in_order (config : Config) (localPeer : PeerId) (now : Instant)
    (actions : List Action) :
    let system := System.after config localPeer now actions
    let trace := (System.start config localPeer now).relayTrace actions
    RelaysKept system.state.networkPart ∧
      Runs.Admissible RelayBook.note {} RelayBook.Permits trace ∧
      (∀ relay,
        system.state.reservations.lookup relay = (trace.foldl RelayBook.note {}).held relay ∧
          system.state.relayFailed.lookup relay = (trace.foldl RelayBook.note {}).failed relay) ∧
      ∀ env, system.state.isPrivate = true → system.state.relayClient = true →
        State.Saturated env.now (system.step (.handle env .tick)).state := by
  intro system trace
  obtain ⟨book, permitted⟩ := System.book_run (System.start config localPeer now) actions
  refine ⟨System.kept_after config localPeer now actions, permitted, fun relay => ?_, ?_⟩
  · exact ⟨congrArg (fun book => book.held relay) book, congrArg (fun book => book.failed relay) book⟩
  · exact fun env isPrivate isClient => State.saturated_tick env _ isPrivate isClient

/-! Relaying for others. -/

/-- Whether `make_behaviour` enables the relay server, which offers the hop
protocol. The toggle is set when the behaviours are built, and no handler has
access to it. -/
def relayServer (config : Config) : Bool :=
  config.relay.server && config.reachability != .privateNode

/-- AutoNAT finds that the node cannot be dialed. -/
def Action.findsPrivate : Action → Bool
  | .handle _ (.swarm (.autonat .privateNode)) => true
  | _ => false

/-- It takes that verdict to make an undecided node private. -/
theorem Standing.public_step_iff {standing : Standing} (undecided : standing.configured = .unknown)
    (isPublic : standing.reachability ≠ .privateNode) (action : Action) :
    (standing.step action).reachability ≠ .privateNode ↔ action.findsPrivate = false := by
  cases action with
  | handle env input =>
    cases input with
    | swarm event =>
      cases event with
      | newListenAddr listener address =>
        refine iff_of_true ?_ rfl
        have same : (standing.appeared address).reachability = standing.reachability := by
          unfold appeared
          split
          · rfl
          · split <;> rfl
        exact same.trans_ne isPublic
      | autonat status =>
        have judged : (standing.step (.handle env (.swarm (.autonat status)))) =
            standing.verdict status := rfl
        rw [judged]
        unfold verdict
        rw [if_neg (not_not.mpr undecided)]
        cases status with
        | unknown => exact iff_of_true isPublic rfl
        | publicAt address =>
          refine iff_of_true ?_ rfl
          rw [reachability_turnTo]
          decide
        | privateNode =>
          refine iff_of_false ?_ (by simp [Action.findsPrivate])
          rw [reachability_turnTo]
          exact not_not.mpr rfl
      | _ => exact iff_of_true isPublic rfl
    | _ => exact iff_of_true isPublic rfl
  | _ => exact iff_of_true isPublic rfl

/-- A run of an undecided node in which it is never private. -/
theorem never_private_iff {config : Config} (undecided : config.reachability = .unknown)
    (localPeer : PeerId) (now : Instant) (actions : List Action) :
    (∀ before, before <+: actions →
        (System.after config localPeer now before).state.isPrivate = false) ↔
      ∀ before action, before ++ [action] <+: actions → action.findsPrivate = false := by
  refine @Runs.all_states_iff_all_steps _ _ System.step (System.start config localPeer now)
    (fun system => system.state.isPrivate = false) (fun _ action => action.findsPrivate = false)
    actions ?_ ?_
  · rw [State.isPrivate_eq_false]
    exact undecided.trans_ne (by decide)
  · intro before action _ isPublic
    rw [List.foldl_append, List.foldl_cons, List.foldl_nil, State.isPrivate_eq_false,
      System.standing_step]
    rw [State.isPrivate_eq_false] at isPublic
    refine Standing.public_step_iff ?_ isPublic action
    exact (System.configured_after config localPeer now before).trans undecided

/-- A node never relays for others while it needs relays itself, throughout a
run, if and only if its relay server is switched off, or it was not left to
AutoNAT to decide, or AutoNAT never finds it private. -/
theorem relays_for_nobody_iff (config : Config) (localPeer : PeerId) (now : Instant)
    (actions : List Action) :
    (∀ before, before <+: actions →
        ¬ ((System.after config localPeer now before).state.isPrivate = true ∧
          relayServer config = true)) ↔
      config.relay.server = false ∨ config.reachability ≠ .unknown ∨
        ∀ action ∈ actions, action.findsPrivate = false := by
  by_cases server : config.relay.server = false
  · exact iff_of_true (fun _ _ both => by simp [relayServer, server] at both) (.inl server)
  · by_cases undecided : config.reachability = .unknown
    · have enabled : relayServer config = true := by
        simpa [relayServer, undecided] using server
      have never := never_private_iff undecided localPeer now actions
      constructor
      · intro apart
        right
        right
        intro action member
        obtain ⟨before, inside⟩ := Runs.mem_iff_taken.mp member
        refine never.mp (fun earlier isPrefix => ?_) before action inside
        exact Bool.eq_false_iff.mpr fun isPrivate => apart earlier isPrefix ⟨isPrivate, enabled⟩
      · rintro (isOff | isDecided | unfound) before inside ⟨isPrivate, -⟩
        · exact server isOff
        · exact isDecided undecided
        · have isPublic := never.mpr (fun earlier action taken =>
            unfound action (Runs.mem_iff_taken.mpr ⟨earlier, taken⟩)) before inside
          rw [isPrivate] at isPublic
          cases isPublic
    · refine iff_of_true ?_ (.inr (.inl undecided))
      rintro before - ⟨isPrivate, enabled⟩
      have decided := System.reachability_after undecided localPeer now before
      simp [relayServer, ← decided, beq_iff_eq.mp isPrivate] at enabled

/-- Options that leave it to AutoNAT, with the relay server on. -/
def Sample.undecidedOptions : Options := { Sample.tightOptions with reachability := reachUnknown }

/-- The configuration made of them. -/
def Sample.undecidedServer : Config := { Sample.tightConfig with reachability := .unknown }

theorem Sample.undecidedServer_accepted :
    configFrom Sample.crates Sample.undecidedOptions = some Sample.undecidedServer :=
  Sample.options_accepted rfl Sample.echo_fit (by decide) (by decide) (by decide) (by decide)

/-- The node starts, and AutoNAT finds it private. -/
def Sample.foundPrivate : List Action :=
  [.ready Sample.env, .handle Sample.env (.swarm (.autonat .privateNode))]

/-- It acts as private and relays for others. -/
theorem private_node_relays :
    configFrom Sample.crates Sample.undecidedOptions = some Sample.undecidedServer ∧
      System.Run Sample.crates Sample.undecidedServer Sample.peer 0 Sample.foundPrivate ∧
      (System.after Sample.undecidedServer Sample.peer 0 Sample.foundPrivate).state.isPrivate = true ∧
      relayServer Sample.undecidedServer = true := by
  refine ⟨Sample.undecidedServer_accepted, ?_, by decide +kernel, by decide⟩
  simp only [System.Run, Sample.foundPrivate, Runs.admissible_cons, Runs.admissible_nil, and_true]
  exact ⟨⟨rfl, rfl⟩, rfl, trivial⟩

end Libp2pFfi
