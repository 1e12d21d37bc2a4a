import Libp2pFfi.Parts

/-!
# What the node takes itself for, and what it announces

A node announces its listen addresses as long as others can dial it, and only
the addresses of its relays when they cannot. AutoNAT moves a node that was
configured unknown from one to the other and back, in any order with listen
addresses that come and go.

`Standing` is what matters for this, and the abstract machine on it has three
moves: an address appears, an address expires, a verdict arrives. A run of the
node is a run of this machine, whatever else happens in between. A private node
never announces a direct address. The reverse needs care: an address that
expires stays announced, and a relayed address is announced whatever the node
takes itself for, so a public node announces exactly its live addresses only as
long as neither happens.
-/

namespace Libp2pFfi

/-- What decides under which addresses a node is announced. -/
structure Standing where
  configured : Reachability
  reachability : Reachability
  listening : Finset Multiaddr
  listensOnWildcard : Bool
  /-- The external addresses. -/
  announced : Finset Multiaddr

namespace Standing

/-- The live addresses a node announces that others can dial. The loopback
address of a wildcard is of use to nobody. -/
def direct (standing : Standing) : Finset Multiaddr :=
  standing.listening.filter fun address => !(standing.listensOnWildcard && isLoopback address)

/-- A listen address comes up. A relayed one is announced in any role, a direct one by a
public node. -/
def appeared (standing : Standing) (address : Multiaddr) : Standing :=
  if isRelayed address then { standing with announced := insert address standing.announced }
  else if isUnspecified address then standing
  else
    { standing with
      listening := insert address standing.listening
      announced :=
        if standing.reachability = .privateNode ∨
            (standing.listensOnWildcard && isLoopback address) = true then standing.announced
        else insert address standing.announced }

/-- A listen address goes, and stays announced. -/
def expired (standing : Standing) (address : Multiaddr) : Standing :=
  { standing with listening := standing.listening.erase address }

/-- The node changes what it acts as. Private nodes announce relayed addresses only, and
a node that stops being private its direct ones only. -/
def turnTo (standing : Standing) (next : Reachability) : Standing :=
  if next = standing.reachability then standing
  else if next = .privateNode then
    { standing with
      reachability := next
      announced := standing.announced.filter fun address => isRelayed address }
  else if standing.reachability = .privateNode then
    { standing with
      reachability := next
      announced := (standing.announced ∪ standing.direct).filter fun address => !isRelayed address }
  else { standing with reachability := next }

/-- AutoNAT's verdict counts if nothing else was configured. -/
def verdict (standing : Standing) (status : NatStatus) : Standing :=
  if standing.configured ≠ .unknown then standing
  else
    match status with
    | .unknown => standing
    | .publicAt _ => standing.turnTo .publicNode
    | .privateNode => standing.turnTo .privateNode

/-- One input to the event loop, seen from here. -/
def next (standing : Standing) : Input → Standing
  | .swarm (.newListenAddr _ address) => standing.appeared address
  | .swarm (.expiredListenAddr _ address) => standing.expired address
  | .swarm (.autonat status) => standing.verdict status
  | _ => standing

/-- The effect of an action. -/
def step (standing : Standing) : Action → Standing
  | .handle _ input => standing.next input
  | _ => standing

/-- A node starts as what it was configured as, and nothing is announced yet. -/
def start (config : Config) : Standing where
  configured := config.reachability
  reachability := config.reachability
  listening := ∅
  listensOnWildcard := config.listen.any isUnspecified
  announced := ∅

/-! What holds however the events come. -/

/-- What holds whatever the events: the listed addresses are direct, a private node
announces relayed ones, and a configured role is kept. -/
structure Sound (standing : Standing) : Prop where
  listening : ∀ address ∈ standing.listening, isRelayed address = false
  announced : standing.reachability = .privateNode →
    ∀ address ∈ standing.announced, isRelayed address = true
  settled : standing.configured ≠ .unknown → standing.reachability = standing.configured

/-- At the start nothing is announced. -/
theorem sound_start (config : Config) : (start config).Sound :=
  ⟨by simp [start], by simp [start], fun _ => rfl⟩

/-- A new address keeps it. -/
theorem Sound.appeared {standing : Standing} (sound : standing.Sound) (address : Multiaddr) :
    (standing.appeared address).Sound := by
  unfold Standing.appeared
  split
  · rename_i relayed
    refine ⟨sound.listening, ?_, sound.settled⟩
    intro isPrivate other member
    rcases Finset.mem_insert.mp member with rfl | old
    · exact relayed
    · exact sound.announced isPrivate other old
  · rename_i isDirect
    split
    · exact sound
    · refine ⟨?_, ?_, sound.settled⟩
      · intro other member
        rcases Finset.mem_insert.mp member with rfl | old
        · simpa using isDirect
        · exact sound.listening other old
      · intro isPrivate other member
        rw [if_pos (.inl isPrivate)] at member
        exact sound.announced isPrivate other member

/-- So does one that goes. -/
theorem Sound.expired {standing : Standing} (sound : standing.Sound) (address : Multiaddr) :
    (standing.expired address).Sound :=
  ⟨fun other member => sound.listening other (Finset.mem_of_mem_erase member), sound.announced,
    sound.settled⟩

/-- So does a new role, of a node that has none configured. -/
theorem Sound.turnTo {standing : Standing} (sound : standing.Sound) (next : Reachability)
    (undecided : standing.configured = .unknown) : (standing.turnTo next).Sound := by
  unfold Standing.turnTo
  split
  · exact sound
  · split
    · refine ⟨sound.listening, ?_, fun decided => absurd undecided decided⟩
      intro _ address member
      exact (Finset.mem_filter.mp member).2
    · rename_i isPublic
      split
      · exact ⟨sound.listening, fun isPrivate => absurd isPrivate isPublic,
          fun decided => absurd undecided decided⟩
      · exact ⟨sound.listening, fun isPrivate => absurd isPrivate isPublic,
          fun decided => absurd undecided decided⟩

/-- So does a verdict. -/
theorem Sound.verdict {standing : Standing} (sound : standing.Sound) (status : NatStatus) :
    (standing.verdict status).Sound := by
  unfold Standing.verdict
  split
  · exact sound
  · rename_i undecided
    split
    · exact sound
    · exact sound.turnTo _ (not_not.mp undecided)
    · exact sound.turnTo _ (not_not.mp undecided)

/-- So does every action. -/
theorem Sound.step {standing : Standing} (sound : standing.Sound) (action : Action) :
    (standing.step action).Sound := by
  unfold Standing.step
  split
  · unfold Standing.next
    split
    · exact sound.appeared _
    · exact sound.expired _
    · exact sound.verdict _
    · exact sound
  · exact sound

/-- It holds after every run. -/
theorem sound_run (config : Config) (actions : List Action) :
    (actions.foldl step (start config)).Sound := by
  induction actions using List.reverseRecOn with
  | nil => exact sound_start config
  | append_singleton actions action inductionHypothesis =>
    rw [List.foldl_append]
    exact inductionHypothesis.step action

/-- Configuration is for good. -/
theorem configured_step (standing : Standing) (action : Action) :
    (standing.step action).configured = standing.configured := by
  unfold step next
  split
  · split
    · unfold appeared
      split
      · rfl
      · split <;> rfl
    · rfl
    · unfold verdict turnTo
      split
      · rfl
      · split
        · rfl
        all_goals
          split
          · rfl
          · split
            · rfl
            · split <;> rfl
    · rfl
  · rfl

/-- What was configured is what is remembered as configured. -/
theorem configured_run (config : Config) (actions : List Action) :
    (actions.foldl step (start config)).configured = config.reachability := by
  induction actions using List.reverseRecOn with
  | nil => rfl
  | append_singleton actions action inductionHypothesis =>
    rw [List.foldl_append]
    exact (configured_step _ action).trans inductionHypothesis

/-- Turning to something is to be it. -/
theorem reachability_turnTo (standing : Standing) (next : Reachability) :
    (standing.turnTo next).reachability = next := by
  unfold turnTo
  split
  · rename_i same
    exact same.symm
  · split
    · rfl
    · split <;> rfl

/-! When the announced addresses are the live ones. -/

/-- A node that is not private announces exactly its live direct addresses. -/
def Exact (standing : Standing) : Prop :=
  standing.reachability ≠ .privateNode → standing.announced = standing.direct

/-- Whether an action leaves the announced addresses the live ones. -/
def Keeps (standing : Standing) : Action → Prop
  | .handle _ (.swarm (.newListenAddr _ address)) =>
    standing.reachability = .privateNode ∨ isRelayed address = false
  | .handle _ (.swarm (.expiredListenAddr _ address)) =>
    standing.reachability = .privateNode ∨ address ∉ standing.direct
  | _ => True

/-- The direct addresses worth announcing are among those listened on. -/
theorem direct_subset (standing : Standing) : standing.direct ⊆ standing.listening :=
  Finset.filter_subset _ _

/-- A new address keeps the announced addresses exact unless it is relayed. -/
theorem exact_appeared_iff {standing : Standing} (sound : standing.Sound) (exact : standing.Exact)
    (address : Multiaddr) :
    (standing.appeared address).Exact ↔
      standing.reachability = .privateNode ∨ isRelayed address = false := by
  by_cases isPrivate : standing.reachability = .privateNode
  · have still : (standing.appeared address).reachability = .privateNode := by
      unfold appeared
      split
      · exact isPrivate
      · split <;> exact isPrivate
    exact iff_of_true (fun isPublic => absurd still isPublic) (.inl isPrivate)
  · have same := exact isPrivate
    by_cases relayed : isRelayed address = true
    · -- No listen address is relayed, so this one is announced for nothing.
      refine iff_of_false ?_ (by simp [isPrivate, relayed])
      intro exactToo
      have announced := exactToo (by simpa [appeared, relayed] using isPrivate)
      have member : address ∈ standing.direct := by
        have inserted : address ∈ (standing.appeared address).announced := by simp [appeared, relayed]
        rw [announced] at inserted
        simpa [appeared, relayed, direct] using inserted
      have isDirect := sound.listening address (direct_subset standing member)
      rw [relayed] at isDirect
      cases isDirect
    · refine iff_of_true ?_ (.inr (by simpa using relayed))
      intro _
      unfold appeared
      rw [if_neg relayed]
      split
      · exact same
      · by_cases hidden : (standing.listensOnWildcard && isLoopback address) = true
        · rw [if_pos (.inr hidden), direct, Finset.filter_insert, if_neg (by simp [hidden])]
          exact same
        · rw [if_neg (by simp [isPrivate, hidden]), direct, Finset.filter_insert,
            if_pos (by simp [hidden]), same]
          rfl

/-- An address that expires keeps them exact unless it was announced. -/
theorem exact_expired_iff {standing : Standing} (exact : standing.Exact) (address : Multiaddr) :
    (standing.expired address).Exact ↔
      standing.reachability = .privateNode ∨ address ∉ standing.direct := by
  by_cases isPrivate : standing.reachability = .privateNode
  · exact iff_of_true (fun isPublic => absurd isPrivate isPublic) (.inl isPrivate)
  · have same := exact isPrivate
    have erased : (standing.expired address).direct = standing.direct.erase address :=
      Finset.filter_erase _ _ _
    constructor
    · intro exactToo
      have announced : standing.announced = (standing.expired address).direct := exactToo isPrivate
      rw [erased, same] at announced
      exact .inr (Finset.erase_eq_self.mp announced.symm)
    · rintro (isPrivateToo | absent)
      · exact absurd isPrivateToo isPrivate
      · intro _
        rw [erased, Finset.erase_eq_self.mpr absent]
        exact same

/-- A verdict always does: whoever turns public again starts from the live
addresses. -/
theorem Exact.verdict {standing : Standing} (exact : standing.Exact) (sound : standing.Sound)
    (status : NatStatus) : (standing.verdict status).Exact := by
  have turned (next : Reachability) : (standing.turnTo next).Exact := by
    unfold turnTo
    split
    · exact exact
    · split
      · rename_i isPrivate
        exact fun isPublic => absurd isPrivate isPublic
      · split
        · rename_i wasPrivate
          intro _
          have relayed := sound.announced wasPrivate
          ext address
          constructor
          · intro member
            obtain ⟨either, isDirect⟩ := Finset.mem_filter.mp member
            rcases Finset.mem_union.mp either with old | live
            · simp [relayed address old] at isDirect
            · exact live
          · intro live
            have isDirect := sound.listening address (direct_subset standing live)
            exact Finset.mem_filter.mpr ⟨Finset.mem_union_right _ live, by simp [isDirect]⟩
        · rename_i wasPublic
          exact fun _ => exact wasPublic
  unfold Standing.verdict
  split
  · exact exact
  · split
    · exact exact
    · exact turned _
    · exact turned _

/-- One action keeps the announcement exact exactly if it meets the condition. -/
theorem exact_step_iff {standing : Standing} (sound : standing.Sound) (exact : standing.Exact)
    (action : Action) : (standing.step action).Exact ↔ standing.Keeps action := by
  cases action with
  | handle env input =>
    cases input with
    | swarm event =>
      cases event with
      | newListenAddr listener address => exact exact_appeared_iff sound exact address
      | expiredListenAddr listener address => exact exact_expired_iff exact address
      | autonat status => exact iff_of_true (exact.verdict sound status) trivial
      | _ => exact iff_of_true exact trivial
    | _ => exact iff_of_true exact trivial
  | _ => exact iff_of_true exact trivial

end Standing

/-! The node moves as the machine does. -/

namespace State

/-- The standing of a state. -/
def standing (state : State) : Standing where
  configured := state.configured
  reachability := state.reachability
  listening := state.listening
  listensOnWildcard := state.listensOnWildcard
  announced := state.swarm.externalAddresses

/-- A handler that leaves the network alone. -/
theorem standing_of_network {before after : State}
    (same : after.networkPart = before.networkPart) : after.standing = before.standing := by
  obtain ⟨configured, reachability, listening, wildcard, announced, -⟩ := NetworkPart.mk.inj same
  simp only [standing, configured, reachability, listening, wildcard, announced]

/-- A reservation is no address yet. -/
@[simp] theorem standing_reserve (env : Env) (state : State) :
    (state.reserve env).standing = state.standing := by
  have each (state : State) (candidate : PeerId × Multiaddr) :
      (state.reserveOn env candidate).standing = state.standing := by
    unfold reserveOn
    dsimp only
    split
    · rfl
    · split <;> rfl
  unfold reserve
  split
  · rfl
  · exact Runs.unchanged _ state standing each _

/-- A lost relay is forgotten as a reservation. Its address expires by an event of its
own. -/
theorem standing_relayLost (env : Env) (state : State) (listener : ListenerId) :
    (state.relayLost env listener).standing = state.standing := by
  refine Runs.unchanged _ state standing ?_ _
  exact fun _ _ => rfl

/-- What a peer says of itself is about the peer. -/
theorem standing_identified (env : Env) (state : State) (peer : PeerId) (info : IdentifyInfo) :
    (state.identified env peer info).standing = state.standing := by
  have offered : (state.offerRelay peer info).standing = state.standing := by
    unfold offerRelay
    split
    · split <;> rfl
    · rfl
  unfold identified
  dsimp only
  rw [standing_reserve]
  split
  · refine (Runs.unchanged _ _ standing ?_ _).trans offered
    exact fun _ _ => rfl
  · exact offered

/-- A connection that opens is no listen address. -/
theorem standing_connectionEstablished (env : Env) (state : State) (peer : PeerId)
    (connection : ConnectionId) (numEstablished : Nat) (endpoint : ConnectedPoint) :
    (state.connectionEstablished env peer connection numEstablished endpoint).standing =
      state.standing := by
  unfold connectionEstablished
  dsimp only
  split <;> split <;> split <;> (try split) <;> rfl

/-- Nor is one that closes. -/
theorem standing_connectionClosed (env : Env) (state : State) (peer : PeerId)
    (connection : ConnectionId) (numEstablished : Nat) :
    (state.connectionClosed env peer connection numEstablished).standing = state.standing := by
  unfold connectionClosed
  dsimp only
  split <;> rfl

/-- A tick changes no address. -/
theorem standing_tick (env : Env) (state : State) :
    (state.tick env).standing = state.standing := by
  have each (state : State) (id : Nat) : (state.failCall id failTimeout).standing = state.standing :=
    standing_of_network ((confined_failCall state id failTimeout).network (by simp))
  have looked (state : State) (key : Key) : (state.topicLookup env key).standing = state.standing :=
    standing_of_network ((confined_topicLookup env state key).network (by simp))
  have provided (state : State) :
      ((state.sweepLimits env).provideAgain env).standing = state.standing :=
    standing_of_network (((confined_sweepLimits env state).trans
      (confined_provideAgain env _)).network (by simp))
  have announced (state : State) : (state.announce env).standing = state.standing :=
    standing_of_network ((confined_announce env state).network (by simp))
  calc (state.tick env).standing
      = (((((state.expired env).foldl (fun state id => state.failCall id failTimeout) state).reserve
          env).announce env)).standing := (provided _).trans (Runs.unchanged _ _ standing looked _)
    _ = ((state.expired env).foldl (fun state id => state.failCall id failTimeout) state).standing :=
        (announced _).trans (standing_reserve env _)
    _ = state.standing := Runs.unchanged _ state standing each _

/-- The handler of a new address does what `appeared` says. -/
theorem standing_newListenAddr (env : Env) (state : State) (address : Multiaddr) :
    (state.newListenAddr env address).standing = state.standing.appeared address := by
  unfold newListenAddr noteListenAddr Standing.appeared
  by_cases relayed : isRelayed address = true
  · simp only [relayed, if_true, Bool.not_true, Bool.false_and, Bool.false_eq_true, if_false]
    rfl
  · by_cases unspecified : isUnspecified address = true
    · simp [relayed, unspecified]
      rfl
    · by_cases isPrivate : state.reachability = .privateNode
      · simp [relayed, unspecified, isPrivate, standing, State.isPrivate, emit]
      · by_cases hidden : (state.listensOnWildcard && isLoopback address) = true
        · simp [relayed, unspecified, isPrivate, hidden, standing, State.isPrivate, emit]
        · simp [relayed, unspecified, isPrivate, hidden, standing, State.isPrivate, emit,
            addExternalAddress]

/-- That of a new role does what `turnTo` says. -/
theorem standing_switchReachability (env : Env) (state : State) (next : Reachability)
    (differs : next ≠ state.reachability) :
    (state.switchReachability env next).standing = state.standing.turnTo next := by
  have released (items : List (PeerId × ListenerId)) (state : State) :
      (items.foldl (fun state reservation => state.did (.removeListener reservation.2))
        state).standing = state.standing := by
    refine Runs.unchanged _ state standing ?_ items
    exact fun _ _ => rfl
  unfold switchReachability Standing.turnTo
  rw [if_neg (show ¬ next = state.standing.reachability from differs)]
  dsimp only
  split
  · exact standing_reserve env _
  · by_cases wasPrivate : state.reachability = .privateNode
    · rw [if_pos (show state.isPrivate = true from beq_iff_eq.mpr wasPrivate),
        if_pos (show state.standing.reachability = _ from wasPrivate)]
      exact released _ _
    · rw [if_neg (show ¬ state.isPrivate = true from fun isPrivate =>
          wasPrivate (beq_iff_eq.mp isPrivate)),
        if_neg (show ¬ state.standing.reachability = _ from wasPrivate)]
      rfl

/-- That of a verdict does what `verdict` says. -/
theorem standing_natStatus (env : Env) (state : State) (status : NatStatus) :
    (state.natStatus env status).standing = state.standing.verdict status := by
  have turned (next : Reachability) :
      (natStatus.turnTo env state next).standing = state.standing.turnTo next := by
    unfold natStatus.turnTo
    split
    · rename_i same
      exact (if_pos same).symm
    · rename_i differs
      exact standing_switchReachability env state next differs
  unfold natStatus Standing.verdict
  by_cases decided : state.configured ≠ .unknown
  · rw [if_pos decided, if_pos (show state.standing.configured ≠ _ from decided)]
  · rw [if_neg decided, if_neg (show ¬ state.standing.configured ≠ _ from decided)]
    cases status with
    | unknown => rfl
    | publicAt address => exact turned _
    | privateNode => exact turned _

/-- Most inputs do not concern the network at all. -/
theorem standing_aside (env : Env) (state : State) (input : Input)
    (elsewhere : .network ∉ input.parts) :
    (state.handle env input).standing = state.standing :=
  standing_of_network ((confined_handle env state input).network elsewhere)

/-- A round of the event loop is a move of the machine. -/
theorem standing_handle (env : Env) (state : State) (input : Input) :
    (state.handle env input).standing = state.standing.next input := by
  cases input with
  | command command =>
    exact standing_aside env state _ (by cases command <;> simp [Input.parts, Command.parts])
  | tick => exact standing_tick env _
  | swarm event =>
    cases event with
    | newListenAddr listener address => exact standing_newListenAddr env _ address
    | expiredListenAddr => rfl
    | listenerClosed listener => exact standing_relayLost env _ listener
    | listenerError listener => exact standing_relayLost env _ listener
    | connectionEstablished peer connection numEstablished endpoint =>
      exact standing_connectionEstablished env _ peer connection numEstablished endpoint
    | connectionClosed peer connection numEstablished =>
      exact standing_connectionClosed env _ peer connection numEstablished
    | identified peer info => exact standing_identified env _ peer info
    | autonat status => exact standing_natStatus env _ status
    | kad event =>
      exact standing_aside env state _ (by cases event <;> simp [Input.parts, SwarmEvent.parts])
    | rpc event =>
      exact standing_aside env state _ (by cases event <;> simp [Input.parts, SwarmEvent.parts])
    | gossipsub => exact standing_aside env state _ (by simp [Input.parts, SwarmEvent.parts])
    | dcutr => exact standing_aside env state _ (by simp [Input.parts, SwarmEvent.parts])
    | other => exact standing_aside env state _ (by simp [Input.parts, SwarmEvent.parts])

/-- What libp2p forgets with an event is no address. -/
theorem standing_deliver (state : State) (input : Input) :
    (state.deliver input).standing = state.standing := by
  unfold deliver
  split <;> rfl

end State

namespace System

/-- The node's standing follows the actions, whatever else it does. -/
theorem standing_step (system : System) (action : Action) :
    (system.step action).state.standing = system.state.standing.step action := by
  cases action with
  | handle env input =>
    exact (State.standing_handle env _ input).trans
      (congrArg (fun standing => Standing.next standing input)
        (State.standing_deliver system.state input))
  | ready env =>
    exact State.standing_of_network
      ((State.confined_provide env (system.state.emit _)).network (by simp))
  | draw => rfl
  | poll => rfl
  | internalQuery => rfl
  | learn => rfl

/-- The node after any actions stands where the machine does. -/
theorem standing_after (config : Config) (localPeer : PeerId) (now : Instant)
    (actions : List Action) :
    (after config localPeer now actions).state.standing =
      actions.foldl Standing.step (Standing.start config) := by
  induction actions using List.reverseRecOn with
  | nil => rfl
  | append_singleton actions action inductionHypothesis =>
    unfold after at inductionHypothesis ⊢
    rw [List.foldl_append, List.foldl_append, ← inductionHypothesis]
    exact standing_step _ action

/-- So its standing is sound after every run. -/
theorem sound_after (config : Config) (localPeer : PeerId) (now : Instant) (actions : List Action) :
    (after config localPeer now actions).state.standing.Sound := by
  rw [standing_after]
  exact Standing.sound_run config actions

/-- And what was configured stays. -/
theorem configured_after (config : Config) (localPeer : PeerId) (now : Instant)
    (actions : List Action) :
    (after config localPeer now actions).state.configured = config.reachability :=
  (congrArg Standing.configured (standing_after config localPeer now actions)).trans
    (Standing.configured_run config actions)

/-- A node that was told what it is stays that. -/
theorem reachability_after {config : Config} (decided : config.reachability ≠ .unknown)
    (localPeer : PeerId) (now : Instant) (actions : List Action) :
    (after config localPeer now actions).state.reachability = config.reachability := by
  have configured := configured_after config localPeer now actions
  rw [← configured]
  exact (sound_after config localPeer now actions).settled (by rwa [← configured] at decided)

end System

/-! The private node. -/

/-- The record by which a line of the log reports the node's reachability. -/
def Entry.reachability? : Entry → Option Record
  | did (.emit record) => if record.header.kind = .reachability then some record else none
  | _ => none

namespace State

/-- Switching reports nothing by itself. -/
theorem unreported_switchReachability (env : Env) (state : State) (next : Reachability) :
    Adds (fun entry => entry.reachability? = none) state (state.switchReachability env next) := by
  have each (state : State) (candidate : PeerId × Multiaddr) :
      Adds (fun entry => entry.reachability? = none) state (state.reserveOn env candidate) := by
    unfold reserveOn
    dsimp only
    split
    · exact Adds.refl _ state
    · split
      · exact Adds.one rfl rfl
      · exact Adds.one rfl rfl
  have reserved (state : State) :
      Adds (fun entry => entry.reachability? = none) state (state.reserve env) := by
    unfold reserve
    split
    · exact Adds.refl _ state
    · exact Adds.foldl each _ state
  have released (state : State) (reservation : PeerId × ListenerId) :
      Adds (fun entry => entry.reachability? = none) state
        (state.did (.removeListener reservation.2)) :=
    Adds.one rfl rfl
  unfold switchReachability
  dsimp only
  split
  · exact reserved _
  · split
    · exact Adds.foldl released _ _
    · exact Adds.refl _ state

/-- A new role is reported once, and the old one not again. -/
theorem turnTo_reports (env : Env) (state : State) (next : Reachability) :
    ∃ extra, (natStatus.turnTo env state next).log = state.log ++ extra ∧
      extra.filterMap Entry.reachability? =
        if (natStatus.turnTo env state next).reachability = state.reachability then []
        else [reachabilityRecord (natStatus.turnTo env state next).reachability] := by
  unfold natStatus.turnTo
  by_cases same : next = state.reachability
  · rw [if_pos same]
    exact ⟨[], by simp, by simp⟩
  · rw [if_neg same]
    have turned : (state.switchReachability env next).reachability = next :=
      (congrArg Standing.reachability (standing_switchReachability env state next same)).trans
        (Standing.reachability_turnTo _ next)
    obtain ⟨extra, grown, unreported⟩ := unreported_switchReachability env state next
    refine ⟨extra ++ [.did (.identifyPush env.connectedPeers),
      .did (.emit (reachabilityRecord next))], ?_, ?_⟩
    · simp [emit, did, grown]
    · have none : extra.filterMap Entry.reachability? = [] :=
        List.filterMap_eq_nil_iff.mpr unreported
      rw [List.filterMap_append, none]
      simp only [emit, did, turned, if_neg same]
      rfl

/-- A verdict is reported if it changes something, and then once. -/
theorem natStatus_reports (env : Env) (state : State) (status : NatStatus) :
    ∃ extra, (state.natStatus env status).log = state.log ++ extra ∧
      extra.filterMap Entry.reachability? =
        if (state.natStatus env status).reachability = state.reachability then []
        else [reachabilityRecord (state.natStatus env status).reachability] := by
  unfold natStatus
  split
  · exact ⟨[], by simp, by simp⟩
  · split
    · exact ⟨[], by simp, by simp⟩
    · exact turnTo_reports env state .publicNode
    · exact turnTo_reports env state .privateNode

end State

/-- A private node announces no direct address. However the events come, a node
that acts as private announces relayed addresses only; one configured public or
private stays what it was configured to be; and a verdict is reported exactly if
it changes what the node acts as. -/
theorem private_node_announces_no_direct_address (config : Config) (localPeer : PeerId)
    (now : Instant) (actions : List Action) :
    let state := (System.after config localPeer now actions).state
    (state.isPrivate = true →
        ∀ address ∈ state.swarm.externalAddresses, isRelayed address = true) ∧
      (config.reachability ≠ .unknown → state.reachability = config.reachability) ∧
      (∀ env, state.swarmEvent env (.autonat .unknown) = state) ∧
      ∀ env status, ∃ extra,
        (state.swarmEvent env (.autonat status)).log = state.log ++ extra ∧
          extra.filterMap Entry.reachability? =
            if (state.swarmEvent env (.autonat status)).reachability = state.reachability then []
            else [reachabilityRecord (state.swarmEvent env (.autonat status)).reachability] := by
  intro state
  have sound : state.standing.Sound := System.sound_after config localPeer now actions
  refine ⟨fun isPrivate => sound.announced (beq_iff_eq.mp isPrivate), ?_, ?_, ?_⟩
  · exact fun decided => System.reachability_after decided localPeer now actions
  · intro env
    unfold State.swarmEvent State.natStatus
    dsimp only
    split <;> rfl
  · exact fun env status => State.natStatus_reports env _ status

/-! The node that is not private. -/

namespace State

/-- A node that is not private announces exactly its live direct addresses. -/
def AnnouncesLive (state : State) : Prop :=
  state.isPrivate = false →
    state.swarm.externalAddresses = state.listening.filter fun address =>
      !(state.listensOnWildcard && isLoopback address)

/-- The listen addresses a node announces while it is not private. -/
def announces (state : State) (address : Multiaddr) : Bool :=
  address ∈ state.listening && !(state.listensOnWildcard && isLoopback address)

/-- A node that is not private can be dialed, as far as it knows. -/
theorem isPrivate_eq_false {state : State} :
    state.isPrivate = false ↔ state.standing.reachability ≠ .privateNode :=
  beq_eq_false_iff_ne

/-- The announced addresses are live exactly if the standing is exact. -/
theorem announcesLive_iff (state : State) : state.AnnouncesLive ↔ state.standing.Exact := by
  unfold AnnouncesLive Standing.Exact
  rw [isPrivate_eq_false]
  rfl

end State

/-- A step that neither lets an announced address expire nor reports a relayed
address, unless the node is private. -/
def System.LeavesLive (system : System) : Action → Prop
  | .handle _ (.swarm (.newListenAddr _ address)) =>
    system.state.isPrivate = true ∨ isRelayed address = false
  | .handle _ (.swarm (.expiredListenAddr _ address)) =>
    system.state.isPrivate = true ∨ system.state.announces address = false
  | _ => True

/-- The condition on the state is the one on the standing. -/
theorem System.leavesLive_iff (system : System) (action : Action) :
    system.LeavesLive action ↔ system.state.standing.Keeps action := by
  have isPrivate : system.state.isPrivate = true ↔
      system.state.standing.reachability = .privateNode :=
    beq_iff_eq
  have announced (address : Multiaddr) : system.state.announces address = false ↔
      address ∉ system.state.standing.direct := by
    simp [State.announces, Standing.direct, State.standing]
  cases action with
  | handle env input =>
    cases input with
    | swarm event =>
      cases event with
      | newListenAddr listener address => exact or_congr_left isPrivate
      | expiredListenAddr listener address => exact or_congr isPrivate (announced address)
      | _ => exact Iff.rfl
    | _ => exact Iff.rfl
  | _ => exact Iff.rfl

/-- One action keeps the announced addresses live exactly if it meets the condition. -/
theorem System.announcesLive_step_iff {system : System} (sound : system.state.standing.Sound)
    (live : system.state.AnnouncesLive) (action : Action) :
    (system.step action).state.AnnouncesLive ↔ system.LeavesLive action := by
  rw [State.announcesLive_iff, System.standing_step, System.leavesLive_iff]
  exact Standing.exact_step_iff sound ((State.announcesLive_iff _).mp live) action

/-- Along a run the node announces exactly its live direct addresses, in every
state in which it is not private, if and only if in none of these an announced
address expires or a relayed listen address is reported. -/
theorem announces_live_iff (config : Config) (localPeer : PeerId) (now : Instant)
    (actions : List Action) :
    (∀ before, before <+: actions →
        (System.after config localPeer now before).state.AnnouncesLive) ↔
      ∀ before action, before ++ [action] <+: actions →
        (System.after config localPeer now before).LeavesLive action := by
  refine @Runs.all_states_iff_all_steps _ _ System.step (System.start config localPeer now)
    (fun system => system.state.AnnouncesLive) System.LeavesLive actions (fun _ => rfl) ?_
  intro before action _ live
  rw [List.foldl_append, List.foldl_cons, List.foldl_nil]
  exact System.announcesLive_step_iff (System.sound_after config localPeer now before) live action

/-- An address of the node's own. -/
def Sample.address : Multiaddr := [.ip4 ⟨[192, 0, 2, 1], rfl⟩, .other "/tcp/4001"]

/-- The address a relay was dialed on. -/
def Sample.relayAddress : Multiaddr := [.ip4 ⟨[192, 0, 2, 2], rfl⟩, .other "/tcp/4001"]

/-- What the node listens on at that relay. -/
def Sample.circuit : Multiaddr := Sample.relayAddress ++ [.p2p Sample.remotePeer, .p2pCircuit]

/-- A public node with one listener. -/
def Sample.listeningConfig : Config := { Sample.config with listen := [Sample.address] }

/-- Its address comes and goes. -/
def Sample.addressExpires : List Action :=
  [.handle Sample.env (.swarm (.newListenAddr 0 Sample.address)), .ready Sample.env,
    .handle Sample.env (.swarm (.expiredListenAddr 0 Sample.address))]

/-- The run can happen. -/
theorem Sample.addressExpires_run :
    System.Run Sample.crates Sample.listeningConfig Sample.peer 0 Sample.addressExpires := by
  simp only [System.Run, Sample.addressExpires, Runs.admissible_cons, Runs.admissible_nil, and_true]
  exact ⟨⟨rfl, trivial⟩, ⟨rfl, rfl⟩, rfl, trivial⟩

/-- A node that lets AutoNAT decide. -/
def Sample.undecidedConfig : Config := { Sample.config with reachability := .unknown }

/-- It dials a relay, is found private and asks it for a reservation, and is
found public before the answer arrives. -/
def Sample.lateReservation : List Action :=
  [.ready Sample.env,
    .handle Sample.env (.swarm (.connectionEstablished Sample.remotePeer 0 1
      (.dialer Sample.relayAddress))),
    .handle Sample.env (.swarm (.identified Sample.remotePeer
      { protocols := [hopProtocolName], listenAddrs := [] })),
    .handle Sample.env (.swarm (.autonat .privateNode)),
    .handle Sample.env (.swarm (.autonat (.publicAt Sample.address))),
    .handle Sample.env (.swarm (.newListenAddr 0 Sample.circuit))]

/-- So can this one. -/
theorem Sample.lateReservation_run :
    System.Run Sample.crates Sample.undecidedConfig Sample.peer 0 Sample.lateReservation := by
  simp only [System.Run, Sample.lateReservation, Runs.admissible_cons, Runs.admissible_nil,
    and_true]
  exact ⟨⟨rfl, rfl⟩, ⟨rfl, trivial⟩, ⟨rfl, trivial⟩, ⟨rfl, trivial⟩, ⟨rfl, trivial⟩, rfl, trivial⟩

/-- An expired address stays announced, and so does one at a relay that was
released. -/
theorem stale_address_announced :
    (System.Run Sample.crates Sample.listeningConfig Sample.peer 0 Sample.addressExpires ∧
        ¬ (System.after Sample.listeningConfig Sample.peer 0
          Sample.addressExpires).state.AnnouncesLive) ∧
      System.Run Sample.crates Sample.undecidedConfig Sample.peer 0 Sample.lateReservation ∧
        ¬ (System.after Sample.undecidedConfig Sample.peer 0
          Sample.lateReservation).state.AnnouncesLive := by
  have expired : ((System.after Sample.listeningConfig Sample.peer 0
      Sample.addressExpires).state.isPrivate = false ∧
      Sample.address ∈ (System.after Sample.listeningConfig Sample.peer 0
        Sample.addressExpires).state.swarm.externalAddresses ∧
      Sample.address ∉ (System.after Sample.listeningConfig Sample.peer 0
        Sample.addressExpires).state.listening) := by
    decide +kernel
  have late : ((System.after Sample.undecidedConfig Sample.peer 0
      Sample.lateReservation).state.isPrivate = false ∧
      Sample.circuit ∈ (System.after Sample.undecidedConfig Sample.peer 0
        Sample.lateReservation).state.swarm.externalAddresses ∧
      Sample.circuit ∉ (System.after Sample.undecidedConfig Sample.peer 0
        Sample.lateReservation).state.listening) := by
    decide +kernel
  have stale {state : State} {address : Multiaddr} (isPublic : state.isPrivate = false)
      (announced : address ∈ state.swarm.externalAddresses) (gone : address ∉ state.listening) :
      ¬ state.AnnouncesLive := by
    intro live
    rw [live isPublic] at announced
    exact gone (Finset.mem_of_mem_filter _ announced)
  exact ⟨⟨Sample.addressExpires_run, stale expired.1 expired.2.1 expired.2.2⟩,
    Sample.lateReservation_run, stale late.1 late.2.1 late.2.2⟩

end Libp2pFfi
