import Libp2pFfi.Reachability

/-!
# Relays

A private node keeps itself reachable through a few relays. It asks for
reservations from three handlers, and it loses them by the id of a listener
rather than by the relay's name, sometimes after it has released them itself.

What an observer sees of this is a sequence of events: the node asks a relay and
is answered, it releases a listener, a listener ends. `RelayBook` is what the
observer can conclude from them, which relay is held by which listener and when
a reservation was last refused or lost, and it says when a relay may be asked.
The node's own tables are that book after every run, and every question it ever
asked was permitted when it was asked.
-/

namespace Libp2pFfi

/-! What an observer sees. -/

/-- What happens to a reservation. -/
inductive RelayEvent where
  /-- The node listens on a relay and is given a listener, or refused. -/
  | listens (relay : PeerId) (now : Instant) (listener : Option ListenerId)
  /-- The node gives up a listener by itself. -/
  | released (listener : ListenerId)
  /-- A listener was closed or reported an error. -/
  | ended (listener : ListenerId) (now : Instant)

/-- Which relays are held, and which have failed when. -/
structure RelayBook where
  /-- The listener a relay is held by. -/
  held : PeerId → Option ListenerId := fun _ => none
  /-- When a relay last refused a reservation or lost one. -/
  failed : PeerId → Option Instant := fun _ => none

namespace RelayBook

/-- A relay that is held by a listener is not, once the listener is gone. -/
def drop (book : RelayBook) (listener : ListenerId) (relay : PeerId) : Option ListenerId :=
  if book.held relay = some listener then none else book.held relay

/-- What an event changes. -/
def note (book : RelayBook) : RelayEvent → RelayBook
  | .listens relay now none =>
    { book with failed := Function.update book.failed relay (some now) }
  | .listens relay _ (some listener) =>
    { book with held := Function.update book.held relay (some listener) }
  | .released listener => { book with held := book.drop listener }
  | .ended listener now =>
    { held := book.drop listener
      failed := fun relay =>
        if book.held relay = some listener then some now else book.failed relay }

/-- A relay may be asked if it is not held, and not too soon after it refused or
lost a reservation. -/
def Free (book : RelayBook) (relay : PeerId) (now : Instant) : Prop :=
  book.held relay = none ∧ ∀ time, book.failed relay = some time → relayRetry ≤ now - time

/-- Only a relay that is free is asked. -/
def Permits (book : RelayBook) : RelayEvent → Prop
  | .listens relay now _ => book.Free relay now
  | _ => True

/-- Releasing several listeners. -/
theorem foldl_released (book : RelayBook) (listeners : List ListenerId) :
    (listeners.map RelayEvent.released).foldl note book =
      { book with
        held := fun relay =>
          if ∃ listener ∈ listeners, book.held relay = some listener then none
          else book.held relay } := by
  induction listeners generalizing book with
  | nil => simp
  | cons listener rest inductionHypothesis =>
    rw [List.map_cons, List.foldl_cons, inductionHypothesis]
    simp only [note, drop, mk.injEq, and_true]
    funext relay
    by_cases own : book.held relay = some listener
    · simp [own]
    · simp [own]

end RelayBook

/-- The relay an address goes through. -/
def relayOf (address : Multiaddr) : Option PeerId :=
  address.findSome? fun
    | .p2p peer => some peer
    | _ => none

/-- The address of a reservation names its relay. -/
theorem relayOf_circuit (address : Multiaddr) (relay : PeerId) :
    relayOf (withoutPeer address ++ [.p2p relay, .p2pCircuit]) = some relay := by
  have unnamed : (withoutPeer address).findSome? (fun
      | .p2p peer => some peer
      | _ => none) = none := by
    rw [List.findSome?_eq_none_iff]
    intro part member
    obtain ⟨-, kept⟩ := List.mem_filter.mp member
    cases part with
    | p2p => cases kept
    | _ => rfl
  rw [relayOf, List.findSome?_append, unnamed]
  rfl

/-- What an effect is to a reservation. -/
def Effect.relayEvent? (now : Instant) : Effect → Option RelayEvent
  | listenOn address listener =>
    (relayOf address).map fun relay => .listens relay now listener
  | removeListener listener => some (.released listener)
  | _ => none

/-- What a line of the log is to one. -/
def Entry.relayEvent? (now : Instant) : Entry → Option RelayEvent
  | heard _ _ => none
  | did effect => effect.relayEvent? now

/-- What an input says about a listener. -/
def Input.relayEvents (now : Instant) : Input → List RelayEvent
  | .swarm (.listenerClosed listener) => [.ended listener now]
  | .swarm (.listenerError listener) => [.ended listener now]
  | _ => []

/-- An entry of another part is none of these events. -/
theorem Entry.Within.unrelated {touched : List Part} {entry : Entry}
    (within : entry.Within touched) (elsewhere : .network ∉ touched) (now : Instant) :
    entry.relayEvent? now = none := by
  cases entry with
  | heard => rfl
  | did effect =>
    cases effect with
    | listenOn => exact absurd (within _ rfl) elsewhere
    | removeListener => exact absurd (within _ rfl) elsewhere
    | _ => rfl

/-- The book the node keeps. -/
def NetworkPart.book (network : NetworkPart) : RelayBook where
  held := fun relay => network.reservations.lookup relay
  failed := fun relay => network.relayFailed.lookup relay

namespace State

/-- The book of a state. -/
def book (state : State) : RelayBook := state.networkPart.book

/-- A handler keeps the book, and asks only whom it may. -/
structure Recorded (now : Instant) (before after : State) : Prop where
  recorded : ∃ extra, after.log = before.log ++ extra ∧
    after.book = (extra.filterMap (Entry.relayEvent? now)).foldl RelayBook.note before.book ∧
    Runs.Admissible RelayBook.note before.book RelayBook.Permits
      (extra.filterMap (Entry.relayEvent? now))

/-- Doing nothing records nothing. -/
theorem Recorded.refl (now : Instant) (state : State) : Recorded now state state :=
  ⟨[], (List.append_nil _).symm, rfl, Runs.admissible_nil _ _ _⟩

/-- Two steps record one after the other. -/
theorem Recorded.trans {now : Instant} {first second third : State}
    (left : Recorded now first second) (right : Recorded now second third) :
    Recorded now first third := by
  obtain ⟨extra, grown, book, permitted⟩ := left
  obtain ⟨more, grownMore, bookToo, permittedToo⟩ := right
  refine ⟨extra ++ more, by rw [grownMore, grown, List.append_assoc], ?_, ?_⟩
  · rw [List.filterMap_append, List.foldl_append, ← book]
    exact bookToo
  · rw [List.filterMap_append, Runs.admissible_append, ← book]
    exact ⟨permitted, permittedToo⟩

/-- A step that writes no such event and keeps the book. -/
theorem recorded_of_same {now : Instant} {before after : State} (book : after.book = before.book)
    (adds : Adds (fun entry => entry.relayEvent? now = none) before after) :
    Recorded now before after := by
  obtain ⟨extra, grown, unrelated⟩ := adds
  have none : extra.filterMap (Entry.relayEvent? now) = [] :=
    List.filterMap_eq_nil_iff.mpr unrelated
  refine ⟨extra, grown, by rw [none]; exact book, ?_⟩
  rw [none]
  exact Runs.admissible_nil _ _ _

/-- A handler that leaves the network alone. -/
theorem Confined.recorded {touched : List Part} {before after : State}
    (confined : Confined touched before after) (elsewhere : .network ∉ touched) (now : Instant) :
    Recorded now before after := by
  apply recorded_of_same
  · exact congrArg NetworkPart.book (confined.network elsewhere)
  · exact confined.adds.mono fun entry within => within.unrelated elsewhere now

/-! Asking relays. -/

/-- What asking one relay can come to. -/
inductive Asks (env : Env) (state : State) (relay : PeerId) : State → Prop where
  | full (enough : maxReservations ≤ state.reservations.len) : Asks env state relay state
  | granted (circuit : Multiaddr) (isRelay : relayOf circuit = some relay)
      (room : state.reservations.len < maxReservations) :
      Asks env state relay
        ({ state with
          swarm := { state.swarm with nextListener := state.swarm.nextListener + 1 }
          reservations := state.reservations.insert relay state.swarm.nextListener }.did
          (.listenOn circuit (some state.swarm.nextListener)))
  | refused (circuit : Multiaddr) (isRelay : relayOf circuit = some relay)
      (room : state.reservations.len < maxReservations) :
      Asks env state relay
        ({ state with relayFailed := state.relayFailed.insert relay env.now }.did
          (.listenOn circuit none))

/-- A candidate is asked unless two relays are held by then. -/
theorem asks_reserveOn (env : Env) (state : State) (candidate : PeerId × Multiaddr) :
    Asks env state candidate.1 (state.reserveOn env candidate) := by
  unfold reserveOn
  dsimp only
  split
  · rename_i enough
    exact .full enough
  · rename_i room
    split
    · exact .granted _ (relayOf_circuit candidate.2 candidate.1) (not_le.mp room)
    · exact .refused _ (relayOf_circuit candidate.2 candidate.1) (not_le.mp room)

/-- One question is one event. -/
theorem recorded_of_question {now : Instant} {before after : State} {relay : PeerId}
    {circuit : Multiaddr} {listener : Option ListenerId}
    (log : after.log = before.log ++ [.did (.listenOn circuit listener)])
    (isRelay : relayOf circuit = some relay)
    (book : after.book = before.book.note (.listens relay now listener))
    (free : before.book.Free relay now) : Recorded now before after := by
  have seen : [Entry.did (.listenOn circuit listener)].filterMap (Entry.relayEvent? now) =
      [.listens relay now listener] := by
    simp [Entry.relayEvent?, Effect.relayEvent?, isRelay]
  refine ⟨_, log, ?_, ?_⟩
  · rw [seen]
    exact book
  · rw [seen, Runs.admissible_cons]
    exact ⟨free, Runs.admissible_nil _ _ _⟩

/-- A table that is written to is a function that is updated. -/
theorem lookup_insert_update {V : Type} (table : Table PeerId V) (relay : PeerId) (value : V) :
    (fun tested => (table.insert relay value).lookup tested) =
      Function.update (fun tested => table.lookup tested) relay (some value) := by
  funext tested
  rw [Table.lookup_insert_if, Function.update_apply]

/-- What one question leaves in the book. -/
theorem Asks.book {env : Env} {state after : State} {relay : PeerId}
    (asks : Asks env state relay after) :
    after.book = state.book ∨
      ∃ listener, after.book = state.book.note (.listens relay env.now listener) := by
  cases asks with
  | full => exact .inl rfl
  | granted =>
    refine .inr ⟨some state.swarm.nextListener, ?_⟩
    exact congrArg (RelayBook.mk · _) (lookup_insert_update _ _ _)
  | refused =>
    refine .inr ⟨none, ?_⟩
    exact congrArg (RelayBook.mk _ ·) (lookup_insert_update _ _ _)

/-- Asking a free relay is recorded, whatever libp2p answers. -/
theorem recorded_asks {env : Env} {state after : State} {relay : PeerId}
    (asks : Asks env state relay after) (free : state.book.Free relay env.now) :
    Recorded env.now state after := by
  cases asks with
  | full => exact Recorded.refl _ state
  | granted circuit isRelay room =>
    apply recorded_of_question rfl isRelay _ free
    exact congrArg (RelayBook.mk · _) (lookup_insert_update _ _ _)
  | refused circuit isRelay room =>
    apply recorded_of_question rfl isRelay _ free
    exact congrArg (RelayBook.mk _ ·) (lookup_insert_update _ _ _)

/-- A question is of no concern to another relay. -/
theorem Asks.others {env : Env} {state after : State} {relay other : PeerId}
    (asks : Asks env state relay after) (different : other ≠ relay) :
    after.book.Free other env.now ↔ state.book.Free other env.now := by
  rcases asks.book with same | ⟨listener, noted⟩
  · rw [same]
  · rw [noted]
    cases listener with
    | none => simp [RelayBook.Free, RelayBook.note, different]
    | some listener => simp [RelayBook.Free, RelayBook.note, different]

/-- The loop over the relays that may be asked. -/
theorem recorded_questions (env : Env) (candidates : List (PeerId × Multiaddr)) (state : State)
    (distinct : (candidates.map Prod.fst).Nodup)
    (free : ∀ candidate ∈ candidates, state.book.Free candidate.1 env.now) :
    Recorded env.now state (candidates.foldl (reserveOn env) state) := by
  induction candidates generalizing state with
  | nil => exact Recorded.refl _ state
  | cons candidate rest inductionHypothesis =>
    have asks := asks_reserveOn env state candidate
    obtain ⟨notAgain, distinctRest⟩ := List.nodup_cons.mp distinct
    refine (recorded_asks asks (free candidate List.mem_cons_self)).trans
      (inductionHypothesis _ distinctRest ?_)
    intro other member
    refine (asks.others fun same => ?_).mpr (free other (List.mem_cons_of_mem _ member))
    exact notAgain (same ▸ List.mem_map_of_mem member)

/-- The relays `reserve` goes through. -/
def askable (env : Env) (state : State) : List (PeerId × Multiaddr) :=
  env.order (state.relayCandidates.toList.filter fun candidate =>
    (state.reservations.lookup candidate.1).isNone &&
      waited env.now relayRetry (state.relayFailed.lookup candidate.1))

/-- Candidates that are free are asked. -/
theorem mem_askable {env : Env} {state : State} {candidate : PeerId × Multiaddr} :
    candidate ∈ state.askable env ↔
      state.relayCandidates.lookup candidate.1 = some candidate.2 ∧
        state.book.Free candidate.1 env.now := by
  have waitedLong : waited env.now relayRetry (state.relayFailed.lookup candidate.1) = true ↔
      ∀ time, state.book.failed candidate.1 = some time → relayRetry ≤ env.now - time := by
    have same : state.book.failed candidate.1 = state.relayFailed.lookup candidate.1 := rfl
    rw [same]
    cases state.relayFailed.lookup candidate.1 <;> simp [waited]
  rw [askable, (env.order_perm _).mem_iff, List.mem_filter, Bool.and_eq_true, waitedLong,
    Option.isNone_iff_eq_none]
  exact and_congr_left fun _ => Table.mem_toList

/-- Each of them once. -/
theorem distinct_askable (env : Env) (state : State) :
    ((state.askable env).map Prod.fst).Nodup := by
  have keys : (state.relayCandidates.toList.map Prod.fst).Nodup := by
    have same : state.relayCandidates.toList.map Prod.fst = state.relayCandidates.keys := by
      simp [Table.toList, AList.keys, List.keys]
    rw [same]
    exact state.relayCandidates.keys_nodup
  exact ((env.order_perm _).map Prod.fst).nodup_iff.mpr
    ((List.Sublist.map Prod.fst List.filter_sublist).nodup keys)

/-- What decides whether a node reserves at all. -/
theorem reserve_eq (env : Env) (state : State) :
    state.reserve env =
      if !state.isPrivate || !state.relayClient || state.reservations.len ≥ maxReservations then state
      else (state.askable env).foldl (reserveOn env) state :=
  rfl

/-- Relays stay free until it is their turn, since each is asked once. -/
theorem recorded_reserve (env : Env) (state : State) :
    Recorded env.now state (state.reserve env) := by
  rw [reserve_eq]
  split
  · exact Recorded.refl _ state
  · exact recorded_questions env _ state (distinct_askable env state)
      fun candidate member => (mem_askable.mp member).2

/-- Removing listeners writes one line for each. -/
theorem removeListeners_eq (reservations : List (PeerId × ListenerId)) (state : State) :
    reservations.foldl (fun state reservation => state.did (.removeListener reservation.2)) state =
      { state with
        log := state.log ++ reservations.map fun reservation =>
          .did (.removeListener reservation.2) } := by
  induction reservations generalizing state with
  | nil => simp
  | cons item rest inductionHypothesis =>
    rw [List.foldl_cons, inductionHypothesis]
    simp [did]

/-- Removing the listeners releases the relays. -/
theorem relayEvents_removeListeners (now : Instant) (reservations : List (PeerId × ListenerId)) :
    (reservations.map fun reservation =>
      Entry.did (.removeListener reservation.2)).filterMap (Entry.relayEvent? now) =
        (reservations.map Prod.snd).map RelayEvent.released := by
  induction reservations with
  | nil => rfl
  | cons reservation rest inductionHypothesis =>
    rw [List.map_cons, List.map_cons, List.map_cons, ← inductionHypothesis]
    rfl

/-- The node may always release. -/
theorem permitted_released (book : RelayBook) (listeners : List ListenerId) :
    Runs.Admissible RelayBook.note book RelayBook.Permits (listeners.map RelayEvent.released) := by
  induction listeners generalizing book with
  | nil => exact Runs.admissible_nil _ _ _
  | cons listener rest inductionHypothesis =>
    rw [List.map_cons, Runs.admissible_cons]
    exact ⟨trivial, inductionHypothesis _⟩

/-- Releasing all that is held leaves nothing held. -/
theorem held_released (env : Env) (state : State) :
    (((env.order state.reservations.toList).map Prod.snd).map RelayEvent.released).foldl
      RelayBook.note state.book = { state.book with held := fun _ => none } := by
  rw [RelayBook.foldl_released]
  refine congrArg (RelayBook.mk · _) ?_
  funext relay
  cases held : state.reservations.lookup relay with
  | none =>
    split
    · rfl
    · exact held
  | some listener =>
    have member : (relay, listener) ∈ env.order state.reservations.toList :=
      (env.order_perm _).mem_iff.mpr (Table.mem_toList.mpr held)
    exact if_pos ⟨listener, List.mem_map_of_mem member, held⟩

/-- A node that turns private reserves, and one that turns public releases. -/
theorem recorded_switchReachability (env : Env) (state : State) (next : Reachability) :
    Recorded env.now state (state.switchReachability env next) := by
  unfold switchReachability
  dsimp only
  split
  · refine Recorded.trans ?_ (recorded_reserve env _)
    exact recorded_of_same rfl (Adds.refl _ _)
  · split
    · rw [removeListeners_eq]
      refine ⟨_, rfl, ?_, ?_⟩
      · rw [relayEvents_removeListeners]
        exact (held_released env state).symm
      · rw [relayEvents_removeListeners]
        exact permitted_released _ _
    · exact recorded_of_same rfl (Adds.refl _ _)

/-- So a verdict is recorded by what it makes the node do. -/
theorem recorded_natStatus (env : Env) (state : State) (status : NatStatus) :
    Recorded env.now state (state.natStatus env status) := by
  have turned (next : Reachability) :
      Recorded env.now state (natStatus.turnTo env state next) := by
    unfold natStatus.turnTo
    split
    · exact Recorded.refl _ state
    · have pushed : Recorded env.now state
          ((state.switchReachability env next).did (.identifyPush env.connectedPeers)) :=
        (recorded_switchReachability env state next).trans (recorded_of_same rfl (Adds.one rfl rfl))
      exact pushed.trans (recorded_of_same rfl (Adds.one rfl rfl))
  unfold natStatus
  split
  · exact Recorded.refl _ state
  · split
    · exact Recorded.refl _ state
    · exact turned _
    · exact turned _

/-- A peer that offers to relay may be asked at once. -/
theorem recorded_identified (env : Env) (state : State) (peer : PeerId) (info : IdentifyInfo) :
    Recorded env.now state (state.identified env peer info) := by
  have offered : Recorded env.now state
      ((state.offerRelay peer info).addAddresses peer info.listenAddrs) := by
    unfold offerRelay
    split
    · split
      · exact recorded_of_same rfl (Adds.refl _ _)
      · exact recorded_of_same rfl (Adds.refl _ _)
    · exact recorded_of_same rfl (Adds.refl _ _)
  have told (state : State) : Confined [] state (info.listenAddrs.foldl
      (fun state address => state.did (.addAddress peer address)) state) := by
    apply confined_foldl
    exact fun _ _ => confined_of_line rfl rfl rfl
  unfold identified
  dsimp only
  refine Recorded.trans ?_ (recorded_reserve env _)
  split
  · exact offered.trans ((told _).recorded (by simp) env.now)
  · exact offered

/-- A new address changes no reservation. Its relay was held when it was asked. -/
theorem recorded_newListenAddr (env : Env) (state : State) (address : Multiaddr) :
    Recorded env.now state (state.newListenAddr env address) := by
  have noted : Recorded env.now state (state.noteListenAddr env address) := by
    unfold noteListenAddr
    dsimp only
    split
    · exact recorded_of_same rfl (Adds.one rfl rfl)
    · split
      · exact recorded_of_same rfl (Adds.refl _ _)
      · exact Recorded.refl _ state
  unfold newListenAddr
  dsimp only
  split
  · exact noted.trans (recorded_of_same rfl (Adds.one rfl rfl))
  · exact noted.trans (recorded_of_same rfl (Adds.one rfl rfl))

/-- A connection that opens is no reservation. -/
theorem recorded_connectionEstablished (env : Env) (state : State) (peer : PeerId)
    (connection : ConnectionId) (numEstablished : Nat) (endpoint : ConnectedPoint) :
    Recorded env.now state
      (state.connectionEstablished env peer connection numEstablished endpoint) := by
  unfold connectionEstablished
  dsimp only
  split
  · split <;> split <;> (try split) <;> exact recorded_of_same rfl (Adds.one rfl rfl)
  · split <;> split <;> (try split) <;> exact recorded_of_same rfl (Adds.refl _ _)

/-- Nor does one that closes end it, before libp2p closes the listener. -/
theorem recorded_connectionClosed (env : Env) (state : State) (peer : PeerId)
    (connection : ConnectionId) (numEstablished : Nat) :
    Recorded env.now state (state.connectionClosed env peer connection numEstablished) := by
  unfold connectionClosed
  dsimp only
  split
  · exact recorded_of_same rfl (Adds.one rfl rfl)
  · exact recorded_of_same rfl (Adds.refl _ _)

/-- What a tick does before and after it asks relays. -/
theorem tick_around (env : Env) (state : State) :
    ∃ late, Confined [] state late ∧ Confined [.topics] (late.reserve env) (state.tick env) := by
  refine ⟨(state.expired env).foldl (fun state id => state.failCall id failTimeout) state, ?_, ?_⟩
  · apply confined_foldl
    exact fun state id => confined_failCall state id failTimeout
  · unfold tick
    dsimp only
    generalize (state.expired env).foldl (fun state id => state.failCall id failTimeout) state = late
    have announced : Confined [.topics] (late.reserve env) ((late.reserve env).announce env) :=
      (confined_announce env _).widen
    have lookedUp := announced.trans (confined_foldl (confined_topicLookup env)
      (lonely env (announce env (reserve env late))) _)
    have swept := lookedUp.trans (confined_sweepLimits env _).widen
    exact (swept.trans (confined_provideAgain env _).widen).trans (confined_of_parts rfl)

/-- A tick asks again. -/
theorem recorded_tick (env : Env) (state : State) : Recorded env.now state (state.tick env) := by
  obtain ⟨late, before, after⟩ := tick_around env state
  exact ((before.recorded (by simp) env.now).trans (recorded_reserve env late)).trans
    (after.recorded (by simp) env.now)

/-- Every relay the listener stood for is dropped, and has failed now. -/
theorem lookup_lost (env : Env) (relays : List PeerId) (state : State) (relay : PeerId) :
    (relays.foldl
      (fun state peer =>
        { state with
          reservations := state.reservations.erase peer
          relayFailed := state.relayFailed.insert peer env.now })
      state).reservations.lookup relay =
        (if relay ∈ relays then none else state.reservations.lookup relay) ∧
    (relays.foldl
      (fun state peer =>
        { state with
          reservations := state.reservations.erase peer
          relayFailed := state.relayFailed.insert peer env.now })
      state).relayFailed.lookup relay =
        (if relay ∈ relays then some env.now else state.relayFailed.lookup relay) := by
  induction relays generalizing state with
  | nil => simp
  | cons first rest inductionHypothesis =>
    rw [List.foldl_cons]
    obtain ⟨reservations, relayFailed⟩ := inductionHypothesis
      { state with
        reservations := state.reservations.erase first
        relayFailed := state.relayFailed.insert first env.now }
    rw [reservations, relayFailed, Table.lookup_erase_if, Table.lookup_insert_if]
    by_cases later : relay ∈ rest
    · simp [later]
    · by_cases own : relay = first
      · simp [own]
      · simp [later, own]

/-- A listener that ends takes its reservation along. -/
theorem book_relayLost (env : Env) (state : State) (listener : ListenerId) :
    (state.relayLost env listener).book = state.book.note (.ended listener env.now) := by
  have mem_lost (relay : PeerId) :
      relay ∈ env.order ((state.reservations.toList.filter fun reservation =>
        reservation.2 = listener).map Prod.fst) ↔ state.book.held relay = some listener := by
    rw [(env.order_perm _).mem_iff, List.mem_map]
    constructor
    · rintro ⟨⟨other, found⟩, member, rfl⟩
      obtain ⟨inTable, own⟩ := List.mem_filter.mp member
      exact (Table.mem_toList.mp inTable).trans (congrArg some (of_decide_eq_true own))
    · intro held
      exact ⟨(relay, listener), List.mem_filter.mpr ⟨Table.mem_toList.mpr held, by simp⟩, rfl⟩
  have lost (relay : PeerId) := lookup_lost env (env.order ((state.reservations.toList.filter
    fun reservation => reservation.2 = listener).map Prod.fst)) state relay
  refine congrArg₂ RelayBook.mk ?_ ?_
  · funext relay
    refine (lost relay).1.trans ?_
    simp only [mem_lost, RelayBook.drop]
    rfl
  · funext relay
    refine (lost relay).2.trans ?_
    simp only [mem_lost]
    rfl

/-- The events of one round of the event loop, those of its input first. -/
def relayEvents (env : Env) (state : State) (input : Input) : List RelayEvent :=
  input.relayEvents env.now ++
    ((state.handle env input).log.drop state.log.length).filterMap (Entry.relayEvent? env.now)

/-- What a round of the event loop records is in the lines it adds. -/
theorem Recorded.relayEvents {env : Env} {state : State} {input : Input}
    (recorded : Recorded env.now (state.heard env.nowMs input) (state.handle env input)) :
    (state.handle env input).book =
        (((state.handle env input).log.drop state.log.length).filterMap
          (Entry.relayEvent? env.now)).foldl RelayBook.note state.book ∧
      Runs.Admissible RelayBook.note state.book RelayBook.Permits
        (((state.handle env input).log.drop state.log.length).filterMap
          (Entry.relayEvent? env.now)) := by
  obtain ⟨extra, grown, book, permitted⟩ := recorded
  have dropped : (state.handle env input).log.drop state.log.length =
      .heard env.nowMs input :: extra := by
    rw [grown]
    simp [heard]
  rw [dropped]
  exact ⟨book, permitted⟩

/-- A round of the event loop keeps the book, and asks only whom it may. -/
structure Observed (env : Env) (state : State) (input : Input) : Prop where
  book : (state.handle env input).book =
    (state.relayEvents env input).foldl RelayBook.note state.book
  permitted : Runs.Admissible RelayBook.note state.book RelayBook.Permits
    (state.relayEvents env input)

/-- An input that ends no listener. -/
theorem observed_of_recorded {env : Env} {state : State} {input : Input}
    (unheard : input.relayEvents env.now = [])
    (recorded : Recorded env.now (state.heard env.nowMs input) (state.handle env input)) :
    Observed env state input := by
  obtain ⟨book, permitted⟩ := recorded.relayEvents
  constructor
  · rw [relayEvents, unheard]
    exact book
  · rw [relayEvents, unheard]
    exact permitted

/-- An input that ends one. -/
theorem observed_relayLost {env : Env} {state : State} {input : Input} {listener : ListenerId}
    (heard : input.relayEvents env.now = [.ended listener env.now])
    (lost : state.handle env input = (state.heard env.nowMs input).relayLost env listener) :
    Observed env state input := by
  have log : (state.handle env input).log = state.log ++ [.heard env.nowMs input] := by
    rw [lost]
    refine Runs.unchanged _ _ State.log ?_ _
    exact fun _ _ => rfl
  have events : state.relayEvents env input = [.ended listener env.now] := by
    simp [relayEvents, log, heard, Entry.relayEvent?]
  constructor
  · rw [events, lost]
    exact book_relayLost env _ listener
  · rw [events, Runs.admissible_cons]
    exact ⟨trivial, Runs.admissible_nil _ _ _⟩

/-- Every round of the event loop does as its input and its lines say. -/
theorem observed_handle (env : Env) (state : State) (input : Input) : Observed env state input := by
  have aside (unheard : input.relayEvents env.now = []) (elsewhere : .network ∉ input.parts) :
      Observed env state input :=
    observed_of_recorded unheard ((confined_handle env state input).recorded elsewhere env.now)
  cases input with
  | command command => exact aside rfl (by cases command <;> simp [Input.parts, Command.parts])
  | tick => exact observed_of_recorded rfl (recorded_tick env _)
  | swarm event =>
    cases event with
    | newListenAddr listener address =>
      exact observed_of_recorded rfl (recorded_newListenAddr env _ address)
    | expiredListenAddr =>
      apply observed_of_recorded rfl
      exact recorded_of_same rfl (Adds.refl _ _)
    | listenerClosed listener => exact observed_relayLost rfl rfl
    | listenerError listener => exact observed_relayLost rfl rfl
    | connectionEstablished peer connection numEstablished endpoint =>
      exact observed_of_recorded rfl
        (recorded_connectionEstablished env _ peer connection numEstablished endpoint)
    | connectionClosed peer connection numEstablished =>
      exact observed_of_recorded rfl
        (recorded_connectionClosed env _ peer connection numEstablished)
    | identified peer info => exact observed_of_recorded rfl (recorded_identified env _ peer info)
    | autonat status => exact observed_of_recorded rfl (recorded_natStatus env _ status)
    | kad event => exact aside rfl (by cases event <;> simp [Input.parts, SwarmEvent.parts])
    | rpc event => exact aside rfl (by cases event <;> simp [Input.parts, SwarmEvent.parts])
    | gossipsub => exact aside rfl (by simp [Input.parts, SwarmEvent.parts])
    | dcutr => exact aside rfl (by simp [Input.parts, SwarmEvent.parts])
    | other => exact aside rfl (by simp [Input.parts, SwarmEvent.parts])

end State

end Libp2pFfi
