import Libp2pFfi.Agenda

/-!
# Where addresses come from

The address book is told of addresses in five places, and asked for them by every
dial and by the searches of the caller. Over whole runs it is the book that the
actions of the run fill, in their order: no other handler writes it. So every
address that is offered to a dial of a peer, or reported to the caller with a
peer that was discovered, is one that the node was told of that very peer.
-/

namespace Libp2pFfi

/-- The addresses an action tells the node of, and whose they are. -/
def Action.learnt : Action → List (PeerId × Multiaddr)
  | .learn peer address => [(peer, address)]
  | .handle env (.command (.addAddress node address)) =>
    (peerId env.crates node).toList.map fun peer => (peer, address)
  | .handle _ (.swarm (.identified peer info)) =>
    info.listenAddrs.map fun address => (peer, address)
  | .handle _ (.swarm (.kad (.routingUpdated peer addresses _))) =>
    addresses.map fun address => (peer, address)
  | .handle _ (.swarm (.kad (.progressed _ (.getClosestPeers peers) _))) =>
    peers.flatMap fun info => info.addrs.map fun address => (info.peer, address)
  | _ => []

/-- The address that a note is about, if it is one that was learnt. -/
def Note.learnt? : Note → Option (PeerId × Multiaddr)
  | learn peer address => some (peer, address)
  | _ => none

/-- The addresses in these notes. -/
def learnt (notes : List Note) : List (PeerId × Multiaddr) := notes.filterMap Note.learnt?

/-! The notes about addresses. -/

section

variable (env : Env) (state : State)

/-- Addresses of two lists of notes. -/
@[simp] theorem learnt_append (first second : List Note) :
    learnt (first ++ second) = learnt first ++ learnt second :=
  List.filterMap_append ..

/-- Notes of learning are what was learnt. -/
@[simp] theorem learnt_learns (peer : PeerId) (addresses : List Multiaddr) :
    learnt (addresses.map (.learn peer)) = addresses.map fun address => (peer, address) := by
  rw [learnt, List.filterMap_map]
  exact congrFun List.filterMap_eq_map addresses

/-- Publishing a record teaches nothing. -/
@[simp] theorem learnt_publishNotes (key : Bytes) : learnt (State.publishNotes env key) = [] := by
  unfold State.publishNotes
  split <;> rfl

/-- Nor does providing the group. -/
@[simp] theorem learnt_provideNotes (group : Key) : learnt (State.provideNotes env group) = [] := by
  rw [State.provideNotes, learnt_append, learnt_publishNotes]
  rfl

/-- Records tell the caller of addresses, not the node. -/
@[simp] theorem learnt_reports {α : Type} (records : α → Record) (items : List α) :
    learnt (items.map fun item => .report (records item)) = [] := by
  simp [learnt, List.filterMap_eq_nil_iff, Note.learnt?]

/-- Nor does looking a topic up. What is found comes with later events. -/
@[simp] theorem learnt_lookUps (keys : List Key) (now : Instant) :
    learnt (keys.map fun key => .lookUp key now) = [] := by
  simp [learnt, List.filterMap_eq_nil_iff, Note.learnt?]

/-- Of Kademlia's events, a change of the routing table and peers found carry addresses. -/
theorem learnt_kadNotes (event : KadEvent) :
    learnt (state.kadNotes env event) = (Action.handle env (.swarm (.kad event))).learnt := by
  cases event with
  | routingUpdated peer addresses isNewPeer =>
    rw [State.kadNotes, learnt_append, learnt_learns]
    cases isNewPeer <;> exact List.append_nil _
  | progressed query result last =>
    cases result with
    | getProviders result =>
      change learnt (state.providersNotes env query result) = []
      unfold State.providersNotes
      split
      · rfl
      · split
        · exact learnt_reports _ _
        · rfl
    | getClosestPeers peers =>
      have known : learnt (peers.flatMap fun info => info.addrs.map (.learn info.peer)) =
          peers.flatMap fun info => info.addrs.map fun address => (info.peer, address) := by
        rw [learnt, List.filterMap_flatMap]
        exact List.flatMap_congr fun info _ => learnt_learns info.peer info.addrs
      rw [State.kadNotes, State.closestNotes, learnt_append, known]
      refine (congrArg _ ?_).trans (List.append_nil _)
      split
      · rfl
      · split
        · exact learnt_reports _ _
        · rfl
    | bootstrap ok => cases last <;> rfl
    | other => rfl
  | other => rfl

/-- What an action's notes say was learnt is what the action was told. -/
theorem learnt_notes (system : System) (action : Action) :
    learnt (system.notes action) = action.learnt := by
  cases action with
  | ready env => exact learnt_provideNotes env _
  | handle env input =>
    cases input with
    | command sent =>
      cases sent with
      | addAddress node address =>
        change learnt (State.addAddressNotes env node address) = _
        unfold State.addAddressNotes
        cases found : peerId env.crates node <;> simp [Action.learnt, found, learnt, Note.learnt?]
      | topicSubscribe key =>
        change learnt (State.subscribeNotes env _ key) = _
        unfold State.subscribeNotes
        split
        · rfl
        · split
          · rfl
          · rw [learnt_append]
            exact (List.append_nil _).trans (learnt_publishNotes env _)
      | topicUnsubscribe key =>
        change learnt (State.unsubscribeNotes _ key) = _
        unfold State.unsubscribeNotes
        split <;> rfl
      | provide key stop =>
        cases stop with
        | true => rfl
        | false => exact learnt_publishNotes env _
      | _ => rfl
    | swarm event =>
      cases event with
      | newListenAddr listener address =>
        change learnt (State.listenNotes address) = _
        unfold State.listenNotes
        split <;> rfl
      | kad event => exact learnt_kadNotes env _ event
      | identified peer info => exact learnt_learns peer info.listenAddrs
      | autonat status =>
        change learnt (State.natNotes _ status) = _
        unfold State.natNotes
        split <;> rfl
      | _ => rfl
    | tick =>
      change learnt (State.tickNotes env _) = _
      rw [State.tickNotes, learnt_append, learnt_lookUps]
      split
      · exact learnt_provideNotes env _
      · rfl
  | _ => rfl

end

/-! The book over whole runs. -/

namespace AddressBook

/-- A list of addresses grows by the new one at most. -/
theorem mem_append {list : List Multiaddr} {address new : Multiaddr}
    (listed : address ∈ append list new) : address = new ∨ address ∈ list := by
  unfold append at listed
  split at listed
  · exact .inr listed
  · split at listed
    · obtain kept | isNew := List.mem_append.mp listed
      · exact .inr (List.mem_of_mem_tail kept)
      · exact .inl (List.mem_singleton.mp isNew)
    · obtain kept | isNew := List.mem_append.mp listed
      · exact .inr kept
      · exact .inl (List.mem_singleton.mp isNew)

/-- Eviction adds nothing. -/
theorem mem_evict {book : AddressBook} {peer : PeerId} {address : Multiaddr}
    (offered : address ∈ book.evict.addressesOf peer) : address ∈ book.addressesOf peer := by
  unfold evict at offered
  split at offered
  · split at offered
    · exact offered
    · rw [addressesOf, Table.lookup_erase_if] at offered
      split at offered
      · cases offered
      · exact offered
  · exact offered

/-- The book offers what it was given. -/
theorem mem_add {book : AddressBook} {peer other : PeerId} {address new : Multiaddr}
    (offered : address ∈ (book.add other new).addressesOf peer) :
    (peer, address) = (other, new) ∨ address ∈ book.addressesOf peer := by
  unfold add at offered
  split at offered
  · rename_i list known
    rw [addressesOf, Table.lookup_insert_if] at offered
    split at offered
    · rename_i same
      subst same
      obtain rfl | kept := mem_append offered
      · exact .inl rfl
      · rw [addressesOf, known]
        exact .inr kept
    · exact .inr offered
  · rw [addressesOf, Table.lookup_insert_if] at offered
    split at offered
    · rename_i same
      subst same
      exact .inl (congrArg (Prod.mk peer) (List.mem_singleton.mp offered))
    · exact .inr (mem_evict offered)

/-- What a book offers it was told. -/
theorem mem_run {calls : List (PeerId × Multiaddr)} {peer : PeerId} {address : Multiaddr}
    (offered : address ∈ (run calls).addressesOf peer) : (peer, address) ∈ calls := by
  induction calls using List.reverseRecOn with
  | nil => cases offered
  | append_singleton calls call inductionHypothesis =>
    rw [run, List.foldl_append] at offered
    obtain same | known := mem_add offered
    · exact List.mem_append_right _ (List.mem_singleton.mpr same)
    · exact List.mem_append_left _ (inductionHypothesis known)

end AddressBook

/-- A book keeps what its notes tell it. -/
theorem Agenda.addressBook_notes (notes : List Note) (agenda : Agenda) :
    (notes.foldl Agenda.note agenda).addressBook =
      (learnt notes).foldl (fun book call => book.add call.1 call.2) agenda.addressBook := by
  induction notes generalizing agenda with
  | nil => rfl
  | cons note rest inductionHypothesis =>
    rw [List.foldl_cons, inductionHypothesis]
    by_cases told : note.subject = .addresses
    · cases note with
      | learn peer address => rfl
      | _ => cases told
    · rw [agenda.addressBook_note told]
      cases note with
      | learn => exact absurd rfl told
      | _ => rfl

/-- The node's book is the one that the actions fill. -/
theorem System.book_after (config : Config) (localPeer : PeerId) (now : Instant)
    (actions : List Action) :
    (after config localPeer now actions).state.swarm.addressBook =
      AddressBook.run (actions.flatMap Action.learnt) := by
  induction actions using List.reverseRecOn with
  | nil => rfl
  | append_singleton actions action inductionHypothesis =>
    have told := (writes_step (after config localPeer now actions) action).agenda
    have book := congrArg Agenda.addressBook told
    rw [Agenda.addressBook_notes, learnt_notes] at book
    rw [after_append_singleton, List.flatMap_append, List.flatMap_singleton, AddressBook.run,
      List.foldl_append]
    exact book.trans (congrArg (fun book => action.learnt.foldl
      (fun book call => AddressBook.add book call.1 call.2) book) inductionHypothesis)

/-! What the caller is told of peers that were discovered. -/

/-- Such an event carries the addresses of a peer that are among these. -/
def Record.Tells (crates : Crates) (known : List (PeerId × Multiaddr)) (record : Record) : Prop :=
  ∃ id peer addresses, record = discovered crates id peer addresses ∧
    ∀ address ∈ addresses, (peer, address) ∈ known

/-- What was known is known later too. -/
theorem Record.Tells.mono {crates : Crates} {known more : List (PeerId × Multiaddr)}
    {record : Record} (tells : record.Tells crates known) (grown : known ⊆ more) :
    record.Tells crates more := by
  obtain ⟨id, peer, addresses, rfl, told⟩ := tells
  exact ⟨id, peer, addresses, rfl, fun address member => grown (told address member)⟩

section

variable {env : Env} {state : State} {record : Record}

/-- A step of a search tells of the addresses in the book. -/
theorem tells_found {id : Nat} {providers : List PeerId} {known : List (PeerId × Multiaddr)}
    (book : ∀ peer, ∀ address ∈ state.swarm.addressBook.addressesOf peer, (peer, address) ∈ known)
    (noted : .report record ∈ State.foundNotes env state.swarm.addressBook id providers) :
    record.Tells env.crates known := by
  obtain ⟨provider, -, same⟩ := List.mem_map.mp noted
  obtain rfl := Note.report.inj same
  exact ⟨id, provider, _, rfl, book provider⟩

/-- A walk tells of the addresses it brings. -/
theorem tells_walked {id : Nat} {peers : List PeerInfo}
    (noted : .report record ∈ State.walkedNotes env id peers) :
    record.Tells env.crates
      (peers.flatMap fun info => info.addrs.map fun address => (info.peer, address)) := by
  obtain ⟨info, listed, same⟩ := List.mem_map.mp noted
  obtain rfl := Note.report.inj same
  refine ⟨id, info.peer, info.addrs, rfl, fun address member => ?_⟩
  refine List.mem_flatMap.mpr ⟨info, listed, ?_⟩
  exact List.mem_map_of_mem member

/-- Publishing reports nobody. -/
theorem publishNotes_quiet {key : Bytes} : .report record ∉ State.publishNotes env key := by
  unfold State.publishNotes
  split
  · exact fun noted => nomatch List.mem_singleton.mp noted
  · exact List.not_mem_nil

/-- Nor does providing. -/
theorem provideNotes_quiet {group : Key} : .report record ∉ State.provideNotes env group := by
  intro noted
  obtain published | provided := List.mem_append.mp noted
  · exact publishNotes_quiet published
  · nomatch List.mem_singleton.mp provided

/-- A report of the caller's search is read off the book, and that of a walk off the
event. -/
theorem tells_kadNotes {event : KadEvent} {known : List (PeerId × Multiaddr)}
    (book : ∀ peer, ∀ address ∈ state.swarm.addressBook.addressesOf peer, (peer, address) ∈ known)
    (noted : .report record ∈ state.kadNotes env event) :
    record.Tells env.crates (known ++ (Action.handle env (.swarm (.kad event))).learnt) := by
  cases event with
  | routingUpdated peer addresses isNewPeer =>
    obtain learns | asks := List.mem_append.mp noted
    · obtain ⟨address, -, same⟩ := List.mem_map.mp learns
      cases same
    · cases isNewPeer
      · cases asks
      · nomatch List.mem_singleton.mp asks
  | progressed query result last =>
    cases result with
    | getProviders result =>
      change .report record ∈ state.providersNotes env query result at noted
      unfold State.providersNotes at noted
      split at noted
      · cases noted
      · split at noted
        · exact (tells_found book noted).mono (List.subset_append_left _ _)
        · cases noted
    | getClosestPeers peers =>
      obtain learns | reports := List.mem_append.mp noted
      · obtain ⟨info, -, learns⟩ := List.mem_flatMap.mp learns
        obtain ⟨address, -, same⟩ := List.mem_map.mp learns
        cases same
      · split at reports
        · cases reports
        · split at reports
          · exact (tells_walked reports).mono (List.subset_append_right _ _)
          · cases reports
    | bootstrap ok =>
      cases last
      · cases noted
      · nomatch List.mem_singleton.mp noted
    | other => cases noted
  | other => cases noted

/-- Whatever an action reports was known by then. -/
theorem tells_notes {crates : Crates} {system : System} {action : Action}
    {known : List (PeerId × Multiaddr)} (enabled : system.Enabled crates action)
    (book : ∀ peer, ∀ address ∈ system.state.swarm.addressBook.addressesOf peer,
      (peer, address) ∈ known)
    (noted : .report record ∈ system.notes action) :
    record.Tells crates (known ++ action.learnt) := by
  cases action with
  | ready env => exact absurd noted provideNotes_quiet
  | learn peer address => nomatch List.mem_singleton.mp noted
  | handle env input =>
    cases input with
    | command sent =>
      cases sent with
      | addAddress node address =>
        obtain ⟨peer, -, same⟩ := List.mem_map.mp noted
        cases same
      | topicSubscribe key =>
        change .report record ∈ State.subscribeNotes env _ key at noted
        unfold State.subscribeNotes at noted
        split at noted
        · cases noted
        · split at noted
          · cases noted
          · obtain earlier | looksUp := List.mem_append.mp noted
            · obtain follows | published := List.mem_cons.mp earlier
              · cases follows
              · exact absurd published publishNotes_quiet
            · nomatch List.mem_singleton.mp looksUp
      | topicUnsubscribe key =>
        change .report record ∈ State.unsubscribeNotes _ key at noted
        unfold State.unsubscribeNotes at noted
        split at noted
        · nomatch List.mem_singleton.mp noted
        · cases noted
      | provide key stop =>
        cases stop
        · exact absurd noted publishNotes_quiet
        · cases noted
      | _ => cases noted
    | swarm event =>
      cases event with
      | newListenAddr listener address =>
        change .report record ∈ State.listenNotes address at noted
        unfold State.listenNotes at noted
        split at noted
        · nomatch List.mem_singleton.mp noted
        · cases noted
      | kad event =>
        have same := (System.unnoted_deliver system.state (.swarm (.kad event))).agenda
        have isBook : (system.state.deliver (.swarm (.kad event))).swarm.addressBook =
            system.state.swarm.addressBook := congrArg Agenda.addressBook same
        refine enabled.1 ▸ tells_kadNotes (fun peer address offered => ?_) noted
        exact book peer address (isBook ▸ offered)
      | identified peer info =>
        obtain ⟨address, -, same⟩ := List.mem_map.mp noted
        cases same
      | autonat status =>
        change .report record ∈ State.natNotes _ status at noted
        unfold State.natNotes at noted
        split at noted
        · nomatch List.mem_singleton.mp noted
        · cases noted
      | _ => cases noted
    | tick =>
      obtain looksUp | provides := List.mem_append.mp noted
      · obtain ⟨key, -, same⟩ := List.mem_map.mp looksUp
        cases same
      · split at provides
        · exact absurd provides provideNotes_quiet
        · cases provides
  | _ => cases noted

end

/-- Every line on a peer that was discovered tells what the node was told. -/
theorem System.discovered_told {crates : Crates} {config : Config} {localPeer : PeerId}
    {now : Instant} {actions : List Action} (run : Run crates config localPeer now actions)
    {record : Record}
    (said : .discovered record ∈ lines (after config localPeer now actions).state.log) :
    record.Tells crates (actions.flatMap Action.learnt) := by
  induction actions using List.reverseRecOn with
  | nil => cases said
  | append_singleton actions action inductionHypothesis =>
    rw [after_append_singleton, (writes_step _ action).lines] at said
    rw [List.flatMap_append, List.flatMap_singleton]
    obtain earlier | written := List.mem_append.mp said
    · exact (inductionHypothesis (run.take (List.prefix_append _ _)) earlier).mono
        (List.subset_append_left _ _)
    · obtain ⟨note, noted, line⟩ := List.mem_filterMap.mp written
      obtain rfl : note = .report record := by
        cases note <;> cases line
        rfl
      have enabled : (after config localPeer now actions).Enabled crates action :=
        run actions action (List.prefix_refl _)
      refine tells_notes enabled (fun peer address offered => ?_) noted
      rw [book_after] at offered
      exact AddressBook.mem_run offered

/-- The address book of a node is the one its run fills, so what it offers to a dial of a
peer the node was told of that peer; and so is every address that the caller is told of a
peer that was discovered. -/
theorem System.addresses_learnt {crates : Crates} {config : Config} {localPeer : PeerId}
    {now : Instant} {actions : List Action} (run : Run crates config localPeer now actions) :
    let state := (after config localPeer now actions).state
    let known := actions.flatMap Action.learnt
    state.swarm.addressBook = AddressBook.run known ∧
      (∀ peer, ∀ address ∈ state.swarm.addressBook.handlePendingOutboundConnection (some peer),
        (peer, address) ∈ known) ∧
      ∀ record, .did (.emit record) ∈ state.log → record.header.kind = .peerDiscovered →
        ∃ id peer addresses, record = discovered crates id peer addresses ∧
          ∀ address ∈ addresses, (peer, address) ∈ known := by
  intro state known
  have book : state.swarm.addressBook = AddressBook.run known :=
    book_after config localPeer now actions
  refine ⟨book, fun peer address offered => ?_, fun record emitted ofPeer => ?_⟩
  · rw [book] at offered
    exact AddressBook.mem_run offered
  · have said : .discovered record ∈ lines state.log := by
      refine List.mem_filterMap.mpr ⟨_, emitted, ?_⟩
      exact if_pos ofPeer
    exact discovered_told run said

/-- An address of the remote node. -/
def Sample.told : Multiaddr := [.other "/dns/remote"]

/-- The caller searches for the providers of a topic. -/
def Sample.searched : List Action :=
  [.draw, .ready Sample.env, .handle Sample.env (.command (.findProviders 1 Sample.topic)),
    .learn Sample.remotePeer Sample.told,
    .handle Sample.env (.swarm (.kad (.progressed 1 (.getProviders (.found [Sample.remotePeer]))
      false)))]

/-- It is told of the remote node with the address the node was told of. -/
theorem System.addresses_learnt_found :
    let state := (System.after Sample.config Sample.peer 0 Sample.searched).state
    Sample.told ∈ state.swarm.addressBook.handlePendingOutboundConnection (some Sample.remotePeer) ∧
      (discovered Sample.crates 1 Sample.remotePeer [Sample.told]).Tells Sample.crates
        (Sample.searched.flatMap Action.learnt) := by
  have run : System.Run Sample.crates Sample.config Sample.peer 0 Sample.searched := by
    simp only [System.Run, Sample.searched, Runs.admissible_cons, Runs.admissible_nil, and_true]
    exact ⟨trivial, ⟨rfl, rfl⟩, ⟨rfl, rfl, by decide, trivial⟩, trivial, rfl, .find 1, by decide,
      trivial⟩
  obtain ⟨book, -, told⟩ := System.addresses_learnt run
  refine ⟨by rw [book]; decide, told _ ?_ rfl⟩
  exact List.mem_of_getLast? rfl

end Libp2pFfi
