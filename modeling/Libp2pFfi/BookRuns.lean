import Libp2pFfi.AddressBook
import Mathlib.Data.List.DropRight

/-!
# What the address book holds

The book keeps a table and a queue in step. What it is for can be said without either:
peers are introduced to it, and it holds the last of them; of a peer it holds, it has the
last addresses it was given since the peer was introduced. `Introductions` is that story,
and the book follows it through every sequence of additions.
-/

namespace Libp2pFfi

/-! The last items of a list. -/

section

variable {α : Type} {items : List α} {capacity : Nat}

/-- Among the last are never more than wanted. -/
theorem length_rtake_le (capacity : Nat) (items : List α) :
    (items.rtake capacity).length ≤ capacity := by
  rw [List.rtake, List.length_drop]
  omega

theorem rtake_sublist (capacity : Nat) (items : List α) : (items.rtake capacity).Sublist items :=
  List.drop_sublist _ _

theorem rtake_of_length_le (short : items.length ≤ capacity) : items.rtake capacity = items := by
  rw [List.rtake, Nat.sub_eq_zero_of_le short, List.drop_zero]

/-- One more item takes the place of the first if there are as many as wanted. -/
theorem rtake_concat (some : 0 < capacity) (items : List α) (item : α) :
    (items ++ [item]).rtake capacity =
      (if (items.rtake capacity).length = capacity then (items.rtake capacity).tail
        else items.rtake capacity) ++ [item] := by
  have length : (items.rtake capacity).length = min items.length capacity := by
    rw [List.rtake, List.length_drop]
    omega
  rw [length]
  by_cases full : capacity ≤ items.length
  · rw [if_pos (Nat.min_eq_right full), List.rtake, List.rtake, List.tail_drop, List.length_append,
      List.length_singleton, List.drop_append_of_le_length (by omega)]
    congr 2
    omega
  · have short : (items ++ [item]).length ≤ capacity := by
      rw [List.length_append, List.length_singleton]
      omega
    rw [if_neg (by omega), rtake_of_length_le short, rtake_of_length_le (by omega)]

end

namespace AddressBook

/-- What the book was told: the peers introduced to it, oldest first, and the addresses
each was given since it was introduced last. -/
structure Introductions where
  peers : List PeerId := []
  given : PeerId → List Multiaddr := fun _ => []

/-- The most recently introduced peers. -/
def Introductions.held (introductions : Introductions) : List PeerId :=
  introductions.peers.rtake maxPeers

/-- The peer that makes room for another one: of as many as can be held, the one that was
introduced longest ago. -/
def Introductions.next (introductions : Introductions) : Option PeerId :=
  if introductions.held.length = maxPeers then introductions.held.head? else none

/-- An address of a peer that is held is given to it; any other peer is introduced. -/
def Introductions.add (introductions : Introductions) (peer : PeerId) (address : Multiaddr) :
    Introductions :=
  if peer ∈ introductions.held then
    { introductions with
      given := Function.update introductions.given peer (introductions.given peer ++ [address]) }
  else
    { peers := introductions.peers ++ [peer]
      given := Function.update introductions.given peer [address] }

/-- What is left of addresses given one after the other: each is appended if it is new,
and the oldest are dropped. -/
def remembered (given : List Multiaddr) : List Multiaddr :=
  given.foldl
    (fun list address =>
      if list.contains address then list else (list ++ [address]).rtake maxAddressesPerPeer)
    []

/-! The addresses of one peer. -/

theorem remembered_concat (given : List Multiaddr) (address : Multiaddr) :
    remembered (given ++ [address]) =
      if address ∈ remembered given then remembered given
      else (remembered given ++ [address]).rtake maxAddressesPerPeer := by
  rw [remembered, List.foldl_append]
  exact if_congr List.contains_iff_mem rfl rfl

theorem remembered_length_le (given : List Multiaddr) :
    (remembered given).length ≤ maxAddressesPerPeer := by
  induction given using List.reverseRecOn with
  | nil => exact Nat.zero_le _
  | append_singleton given address inductionHypothesis =>
    rw [remembered_concat]
    split
    · exact inductionHypothesis
    · exact length_rtake_le _ _

theorem remembered_nodup (given : List Multiaddr) : (remembered given).Nodup := by
  induction given using List.reverseRecOn with
  | nil => exact List.nodup_nil
  | append_singleton given address inductionHypothesis =>
    rw [remembered_concat]
    split
    · exact inductionHypothesis
    · rename_i fresh
      have appended : (remembered given ++ [address]).Nodup := by
        rw [← List.concat_eq_append, List.nodup_concat]
        exact ⟨fresh, inductionHypothesis⟩
      exact appended.sublist (rtake_sublist _ _)

/-- The last address given is never forgotten. -/
theorem mem_remembered_last (given : List Multiaddr) (address : Multiaddr) :
    address ∈ remembered (given ++ [address]) := by
  rw [remembered_concat]
  split
  · assumption
  · rw [rtake_concat (by decide)]
    exact List.mem_append_right _ List.mem_cons_self

theorem remembered_ne_nil {given : List Multiaddr} (some : given ≠ []) : remembered given ≠ [] := by
  induction given using List.reverseRecOn with
  | nil => exact absurd rfl some
  | append_singleton given address _ => exact List.ne_nil_of_mem (mem_remembered_last given address)

/-- A peer's list with one more address is what would be remembered. -/
theorem append_remembered (given : List Multiaddr) (address : Multiaddr) :
    append (remembered given) address = remembered (given ++ [address]) := by
  rw [append, remembered_concat]
  split
  · rfl
  · rw [rtake_concat (by decide), rtake_of_length_le (remembered_length_le given)]
    split <;> rfl

/-! The book follows the story. -/

/-- The book holds the last peers introduced, and of each what is left of the addresses
it was given. -/
structure Follows (introductions : Introductions) (book : AddressBook) : Prop where
  order : book.order = introductions.held
  distinct : introductions.held.Nodup
  addresses : ∀ peer, book.addresses.lookup peer =
    if peer ∈ introductions.held then some (remembered (introductions.given peer)) else none
  given : ∀ peer ∈ introductions.held, introductions.given peer ≠ []

section

variable {introductions : Introductions} {book : AddressBook}

/-- The table is as long as the queue. -/
theorem Follows.len (follows : Follows introductions book) :
    book.addresses.len = book.order.length := by
  have keys : book.addresses.keySet = book.order.toFinset := by
    ext peer
    rw [Table.mem_keySet, follows.addresses, List.mem_toFinset, follows.order]
    split <;> simp_all
  rw [← Table.card_keySet, keys, List.toFinset_card_of_nodup (follows.order ▸ follows.distinct)]

/-- The peers held once another one is introduced. -/
theorem held_concat (introductions : Introductions) (peer : PeerId)
    (given : PeerId → List Multiaddr) :
    Introductions.held { peers := introductions.peers ++ [peer], given } =
      (if introductions.held.length = maxPeers then introductions.held.tail
        else introductions.held) ++ [peer] :=
  rtake_concat (by decide) _ _

/-- Making room forgets that peer and no other. -/
theorem Follows.evict (follows : Follows introductions book) :
    book.evict.order =
        (if introductions.held.length = maxPeers then introductions.held.tail
          else introductions.held) ∧
      ∀ peer, book.evict.addresses.lookup peer =
        if introductions.next = some peer then none else book.addresses.lookup peer := by
  have length : book.addresses.len = introductions.held.length := follows.order ▸ follows.len
  unfold AddressBook.evict Introductions.next
  rw [length]
  by_cases full : introductions.held.length = maxPeers
  · rw [if_pos full, if_pos full, if_pos full, follows.order]
    cases held : introductions.held with
    | nil =>
      rw [held] at full
      cases full
    | cons oldest rest =>
      refine ⟨rfl, fun peer => ?_⟩
      rw [Table.lookup_erase_if]
      by_cases same : peer = oldest
      · simp [same]
      · simp [same, Ne.symm same]
  · rw [if_neg full, if_neg full, if_neg full]
    exact ⟨follows.order, fun peer => rfl⟩

/-- Who is held after a peer is introduced: the peer itself, and whoever was held and did
not make room. -/
theorem mem_held_concat (distinct : introductions.held.Nodup) (peer : PeerId)
    (given : PeerId → List Multiaddr) (other : PeerId) :
    other ∈ Introductions.held { peers := introductions.peers ++ [peer], given } ↔
      other = peer ∨ other ∈ introductions.held ∧ introductions.next ≠ some other := by
  rw [held_concat, List.mem_append, List.mem_singleton, or_comm]
  refine or_congr_right ?_
  unfold Introductions.next
  by_cases full : introductions.held.length = maxPeers
  · rw [if_pos full, if_pos full]
    cases held : introductions.held with
    | nil =>
      rw [held] at full
      cases full
    | cons oldest rest =>
      rw [held] at distinct
      have absent := (List.nodup_cons.mp distinct).1
      rw [List.tail_cons, List.head?_cons, List.mem_cons]
      constructor
      · intro member
        refine ⟨.inr member, fun same => ?_⟩
        obtain rfl := Option.some.inj same
        exact absent member
      · rintro ⟨rfl | member, other⟩
        · exact absurd rfl other
        · exact member
  · rw [if_neg full, if_neg full]
    exact ⟨fun member => ⟨member, nofun⟩, And.left⟩

/-- The book follows one more address of a peer it holds. -/
theorem Follows.add_known (follows : Follows introductions book) {peer : PeerId}
    (known : peer ∈ introductions.held) (address : Multiaddr) :
    Follows (introductions.add peer address) (book.add peer address) := by
  unfold Introductions.add AddressBook.add
  rw [follows.addresses, if_pos known, if_pos known]
  dsimp only
  rw [append_remembered]
  refine ⟨follows.order, follows.distinct, fun other => ?_, fun other member => ?_⟩
  · show (AList.insert peer _ book.addresses).lookup other = if other ∈ introductions.held then _ else _
    dsimp only
    rw [Table.lookup_insert_if, follows.addresses]
    by_cases same : other = peer
    · rw [if_pos same, same, if_pos known, Function.update_self]
    · rw [if_neg same, Function.update_of_ne same]
  · show Function.update introductions.given peer _ other ≠ []
    by_cases same : other = peer
    · rw [same, Function.update_self]
      exact List.append_ne_nil_of_right_ne_nil _ (List.cons_ne_nil _ _)
    · rw [Function.update_of_ne same]
      exact follows.given other member

/-- Introducing a peer that is not held names nobody twice. -/
theorem held_concat_nodup (distinct : introductions.held.Nodup) {peer : PeerId}
    (unknown : peer ∉ introductions.held) (given : PeerId → List Multiaddr) :
    (Introductions.held { peers := introductions.peers ++ [peer], given }).Nodup := by
  have fewer : (if introductions.held.length = maxPeers then introductions.held.tail
      else introductions.held).Sublist introductions.held := by
    split
    · exact List.tail_sublist _
    · exact List.Sublist.refl _
  rw [held_concat, ← List.concat_eq_append, List.nodup_concat]
  exact ⟨fun member => unknown (fewer.subset member), distinct.sublist fewer⟩

/-- Who did not make room is still there, with the same addresses. -/
theorem Follows.lookup_evict (follows : Follows introductions book) (other : PeerId) :
    book.evict.addresses.lookup other =
      if other ∈ introductions.held ∧ introductions.next ≠ some other then
        some (remembered (introductions.given other))
      else none := by
  rw [follows.evict.2, follows.addresses]
  by_cases forgotten : introductions.next = some other
  · rw [if_pos forgotten, if_neg (fun stays => stays.2 forgotten)]
  · rw [if_neg forgotten]
    exact if_congr (and_iff_left forgotten).symm rfl rfl

/-- And the introduction of a peer it does not. -/
theorem Follows.add_unknown (follows : Follows introductions book) {peer : PeerId}
    (unknown : peer ∉ introductions.held) (address : Multiaddr) :
    Follows (introductions.add peer address) (book.add peer address) := by
  unfold Introductions.add AddressBook.add
  rw [follows.addresses, if_neg unknown, if_neg unknown]
  dsimp only
  have held := mem_held_concat follows.distinct peer
    (Function.update introductions.given peer [address])
  constructor
  · rw [follows.evict.1, held_concat]
  · exact held_concat_nodup follows.distinct unknown _
  · intro other
    rw [Table.lookup_insert_if, follows.lookup_evict]
    dsimp only
    by_cases same : other = peer
    · rw [if_pos same, if_pos ((held other).mpr (.inl same)), same, Function.update_self]
      rfl
    · rw [if_neg same, Function.update_of_ne same]
      exact if_congr ((held other).trans (or_iff_right same)).symm rfl rfl
  · intro other member
    dsimp only
    by_cases same : other = peer
    · rw [same, Function.update_self]
      exact List.cons_ne_nil _ _
    · rw [Function.update_of_ne same]
      exact follows.given other (((held other).mp member).resolve_left same).1

theorem Follows.add (follows : Follows introductions book) (peer : PeerId) (address : Multiaddr) :
    Follows (introductions.add peer address) (book.add peer address) := by
  by_cases known : peer ∈ introductions.held
  · exact follows.add_known known address
  · exact follows.add_unknown known address

end

/-! Every sequence of additions. -/

/-- A new book after these additions. -/
def run (calls : List (PeerId × Multiaddr)) : AddressBook :=
  calls.foldl (fun book call => book.add call.1 call.2) {}

def Introductions.run (calls : List (PeerId × Multiaddr)) : Introductions :=
  calls.foldl (fun introductions call => introductions.add call.1 call.2) {}

theorem follows_empty : Follows {} {} := by
  have none : Introductions.held {} = [] := List.rtake_nil _
  constructor
  · rw [none]
  · rw [none]
    exact List.nodup_nil
  · intro peer
    rw [none, if_neg List.not_mem_nil]
    rfl
  · intro peer member
    rw [none] at member
    exact absurd member List.not_mem_nil

theorem follows_calls {introductions : Introductions} {book : AddressBook}
    (follows : Follows introductions book) (calls : List (PeerId × Multiaddr)) :
    Follows (calls.foldl (fun introductions call => introductions.add call.1 call.2) introductions)
      (calls.foldl (fun book call => book.add call.1 call.2) book) := by
  induction calls generalizing introductions book with
  | nil => exact follows
  | cons call rest inductionHypothesis =>
    rw [List.foldl_cons, List.foldl_cons]
    exact inductionHypothesis (follows.add call.1 call.2)

theorem follows_run (calls : List (PeerId × Multiaddr)) :
    Follows (Introductions.run calls) (run calls) :=
  follows_calls follows_empty calls

/-- The peer that an addition for `peer` removes. -/
def evicts (book : AddressBook) (peer : PeerId) : Option PeerId :=
  if book.knows peer then none
  else if book.addresses.len = maxPeers then book.order.head? else none

/-- The table and the queue are in step and within their bounds, and they hold what the
introductions leave. -/
structure Holds (introductions : Introductions) (book : AddressBook) : Prop where
  distinct : book.order.Nodup
  keys : ∀ peer, peer ∈ book.order ↔ book.knows peer = true
  peers : book.addresses.len ≤ maxPeers
  lists : ∀ peer list, book.addresses.lookup peer = some list →
    1 ≤ list.length ∧ list.length ≤ maxAddressesPerPeer ∧ list.Nodup
  recent : book.order = introductions.peers.rtake maxPeers
  remembers : ∀ peer, book.knows peer = true →
    book.addressesOf peer = remembered (introductions.given peer)
  dials : ∀ peer, book.knows peer = true → book.handlePendingOutboundConnection (some peer) ≠ []

/-- What an addition does. -/
structure Adds (book : AddressBook) (peer : PeerId) (address : Multiaddr) (after : AddressBook) :
    Prop where
  known : after.knows peer = true
  offered : address ∈ after.handlePendingOutboundConnection (some peer)
  others : ∀ other, other ≠ peer → after.addresses.lookup other =
    if book.evicts peer = some other then none else book.addresses.lookup other

section

variable {introductions : Introductions} {book : AddressBook}

theorem Follows.knows_iff (follows : Follows introductions book) (peer : PeerId) :
    book.knows peer = true ↔ peer ∈ introductions.held := by
  rw [knows, follows.addresses]
  split <;> simp_all

theorem Follows.holds (follows : Follows introductions book) : Holds introductions book := by
  have entry {peer : PeerId} {list : List Multiaddr}
      (found : book.addresses.lookup peer = some list) :
      peer ∈ introductions.held ∧ list = remembered (introductions.given peer) := by
    rw [follows.addresses] at found
    split at found
    · rename_i member
      exact ⟨member, (Option.some.inj found).symm⟩
    · cases found
  have listed {peer : PeerId} (known : book.knows peer = true) :
      book.addresses.lookup peer = some (remembered (introductions.given peer)) := by
    rw [follows.addresses, if_pos ((follows.knows_iff peer).mp known)]
  constructor
  · exact follows.order ▸ follows.distinct
  · intro peer
    rw [follows.order, follows.knows_iff]
  · rw [follows.len, follows.order]
    exact length_rtake_le _ _
  · intro peer list found
    obtain ⟨member, rfl⟩ := entry found
    have some := remembered_ne_nil (follows.given peer member)
    exact ⟨List.length_pos_of_ne_nil some, remembered_length_le _, remembered_nodup _⟩
  · exact follows.order
  · intro peer known
    rw [addressesOf, listed known, Option.getD_some]
  · intro peer known
    have member := (follows.knows_iff peer).mp known
    rw [handlePendingOutboundConnection, Option.bind_some, listed known, Option.getD_some]
    exact remembered_ne_nil (follows.given peer member)

theorem Follows.adds (follows : Follows introductions book) (peer : PeerId) (address : Multiaddr) :
    Adds book peer address (book.add peer address) := by
  have after := follows.add peer address
  have added : peer ∈ (introductions.add peer address).held ∧
      ∃ given, (introductions.add peer address).given peer = given ++ [address] := by
    unfold Introductions.add
    by_cases known : peer ∈ introductions.held
    · rw [if_pos known]
      exact ⟨known, _, Function.update_self ..⟩
    · rw [if_neg known]
      exact ⟨(mem_held_concat follows.distinct peer _ peer).mpr (.inl rfl), [],
        Function.update_self ..⟩
  obtain ⟨held, given, last⟩ := added
  have listed : (book.add peer address).addresses.lookup peer =
      some (remembered (given ++ [address])) := by
    rw [after.addresses, if_pos held, last]
  constructor
  · exact (after.knows_iff peer).mpr held
  · rw [handlePendingOutboundConnection, Option.bind_some, listed, Option.getD_some]
    exact mem_remembered_last given address
  · intro other different
    have full : book.addresses.len = introductions.held.length := follows.order ▸ follows.len
    unfold AddressBook.add evicts
    by_cases known : peer ∈ introductions.held
    · rw [follows.addresses, if_pos known, if_pos ((follows.knows_iff peer).mpr known)]
      dsimp only
      rw [Table.lookup_insert_if, if_neg different, if_neg nofun]
    · rw [follows.addresses, if_neg known,
        if_neg (fun knows => known ((follows.knows_iff peer).mp knows)), full, follows.order]
      dsimp only
      rw [Table.lookup_insert_if, if_neg different]
      exact follows.evict.2 other

end

/-- The book is what it says, through every sequence of additions: the most recently
introduced peers with the last addresses of each, table and queue in step; and every
further addition is offered to dials, and leaves everyone else alone except the peer
introduced longest ago, when a new peer comes to a full book. -/
theorem book_exact (calls : List (PeerId × Multiaddr)) :
    Holds (Introductions.run calls) (run calls) ∧
      ∀ peer address, Adds (run calls) peer address ((run calls).add peer address) :=
  ⟨(follows_run calls).holds, (follows_run calls).adds⟩

end AddressBook

end Libp2pFfi
