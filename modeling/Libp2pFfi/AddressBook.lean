import Libp2pFfi.Crates
import Libp2pFfi.Tables

/-!
# Addresses of peers that are not in the routing table

What the node learned about where peers can be reached, offered to every dial.
It is bounded: when it is full the peer that was introduced first is forgotten,
and of one peer the oldest address.
-/

namespace Libp2pFfi

structure AddressBook where
  addresses : Table PeerId (List Multiaddr) := ∅
  order : List PeerId := []

namespace AddressBook

/-- `MAX_PEERS`. -/
def maxPeers : Nat := 4096

/-- `MAX_ADDRESSES_PER_PEER`. -/
def maxAddressesPerPeer : Nat := 8

/-- A peer's list with one more address, unless it holds the address already. -/
def append (list : List Multiaddr) (address : Multiaddr) : List Multiaddr :=
  if address ∈ list then list
  else if list.length = maxAddressesPerPeer then list.tail ++ [address]
  else list ++ [address]

/-- The book with room for one more peer. -/
def evict (book : AddressBook) : AddressBook :=
  if book.addresses.len = maxPeers then
    match book.order with
    | [] => book
    | oldest :: order => { addresses := book.addresses.erase oldest, order }
  else book

def add (book : AddressBook) (peer : PeerId) (address : Multiaddr) : AddressBook :=
  match book.addresses.lookup peer with
  | some list => { book with addresses := book.addresses.insert peer (append list address) }
  | none =>
    { addresses := book.evict.addresses.insert peer [address]
      order := book.evict.order ++ [peer] }

/-- Add several addresses of one peer. -/
def addAll (book : AddressBook) (peer : PeerId) (addresses : List Multiaddr) : AddressBook :=
  addresses.foldl (fun book address => book.add peer address) book

def addressesOf (book : AddressBook) (peer : PeerId) : List Multiaddr :=
  (book.addresses.lookup peer).getD []

def knows (book : AddressBook) (peer : PeerId) : Bool := (book.addresses.lookup peer).isSome

/-- The addresses the book offers to a dial, which may not know its peer. -/
def handlePendingOutboundConnection (book : AddressBook) (maybePeer : Option PeerId) :
    List Multiaddr :=
  (maybePeer.bind fun peer => book.addresses.lookup peer).getD []

end AddressBook

end Libp2pFfi
