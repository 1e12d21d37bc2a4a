import Libp2pFfi.EventLoop
import Libp2pFfi.Protocols

/-!
# The functions of the interface

The functions of `ffi.rs` that send a command: what each makes of the arguments
a C caller can pass. An argument behind a pointer is `none` for a null pointer,
and so are bytes behind a null pointer with a length other than zero and a string
that is not UTF-8. Of a pointer that is only written to it matters whether it is
null.

A function refuses its arguments with a status, makes a command, or makes one
that needs an id first. The checks look at the handle alone, and a subscription
at a counter of the node.
-/

namespace Libp2pFfi

/-- What a handle knows of its node. -/
structure Handle where
  rpcProtocolCount : Nat
  rpcMaxRequestBytes : UInt32
  rpcTimeout : Duration
  announceMaxPayloadBytes : Option Nat
  topicMaxMessageBytes : Nat
  topicMaxSubscriptions : Nat

/-- The handle that `Node::start` makes. -/
def Handle.new (config : Config) : Handle where
  rpcProtocolCount := config.rpcProtocols.length
  rpcMaxRequestBytes := config.rpcMaxRequestBytes
  rpcTimeout := config.rpcTimeout
  announceMaxPayloadBytes := config.announce.map AnnounceConfig.maxPayloadBytes
  topicMaxMessageBytes := config.topicMaxMessageBytes
  topicMaxSubscriptions := config.topicMaxSubscriptions

/-- A function with its arguments. -/
inductive Invocation where
  | rpcRequest (group nodeKey : Option Key) (protocol : Nat) (data : Option Bytes)
      (timeoutMs : UInt32) (writable : Bool)
  | rpcRespond (requestId : Nat) (data : Option Bytes)
  | rpcReject (requestId : Nat)
  | peerSetClass (group : Option Key) (peerClass : Nat)
  /-- Both units of `set_limit`. -/
  | limitSet (id : RuleId) (rate : Rate)
  | announceSetPayload (data : Option Bytes)
  | topicSubscribe (topicKey : Option Key)
  | topicUnsubscribe (topicKey : Option Key)
  | topicPublish (topicKey : Option Key) (data : Option Bytes)
  | topicPeers (topicKey : Option Key)
  | dhtProvide (recordKey : Option Key)
  | dhtStopProviding (recordKey : Option Key)
  | dhtFindProviders (recordKey : Option Key) (writable : Bool)
  | dhtBootstrap (writable : Bool)
  | dhtRandomWalk (writable : Bool)
  | addAddress (nodeKey : Option Key) (multiaddr : Option String)
  | routingSample (writable : Bool) (maxPeers : Nat)

/-- What a function makes of arguments it takes. -/
inductive Prepared where
  /-- A command to send. -/
  | plain (command : Command)
  /-- A command to send with the next id. -/
  | numbered (make : Nat → Command)

/-- What must be behind a pointer, or must be well formed. -/
def required {α : Type} : Option α → Except Int α
  | some value => .ok value
  | none => .error errInvalidArgument

/-- A node that a call is for must have a key. -/
def targeted (crates : Crates) : Option Key → Except Int (Option PeerId)
  | some target => (required (peerId crates target)).map some
  | none => .ok none

/-- The functions that write a query's id. -/
def query (writable : Bool) (make : Nat → Command) : Except Int Prepared :=
  if writable then .ok (.numbered make) else .error errInvalidArgument

/-- What a function makes of its arguments, with the number of topics followed. -/
def Invocation.prepare (crates : Crates) (handle : Handle) (topicsSubscribed : Nat) :
    Invocation → Except Int Prepared
  | rpcRequest group nodeKey protocol data timeoutMs writable => do
    let group ← required group
    let payload ← required data
    if !writable || protocol ≥ handle.rpcProtocolCount ||
        payload.length > handle.rpcMaxRequestBytes.toNat then
      .error errInvalidArgument
    else do
      let _ ← targeted crates nodeKey
      let timeout :=
        if timeoutMs = 0 then handle.rpcTimeout else Duration.fromMillis timeoutMs.toNat
      .ok (.numbered fun id => .rpc id group nodeKey protocol payload timeout)
  | rpcRespond requestId data => do
    let payload ← required data
    .ok (.plain (.respond requestId payload))
  | rpcReject requestId => .ok (.plain (.reject requestId))
  | peerSetClass group peerClass => do
    let group ← required group
    .ok (.plain (.setClass group peerClass))
  | limitSet id rate =>
    if acceptsLimit handle.rpcProtocolCount id then .ok (.plain (.setLimit id rate))
    else .error errInvalidArgument
  | announceSetPayload data => do
    let payload ← required data
    match handle.announceMaxPayloadBytes with
    | none => .error errUnavailable
    | some max =>
      if payload.length > max then .error errInvalidArgument
      else .ok (.plain (.announceSetPayload payload))
  | topicSubscribe topicKey => do
    let key ← required topicKey
    if topicsSubscribed ≥ handle.topicMaxSubscriptions then .error errLimited
    else .ok (.plain (.topicSubscribe key))
  | topicUnsubscribe topicKey => do
    let key ← required topicKey
    .ok (.plain (.topicUnsubscribe key))
  | topicPublish topicKey data => do
    let key ← required topicKey
    let payload ← required data
    if payload.length > handle.topicMaxMessageBytes then .error errInvalidArgument
    else .ok (.plain (.topicPublish key payload))
  | topicPeers topicKey => do
    let key ← required topicKey
    .ok (.plain (.topicPeers key))
  | dhtProvide recordKey => do
    let key ← required recordKey
    .ok (.plain (.provide key false))
  | dhtStopProviding recordKey => do
    let key ← required recordKey
    .ok (.plain (.provide key true))
  | dhtFindProviders recordKey writable => do
    let key ← required recordKey
    query writable fun id => .findProviders id key
  | dhtBootstrap writable => query writable .bootstrap
  | dhtRandomWalk writable => query writable .randomWalk
  | addAddress nodeKey multiaddr => do
    let target ← required nodeKey
    let _ ← required (peerId crates target)
    let address ← required (← required (multiaddr.map crates.parse))
    .ok (.plain (.addAddress target address))
  | routingSample writable maxPeers =>
    if writable then .ok (.plain (.routingSample maxPeers)) else .error errInvalidArgument

/-! What the event loop may rely on. -/

/-- A command is as the handlers expect it: its payload is within the node's
limits, its protocol is one of the list, its keys are keys, and it does not end the
loop. -/
def Command.Sound (crates : Crates) (config : Config) : Command → Prop
  | rpc _ _ node protocol payload timeout =>
    protocol < config.rpcProtocols.length ∧
      payload.length ≤ config.rpcMaxRequestBytes.toNat ∧
      (∀ key ∈ node, (peerId crates key).isSome) ∧ (config.rpcTimeout ≠ 0 → timeout ≠ 0)
  | addAddress node _ => (peerId crates node).isSome
  | announceSetPayload payload =>
    ∃ announce ∈ config.announce, payload.length ≤ announce.maxPayloadBytes
  | setLimit id _ => acceptsLimit config.rpcProtocols.length id = true
  | topicPublish _ payload => payload.length ≤ config.topicMaxMessageBytes
  | shutdown => False
  | _ => True

/-- What a function prepares is sound, and carries an id exactly if it draws one. -/
def Prepared.Sound (crates : Crates) (config : Config) : Prepared → Prop
  | plain command => command.Sound crates config ∧ command.ids = []
  | numbered make => ∀ id, (make id).Sound crates config ∧ (make id).ids = [id]

section

variable {crates : Crates} {config : Config} {prepared : Prepared}

theorem required_ok {α : Type} {pointer : Option α} {value : α}
    (isThere : required pointer = .ok value) : pointer = some value := by
  cases pointer with
  | none => cases isThere
  | some other => rw [Except.ok.inj isThere]

theorem bind_ok {α β : Type} {first : Except Int α} {next : α → Except Int β} {result : β}
    (succeeds : first >>= next = .ok result) :
    ∃ value, first = .ok value ∧ next value = .ok result := by
  cases first with
  | error => cases succeeds
  | ok value => exact ⟨value, rfl, succeeds⟩

theorem sound_query {writable : Bool} {make : Nat → Command}
    (asked : query writable make = .ok prepared)
    (sound : ∀ id, (make id).Sound crates config ∧ (make id).ids = [id]) :
    prepared.Sound crates config := by
  unfold query at asked
  split at asked
  · rw [← Except.ok.inj asked]
    exact sound
  · cases asked

theorem sound_rpcRequest {topics : Nat} {group nodeKey : Option Key} {protocol : Nat}
    {data : Option Bytes} {timeoutMs : UInt32} {writable : Bool}
    (taken : (Invocation.rpcRequest group nodeKey protocol data timeoutMs writable).prepare crates
      (Handle.new config) topics = .ok prepared) : prepared.Sound crates config := by
  obtain ⟨group, -, taken⟩ := bind_ok taken
  obtain ⟨payload, -, taken⟩ := bind_ok taken
  split at taken
  · cases taken
  · rename_i fits
    obtain ⟨target, isKey, taken⟩ := bind_ok taken
    obtain rfl := Except.ok.inj taken
    simp only [Bool.or_eq_true, Bool.not_eq_eq_eq_not, Bool.not_true, decide_eq_true_eq, not_or,
      ge_iff_le, gt_iff_lt, not_le, not_lt] at fits
    refine fun id => ⟨⟨fits.1.2, fits.2, ?_, ?_⟩, rfl⟩
    · intro key pinned
      rw [pinned] at isKey
      cases isPeer : peerId crates key with
      | none => simp [targeted, isPeer, required, Except.map] at isKey
      | some => rfl
    · intro positive
      split
      · exact positive
      · rename_i given
        have nonzero : timeoutMs.toNat ≠ 0 := fun zero => given (UInt32.toNat_inj.mp zero)
        simpa [Duration.fromMillis] using nonzero

theorem Invocation.prepare_sound {invocation : Invocation} {topics : Nat}
    (taken : invocation.prepare crates (Handle.new config) topics = .ok prepared) :
    prepared.Sound crates config := by
  -- Most functions need nothing but what is behind their pointers.
  have simple {α : Type} {pointer : Option α} {make : α → Command}
      (succeeds : (required pointer >>= fun value => .ok (.plain (make value))) = .ok prepared)
      (sound : ∀ value, (make value).Sound crates config ∧ (make value).ids = []) :
      prepared.Sound crates config := by
    obtain ⟨value, -, made⟩ := bind_ok succeeds
    rw [← Except.ok.inj made]
    exact sound value
  cases invocation with
  | rpcRequest => exact sound_rpcRequest taken
  | rpcRespond requestId data => exact simple taken fun _ => ⟨trivial, rfl⟩
  | rpcReject requestId =>
    rw [← Except.ok.inj taken]
    exact ⟨trivial, rfl⟩
  | peerSetClass group peerClass => exact simple taken fun _ => ⟨trivial, rfl⟩
  | limitSet id rate =>
    simp only [prepare] at taken
    split at taken
    · rename_i accepted
      rw [← Except.ok.inj taken]
      exact ⟨accepted, rfl⟩
    · cases taken
  | announceSetPayload data =>
    obtain ⟨payload, -, taken⟩ := bind_ok taken
    split at taken
    · cases taken
    · rename_i max allowed
      split at taken
      · cases taken
      · rename_i fits
        rw [← Except.ok.inj taken]
        obtain ⟨announce, isAnnounce, rfl⟩ := Option.map_eq_some_iff.mp allowed
        exact ⟨⟨announce, isAnnounce, not_lt.mp fits⟩, rfl⟩
  | topicSubscribe topicKey =>
    obtain ⟨key, -, taken⟩ := bind_ok taken
    split at taken
    · cases taken
    · rw [← Except.ok.inj taken]
      exact ⟨trivial, rfl⟩
  | topicUnsubscribe topicKey => exact simple taken fun _ => ⟨trivial, rfl⟩
  | topicPublish topicKey data =>
    obtain ⟨key, -, taken⟩ := bind_ok taken
    obtain ⟨payload, -, taken⟩ := bind_ok taken
    split at taken
    · cases taken
    · rename_i fits
      rw [← Except.ok.inj taken]
      exact ⟨not_lt.mp fits, rfl⟩
  | topicPeers topicKey => exact simple taken fun _ => ⟨trivial, rfl⟩
  | dhtProvide recordKey => exact simple taken fun _ => ⟨trivial, rfl⟩
  | dhtStopProviding recordKey => exact simple taken fun _ => ⟨trivial, rfl⟩
  | dhtFindProviders recordKey writable =>
    obtain ⟨key, -, taken⟩ := bind_ok taken
    exact sound_query taken fun _ => ⟨trivial, rfl⟩
  | dhtBootstrap writable => exact sound_query taken fun _ => ⟨trivial, rfl⟩
  | dhtRandomWalk writable => exact sound_query taken fun _ => ⟨trivial, rfl⟩
  | addAddress nodeKey multiaddr =>
    obtain ⟨target, -, taken⟩ := bind_ok taken
    obtain ⟨peer, isPeer, taken⟩ := bind_ok taken
    obtain ⟨text, -, taken⟩ := bind_ok taken
    obtain ⟨address, -, taken⟩ := bind_ok taken
    rw [← Except.ok.inj taken]
    exact ⟨Option.isSome_of_mem (required_ok isPeer), rfl⟩
  | routingSample writable maxPeers =>
    simp only [prepare] at taken
    split at taken
    · rw [← Except.ok.inj taken]
      exact ⟨trivial, rfl⟩
    · cases taken

end

end Libp2pFfi
