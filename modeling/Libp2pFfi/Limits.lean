import Libp2pFfi.Arithmetic
import Libp2pFfi.Buckets
import Libp2pFfi.Tables

/-!
# Peer classes and rate limits

A class belongs to a group. A limit is a token bucket for one class, one scope
and one protocol or all of them, counting messages or bytes; a request is
admitted only if every limit that matches it has the tokens it costs. Tokens
are counted in the numbers of an `Arithmetic`; where none is named they are exact
rationals.

The checks of one request are made in one pass that refills and creates buckets
as it goes and stops at the first limit that is short. Tokens are taken in a
second pass, after every limit has agreed.
-/

namespace Libp2pFfi

/-- What a limit counts: one token per request, or one per byte. -/
inductive LimitUnit where
  | messages
  | bytes
deriving DecidableEq, Repr

/-- What identifies a limit. -/
structure RuleId where
  peerClass : Nat
  scope : Nat
  protocol : Nat
  unit : LimitUnit
deriving DecidableEq, Repr

/-- A limit that is set. -/
structure Rule where
  id : RuleId
  rate : Rate
deriving DecidableEq, Repr

/-- The bucket of a rule a request falls into. -/
inductive BucketKey where
  | peer (peer : PeerId)
  | ipPrefix (octets : ByteVec 8)
  | global
deriving DecidableEq

/-- What is left of a rule's tokens for one key, and when it was last refilled. -/
structure Bucket (F : Type := ℚ) where
  tokens : F
  updated : Instant
deriving DecidableEq

/-- The buckets of all rules, by rule and key. -/
abbrev Buckets (F : Type := ℚ) := Table (RuleId × BucketKey) (Bucket F)

/-- What a request is checked by. The IP is none for a relayed connection. -/
structure LimitRequest where
  group : Key
  peer : PeerId
  ip : Option IpAddr
  protocol : Nat

/-- `MAX_BUCKETS`. -/
def maxBuckets : Nat := 1 <<< 16

/-- `EVENTS_PER_SECOND`. -/
def eventsPerSecond : Nat := 10

/-- Classes, rules and buckets, with the window in which refusals are reported. -/
structure Limits (F : Type := ℚ) where
  classes : Table Key Nat := ∅
  rules : List Rule := []
  buckets : Buckets F := ∅
  eventsWindow : Option Instant := none
  eventsInWindow : Nat := 0

/-- An IPv4 /24 or an IPv6 /56, told apart by its first byte. -/
def ipPrefix : IpAddr → ByteVec 8
  | .v4 octets => ⟨4 :: (octets.toList.take 3 ++ List.replicate 4 0), by simp⟩
  | .v6 octets => ⟨6 :: octets.toList.take 7, by simp⟩

/-- The tokens a rate adds in a second. -/
def Rate.perSecond (rate : Rate) (F : Type := ℚ) [Arithmetic F] : F :=
  (rate.amount : F) * ((1000 : Nat) : F) / (rate.intervalMs : F)

/-- Whether a rate sets a limit; any zero field removes it instead. -/
def Rate.sets (rate : Rate) : Bool := rate.amount != 0 && rate.intervalMs != 0 && rate.burst != 0

/-- What a request of `bytes` bytes costs under a rule. -/
def Rule.cost (rule : Rule) (bytes : Nat) (F : Type := ℚ) [Arithmetic F] : F :=
  match rule.id.unit with
  | .messages => (1 : Nat)
  | .bytes => bytes

section

variable {F : Type} [Arithmetic F]

/-- The tokens since the last refill, up to the burst. -/
def Bucket.refill (bucket : Bucket F) (rate : Rate) (now : Instant) : Bucket F where
  tokens := TokenBucket.refill (rate.burst : F) (rate.perSecond F) bucket.tokens
    (asSecs (now - bucket.updated) F)
  updated := now

namespace Limits

/-- The class `LP2P_CLASS_UNKNOWN` takes the group out again. -/
def setClass (limits : Limits F) (group : Key) (peerClass : Nat) : Limits F :=
  if peerClass = classUnknown then { limits with classes := limits.classes.erase group }
  else { limits with classes := limits.classes.insert group peerClass }

/-- A group nobody classified is unknown. -/
def classOf (limits : Limits F) (group : Key) : Nat := (limits.classes.lookup group).getD classUnknown

/-- A rule replaces the one with its id, or takes it out if its rate sets none. -/
def setLimit (limits : Limits F) (id : RuleId) (rate : Rate) : Limits F :=
  let others := limits.rules.filter fun rule => rule.id ≠ id
  if rate.sets then
    -- A changed rate keeps the buckets: what a peer has used stays used.
    { limits with rules := others ++ [{ id, rate }] }
  else
    { limits with
      rules := others
      buckets := limits.buckets.retain fun key _ => key.1 ≠ id }

/-- The bucket a rule of this scope keeps for a request, none when the scope is
an IP prefix and the connection shows no IP of its own. -/
def bucketKey (scope : Nat) (request : LimitRequest) : Option BucketKey :=
  if scope = scopePeer then some (.peer request.peer)
  else if scope = scopeIpPrefix then request.ip.map fun ip => .ipPrefix (ipPrefix ip)
  else some .global

/-- Whether a rule of this class and protocol applies to a request. -/
def applies (peerClass : Nat) (request : LimitRequest) (rule : Rule) : Bool :=
  rule.id.peerClass == peerClass &&
    (rule.id.protocol == protocolAny || rule.id.protocol == request.protocol)

instance instLawfulBEqRuleBucketKey : LawfulBEq (Rule × BucketKey) := inferInstance

/-- The rules that apply to a request, each with the key of its bucket. A prefix rule
has none for a relayed connection. -/
def matching (limits : Limits F) (request : LimitRequest) : List (Rule × BucketKey) :=
  (limits.rules.filter (applies (limits.classOf request.group) request)).filterMap fun rule =>
    (bucketKey rule.id.scope request).map fun key => (rule, key)

/-- The bucket of a rule for a key, a full one when there is none yet. -/
def bucketOr (buckets : Buckets F) (rule : Rule) (key : BucketKey) (now : Instant) : Bucket F :=
  (buckets.lookup (rule.id, key)).getD { tokens := (rule.rate.burst : F), updated := now }

/-- The first pass: create and refill the bucket of each matching rule, up to
the first that has not the tokens, whose scope is the answer. -/
def probe (bytes : Nat) (now : Instant) : Buckets F → List (Rule × BucketKey) → Buckets F × Option Nat
  | buckets, [] => (buckets, none)
  | buckets, (rule, key) :: rest =>
    let bucket := (bucketOr buckets rule key now).refill rule.rate now
    let updated : Buckets F := buckets.insert (rule.id, key) bucket
    if bucket.tokens < rule.cost bytes F then (updated, some rule.id.scope)
    else probe bytes now updated rest

/-- The second pass: take the tokens. -/
def charge (bytes : Nat) : Buckets F → List (Rule × BucketKey) → Buckets F
  | buckets, [] => buckets
  | buckets, (rule, key) :: rest =>
    match buckets.lookup (rule.id, key) with
    | none => charge bytes buckets rest
    | some bucket =>
      charge bytes
        (buckets.insert (rule.id, key) { bucket with tokens := bucket.tokens - rule.cost bytes F }) rest

/-- Forget the buckets that have refilled completely, and those of no rule. -/
def sweep (limits : Limits F) (now : Instant) : Limits F :=
  { limits with
    buckets := limits.buckets.filterMap fun key bucket =>
      match limits.rules.find? fun rule => rule.id = key.1 with
      | none => none
      | some rule =>
        let refilled := bucket.refill rule.rate now
        if refilled.tokens < (rule.rate.burst : F) then some refilled else none }

/-- `check` up to the sweep at its end. -/
def checkUnswept (limits : Limits F) (request : LimitRequest) (bytes : Nat) (now : Instant) :
    Limits F × Except Nat Unit :=
  if limits.classOf request.group = classBlocked then (limits, .error limitedBlocked)
  else
    match probe bytes now limits.buckets (limits.matching request) with
    | (buckets, some scope) => ({ limits with buckets }, .error scope)
    | (buckets, none) =>
      ({ limits with buckets := charge bytes buckets (limits.matching request) }, .ok ())

/-- Admit a request of `bytes` bytes, or answer why it is refused: blocked, or
the scope of the first limit that had not the tokens left. An admitted request
that finds too many buckets sweeps them. -/
def check (limits : Limits F) (request : LimitRequest) (bytes : Nat) (now : Instant) :
    Limits F × Except Nat Unit :=
  match limits.checkUnswept request bytes now with
  | (after, .error reason) => (after, .error reason)
  | (after, .ok ()) =>
    (if after.buckets.len > maxBuckets then after.sweep now else after, .ok ())

/-- Whether another event about a refused request may be emitted now. -/
def mayReport (limits : Limits F) (now : Instant) : Limits F × Bool :=
  let restart := ({ limits with eventsWindow := some now, eventsInWindow := 1 }, true)
  match limits.eventsWindow with
  | none => restart
  | some start =>
    if now - start < Duration.fromSecs 1 then
      -- The count is a `u32`, which wraps in a release build.
      let eventsInWindow := (limits.eventsInWindow + 1) % 2 ^ 32
      ({ limits with eventsInWindow }, eventsInWindow ≤ eventsPerSecond)
    else restart

end Limits

end

/-- A fixed token bucket per peer, for announcements. -/
structure SourceRate (F : Type := ℚ) where
  perSecond : F
  burst : F
  buckets : Table PeerId (Bucket F)

namespace SourceRate

/-- One token every interval, and a burst in reserve. -/
def new (interval : Duration) (burst : Nat) (F : Type := ℚ) [Arithmetic F] : SourceRate F where
  perSecond := ((1 : Nat) : F) / asSecs interval F
  burst := burst
  buckets := ∅

variable {F : Type} [Arithmetic F]

/-- Forget the buckets that would be full again now. -/
def forget (rate : SourceRate F) (now : Instant) : Table PeerId (Bucket F) :=
  rate.buckets.retain fun _ bucket =>
    bucket.tokens + asSecs (now - bucket.updated) F * rate.perSecond < rate.burst

/-- Whether a message of a peer passes. A table that has grown too large is swept first. -/
def allow (rate : SourceRate F) (peer : PeerId) (now : Instant) : SourceRate F × Bool :=
  let buckets := if rate.buckets.len > maxBuckets then rate.forget now else rate.buckets
  let bucket := (buckets.lookup peer).getD { tokens := rate.burst, updated := now }
  let tokens := TokenBucket.refill rate.burst rate.perSecond bucket.tokens
    (asSecs (now - bucket.updated) F)
  if tokens < ((1 : Nat) : F) then
    ({ rate with buckets := buckets.insert peer { tokens, updated := now } }, false)
  else
    ({ rate with
        buckets := buckets.insert peer { tokens := tokens - ((1 : Nat) : F), updated := now } },
      true)

end SourceRate

end Libp2pFfi
