import Libp2pFfi.Delegation
import Libp2pFfi.RateBound
import Libp2pFfi.Runs

/-!
# How many buckets are remembered

Buckets that are full again are forgotten, by a sweep that a check makes when it
was admitted and finds more than `maxBuckets` of them. The bound this is meant to
give is `maxBuckets` and one bucket more per rule. It is not kept on every run: a
refused check creates buckets and never sweeps, and a sweep keeps every bucket
that is still short of its burst, however many these are.

What is shown is exactly when the bound is kept. The set of remembered buckets
after a call is computed from the state before it, and with it the condition
under which one call keeps the bound; a run keeps the bound throughout if and
only if each of its calls meets that condition.

Whether a bucket is full again can depend on how its refills were rounded. The
condition therefore counts tokens in the limiter's own arithmetic, whichever that
is, and nothing is assumed of it; the runs that break the bound are runs in doubles.
-/

namespace Libp2pFfi.Limits

variable {F : Type}

/-- The buckets there are. -/
def remembered (limits : Limits F) : Finset (RuleId × BucketKey) := limits.buckets.keySet

/-- How many buckets there should be at most. -/
def bound (limits : Limits F) : Nat := maxBuckets + limits.rules.length

def Bounded (limits : Limits F) : Prop := limits.buckets.len ≤ limits.bound

theorem card_remembered (limits : Limits F) : limits.remembered.card = limits.buckets.len :=
  Table.card_keySet limits.buckets

theorem mem_remembered {limits : Limits F} {slot : RuleId × BucketKey} :
    slot ∈ limits.remembered ↔ ∃ bucket, limits.buckets.lookup slot = some bucket := by
  rw [remembered, Table.mem_keySet, Option.isSome_iff_exists]

/-- Of the rules, a removed limit takes exactly one away. -/
theorem others_length {limits : Limits F} (tidy : Tidy limits) {rule : Rule}
    (member : rule ∈ limits.rules) :
    (limits.rules.filter fun other => other.id ≠ rule.id).length + 1 = limits.rules.length := by
  have once : limits.rules.countP (fun other => other.id = rule.id) = 1 := by
    have counted := List.count_eq_one_of_mem tidy.unique (List.mem_map_of_mem member)
    rw [List.count_eq_countP, List.countP_map] at counted
    rw [← counted]
    congr
  have split := List.length_eq_countP_add_countP (fun other : Rule => other.id = rule.id)
    (l := limits.rules)
  rw [once] at split
  rw [← List.countP_eq_length_filter, split, add_comm]
  simp

/-- Removing a limit forgets the buckets that are its own. -/
theorem remembered_removal (limits : Limits F) (id : RuleId) {rate : Rate}
    (removes : rate.sets = false) :
    (limits.setLimit id rate).remembered = limits.remembered.filter fun slot => slot.1 ≠ id := by
  ext slot
  rw [Finset.mem_filter, mem_remembered, mem_remembered, setLimit_lookup]
  by_cases own : slot.1 = id <;> simp [own, removes]

/-- Without the buckets of one limit there is room for one limit less exactly if
a place was free before, or the limit had a bucket. -/
theorem card_without_iff {slots : Finset (RuleId × BucketKey)} {id : RuleId} {bound less : Nat}
    (present : slots.card ≤ bound) (one : less + 1 = bound) :
    (slots.filter fun slot => slot.1 ≠ id).card ≤ less ↔
      slots.card < bound ∨ ∃ key, (id, key) ∈ slots := by
  constructor
  · intro fits
    by_contra tight
    simp only [not_or, not_lt, not_exists] at tight
    have all : slots.filter (fun slot => slot.1 ≠ id) = slots := by
      apply Finset.filter_true_of_mem
      intro slot inTable own
      exact tight.2 slot.2 (own ▸ inTable)
    rw [all] at fits
    omega
  · rintro (free | ⟨key, own⟩)
    · have := Finset.card_filter_le slots fun slot => slot.1 ≠ id
      omega
    · have fewer : (slots.filter fun slot => slot.1 ≠ id).card < slots.card :=
        Finset.card_lt_card (Finset.filter_ssubset.mpr ⟨(id, key), own, by simp⟩)
      omega

variable [Arithmetic F]

/-- The buckets a check looks at: none for a blocked group, else those of the
matching rules up to the first that has not the tokens. -/
def asked (limits : Limits F) (request : LimitRequest) (bytes : Nat) (now : Instant) :
    Finset (RuleId × BucketKey) :=
  if limits.classOf request.group = classBlocked then ∅
  else ((visited (unpaid bytes now limits.buckets) (limits.matching request)).map slot).toFinset

/-- Whether every limit that matches a request has the tokens for it. -/
def admits (limits : Limits F) (request : LimitRequest) (bytes : Nat) (now : Instant) : Prop :=
  limits.classOf request.group ≠ classBlocked ∧
    (limits.matching request).find? (unpaid bytes now limits.buckets) = none

/-- The bucket of a rule for a key once the request has been paid for: brought up to
date and charged if the rule matches, and as it was if it does not. -/
def paidFor (limits : Limits F) (request : LimitRequest) (bytes : Nat) (now : Instant)
    (rule : Rule) (key : BucketKey) : Option (Bucket F) :=
  if (rule, key) ∈ limits.matching request then
    some ⟨(refreshed limits.buckets rule key now).tokens - rule.cost bytes F, now⟩
  else limits.buckets.lookup (rule.id, key)

/-- Whether a bucket is short of its burst once the request has been paid for. -/
def shortAfter (limits : Limits F) (request : LimitRequest) (bytes : Nat) (now : Instant)
    (slot : RuleId × BucketKey) : Prop :=
  ∃ rule ∈ limits.rules, rule.id = slot.1 ∧
    (limits.paidFor request bytes now rule slot.2).any (isShort rule now) = true

instance (limits : Limits F) (request : LimitRequest) (bytes : Nat) (now : Instant) :
    DecidablePred (limits.shortAfter request bytes now) := fun slot =>
  inferInstanceAs (Decidable (∃ rule ∈ limits.rules, rule.id = slot.1 ∧
    (limits.paidFor request bytes now rule slot.2).any (isShort rule now) = true))

/-- Of the buckets a check finds or creates, those a sweep right after it keeps. -/
def keptBySweep (limits : Limits F) (request : LimitRequest) (bytes : Nat)
    (now : Instant) : Finset (RuleId × BucketKey) :=
  (limits.remembered ∪ limits.asked request bytes now).filter
    (limits.shortAfter request bytes now)

/-- The condition under which a call keeps the bound. A check must find room for
the buckets it lacks, or else be admitted and leave few enough buckets short of
their burst. A limit that is removed must take a bucket with it, unless the
table is not filled up to its bound. -/
def Room (limits : Limits F) : LimitOp → Prop
  | .setClass _ _ => True
  | .setLimit id rate =>
    rate.sets = true ∨ (∀ rule ∈ limits.rules, rule.id ≠ id) ∨
      limits.buckets.len < limits.bound ∨ ∃ key, (id, key) ∈ limits.remembered
  | .check request bytes now =>
    (limits.remembered ∪ limits.asked request bytes now).card ≤ limits.bound ∨
      limits.admits request bytes now ∧
        (limits.keptBySweep request bytes now).card ≤ limits.bound
  | .sweep _ => True

/-- A sweep keeps the buckets that are short of their burst. -/
theorem remembered_sweep {limits : Limits F} (tidy : Tidy limits) (now : Instant) :
    (limits.sweep now).remembered = limits.remembered.filter fun slot =>
      ∃ rule ∈ limits.rules, rule.id = slot.1 ∧
        (limits.buckets.lookup slot).any (isShort rule now) = true := by
  ext ⟨id, key⟩
  rw [Finset.mem_filter, mem_remembered, mem_remembered]
  cases found : limits.buckets.lookup (id, key) with
  | none => simp [sweep, found]
  | some bucket =>
    obtain ⟨rule, member, owner⟩ := tidy.owned _ bucket found
    obtain rfl : rule.id = id := owner
    rw [sweep_lookup tidy member, found, Option.bind_some]
    simp only [Option.any_some]
    constructor
    · rintro ⟨kept, isKept⟩
      refine ⟨⟨bucket, rfl⟩, rule, member, rfl, ?_⟩
      by_contra full
      rw [if_neg full] at isKept
      cases isKept
    · rintro ⟨-, other, otherMember, sameId, short⟩
      obtain rfl : other = rule := tidy.same otherMember member sameId
      exact ⟨_, if_pos short⟩

/-- An empty bucket of one token a second, looked at nine times at intervals of a
tenth of a second. -/
def lookedAt (F : Type) [Arithmetic F] : Bucket F :=
  (List.range 9).foldl (fun bucket index => bucket.refill ⟨1, 1000, 1⟩ ((index + 1) * 100000000))
    ⟨((0 : Nat) : F), 0⟩

-- After the whole second it is full again, but not in doubles.
example : isShort ⟨perPeerRule.id, 1, 1000, 1⟩ 1000000000 (lookedAt Float) = true ∧
    isShort ⟨perPeerRule.id, 1, 1000, 1⟩ 1000000000 (lookedAt ℚ) = false := by
  decide +kernel

/-- A check remembers what was remembered and what it asked for. -/
theorem remembered_checkUnswept {limits : Limits F} (tidy : Tidy limits) (request : LimitRequest)
    (bytes : Nat) (now : Instant) :
    (limits.checkUnswept request bytes now).1.remembered =
      limits.remembered ∪ limits.asked request bytes now := by
  have distinct := matching_distinct tidy.unique request
  unfold asked
  rcases checkUnswept_ends tidy.unique request bytes now with
    ⟨blocked, same⟩ | ⟨notBlocked, pair, -, same⟩ | ⟨notBlocked, enough, same⟩
  · rw [same, if_pos blocked, Finset.union_empty]
  · have sublist := visited_subset (unpaid bytes now limits.buckets) (limits.matching request)
    rw [same, if_neg notBlocked]
    ext slot
    rw [Finset.mem_union, List.mem_toFinset, mem_remembered, mem_remembered]
    by_cases touched : slot ∈ (visited (unpaid bytes now limits.buckets)
        (limits.matching request)).map Limits.slot
    · obtain ⟨pair, inPairs, rfl⟩ := List.mem_map.mp touched
      have held := touch_member now limits.buckets limits.buckets _
        ((sublist.map Limits.slot).nodup distinct) pair inPairs
      exact iff_of_true ⟨_, held⟩ (.inr touched)
    · rw [touch_other now limits.buckets limits.buckets _ slot touched, or_iff_left touched]
  · obtain ⟨charged, others⟩ := admitted_charged tidy.unique same
    rw [same, if_neg notBlocked, visited_all enough]
    ext slot
    rw [Finset.mem_union, List.mem_toFinset, mem_remembered, mem_remembered]
    by_cases matched : slot ∈ (limits.matching request).map Limits.slot
    · obtain ⟨⟨rule, key⟩, member, rfl⟩ := List.mem_map.mp matched
      exact iff_of_true ⟨_, (charged rule key member).2⟩ (.inr matched)
    · rw [others slot matched, or_iff_left matched]

/-- After an admitted check the bucket of a rule in force is the one paid for. -/
theorem lookup_admitted {limits : Limits F} (tidy : Tidy limits) {request : LimitRequest}
    {bytes : Nat} {now : Instant} {after : Limits F}
    (admitted : limits.checkUnswept request bytes now = (after, .ok ())) {rule : Rule}
    (member : rule ∈ limits.rules) (key : BucketKey) :
    after.buckets.lookup (rule.id, key) = limits.paidFor request bytes now rule key := by
  obtain ⟨charged, others⟩ := admitted_charged tidy.unique admitted
  unfold paidFor
  by_cases matched : (rule, key) ∈ limits.matching request
  · rw [if_pos matched, (charged rule key matched).2]
  · rw [if_neg matched]
    apply others
    intro inSlots
    obtain ⟨⟨other, otherKey⟩, inMatching, same⟩ := List.mem_map.mp inSlots
    obtain ⟨sameId, rfl⟩ := Prod.mk.inj same
    obtain rfl : other = rule := tidy.same (mem_matching.mp inMatching).1 member sameId
    exact matched inMatching

/-- An admitted check that sweeps remembers what it leaves short of its burst. -/
theorem remembered_swept {limits : Limits F} (tidy : Tidy limits) {request : LimitRequest}
    {bytes : Nat} {now : Instant} {after : Limits F}
    (admitted : limits.checkUnswept request bytes now = (after, .ok ())) :
    (after.sweep now).remembered = limits.keptBySweep request bytes now := by
  have unswept : (limits.checkUnswept request bytes now).1 = after := by rw [admitted]
  have afterTidy : Tidy after := unswept ▸ tidy_checkUnswept tidy request bytes now
  have sameRules : after.rules = limits.rules :=
    unswept ▸ checkUnswept_rules limits request bytes now
  rw [remembered_sweep afterTidy, ← unswept, remembered_checkUnswept tidy, unswept, keptBySweep]
  refine Finset.filter_congr fun slot _ => ?_
  rw [shortAfter, sameRules]
  refine exists_congr fun rule => and_congr_right fun member => and_congr_right fun owner => ?_
  rw [← lookup_admitted tidy admitted member slot.2, owner]

/-- What is remembered after the whole check. -/
theorem remembered_check {limits : Limits F} (tidy : Tidy limits) (request : LimitRequest)
    (bytes : Nat) (now : Instant) :
    (limits.check request bytes now).1.remembered =
      limits.remembered ∪ limits.asked request bytes now ∧
        ((limits.remembered ∪ limits.asked request bytes now).card ≤ maxBuckets ∨
          ¬ limits.admits request bytes now) ∨
    (limits.check request bytes now).1.remembered = limits.keptBySweep request bytes now ∧
      limits.admits request bytes now := by
  have found := remembered_checkUnswept tidy request bytes now
  rcases checkUnswept_ends tidy.unique request bytes now with
    ⟨blocked, same⟩ | ⟨-, pair, lacking, same⟩ | ⟨notBlocked, enough, same⟩
  · rw [same] at found
    refine .inl ⟨?_, .inr fun admits => admits.1 blocked⟩
    rw [check, same]
    exact found
  · rw [same] at found
    refine .inl ⟨?_, .inr fun admits => ?_⟩
    · rw [check, same]
      exact found
    · cases lacking.symm.trans admits.2
  · have swept := remembered_swept tidy same
    rw [same] at found
    rw [check, same]
    dsimp only at found ⊢
    split
    · exact .inr ⟨swept, notBlocked, enough⟩
    · rename_i few
      refine .inl ⟨found, .inl ?_⟩
      rw [← found, card_remembered]
      exact not_lt.mp few

theorem keptBySweep_subset (limits : Limits F) (request : LimitRequest) (bytes : Nat)
    (now : Instant) :
    limits.keptBySweep request bytes now ⊆
      limits.remembered ∪ limits.asked request bytes now := by
  unfold keptBySweep
  exact Finset.filter_subset _ _

/-- A check keeps the bound exactly when it finds room. -/
theorem bounded_check {limits : Limits F} (tidy : Tidy limits) (request : LimitRequest)
    (bytes : Nat) (now : Instant) :
    Bounded (limits.check request bytes now).1 ↔ Room limits (.check request bytes now) := by
  have smaller := Finset.card_le_card (limits.keptBySweep_subset request bytes now)
  unfold Bounded Room
  rw [← card_remembered, bound, bound, check_rules]
  rcases remembered_check tidy request bytes now with ⟨found, few | refused⟩ | ⟨found, admits⟩
  · rw [found]
    constructor
    · exact .inl
    · intro _
      omega
  · rw [found]
    exact ⟨.inl, fun room => room.resolve_right fun both => refused both.1⟩
  · rw [found]
    constructor
    · exact fun kept => .inr ⟨admits, kept⟩
    · rintro (room | ⟨-, kept⟩)
      · omega
      · exact kept

/-- Setting a limit keeps the bound exactly when it finds room. -/
theorem bounded_setLimit {limits : Limits F} (tidy : Tidy limits)
    (bounded : Bounded limits) (id : RuleId) (rate : Rate) :
    Bounded (limits.setLimit id rate) ↔ Room limits (.setLimit id rate) := by
  have present : limits.remembered.card ≤ limits.bound := by
    rw [card_remembered]
    exact bounded
  unfold Bounded Room
  rw [← card_remembered, ← card_remembered]
  by_cases known : ∃ rule ∈ limits.rules, rule.id = id
  · obtain ⟨rule, member, rfl⟩ := known
    have length := others_length tidy member
    cases sets : rate.sets with
    | true =>
      have kept : (limits.setLimit rule.id rate).remembered = limits.remembered := by
        simp [setLimit, sets, remembered]
      have sameLength : (limits.setLimit rule.id rate).bound = limits.bound := by
        simp [setLimit, sets, bound, ← length]
      rw [kept, sameLength]
      exact iff_of_true present (.inl sets)
    | false =>
      have removed := remembered_removal limits rule.id sets
      have less : (limits.setLimit rule.id rate).bound + 1 = limits.bound := by
        simp [setLimit, sets, bound, ← length]
        omega
      have known : ¬ ∀ other ∈ limits.rules, other.id ≠ rule.id := fun none => none rule member rfl
      simp only [known, sets, Bool.false_eq_true, false_or]
      rw [removed]
      exact card_without_iff present less
  · have unknown : ∀ rule ∈ limits.rules, rule.id ≠ id := by simpa using known
    have others : limits.rules.filter (fun rule => rule.id ≠ id) = limits.rules :=
      List.filter_eq_self.mpr fun rule member => by simpa using unknown rule member
    refine iff_of_true ?_ (.inr (.inl unknown))
    have grown : limits.bound ≤ (limits.setLimit id rate).bound := by
      unfold setLimit bound
      rw [others]
      split <;> simp
    have fewer : (limits.setLimit id rate).remembered ⊆ limits.remembered := by
      intro slot
      rw [mem_remembered, mem_remembered, setLimit_lookup]
      split <;> simp
    exact (Finset.card_le_card fewer).trans (present.trans grown)

/-- One call keeps the bound exactly when it finds room. -/
theorem bounded_apply {limits : Limits F} (tidy : Tidy limits) (bounded : Bounded limits)
    (op : LimitOp) : Bounded (limits.apply op) ↔ Room limits op := by
  cases op with
  | setClass group peerClass =>
    obtain ⟨rules, buckets⟩ := setClass_rules limits group peerClass
    refine iff_of_true ?_ trivial
    rw [Bounded, bound, apply, rules, buckets]
    exact bounded
  | setLimit id rate => exact bounded_setLimit tidy bounded id rate
  | check request bytes now => exact bounded_check tidy request bytes now
  | sweep now =>
    refine iff_of_true ?_ trivial
    exact (Table.len_filterMap_le _ limits.buckets).trans bounded

end Libp2pFfi.Limits

namespace Libp2pFfi.SourceRate

/-- One call of `allow`: the peer and the time. -/
abbrev AllowCall := PeerId × Instant

variable {F : Type}

def Bounded (rate : SourceRate F) : Prop := rate.buckets.len ≤ maxBuckets + 1

variable [Arithmetic F]

def apply (rate : SourceRate F) (call : AllowCall) : SourceRate F := (rate.allow call.1 call.2).1

def run (interval : Duration) (burst : Nat) (calls : List AllowCall) (F : Type := ℚ)
    [Arithmetic F] : SourceRate F :=
  calls.foldl apply (new interval burst F)

/-- Whether a bucket would be full again, so that it is forgotten. -/
def fullAgain (rate : SourceRate F) (now : Instant) (bucket : Bucket F) : Prop :=
  ¬ bucket.tokens + asSecs (now - bucket.updated) F * rate.perSecond < rate.burst

/-- The condition under which a call keeps the bound: there is room, or the peer
is known, or some bucket can be forgotten. -/
def Room (rate : SourceRate F) (call : AllowCall) : Prop :=
  rate.buckets.len ≤ maxBuckets ∨ call.1 ∈ rate.buckets.keySet ∨
    ∃ peer bucket, rate.buckets.lookup peer = some bucket ∧ rate.fullAgain call.2 bucket

theorem mem_forget {rate : SourceRate F} {now : Instant} {peer : PeerId} :
    peer ∈ (rate.forget now).keySet ↔
      ∃ bucket, rate.buckets.lookup peer = some bucket ∧ ¬ rate.fullAgain now bucket := by
  rw [Table.mem_keySet, forget, Table.lookup_retain]
  cases found : rate.buckets.lookup peer with
  | none => simp
  | some bucket => simp [Option.filter, fullAgain, Option.isSome_iff_exists]

theorem forget_subset (rate : SourceRate F) (now : Instant) :
    (rate.forget now).keySet ⊆ rate.buckets.keySet := by
  intro peer kept
  obtain ⟨bucket, found, -⟩ := mem_forget.mp kept
  rw [Table.mem_keySet, found]
  rfl

/-- The table a call starts from, once it has forgotten what it forgets. -/
def base (rate : SourceRate F) (now : Instant) : Table PeerId (Bucket F) :=
  if rate.buckets.len > maxBuckets then rate.forget now else rate.buckets

/-- The tokens a call leaves its peer with. -/
def left (rate : SourceRate F) (call : AllowCall) : F :=
  let bucket := ((rate.base call.2).lookup call.1).getD { tokens := rate.burst, updated := call.2 }
  let tokens := TokenBucket.refill rate.burst rate.perSecond bucket.tokens
    (asSecs (call.2 - bucket.updated) F)
  if tokens < ((1 : Nat) : F) then tokens else tokens - ((1 : Nat) : F)

/-- A call writes the bucket of its peer, whether or not it is allowed, and
changes nothing else. -/
theorem apply_eq (rate : SourceRate F) (call : AllowCall) :
    rate.apply call =
      { rate with
        buckets :=
          (rate.base call.2).insert call.1 { tokens := rate.left call, updated := call.2 } } := by
  have based : (if rate.buckets.len > maxBuckets then rate.forget call.2 else rate.buckets) =
      rate.base call.2 := rfl
  unfold apply allow left
  dsimp only
  rw [based]
  split <;> rfl

/-- One call keeps the bound exactly when it meets the condition. -/
theorem bounded_apply {rate : SourceRate F} (bounded : Bounded rate) (call : AllowCall) :
    Bounded (rate.apply call) ↔ Room rate call := by
  obtain ⟨peer, now⟩ := call
  unfold Bounded at bounded ⊢
  rw [apply_eq, Table.len_insert, base]
  dsimp only
  by_cases few : rate.buckets.len ≤ maxBuckets
  · rw [if_neg (not_lt.mpr few)]
    refine iff_of_true ?_ (.inl few)
    split <;> omega
  · rw [if_pos (not_le.mp few)]
    have kept : (rate.forget now).len ≤ rate.buckets.len := by
      rw [← Table.card_keySet, ← Table.card_keySet]
      exact Finset.card_le_card (rate.forget_subset now)
    have dropped {other : PeerId} (known : other ∈ rate.buckets.keySet)
        (gone : other ∉ (rate.forget now).keySet) : (rate.forget now).len < rate.buckets.len := by
      rw [← Table.card_keySet, ← Table.card_keySet]
      exact Finset.card_lt_card ⟨rate.forget_subset now, fun all => gone (all known)⟩
    constructor
    · intro fits
      by_contra crowded
      simp only [Room, few, false_or, not_or, not_exists, not_and] at crowded
      have all : (rate.forget now).keySet = rate.buckets.keySet := by
        refine Finset.Subset.antisymm (rate.forget_subset now) fun other known => ?_
        rw [Table.mem_keySet, Option.isSome_iff_exists] at known
        obtain ⟨bucket, found⟩ := known
        exact mem_forget.mpr ⟨bucket, found, crowded.2 other bucket found⟩
      have absent : peer ∉ rate.forget now := by
        rw [← AList.lookup_isSome, ← Table.mem_keySet, all]
        exact crowded.1
      have sameLength : (rate.forget now).len = rate.buckets.len := by
        rw [← Table.card_keySet, ← Table.card_keySet, all]
      rw [if_neg absent] at fits
      omega
    · rintro (room | known | ⟨other, bucket, found, full⟩)
      · exact absurd room few
      · by_cases held : peer ∈ rate.forget now
        · rw [if_pos held]
          omega
        · have gone : peer ∉ (rate.forget now).keySet := by
            rwa [Table.mem_keySet, AList.lookup_isSome]
          have := dropped known gone
          rw [if_neg held]
          omega
      · have known : other ∈ rate.buckets.keySet := by
          rw [Table.mem_keySet, found]
          rfl
        have gone : other ∉ (rate.forget now).keySet := by
          rw [mem_forget]
          rintro ⟨held, same, notFull⟩
          obtain rfl := Option.some.inj (found.symm.trans same)
          exact notFull full
        have := dropped known gone
        split <;> omega

end Libp2pFfi.SourceRate

namespace Libp2pFfi

/-- The bound over whole runs, in any arithmetic. A run of the limiter keeps it in
every state exactly when every call of it finds room, and so does a run of the rate
of announcements. -/
theorem buckets_bounded_iff_room (F : Type) [Arithmetic F] (ops : List LimitOp)
    (interval : Duration) (burst : Nat) (calls : List SourceRate.AllowCall) :
    ((∀ before, before <+: ops → Limits.Bounded (Limits.run before F)) ↔
      ∀ before op, before ++ [op] <+: ops → Limits.Room (Limits.run before F) op) ∧
    ((∀ before, before <+: calls →
        SourceRate.Bounded (SourceRate.run interval burst before F)) ↔
      ∀ before call, before ++ [call] <+: calls →
        SourceRate.Room (SourceRate.run interval burst before F) call) := by
  constructor
  · refine Runs.all_states_iff_all_steps Limits.apply {} (Nat.zero_le _) ?_
    intro before op _ bounded
    rw [List.foldl_append]
    exact Limits.bounded_apply (Limits.tidy_run before) bounded op
  · refine Runs.all_states_iff_all_steps SourceRate.apply _ (Nat.zero_le _) ?_
    intro before call _ bounded
    rw [List.foldl_append]
    exact SourceRate.bounded_apply bounded call

/-! A flood of peers. Every request comes from a peer that was not seen before
and is admitted, so that every bucket is short of its burst when the sweep comes
to it. What this takes of an arithmetic is true of doubles. -/

/-- A peer whose ed25519 key counts. -/
def floodPeer (index : Nat) : PeerId := ⟨0, [8, 1, 18, 32] ++ beBytes 32 index⟩

theorem floodPeer_injective {left right : Nat} (leftFits : left < 256 ^ 32)
    (rightFits : right < 256 ^ 32) (same : floodPeer left = floodPeer right) : left = right := by
  have bytes : beBytes 32 left = beBytes 32 right := List.append_cancel_left (PeerId.mk.inj same).2
  exact leBytes_injective leftFits rightFits (List.reverse_injective bytes)

namespace Limits

variable {F : Type} [Arithmetic F]

def floodRequest (index : Nat) : LimitRequest :=
  { requestOf [] with peer := floodPeer index }

/-- The bucket of the limit per peer that a flooding peer has. -/
def floodSlot (index : Nat) : RuleId × BucketKey := (perPeerRule.id, .peer (floodPeer index))

/-- What a full bucket of the limit per peer holds once one request was paid for. -/
def floodBucket (F : Type) [Arithmetic F] : Bucket F :=
  ⟨(Bucket.refill ⟨(perPeerRule.rate.burst : F), 0⟩ perPeerRule.rate 0).tokens -
    perPeerRule.cost 1 F, 0⟩

/-- What an arithmetic must be like for the flood: a full bucket can pay, and what is
left is short of the burst and does not change when no time passes. -/
structure Floods (F : Type) [Arithmetic F] : Prop where
  pays : ¬ (Bucket.refill ⟨(perPeerRule.rate.burst : F), 0⟩ perPeerRule.rate 0).tokens <
    perPeerRule.cost 1 F
  short : isShort perPeerRule 0 (floodBucket F) = true
  settled : (floodBucket F).refill perPeerRule.rate 0 = floodBucket F

/-- A limit per peer, and a request of each of many peers at one time. -/
def flood (peers : Nat) : List LimitOp :=
  .setLimit perPeerRule.id perPeerRule.rate ::
    (List.range peers).map fun index => .check (floodRequest index) 1 0

theorem flood_ordered (peers : Nat) : NonDecreasing 0 (flood peers) := by
  refine ⟨le_refl 0, ?_⟩
  induction List.range peers with
  | nil => trivial
  | cons index rest inductionHypothesis => exact ⟨le_refl 0, inductionHypothesis⟩

/-- What the flood leaves behind: a bucket for every peer, one token short. -/
structure Flooded (peers : Nat) (limits : Limits F) : Prop where
  tidy : Tidy limits
  rules : limits.rules = [perPeerRule]
  classes : limits.classes = ∅
  held : ∀ index < peers, limits.buckets.lookup (floodSlot index) = some (floodBucket F)
  others : ∀ slot, (∀ index < peers, slot ≠ floodSlot index) → limits.buckets.lookup slot = none

section

variable {peers : Nat} {limits : Limits F}

theorem floodSlot_different (fits : peers < 256 ^ 32) {index : Nat} (earlier : index < peers) :
    floodSlot peers ≠ floodSlot index := by
  intro same
  have samePeer : floodPeer peers = floodPeer index := by simpa [floodSlot] using same
  exact earlier.ne' (floodPeer_injective fits (earlier.trans fits) samePeer)

theorem Flooded.remembered (flooded : Flooded peers limits) :
    limits.remembered = (Finset.range peers).image floodSlot := by
  ext slot
  rw [mem_remembered, Finset.mem_image]
  constructor
  · rintro ⟨bucket, found⟩
    by_contra none
    have absent : ∀ index < peers, slot ≠ floodSlot index := fun index earlier same =>
      none ⟨index, Finset.mem_range.mpr earlier, same.symm⟩
    cases found.symm.trans (flooded.others slot absent)
  · rintro ⟨index, inRange, rfl⟩
    exact ⟨floodBucket F, flooded.held index (Finset.mem_range.mp inRange)⟩

/-- The one limit asks one bucket about the next peer. -/
theorem Flooded.matched (flooded : Flooded peers limits) :
    limits.matching (floodRequest peers) = [(perPeerRule, .peer (floodPeer peers))] := by
  simp only [Limits.matching, classOf, flooded.classes, flooded.rules]
  rfl

/-- A peer not seen before has a full bucket. -/
theorem Flooded.fresh (flooded : Flooded peers limits) (fits : peers < 256 ^ 32) :
    refreshed limits.buckets perPeerRule (.peer (floodPeer peers)) 0 =
      Bucket.refill ⟨(perPeerRule.rate.burst : F), 0⟩ perPeerRule.rate 0 := by
  have isNew : limits.buckets.lookup (perPeerRule.id, .peer (floodPeer peers)) = none :=
    flooded.others _ fun index earlier => floodSlot_different fits earlier
  unfold refreshed bucketOr
  rw [isNew]
  rfl

/-- The limits let the next peer through. -/
theorem Flooded.admitted (floods : Floods F) (flooded : Flooded peers limits)
    (fits : peers < 256 ^ 32) :
    (limits.checkUnswept (floodRequest peers) 1 0).2 = .ok () := by
  rcases checkUnswept_ends flooded.tidy.unique (floodRequest peers) 1 0 with
    ⟨blocked, -⟩ | ⟨-, pair, lacking, -⟩ | ⟨-, -, same⟩
  · simp [classOf, flooded.classes, classUnknown, classBlocked] at blocked
  · have only := List.mem_of_find?_eq_some lacking
    rw [flooded.matched, List.mem_singleton] at only
    have isUnpaid := List.find?_some lacking
    rw [only, unpaid, flooded.fresh fits] at isUnpaid
    exact absurd (of_decide_eq_true isUnpaid) floods.pays
  · rw [same]

/-- Every bucket is a token short, so a sweep keeps all of them as they are. -/
theorem Flooded.swept (floods : Floods F) (flooded : Flooded peers limits) :
    Flooded peers (limits.sweep 0) := by
  have inForce : perPeerRule ∈ limits.rules := by
    rw [flooded.rules]
    exact List.mem_singleton_self _
  refine
    { tidy := tidy_sweep flooded.tidy 0
      rules := flooded.rules
      classes := flooded.classes
      held := fun index earlier => ?_
      others := fun slot absent => ?_ }
  · have held := flooded.held index earlier
    rw [floodSlot] at held
    rw [floodSlot, sweep_lookup flooded.tidy inForce, held, Option.bind_some]
    exact (if_pos floods.short).trans (congrArg some floods.settled)
  · unfold sweep
    rw [Table.lookup_filterMap, flooded.others slot absent]
    rfl

/-- One more peer is let through and remembered. -/
theorem Flooded.next (floods : Floods F) (flooded : Flooded peers limits)
    (fits : peers < 256 ^ 32) :
    Flooded (peers + 1) (limits.check (floodRequest peers) 1 0).1 := by
  obtain ⟨charged, kept⟩ :=
    admitted_charged flooded.tidy.unique (Prod.ext rfl (flooded.admitted floods fits))
  rw [flooded.matched] at kept charged
  have unswept : Flooded (peers + 1) (limits.checkUnswept (floodRequest peers) 1 0).1 := by
    refine
      { tidy := tidy_checkUnswept flooded.tidy _ _ _
        rules := by rw [checkUnswept_rules, flooded.rules]
        classes := by rw [checkUnswept_classes, flooded.classes]
        held := fun index inRange => ?_
        others := fun slot absent => ?_ }
    · rcases Nat.lt_succ_iff_lt_or_eq.mp inRange with earlier | rfl
      · have different : floodSlot index ∉ [(perPeerRule, BucketKey.peer (floodPeer peers))].map slot :=
          fun same => floodSlot_different fits earlier (List.mem_singleton.mp same).symm
        rw [kept _ different]
        exact flooded.held index earlier
      · have paid := (charged perPeerRule (.peer (floodPeer index)) (List.mem_singleton_self _)).2
        rw [flooded.fresh fits] at paid
        exact paid
    · have different : slot ∉ [(perPeerRule, BucketKey.peer (floodPeer peers))].map Limits.slot :=
        fun same => absent peers (Nat.lt_succ_self peers) (List.mem_singleton.mp same)
      rw [kept _ different]
      exact flooded.others slot fun index earlier =>
        absent index (earlier.trans (Nat.lt_succ_self peers))
  rcases (check_cases limits (floodRequest peers) 1 0).2 with same | same
  · rw [same]
    exact unswept
  · rw [same]
    exact unswept.swept floods

end

/-- The flood is never stopped, and nothing of it is ever forgotten. -/
theorem flooded_run (floods : Floods F) {peers : Nat} (fits : peers ≤ 256 ^ 32) :
    Flooded peers (run (flood peers) F) := by
  induction peers with
  | zero => exact ⟨tidy_run _, rfl, rfl, by simp, fun slot _ => rfl⟩
  | succ peers inductionHypothesis =>
    have extended : flood (peers + 1) = flood peers ++ [.check (floodRequest peers) 1 0] := by
      simp [flood, List.range_succ]
    rw [run, extended, List.foldl_append]
    exact (inductionHypothesis (by omega)).next floods (by omega)

theorem flood_len (floods : Floods F) {peers : Nat} (fits : peers ≤ 256 ^ 32) :
    (run (flood peers) F).buckets.len = peers := by
  rw [← card_remembered, (flooded_run floods fits).remembered, Finset.card_image_of_injOn,
    Finset.card_range]
  intro left leftInside right rightInside same
  have leftFits := Finset.mem_range.mp leftInside
  have rightFits := Finset.mem_range.mp rightInside
  have samePeer : floodPeer left = floodPeer right := by simpa [floodSlot] using same
  exact floodPeer_injective (by omega) (by omega) samePeer

end Limits

namespace SourceRate

variable {F : Type} [Arithmetic F]

/-- One announcement of each of many peers at one time. -/
def flood (peers : Nat) : List AllowCall := (List.range peers).map fun index => (floodPeer index, 0)

/-- The rate of announcements before the first of them. -/
def unused (F : Type) [Arithmetic F] : SourceRate F := new (Duration.fromSecs 10) 3 F

/-- What a peer has left after its first announcement. -/
def floodBucket (F : Type) [Arithmetic F] : Bucket F := ⟨(unused F).left (floodPeer 0, 0), 0⟩

/-- What the flood leaves behind under the rate of announcements. -/
structure Flooded (peers : Nat) (rate : SourceRate F) : Prop where
  perSecond : rate.perSecond = (unused F).perSecond
  burst : rate.burst = (unused F).burst
  length : rate.buckets.len = peers
  taken : ∀ peer bucket, rate.buckets.lookup peer = some bucket →
    bucket = floodBucket F ∧ ∃ index < peers, peer = floodPeer index

theorem Flooded.next (short : ¬ (unused F).fullAgain 0 (floodBucket F)) {peers : Nat}
    {rate : SourceRate F} (flooded : Flooded peers rate) (fits : peers < 256 ^ 32) :
    Flooded (peers + 1) (rate.apply (floodPeer peers, 0)) := by
  have notFull {peer : PeerId} {bucket : Bucket F}
      (found : rate.buckets.lookup peer = some bucket) : ¬ rate.fullAgain 0 bucket := by
    rw [(flooded.taken peer bucket found).1, fullAgain, flooded.burst, flooded.perSecond]
    exact short
  have nothingForgotten (peer : PeerId) : (rate.base 0).lookup peer = rate.buckets.lookup peer := by
    unfold base
    split
    · rw [forget, Table.lookup_retain]
      cases found : rate.buckets.lookup peer with
      | none => rfl
      | some bucket => simpa [Option.filter, fullAgain] using notFull found
    · rfl
  have sameLength : (rate.base 0).len = peers := by
    have sameKeys : (rate.base 0).keySet = rate.buckets.keySet := by
      ext peer
      rw [Table.mem_keySet, Table.mem_keySet, nothingForgotten]
    rw [← flooded.length, ← Table.card_keySet, ← Table.card_keySet, sameKeys]
  have isNew : rate.buckets.lookup (floodPeer peers) = none := by
    cases found : rate.buckets.lookup (floodPeer peers) with
    | none => rfl
    | some bucket =>
      obtain ⟨-, index, earlier, same⟩ := flooded.taken _ bucket found
      exact absurd (floodPeer_injective fits (earlier.trans fits) same) earlier.ne'
  -- What is left of a full bucket depends on the rate alone, not on the peer.
  have isLeft : rate.left (floodPeer peers, 0) = (unused F).left (floodPeer 0, 0) := by
    have first : ((unused F).base 0).lookup (floodPeer 0) = none := rfl
    simp only [left, nothingForgotten, isNew, first, Option.getD_none, flooded.burst,
      flooded.perSecond]
  have absent : floodPeer peers ∉ rate.base 0 := by
    rw [← AList.lookup_eq_none, nothingForgotten, isNew]
  rw [apply_eq]
  refine ⟨flooded.perSecond, flooded.burst, ?_, ?_⟩
  · rw [Table.len_insert, if_neg absent, sameLength]
  · intro peer bucket found
    rw [Table.lookup_insert_if, isLeft] at found
    split at found
    · rename_i own
      exact ⟨(Option.some.inj found).symm, peers, Nat.lt_succ_self peers, own⟩
    · rw [nothingForgotten] at found
      obtain ⟨same, index, earlier, isPeer⟩ := flooded.taken peer bucket found
      exact ⟨same, index, earlier.trans (Nat.lt_succ_self peers), isPeer⟩

theorem flooded_run (short : ¬ (unused F).fullAgain 0 (floodBucket F)) {peers : Nat}
    (fits : peers ≤ 256 ^ 32) : Flooded peers (run (Duration.fromSecs 10) 3 (flood peers) F) := by
  induction peers with
  | zero => exact ⟨rfl, rfl, rfl, by simp [flood, run, new]⟩
  | succ peers inductionHypothesis =>
    have extended : flood (peers + 1) = flood peers ++ [(floodPeer peers, 0)] := by
      simp [flood, List.range_succ]
    rw [run, extended, List.foldl_append]
    exact (inductionHypothesis (by omega)).next short (by omega)

end SourceRate

/-! Doubles are such an arithmetic. -/

theorem floods_float : Limits.Floods Float := by
  constructor <;> decide +kernel

theorem announcements_flood_float :
    ¬ (SourceRate.unused Float).fullAgain 0 (SourceRate.floodBucket Float) := by
  unfold SourceRate.fullAgain
  decide +kernel

/-- The bound is broken by 65538 requests of as many peers at one time, under a
limit of one message a second with a burst of two for each peer. The rate of
announcements is broken by as many announcements. -/
theorem buckets_unbounded_under_flood :
    (¬ ∀ ops : List LimitOp, Limits.NonDecreasing 0 ops →
        Limits.Bounded (Limits.run ops Float)) ∧
      ¬ ∀ calls : List SourceRate.AllowCall,
        SourceRate.Bounded (SourceRate.run (Duration.fromSecs 10) 3 calls Float) := by
  have fits : 65538 ≤ 256 ^ 32 := by decide
  constructor
  · intro always
    have bounded := always (Limits.flood 65538) (Limits.flood_ordered 65538)
    rw [Limits.Bounded, Limits.flood_len floods_float fits, Limits.bound,
      (Limits.flooded_run floods_float fits).rules] at bounded
    exact absurd bounded (by decide)
  · intro always
    have bounded := always (SourceRate.flood 65538)
    rw [SourceRate.Bounded, (SourceRate.flooded_run announcements_flood_float fits).length] at bounded
    exact absurd bounded (by decide)

/-- Some request of the flood finds no room. -/
theorem flood_finds_no_room :
    ∃ before op, before ++ [op] <+: Limits.flood 65538 ∧
      ¬ Limits.Room (Limits.run before Float) op := by
  have fits : 65538 ≤ 256 ^ 32 := by decide
  by_contra roomy
  simp only [not_exists, not_and, not_not] at roomy
  have bounded := (buckets_bounded_iff_room Float (Limits.flood 65538) (Duration.fromSecs 10) 3
    []).1.mpr roomy _ (List.prefix_refl _)
  rw [Limits.Bounded, Limits.flood_len floods_float fits, Limits.bound,
    (Limits.flooded_run floods_float fits).rules] at bounded
  exact absurd bounded (by decide)

end Libp2pFfi
