import Libp2pFfi.RateBound

/-!
# How a limit decides

Several limits may match one request, of both units, of three scopes, for its
protocol and for all. They are looked at in one pass and charged in another, over
a table that the passes change. What a check answers has a description without
passes: `Concerns` says which limits a request meets and in which bucket, and
`Lacks` that such a limit has not the tokens. A check of a class that is not
blocked answers the first limit that lacks tokens, if there is one; if there is
none it charges every limit it meets once.
-/

namespace Libp2pFfi

namespace Limits

/-- A limit that a request meets, with the key of its bucket: a limit of the
class of the request's group, for its protocol or for any, whose scope applies. -/
structure Concerns (limits : Limits) (request : LimitRequest) (rule : Rule) (key : BucketKey) :
    Prop where
  inForce : rule ∈ limits.rules
  ofClass : rule.id.peerClass = limits.classOf request.group
  ofProtocol : rule.id.protocol = protocolAny ∨ rule.id.protocol = request.protocol
  inScope : bucketKey rule.id.scope request = some key

/-- A limit that a request meets and that has not the tokens it costs. -/
def Lacks (limits : Limits) (request : LimitRequest) (bytes : Nat) (now : Instant) (rule : Rule) :
    Prop :=
  ∃ key, limits.Concerns request rule key ∧ limits.available rule key now < rule.cost bytes

/-- Whether two addresses are in one /24 of IPv4 or one /56 of IPv6. -/
def SamePrefix : IpAddr → IpAddr → Prop
  | .v4 first, .v4 second => first.toList.take 3 = second.toList.take 3
  | .v6 first, .v6 second => first.toList.take 7 = second.toList.take 7
  | _, _ => False

/-- Whether a scope counts two requests together. -/
def Together (scope : Nat) (first second : LimitRequest) : Prop :=
  if scope = scopePeer then first.peer = second.peer
  else if scope = scopeIpPrefix then
    ∃ ip other, first.ip = some ip ∧ second.ip = some other ∧ SamePrefix ip other
  else True

/-- How a check decides, and what it does to the tokens. -/
structure Decides (limits : Limits) (request : LimitRequest) (bytes : Nat) (now : Instant) :
    Prop where
  blocked : (limits.check request bytes now).2 = .error limitedBlocked ↔
    limits.classOf request.group = classBlocked
  admits : limits.classOf request.group ≠ classBlocked →
    ((limits.check request bytes now).2 = .ok () ↔
      ∀ rule key, limits.Concerns request rule key →
        rule.cost bytes ≤ limits.available rule key now)
  refuses : limits.classOf request.group ≠ classBlocked → ∀ scope,
    ((limits.check request bytes now).2 = .error scope ↔
      ∃ before rule after, limits.rules = before ++ rule :: after ∧
        limits.Lacks request bytes now rule ∧
        (∀ earlier ∈ before, ¬ limits.Lacks request bytes now earlier) ∧ scope = rule.id.scope)
  charged : (limits.check request bytes now).2 = .ok () → ∀ rule key,
    limits.Concerns request rule key →
      (limits.check request bytes now).1.available rule key now =
        limits.available rule key now - rule.cost bytes
  spared : (limits.check request bytes now).2 = .ok () → ∀ rule ∈ limits.rules, ∀ key,
    ¬ limits.Concerns request rule key → ∀ time, now ≤ time →
      (limits.check request bytes now).1.available rule key time = limits.available rule key time
  refused : (limits.check request bytes now).2 ≠ .ok () → ∀ rule ∈ limits.rules, ∀ key time,
    now ≤ time →
      (limits.check request bytes now).1.available rule key time = limits.available rule key time

theorem concerns_iff {limits : Limits} {request : LimitRequest} {rule : Rule} {key : BucketKey} :
    limits.Concerns request rule key ↔ (rule, key) ∈ limits.matching request := by
  rw [mem_matching]
  constructor
  · rintro ⟨inForce, ofClass, ofProtocol, inScope⟩
    exact ⟨inForce, by simpa [applies, ofClass] using ofProtocol, inScope⟩
  · rintro ⟨inForce, applied, inScope⟩
    simp only [applies, Bool.and_eq_true, Bool.or_eq_true, beq_iff_eq] at applied
    exact ⟨inForce, applied.1, applied.2, inScope⟩

section

variable {limits : Limits} {request : LimitRequest} {bytes : Nat} {now : Instant}

/-- Whether a rule lacks tokens, as the first pass finds out. -/
def lacking (limits : Limits) (request : LimitRequest) (bytes : Nat) (now : Instant) (rule : Rule) :
    Bool :=
  applies (limits.classOf request.group) request rule &&
    ((bucketKey rule.id.scope request).map fun key => (rule, key)).any
      (short bytes now limits.buckets)

theorem lacking_iff {rule : Rule} (inForce : rule ∈ limits.rules) :
    limits.lacking request bytes now rule = true ↔ limits.Lacks request bytes now rule := by
  unfold lacking Lacks
  cases inScope : bucketKey rule.id.scope request with
  | none =>
    refine iff_of_false (by simp) ?_
    rintro ⟨key, concerns, -⟩
    cases concerns.inScope.symm.trans inScope
  | some key =>
    simp only [Option.map_some, Option.any_some, Bool.and_eq_true, short, decide_eq_true_eq]
    constructor
    · rintro ⟨applied, less⟩
      exact ⟨key, concerns_iff.mpr (mem_matching.mpr ⟨inForce, applied, inScope⟩), less⟩
    · rintro ⟨other, concerns, less⟩
      obtain rfl := Option.some.inj (inScope.symm.trans concerns.inScope)
      exact ⟨(mem_matching.mp (concerns_iff.mp concerns)).2.1, less⟩

/-- The pass over the matching pairs looks for the first rule that lacks tokens. -/
theorem find?_short :
    (limits.matching request).find? (short bytes now limits.buckets) =
      (limits.rules.find? (limits.lacking request bytes now)).bind fun rule =>
        (bucketKey rule.id.scope request).map fun key => (rule, key) := by
  unfold matching
  rw [List.find?_filterMap, List.find?_filter]
  congr 2
  funext rule
  simp [lacking]

theorem mem_of_split {before after rules : List Rule} {rule : Rule}
    (split : rules = before ++ rule :: after) :
    rule ∈ rules ∧ ∀ earlier ∈ before, earlier ∈ rules := by
  subst split
  refine ⟨by simp, ?_⟩
  intro earlier member
  simp [member]

/-- The first pair that is short belongs to the first rule that lacks tokens. -/
theorem find?_short_iff {scope : Nat} :
    (∃ pair, (limits.matching request).find? (short bytes now limits.buckets) = some pair ∧
        scope = pair.1.id.scope) ↔
      ∃ before rule after, limits.rules = before ++ rule :: after ∧
        limits.Lacks request bytes now rule ∧
        (∀ earlier ∈ before, ¬ limits.Lacks request bytes now earlier) ∧ scope = rule.id.scope := by
  rw [find?_short]
  constructor
  · rintro ⟨pair, found, rfl⟩
    obtain ⟨rule, first, inScope⟩ := Option.bind_eq_some_iff.mp found
    obtain ⟨key, -, rfl⟩ := Option.map_eq_some_iff.mp inScope
    obtain ⟨lacks, before, after, split, enough⟩ := List.find?_eq_some_iff_append.mp first
    obtain ⟨inForce, earlierInForce⟩ := mem_of_split split
    refine ⟨before, rule, after, split, (lacking_iff inForce).mp lacks, ?_, rfl⟩
    intro earlier member lacksToo
    have stops := (lacking_iff (earlierInForce earlier member)).mpr lacksToo
    have passes := enough earlier member
    rw [stops] at passes
    cases passes
  · rintro ⟨before, rule, after, split, lacks, enough, rfl⟩
    obtain ⟨inForce, earlierInForce⟩ := mem_of_split split
    have first : limits.rules.find? (limits.lacking request bytes now) = some rule := by
      refine List.find?_eq_some_iff_append.mpr
        ⟨(lacking_iff inForce).mpr lacks, before, after, split, ?_⟩
      intro earlier member
      have passes := (lacking_iff (earlierInForce earlier member)).not.mpr (enough earlier member)
      simpa using passes
    obtain ⟨key, concerns, -⟩ := lacks
    refine ⟨(rule, key), ?_, rfl⟩
    rw [first, Option.bind_some, concerns.inScope]
    rfl

/-- No pair is short exactly if every limit that is met has the tokens. -/
theorem find?_short_eq_none_iff :
    (limits.matching request).find? (short bytes now limits.buckets) = none ↔
      ∀ rule key, limits.Concerns request rule key →
        rule.cost bytes ≤ limits.available rule key now := by
  rw [List.find?_eq_none]
  constructor
  · intro enough rule key concerns
    exact not_lt.mp fun less => enough (rule, key) (concerns_iff.mp concerns) (decide_eq_true less)
  · rintro enough ⟨rule, key⟩ member
    rw [short, decide_eq_true_iff]
    exact not_lt.mpr (enough rule key (concerns_iff.mpr member))

/-- The three answers of a check. -/
theorem check_answer (sound : Sound limits now) (request : LimitRequest) (bytes : Nat) :
    (limits.classOf request.group = classBlocked ∧
        (limits.check request bytes now).2 = .error limitedBlocked) ∨
      (limits.classOf request.group ≠ classBlocked ∧
        ∃ pair, (limits.matching request).find? (short bytes now limits.buckets) = some pair ∧
          (limits.check request bytes now).2 = .error pair.1.id.scope) ∨
      (limits.classOf request.group ≠ classBlocked ∧
        (limits.matching request).find? (short bytes now limits.buckets) = none ∧
        (limits.check request bytes now).2 = .ok ()) := by
  rw [(check_cases limits request bytes now).1]
  rcases checkUnswept_cases sound request bytes with
    ⟨blocked, same⟩ | ⟨unblocked, pair, found, same⟩ | ⟨unblocked, none, same⟩
  · exact .inl ⟨blocked, by rw [same]⟩
  · exact .inr (.inl ⟨unblocked, pair, found, by rw [same]⟩)
  · exact .inr (.inr ⟨unblocked, none, by rw [same]⟩)

/-- A refused check changes nothing that is available. -/
theorem available_check_refused (sound : Sound limits now)
    (refused : (limits.check request bytes now).2 ≠ .ok ()) {rule : Rule}
    (member : rule ∈ limits.rules) (key : BucketKey) {time : Instant} (later : now ≤ time) :
    (limits.check request bytes now).1.available rule key time = limits.available rule key time := by
  rw [available_check sound request bytes member key later]
  rw [(check_cases limits request bytes now).1] at refused
  cases unswept : limits.checkUnswept request bytes now with
  | mk after answer =>
    rw [unswept] at refused
    cases answer with
    | ok => exact absurd rfl refused
    | error reason => exact available_refused sound unswept member key later

/-- An admitted check charges the limits it meets, and no others. -/
theorem available_check_admitted (sound : Sound limits now)
    (admitted : (limits.check request bytes now).2 = .ok ()) {rule : Rule}
    (member : rule ∈ limits.rules) (key : BucketKey) {time : Instant} (later : now ≤ time) :
    (limits.check request bytes now).1.available rule key time =
      if (rule, key) ∈ limits.matching request then
        TokenBucket.refill (rule.rate.burst : ℚ) rule.rate.perSecond
          (limits.available rule key now - rule.cost bytes) (asSecs (time - now))
      else limits.available rule key time := by
  rw [available_check sound request bytes member key later]
  rw [(check_cases limits request bytes now).1] at admitted
  cases unswept : limits.checkUnswept request bytes now with
  | mk after answer =>
    rw [unswept] at admitted
    subst admitted
    exact available_admitted sound unswept member key

/-- A check takes nothing from a limit it does not meet. -/
theorem available_check_aside (sound : Sound limits now) {rule : Rule}
    (member : rule ∈ limits.rules) {key : BucketKey} (aside : ¬ limits.Concerns request rule key)
    {time : Instant} (later : now ≤ time) :
    (limits.check request bytes now).1.available rule key time = limits.available rule key time := by
  by_cases admitted : (limits.check request bytes now).2 = .ok ()
  · rw [available_check_admitted sound admitted member key later,
      if_neg fun matched => aside (concerns_iff.mpr matched)]
  · exact available_check_refused sound admitted member key later

/-- An admitted check takes its cost from a limit it meets. -/
theorem available_check_charged (sound : Sound limits now)
    (admitted : (limits.check request bytes now).2 = .ok ()) {rule : Rule} {key : BucketKey}
    (concerns : limits.Concerns request rule key) :
    (limits.check request bytes now).1.available rule key now =
      limits.available rule key now - rule.cost bytes := by
  rw [available_check_admitted sound admitted concerns.inForce key (le_refl now),
    if_pos (concerns_iff.mp concerns), Nat.sub_self, asSecs_zero, TokenBucket.refill_zero]
  have within : limits.available rule key now ≤ rule.rate.burst := tokensAt_le_burst _ _ _
  exact (sub_le_self _ (rule.cost_nonneg bytes)).trans within

/-- A check decides as its description says, unless a limit was set with a scope
that is no scope but the answer for a blocked group. -/
theorem decides (sound : Sound limits now)
    (ranged : ∀ rule ∈ limits.rules, rule.id.scope ≠ limitedBlocked) (request : LimitRequest)
    (bytes : Nat) : limits.Decides request bytes now := by
  refine ⟨?_, fun unblocked => ?_, fun unblocked scope => ?_,
    fun admitted rule key concerns => available_check_charged sound admitted concerns,
    fun _ rule member key aside time later => available_check_aside sound member aside later,
    fun refused rule member key time later =>
      available_check_refused sound refused member key later⟩
  · rcases check_answer sound request bytes with
      ⟨blocked, answer⟩ | ⟨unblocked, pair, found, answer⟩ | ⟨unblocked, -, answer⟩
    · exact iff_of_true answer blocked
    · refine iff_of_false (fun isBlocked => ?_) unblocked
      have inForce := (mem_matching.mp (List.mem_of_find?_eq_some found)).1
      exact ranged pair.1 inForce (Except.error.inj (answer.symm.trans isBlocked))
    · refine iff_of_false (fun isBlocked => ?_) unblocked
      cases answer.symm.trans isBlocked
  · rw [← find?_short_eq_none_iff]
    rcases check_answer sound request bytes with
      ⟨blocked, -⟩ | ⟨-, pair, found, answer⟩ | ⟨-, none, answer⟩
    · exact absurd blocked unblocked
    · rw [answer, found]
      exact iff_of_false nofun nofun
    · exact iff_of_true answer none
  · rw [← find?_short_iff]
    rcases check_answer sound request bytes with
      ⟨blocked, -⟩ | ⟨-, pair, found, answer⟩ | ⟨-, none, answer⟩
    · exact absurd blocked unblocked
    · rw [answer, found]
      constructor
      · intro isScope
        exact ⟨pair, rfl, (Except.error.inj isScope).symm⟩
      · rintro ⟨other, same, rfl⟩
        rw [Option.some.inj same]
    · rw [answer, none]
      refine iff_of_false nofun ?_
      rintro ⟨pair, found, -⟩
      cases found

end

/-! What is in force was set. -/

theorem rules_apply {Holds : RuleId → Prop} {limits : Limits} {op : LimitOp}
    (setSo : ∀ id rate, op = .setLimit id rate → Holds id)
    (before : ∀ rule ∈ limits.rules, Holds rule.id) :
    ∀ rule ∈ (limits.apply op).rules, Holds rule.id := by
  intro rule member
  cases op with
  | setClass group peerClass =>
    apply before
    rwa [apply, (setClass_rules limits group peerClass).1] at member
  | setLimit id rate =>
    rcases mem_setLimit.mp member with ⟨old, -⟩ | ⟨-, rfl⟩
    · exact before rule old
    · exact setSo id rate rfl
  | check request bytes now =>
    apply before
    rwa [apply, check_rules] at member
  | sweep now => exact before rule member

/-- What holds of the id of every limit that was set holds of every one in force. -/
theorem rules_run {Holds : RuleId → Prop} {ops : List LimitOp}
    (setSo : ∀ id rate, .setLimit id rate ∈ ops → Holds id) :
    ∀ rule ∈ (run ops).rules, Holds rule.id := by
  induction ops using List.reverseRecOn with
  | nil => exact nofun
  | append_singleton ops op inductionHypothesis =>
    rw [run, List.foldl_append]
    apply rules_apply
    · rintro id rate rfl
      exact setSo id rate (by simp)
    · apply inductionHypothesis
      intro id rate member
      exact setSo id rate (by simp [member])

/-! Which requests are counted together. -/

theorem ipPrefix_eq_iff {first second : IpAddr} :
    ipPrefix first = ipPrefix second ↔ SamePrefix first second := by
  have lists : ipPrefix first = ipPrefix second ↔
      (ipPrefix first).toList = (ipPrefix second).toList :=
    ⟨congrArg List.Vector.toList, List.Vector.eq _ _⟩
  rw [lists]
  cases first with
  | v4 first =>
    cases second with
    | v4 second =>
      show 4 :: (first.toList.take 3 ++ List.replicate 4 0) =
        4 :: (second.toList.take 3 ++ List.replicate 4 0) ↔
          first.toList.take 3 = second.toList.take 3
      simp only [List.cons.injEq, true_and, List.append_left_inj]
    | v6 second => exact iff_of_false (fun same => by cases (List.cons.inj same).1) id
  | v6 first =>
    cases second with
    | v4 second => exact iff_of_false (fun same => by cases (List.cons.inj same).1) id
    | v6 second =>
      show 6 :: first.toList.take 7 = 6 :: second.toList.take 7 ↔
        first.toList.take 7 = second.toList.take 7
      simp only [List.cons.injEq, true_and]

/-- Two requests fall into one bucket exactly if the scope counts them together. -/
theorem bucketKey_shared_iff (scope : Nat) (first second : LimitRequest) :
    (∃ key, bucketKey scope first = some key ∧ bucketKey scope second = some key) ↔
      Together scope first second := by
  unfold bucketKey Together
  by_cases perPeer : scope = scopePeer
  · simp [perPeer]
    exact eq_comm
  · by_cases perPrefix : scope = scopeIpPrefix
    · rw [if_neg perPeer, if_neg perPeer, if_neg perPeer, if_pos perPrefix, if_pos perPrefix,
        if_pos perPrefix]
      constructor
      · rintro ⟨key, ofFirst, ofSecond⟩
        obtain ⟨ip, shown, rfl⟩ := Option.map_eq_some_iff.mp ofFirst
        obtain ⟨other, shownToo, same⟩ := Option.map_eq_some_iff.mp ofSecond
        exact ⟨ip, other, shown, shownToo, ipPrefix_eq_iff.mp (BucketKey.ipPrefix.inj same).symm⟩
      · rintro ⟨ip, other, shown, shownToo, same⟩
        refine ⟨.ipPrefix (ipPrefix ip), by rw [shown]; rfl, ?_⟩
        rw [shownToo, ipPrefix_eq_iff.mpr same]
        rfl
    · rw [if_neg perPeer, if_neg perPeer, if_neg perPeer, if_neg perPrefix, if_neg perPrefix,
        if_neg perPrefix]
      exact iff_of_true ⟨.global, rfl, rfl⟩ trivial

/-- In every state a limiter reaches with limits of the scopes there are, which is
what the interface lets through, rule ids are unique, every bucket belongs to a
rule and none is in debt, and every check decides as its description says: it
answers that the group is blocked exactly for a blocked class, otherwise the scope
of the first limit without the tokens, in the order of the rules, and admits if
there is none; an admitted request costs every limit it meets its price once, and
nothing else changes. Two requests share a bucket of a limit exactly if its scope
counts them together. -/
theorem check_decides {ops : List LimitOp} (ordered : NonDecreasing 0 ops)
    (inRange : ∀ id rate, .setLimit id rate ∈ ops → id.scope ≤ scopeGlobal) :
    ((run ops).rules.map Rule.id).Nodup ∧
      (∀ key bucket, (run ops).buckets.lookup key = some bucket →
        (∃ rule ∈ (run ops).rules, rule.id = key.1) ∧ 0 ≤ bucket.tokens) ∧
      (∀ request bytes now, clock 0 ops ≤ now → (run ops).Decides request bytes now) ∧
      ∀ (rule : Rule) (first second : LimitRequest),
        (∃ key, bucketKey rule.id.scope first = some key ∧
          bucketKey rule.id.scope second = some key) ↔ Together rule.id.scope first second := by
  have sound := sound_run ordered
  refine ⟨sound.unique, fun key bucket found => ?_, fun request bytes now later => ?_,
    fun rule => bucketKey_shared_iff rule.id.scope⟩
  · exact ⟨sound.owned key bucket found, sound.solvent key bucket found⟩
  · apply decides (sound.later later)
    intro rule member isBlocked
    have low := rules_run inRange rule member
    rw [isBlocked] at low
    cases Nat.not_le.mpr (by decide : scopeGlobal < limitedBlocked) low

theorem check_decides_burst_and_later :
    (run (.setLimit perPeerRule.id perPeerRule.rate :: burstAndLater)).Decides (requestOf [1]) 1
      2000000000 := by
  have ordered : NonDecreasing 0
      (.setLimit perPeerRule.id perPeerRule.rate :: burstAndLater) := by
    simp [burstAndLater, NonDecreasing, LimitOp.time?]
  have inRange : ∀ id rate,
      .setLimit id rate ∈ LimitOp.setLimit perPeerRule.id perPeerRule.rate :: burstAndLater →
        id.scope ≤ scopeGlobal := by
    intro id rate member
    simp only [burstAndLater, List.mem_cons, LimitOp.setLimit.injEq, reduceCtorEq,
      List.not_mem_nil, or_false] at member
    rw [member.1]
    decide
  exact (check_decides ordered inRange).2.2.1 (requestOf [1]) 1 2000000000 (by decide)

end Limits

end Libp2pFfi
