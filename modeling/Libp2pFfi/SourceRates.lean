import Libp2pFfi.Decision

/-!
# Two token buckets that agree

Announcements are limited by a bucket of their own for each source, `SourceRate`,
beside the limiter for requests. It refills, forgets and spends in another order: it
forgets full buckets before it looks one up, where the limiter sweeps after it has
admitted a request. What either has left for a peer at a time is the same, though,
as long as both are asked the same: it is `available`, in which neither a refill nor
a forgotten bucket shows.
-/

namespace Libp2pFfi

namespace SourceRate

/-- The tokens a source has at a time; a missing bucket is full. -/
def available (rate : SourceRate) (peer : PeerId) (time : Instant) : ℚ :=
  match rate.buckets.lookup peer with
  | none => rate.burst
  | some bucket =>
    TokenBucket.refill rate.burst rate.perSecond bucket.tokens (asSecs (time - bucket.updated))

/-- No bucket was touched after `now`. -/
def Past (rate : SourceRate) (now : Instant) : Prop :=
  ∀ peer bucket, rate.buckets.lookup peer = some bucket → bucket.updated ≤ now

variable {rate : SourceRate} {now time : Instant}

/-- The buckets a call looks at, after it has forgotten what it may. -/
def kept (rate : SourceRate) (now : Instant) : Table PeerId Bucket :=
  if rate.buckets.len > maxBuckets then rate.forget now else rate.buckets

theorem Past.kept (past : rate.Past now) : Past { rate with buckets := rate.kept now } now := by
  intro peer bucket found
  apply past peer bucket
  unfold SourceRate.kept at found
  dsimp only at found
  split at found
  · rw [forget, Table.lookup_retain] at found
    exact (Option.filter_eq_some_iff.mp found).1
  · exact found

/-- A bucket that is forgotten would be full at every later time. -/
theorem available_kept (flows : 0 ≤ rate.perSecond) (past : rate.Past now) (peer : PeerId)
    (later : now ≤ time) :
    available { rate with buckets := rate.kept now } peer time = rate.available peer time := by
  unfold SourceRate.kept
  by_cases many : rate.buckets.len > maxBuckets
  · rw [if_pos many]
    unfold available forget
    dsimp only
    rw [Table.lookup_retain]
    cases found : rate.buckets.lookup peer with
    | none => rfl
    | some bucket =>
      by_cases short : bucket.tokens + asSecs (now - bucket.updated) * rate.perSecond < rate.burst
      · rw [Option.filter_some, if_pos (decide_eq_true short)]
      · rw [Option.filter_some, if_neg (by simpa using short)]
        have full : TokenBucket.refill rate.burst rate.perSecond bucket.tokens
            (asSecs (now - bucket.updated)) = rate.burst :=
          min_eq_right (not_lt.mp short)
        dsimp only
        rw [← asSecs_split (past peer bucket found) later,
          ← TokenBucket.refill_refill flows (asSecs_nonneg _), full,
          TokenBucket.refill_full flows (asSecs_nonneg _)]
  · rw [if_neg many]

/-- A call lets its source through if it has a token, and takes it. -/
theorem allow_eq (rate : SourceRate) (peer : PeerId) (now : Instant) :
    rate.allow peer now =
      let tokens := available { rate with buckets := rate.kept now } peer now
      ({ rate with
          buckets := (rate.kept now).insert peer
            { tokens := if 1 ≤ tokens then tokens - 1 else tokens, updated := now } },
        decide (1 ≤ tokens)) := by
  have looked : TokenBucket.refill rate.burst rate.perSecond
      (((rate.kept now).lookup peer).getD { tokens := rate.burst, updated := now }).tokens
      (asSecs (now - (((rate.kept now).lookup peer).getD
        { tokens := rate.burst, updated := now }).updated)) =
        available { rate with buckets := rate.kept now } peer now := by
    unfold available
    cases (rate.kept now).lookup peer with
    | none =>
      rw [Option.getD_none, Nat.sub_self, asSecs_zero]
      exact TokenBucket.refill_zero (le_refl _)
    | some bucket => rfl
  have one : ((1 : Nat) : ℚ) = 1 := Nat.cast_one
  unfold allow
  dsimp only
  rw [one]
  change (if TokenBucket.refill _ _ _ _ < 1 then _ else _) = _
  rw [show (if rate.buckets.len > maxBuckets then rate.forget now else rate.buckets) =
    rate.kept now from rfl, looked]
  by_cases short : available { rate with buckets := rate.kept now } peer now < 1
  · rw [if_pos short, if_neg (not_le.mpr short), decide_eq_false (not_le.mpr short)]
  · rw [if_neg short, if_pos (not_lt.mp short), decide_eq_true (not_lt.mp short)]

theorem Past.later (past : rate.Past now) (forward : now ≤ time) : rate.Past time :=
  fun peer bucket found => (past peer bucket found).trans forward

theorem Past.allow (past : rate.Past now) (peer : PeerId) :
    (rate.allow peer now).1.Past now := by
  rw [allow_eq]
  intro other bucket found
  dsimp only at found
  rw [Table.lookup_insert_if] at found
  split at found
  · rw [← Option.some.inj found]
  · exact past.kept other bucket found

/-- Whether a source is let through, and what every source has afterwards. -/
theorem allow_spec (flows : 0 ≤ rate.perSecond) (past : rate.Past now) (peer : PeerId) :
    (rate.allow peer now).2 = decide (1 ≤ rate.available peer now) ∧
      ∀ other time, now ≤ time → (rate.allow peer now).1.available other time =
        if other = peer then
          TokenBucket.refill rate.burst rate.perSecond
            (if 1 ≤ rate.available peer now then rate.available peer now - 1
              else rate.available peer now) (asSecs (time - now))
        else rate.available other time := by
  have same := available_kept flows past peer (le_refl now)
  rw [allow_eq, same]
  refine ⟨rfl, fun other time later => ?_⟩
  rw [available]
  dsimp only
  rw [Table.lookup_insert_if]
  by_cases own : other = peer
  · rw [if_pos own, if_pos own]
  · rw [if_neg own, if_neg own]
    exact available_kept flows past other later

/-- Waiting refills what is there. -/
theorem refill_available (flows : 0 ≤ rate.perSecond) (past : rate.Past now) (peer : PeerId)
    (later : now ≤ time) :
    TokenBucket.refill rate.burst rate.perSecond (rate.available peer now) (asSecs (time - now)) =
      rate.available peer time := by
  unfold available
  cases found : rate.buckets.lookup peer with
  | none => exact TokenBucket.refill_full flows (asSecs_nonneg _)
  | some bucket =>
    dsimp only
    rw [TokenBucket.refill_refill flows (asSecs_nonneg _),
      asSecs_split (past peer bucket found) later]

/-- What a source rate makes of a call on the limiter beside it. -/
def hear (rate : SourceRate) : LimitOp → SourceRate
  | .check request _ now => (rate.allow request.peer now).1
  | _ => rate

/-- Whether a call lets a source through, as a number. -/
def passes (peer : PeerId) (rate : SourceRate) : LimitOp → Nat
  | .check request _ now =>
    if request.peer = peer ∧ (rate.allow request.peer now).2 = true then 1 else 0
  | _ => 0

/-- How often a source is let through. -/
def passed (peer : PeerId) : SourceRate → List LimitOp → Nat
  | _, [] => 0
  | rate, op :: rest => passes peer rate op + passed peer (rate.hear op) rest

end SourceRate

namespace Limits

/-- One message every `interval` milliseconds from each peer of a group nobody
classified, on any protocol. -/
def perSource (interval burst : Nat) : Rule where
  id :=
    { peerClass := classUnknown
      scope := scopePeer
      protocol := protocolAny
      unit := .messages }
  rate := { amount := 1, intervalMs := interval, burst }

/-- A limiter with that limit alone. -/
def limitedPerSource (interval burst : Nat) : Limits :=
  run [.setLimit (perSource interval burst).id (perSource interval burst).rate]

/-- The source rate and the limiter have the same left for every peer. -/
structure Agree (interval burst : Nat) (rate : SourceRate) (limits : Limits) (now : Instant) :
    Prop where
  perSecond : rate.perSecond = (perSource interval burst).rate.perSecond
  full : rate.burst = burst
  past : rate.Past now
  sound : Sound limits now
  rules : limits.rules = [perSource interval burst]
  classes : limits.classes = ∅
  available : ∀ peer time, now ≤ time →
    rate.available peer time = limits.available (perSource interval burst) (.peer peer) time

variable {interval burst : Nat} {rate : SourceRate} {limits : Limits} {now : Instant}

theorem Agree.inForce (agree : Agree interval burst rate limits now) :
    perSource interval burst ∈ limits.rules := by
  rw [agree.rules]
  exact List.mem_singleton.mpr rfl

/-- The only limit there is counts every request, by its peer. -/
theorem Agree.concerns_iff (agree : Agree interval burst rate limits now) {request : LimitRequest}
    {rule : Rule} {key : BucketKey} :
    limits.Concerns request rule key ↔
      rule = perSource interval burst ∧ key = .peer request.peer := by
  have unclassified : limits.classOf request.group = classUnknown := by
    rw [classOf, agree.classes]
    rfl
  constructor
  · intro concerns
    have only := concerns.inForce
    rw [agree.rules, List.mem_singleton] at only
    subst only
    exact ⟨rfl, (Option.some.inj concerns.inScope).symm⟩
  · rintro ⟨rfl, rfl⟩
    exact ⟨agree.inForce, unclassified.symm, .inl rfl, rfl⟩

theorem Agree.flows (agree : Agree interval burst rate limits now) : 0 ≤ rate.perSecond := by
  rw [agree.perSecond]
  exact Rate.perSecond_nonneg _

theorem Agree.decides (agree : Agree interval burst rate limits now) (request : LimitRequest)
    (bytes : Nat) : limits.Decides request bytes now := by
  apply Limits.decides agree.sound
  intro rule member
  rw [agree.rules, List.mem_singleton] at member
  rw [member]
  exact (by decide : scopePeer ≠ limitedBlocked)

/-- Both let a request through, or neither does. -/
theorem Agree.answers (agree : Agree interval burst rate limits now) (request : LimitRequest)
    (bytes : Nat) :
    (rate.allow request.peer now).2 = true ↔ (limits.check request bytes now).2 = .ok () := by
  have unblocked : limits.classOf request.group ≠ classBlocked := by
    rw [classOf, agree.classes]
    exact (by decide : classUnknown ≠ classBlocked)
  rw [(SourceRate.allow_spec agree.flows agree.past request.peer).1, decide_eq_true_iff,
    agree.available request.peer now (le_refl now),
    (agree.decides request bytes).admits unblocked]
  constructor
  · intro enough rule key concerns
    obtain ⟨rfl, rfl⟩ := agree.concerns_iff.mp concerns
    exact enough
  · intro enough
    exact enough _ _ (agree.concerns_iff.mpr ⟨rfl, rfl⟩)

/-- What both have left after a request. -/
theorem Agree.check (agree : Agree interval burst rate limits now) (request : LimitRequest)
    (bytes : Nat) :
    Agree interval burst (rate.allow request.peer now).1 (limits.check request bytes now).1 now := by
  obtain ⟨answer, left⟩ := SourceRate.allow_spec agree.flows agree.past request.peer
  have both := agree.answers request bytes
  rw [answer, decide_eq_true_iff] at both
  constructor
  · rw [SourceRate.allow_eq]
    exact agree.perSecond
  · rw [SourceRate.allow_eq]
    exact agree.full
  · exact agree.past.allow request.peer
  · exact sound_check agree.sound request bytes
  · rw [check_rules, agree.rules]
  · rw [check_classes, agree.classes]
  · intro peer time later
    rw [left peer time later]
    by_cases enough : 1 ≤ rate.available request.peer now
    · rw [available_check_admitted agree.sound (both.mp enough) agree.inForce _ later, if_pos enough]
      by_cases own : peer = request.peer
      · have concerned := Limits.concerns_iff.mp (agree.concerns_iff.mpr ⟨rfl, congrArg _ own⟩)
        rw [if_pos own, if_pos concerned, agree.full, agree.perSecond, own,
          agree.available request.peer now (le_refl now)]
        rfl
      · have aside : (perSource interval burst, BucketKey.peer peer) ∉ limits.matching request := by
          intro matched
          have same := (agree.concerns_iff.mp (Limits.concerns_iff.mpr matched)).2
          exact own (BucketKey.peer.inj same)
        rw [if_neg own, if_neg aside]
        exact agree.available peer time later
    · rw [available_check_refused agree.sound (both.not.mp enough) agree.inForce _ later,
        if_neg enough, ← agree.available peer time later]
      by_cases own : peer = request.peer
      · rw [if_pos own, own]
        exact SourceRate.refill_available agree.flows agree.past request.peer later
      · rw [if_neg own]

/-- A sweep of the limiter does not show. -/
theorem Agree.sweep (agree : Agree interval burst rate limits now) :
    Agree interval burst rate (limits.sweep now) now where
  perSecond := agree.perSecond
  full := agree.full
  past := agree.past
  sound := sound_sweep agree.sound
  rules := agree.rules
  classes := agree.classes
  available := by
    intro peer time later
    rw [available_sweep agree.sound agree.inForce _ later]
    exact agree.available peer time later

theorem Agree.later (agree : Agree interval burst rate limits now) {time : Instant}
    (forward : now ≤ time) : Agree interval burst rate limits time :=
  { agree with
    past := agree.past.later forward
    sound := agree.sound.later forward
    available := fun peer next later => agree.available peer next (forward.trans later) }

/-- A check or a sweep keeps the two in agreement. -/
theorem Agree.apply (agree : Agree interval burst rate limits now) {op : LimitOp}
    (timed : op.time?.isSome = true) (forward : now ≤ op.time?.getD now) :
    Agree interval burst (rate.hear op) (limits.apply op) (op.time?.getD now) := by
  cases op with
  | setClass => cases timed
  | setLimit => cases timed
  | check request bytes time => exact (agree.later forward).check request bytes
  | sweep time => exact (agree.later forward).sweep

theorem agree_start (positive : 0 < interval) (some : 0 < burst) :
    Agree interval burst (SourceRate.new (Duration.fromMillis interval) burst)
      (limitedPerSource interval burst) 0 := by
  have sets : (perSource interval burst).rate.sets = true := by
    simp [perSource, Rate.sets]
    omega
  have rules : (limitedPerSource interval burst).rules = [perSource interval burst] := by
    simp [limitedPerSource, run, Limits.apply, setLimit, sets]
  have buckets : (limitedPerSource interval burst).buckets = ∅ := by
    simp [limitedPerSource, run, Limits.apply, setLimit, sets]
  constructor
  · have nonzero : (interval : ℚ) ≠ 0 := by positivity
    simp only [SourceRate.new, asSecs_eq, Duration.fromMillis, perSource, Rate.perSecond]
    push_cast
    field_simp
    norm_num
  · rfl
  · intro peer bucket found
    cases found
  · exact sound_run (by simp [NonDecreasing, LimitOp.time?])
  · exact rules
  · simp [limitedPerSource, run, Limits.apply, setLimit, sets]
  · intro peer time _
    rw [available, buckets]
    rfl

/-- So does every sequence of them. -/
theorem Agree.foldl (agree : Agree interval burst rate limits now) {ops : List LimitOp}
    (timed : ∀ op ∈ ops, op.time?.isSome = true) (ordered : NonDecreasing now ops) :
    Agree interval burst (ops.foldl SourceRate.hear rate) (ops.foldl Limits.apply limits)
      (clock now ops) := by
  induction ops generalizing rate limits now with
  | nil => exact agree
  | cons op rest inductionHypothesis =>
    have next := agree.apply (timed op List.mem_cons_self) ordered.1
    exact inductionHypothesis next (fun other inRest => timed other (List.mem_cons_of_mem _ inRest))
      ordered.2

theorem Agree.passes_eq (agree : Agree interval burst rate limits now) (peer : PeerId)
    {op : LimitOp} (timed : op.time?.isSome = true) (forward : now ≤ op.time?.getD now) :
    (rate.passes peer op : ℚ) = spent (perSource interval burst) (.peer peer) limits op := by
  cases op with
  | setClass => cases timed
  | setLimit => cases timed
  | sweep time => exact Nat.cast_zero
  | check request bytes time =>
    have agreeThen : Agree interval burst rate limits time := agree.later forward
    have both := agreeThen.answers request bytes
    have matched : (perSource interval burst, BucketKey.peer peer) ∈ limits.matching request ↔
        request.peer = peer := by
      rw [← Limits.concerns_iff, agreeThen.concerns_iff]
      constructor
      · rintro ⟨-, same⟩
        exact (BucketKey.peer.inj same).symm
      · rintro rfl
        exact ⟨rfl, rfl⟩
    rw [SourceRate.passes, spent]
    cases answer : (limits.check request bytes time).2 with
    | error reason =>
      rw [answer] at both
      have refused : ¬ (rate.allow request.peer time).2 = true := both.not.mpr (by simp)
      rw [if_neg fun passes => refused passes.2]
      exact Nat.cast_zero
    | ok =>
      have admitted := both.mpr answer
      by_cases own : request.peer = peer
      · dsimp only
        rw [if_pos ⟨own, admitted⟩, if_pos (matched.mpr own)]
        exact Nat.cast_one
      · dsimp only
        rw [if_neg fun passes => own passes.1, if_neg (matched.not.mpr own)]
        exact Nat.cast_zero

/-- What the source rate lets through is what the limiter spends. -/
theorem Agree.passed_eq (agree : Agree interval burst rate limits now) (peer : PeerId)
    {ops : List LimitOp} (timed : ∀ op ∈ ops, op.time?.isSome = true)
    (ordered : NonDecreasing now ops) :
    (rate.passed peer ops : ℚ) = totalSpent (perSource interval burst) (.peer peer) limits ops := by
  induction ops generalizing rate limits now with
  | nil => rfl
  | cons op rest inductionHypothesis =>
    have next := agree.apply (timed op List.mem_cons_self) ordered.1
    have later := inductionHypothesis next
      (fun other inRest => timed other (List.mem_cons_of_mem _ inRest)) ordered.2
    rw [SourceRate.passed, totalSpent, Nat.cast_add, later,
      agree.passes_eq peer (timed op List.mem_cons_self) ordered.1]

theorem NonDecreasing.take {now : Instant} {ops before : List LimitOp}
    (ordered : NonDecreasing now ops) (inside : before <+: ops) : NonDecreasing now before := by
  obtain ⟨rest, rfl⟩ := inside
  exact (nonDecreasing_append.mp ordered).1

/-- Asked the same, the source rate and the limiter with that one limit answer the
same, however often the limiter is swept in between; and a source gets through at
most `burst` times and once more for every interval that has passed, in any window
of time. -/
theorem source_rate_agrees {interval burst : Nat} (positive : 0 < interval) (some : 0 < burst)
    {ops : List LimitOp} (timed : ∀ op ∈ ops, op.time?.isSome = true)
    (ordered : NonDecreasing 0 ops) :
    (∀ before request bytes now, before ++ [.check request bytes now] <+: ops →
      (((before.foldl SourceRate.hear (SourceRate.new (Duration.fromMillis interval) burst)).allow
          request.peer now).2 = true ↔
        ((before.foldl Limits.apply (limitedPerSource interval burst)).check request bytes now).2 =
          .ok ())) ∧
      ∀ before window peer start stop, before ++ window <+: ops →
        (∀ op ∈ window, ∀ time ∈ op.time?, start ≤ time ∧ time ≤ stop) →
          ((before.foldl SourceRate.hear
              (SourceRate.new (Duration.fromMillis interval) burst)).passed peer window : ℚ) ≤
            burst + asMillis (stop - start) / interval := by
  have start := agree_start positive some
  constructor
  · intro before request bytes now inside
    obtain ⟨orderedBefore, forward, -⟩ := nonDecreasing_append.mp (ordered.take inside)
    have timedBefore (op : LimitOp) (member : op ∈ before) : op.time?.isSome = true :=
      timed op (inside.subset (List.mem_append_left _ member))
    exact ((start.foldl timedBefore orderedBefore).later forward).answers request bytes
  · intro before window peer opening stop inside within
    obtain ⟨orderedBefore, orderedWindow⟩ := nonDecreasing_append.mp (ordered.take inside)
    have timedBefore (op : LimitOp) (member : op ∈ before) : op.time?.isSome = true :=
      timed op (inside.subset (List.mem_append_left _ member))
    have timedWindow (op : LimitOp) (member : op ∈ window) : op.time?.isSome = true :=
      timed op (inside.subset (List.mem_append_right _ member))
    have agree := start.foldl timedBefore orderedBefore
    have unchanged (op : LimitOp) (member : op ∈ window) :
        Preserves (perSource interval burst) op := by
      rintro rate rfl
      cases timedWindow _ member
    have bound := totalSpent_within agree.sound agree.inForce (.peer peer) unchanged orderedWindow
      within
    rw [agree.passed_eq peer timedWindow orderedWindow]
    simpa [perSource] using bound

/-- Three requests at once, a sweep, and one more a second later, at a rate of one a
second and two in reserve. -/
theorem source_rate_agrees_burst_and_later :
    ((SourceRate.new (Duration.fromMillis 1000) 2).passed ⟨0, [1]⟩ burstAndLater : ℚ) ≤
      (2 : ℕ) + asMillis (1000000000 - 0) / (1000 : ℕ) := by
  have timed : ∀ op ∈ burstAndLater, op.time?.isSome = true := by
    simp [burstAndLater, LimitOp.time?]
  have ordered : NonDecreasing 0 burstAndLater := by
    simp [burstAndLater, NonDecreasing, LimitOp.time?]
  refine (source_rate_agrees (by decide) (by decide) timed ordered).2 [] burstAndLater ⟨0, [1]⟩ 0
    1000000000 (List.prefix_refl _) ?_
  simp [burstAndLater, LimitOp.time?]

end Limits

end Libp2pFfi
