import Libp2pFfi.RateBound

/-!
# Refused requests and sweeps leave no trace

Two limiters are alike when they have the same classes and the same rules, and
every rule has the same tokens available for every key from now on. Their
bucket tables may differ in which buckets they hold and when these were last
brought up to date. Alike limiters give the same answer to the same check and
stay alike; a refused check or a sweep on one side only leaves them alike.

A run from which refused checks and sweeps were erased therefore answers its
remaining checks as the whole run did. The sweep inside a check can be erased as
well: the erased run may make the check without it.
-/

namespace Libp2pFfi.Limits

/-- The same in every way a later call can observe, from `now` on. -/
structure Alike (now : Instant) (left right : Limits) : Prop where
  leftSound : Sound left now
  rightSound : Sound right now
  classes : left.classes = right.classes
  rules : left.rules = right.rules
  available : ∀ rule ∈ left.rules, ∀ key time, now ≤ time →
    left.available rule key time = right.available rule key time

theorem alike_refl {now : Instant} {limits : Limits} (sound : Sound limits now) :
    Alike now limits limits :=
  ⟨sound, sound, rfl, rfl, fun _ _ _ _ _ => rfl⟩

theorem Alike.symm {now : Instant} {left right : Limits} (alike : Alike now left right) :
    Alike now right left :=
  { leftSound := alike.rightSound
    rightSound := alike.leftSound
    classes := alike.classes.symm
    rules := alike.rules.symm
    available := fun rule member key time later =>
      (alike.available rule (alike.rules ▸ member) key time later).symm }

theorem Alike.trans {now : Instant} {left middle right : Limits} (first : Alike now left middle)
    (second : Alike now middle right) : Alike now left right :=
  { leftSound := first.leftSound
    rightSound := second.rightSound
    classes := first.classes.trans second.classes
    rules := first.rules.trans second.rules
    available := fun rule member key time later =>
      (first.available rule member key time later).trans
        (second.available rule (first.rules ▸ member) key time later) }

theorem Alike.later {now time : Instant} {left right : Limits} (alike : Alike now left right)
    (forward : now ≤ time) : Alike time left right :=
  { leftSound := alike.leftSound.later forward
    rightSound := alike.rightSound.later forward
    classes := alike.classes
    rules := alike.rules
    available := fun rule member key moment later =>
      alike.available rule member key moment (le_trans forward later) }

/-- A sweep leaves a limiter like the one it was made on. -/
theorem alike_sweep {now : Instant} {limits : Limits} (sound : Sound limits now) :
    Alike now (limits.sweep now) limits :=
  { leftSound := sound_sweep sound
    rightSound := sound
    classes := rfl
    rules := rfl
    available := fun _ member key _ later => available_sweep sound member key later }

/-- So does a refused check. -/
theorem alike_refused {now : Instant} {limits : Limits} (sound : Sound limits now)
    {request : LimitRequest} {bytes reason : Nat}
    (refused : (limits.checkUnswept request bytes now).2 = .error reason) :
    Alike now (limits.checkUnswept request bytes now).1 limits :=
  { leftSound := sound_checkUnswept sound request bytes
    rightSound := sound
    classes := checkUnswept_classes limits request bytes now
    rules := checkUnswept_rules limits request bytes now
    available := fun _ member key _ later =>
      available_refused sound (Prod.ext rfl refused)
        (checkUnswept_rules limits request bytes now ▸ member) key later }

/-- Whether or not a check sweeps at its end makes no difference. -/
theorem alike_unswept {now : Instant} {limits : Limits} (sound : Sound limits now)
    (request : LimitRequest) (bytes : Nat) :
    Alike now (limits.check request bytes now).1 (limits.checkUnswept request bytes now).1 := by
  have unswept := sound_checkUnswept sound request bytes
  rcases (check_cases limits request bytes now).2 with same | same
  · rw [same]
    exact alike_refl unswept
  · rw [same]
    exact alike_sweep unswept

theorem Alike.matching {now : Instant} {left right : Limits} (alike : Alike now left right)
    (request : LimitRequest) : left.matching request = right.matching request := by
  unfold Limits.matching classOf
  rw [alike.classes, alike.rules]

/-- Alike limiters find the same matching rules short. -/
theorem Alike.find_short {now : Instant} {left right : Limits} (alike : Alike now left right)
    (request : LimitRequest) (bytes : Nat) :
    (left.matching request).find? (short bytes now left.buckets) =
      (right.matching request).find? (short bytes now right.buckets) := by
  rw [← alike.matching request]
  have same (pairs : List (Rule × BucketKey)) (inForce : ∀ pair ∈ pairs, pair.1 ∈ left.rules) :
      pairs.find? (short bytes now left.buckets) = pairs.find? (short bytes now right.buckets) := by
    induction pairs with
    | nil => rfl
    | cons pair rest inductionHypothesis =>
      have tokens : tokensAt pair.1 (left.buckets.lookup (slot pair)) now =
          tokensAt pair.1 (right.buckets.lookup (slot pair)) now :=
        alike.available pair.1 (inForce pair List.mem_cons_self) pair.2 now (le_refl now)
      have first : short bytes now left.buckets pair = short bytes now right.buckets pair := by
        unfold short
        rw [tokens]
      rw [List.find?_cons, List.find?_cons, first,
        inductionHypothesis fun other inRest => inForce other (List.mem_cons_of_mem _ inRest)]
  exact same _ fun pair member => (mem_matching.mp member).1

/-- Alike limiters answer a check alike, and stay alike. -/
theorem Alike.checkUnswept {now : Instant} {left right : Limits} (alike : Alike now left right)
    (request : LimitRequest) (bytes : Nat) :
    (left.checkUnswept request bytes now).2 = (right.checkUnswept request bytes now).2 ∧
      Alike now (left.checkUnswept request bytes now).1
        (right.checkUnswept request bytes now).1 := by
  have found := alike.find_short request bytes
  have sameClass : left.classOf request.group = right.classOf request.group := by
    unfold classOf
    rw [alike.classes]
  rcases checkUnswept_cases alike.leftSound request bytes with
    ⟨blocked, leftEnd⟩ | ⟨open', pair, short, leftEnd⟩ | ⟨open', enough, leftEnd⟩
  · rcases checkUnswept_cases alike.rightSound request bytes with
      ⟨-, rightEnd⟩ | ⟨notBlocked, -⟩ | ⟨notBlocked, -⟩
    · rw [leftEnd, rightEnd]
      exact ⟨rfl, alike⟩
    · exact absurd (sameClass ▸ blocked) notBlocked
    · exact absurd (sameClass ▸ blocked) notBlocked
  · rcases checkUnswept_cases alike.rightSound request bytes with
      ⟨blocked, -⟩ | ⟨-, other, otherShort, rightEnd⟩ | ⟨-, enough, -⟩
    · exact absurd (sameClass.trans blocked) open'
    · have samePair : pair = other := Option.some.inj (short.symm.trans (found.trans otherShort))
      refine ⟨by rw [leftEnd, rightEnd, samePair], ?_⟩
      have leftRefused : (left.checkUnswept request bytes now).2 = .error pair.1.id.scope := by
        rw [leftEnd]
      have rightRefused : (right.checkUnswept request bytes now).2 = .error other.1.id.scope := by
        rw [rightEnd]
      exact ((alike_refused alike.leftSound leftRefused).trans alike).trans
        (alike_refused alike.rightSound rightRefused).symm
    · rw [short, enough] at found
      cases found
  · rcases checkUnswept_cases alike.rightSound request bytes with
      ⟨blocked, -⟩ | ⟨-, other, otherShort, -⟩ | ⟨-, -, rightEnd⟩
    · exact absurd (sameClass.trans blocked) open'
    · rw [enough, otherShort] at found
      cases found
    · refine ⟨by rw [leftEnd, rightEnd], ?_⟩
      exact
        { leftSound := sound_checkUnswept alike.leftSound request bytes
          rightSound := sound_checkUnswept alike.rightSound request bytes
          classes := by simpa using alike.classes
          rules := by simpa using alike.rules
          available := by
            intro rule member key time later
            rw [checkUnswept_rules] at member
            have memberRight : rule ∈ right.rules := alike.rules ▸ member
            rw [available_admitted alike.leftSound (Prod.ext rfl (by rw [leftEnd])) member key,
              available_admitted alike.rightSound (Prod.ext rfl (by rw [rightEnd])) memberRight key,
              alike.matching request, alike.available rule member key now (le_refl now),
              alike.available rule member key time later] }

/-- The whole check, sweeps and all, on both sides. -/
theorem Alike.check {now : Instant} {left right : Limits} (alike : Alike now left right)
    (request : LimitRequest) (bytes : Nat) :
    (left.check request bytes now).2 = (right.check request bytes now).2 ∧
      Alike now (left.check request bytes now).1 (right.check request bytes now).1 := by
  obtain ⟨answer, after⟩ := alike.checkUnswept request bytes
  constructor
  · rw [(check_cases left request bytes now).1, (check_cases right request bytes now).1, answer]
  · exact ((alike_unswept alike.leftSound request bytes).trans after).trans
      (alike_unswept alike.rightSound request bytes).symm

/-- Setting a class looks at no bucket. -/
theorem Alike.setClass {now : Instant} {left right : Limits} (alike : Alike now left right)
    (group : Key) (peerClass : Nat) :
    Alike now (left.setClass group peerClass) (right.setClass group peerClass) := by
  obtain ⟨leftRules, leftBuckets⟩ := setClass_rules left group peerClass
  obtain ⟨rightRules, rightBuckets⟩ := setClass_rules right group peerClass
  refine
    { leftSound := sound_apply alike.leftSound (.setClass group peerClass) (le_refl now)
      rightSound := sound_apply alike.rightSound (.setClass group peerClass) (le_refl now)
      classes := ?_
      rules := by rw [leftRules, rightRules, alike.rules]
      available := ?_ }
  · unfold Limits.setClass
    split <;> simp [alike.classes]
  · intro rule member key time later
    unfold Limits.available
    rw [leftBuckets, rightBuckets]
    exact alike.available rule (leftRules ▸ member) key time later

/-- Whether setting a limit leaves the rate of a limit that exists as it is. -/
def KeepsRates (limits : Limits) : LimitOp → Prop
  | .setLimit id rate => rate.sets = true → ∀ rule ∈ limits.rules, rule.id = id → rule.rate = rate
  | _ => True

/-- A rule nobody set has no bucket, so a new rule starts full on both sides
and a removed one leaves nothing behind. -/
theorem Alike.setLimit {now : Instant} {left right : Limits} (alike : Alike now left right)
    {id : RuleId} {rate : Rate} (keeps : KeepsRates left (.setLimit id rate)) :
    Alike now (left.setLimit id rate) (right.setLimit id rate) := by
  have unowned {limits : Limits} (sound : Sound limits now)
      (unset : ∀ rule ∈ limits.rules, rule.id ≠ id) (key : BucketKey) :
      limits.buckets.lookup (id, key) = none := by
    cases found : limits.buckets.lookup (id, key) with
    | none => rfl
    | some bucket =>
      obtain ⟨rule, member, owner⟩ := sound.owned _ bucket found
      exact absurd owner (unset rule member)
  refine
    { leftSound := sound_setLimit alike.leftSound id rate
      rightSound := sound_setLimit alike.rightSound id rate
      classes := ?_
      rules := ?_
      available := ?_ }
  · unfold Limits.setLimit
    split <;> exact alike.classes
  · unfold Limits.setLimit
    split <;> simp [alike.rules]
  · intro rule member key time later
    unfold Limits.available
    rw [setLimit_lookup, setLimit_lookup]
    rcases mem_setLimit.mp member with ⟨old, other⟩ | ⟨sets, rfl⟩
    · have untouched : ¬ (rate.sets = false ∧ rule.id = id) := fun both => other both.2
      rw [if_neg untouched, if_neg untouched]
      exact alike.available rule old key time later
    · rw [if_neg (by simp [sets]), if_neg (by simp [sets])]
      by_cases present : ∃ rule ∈ left.rules, rule.id = id
      · obtain ⟨rule, old, rfl⟩ := present
        obtain rfl : rule.rate = rate := keeps sets rule old rfl
        exact alike.available rule old key time later
      · have unset : ∀ rule ∈ left.rules, rule.id ≠ id := by simpa using present
        rw [unowned alike.leftSound unset, unowned alike.rightSound (alike.rules ▸ unset)]

/-! Erasing from a run. -/

/-- A call of the erased run: one of the run's own, or a check that does not
sweep at its end. -/
inductive Kept where
  | op (op : LimitOp)
  | unswept (request : LimitRequest) (bytes : Nat) (now : Instant)

/-- The state a call leaves, and the answer if it is a check. -/
def respond (limits : Limits) : LimitOp → Limits × List Answer
  | .check request bytes now =>
    ((limits.check request bytes now).1, [(limits.check request bytes now).2])
  | op => (limits.apply op, [])

/-- The same for a call of the erased run. -/
def respondKept (limits : Limits) : Kept → Limits × List Answer
  | .op op => limits.respond op
  | .unswept request bytes now =>
    ((limits.checkUnswept request bytes now).1, [(limits.checkUnswept request bytes now).2])

/-- The answers of a sequence of calls, in order. -/
def replay : Limits → List Kept → List Answer
  | _, [] => []
  | limits, call :: rest => (limits.respondKept call).2 ++ replay (limits.respondKept call).1 rest

/-- `Erases limits ops kept answers`: run from `limits`, the calls `ops` can be
thinned out to `kept`, and `answers` are what the checks that remain answered in
the whole run. Only sweeps and checks that were refused may be left out, and a
check may lose the sweep at its end. -/
inductive Erases : Limits → List LimitOp → List Kept → List Answer → Prop where
  | done (limits : Limits) : Erases limits [] [] []
  | keep {limits : Limits} {op : LimitOp} {ops : List LimitOp} {kept : List Kept}
      {answers : List Answer} (rest : Erases (limits.respond op).1 ops kept answers) :
      Erases limits (op :: ops) (.op op :: kept) ((limits.respond op).2 ++ answers)
  | unswept {limits : Limits} {request : LimitRequest} {bytes : Nat} {now : Instant}
      {ops : List LimitOp} {kept : List Kept} {answers : List Answer}
      (rest : Erases (limits.check request bytes now).1 ops kept answers) :
      Erases limits (.check request bytes now :: ops) (.unswept request bytes now :: kept)
        ((limits.check request bytes now).2 :: answers)
  | sweep {limits : Limits} {now : Instant} {ops : List LimitOp} {kept : List Kept}
      {answers : List Answer} (rest : Erases (limits.sweep now) ops kept answers) :
      Erases limits (.sweep now :: ops) kept answers
  | refused {limits : Limits} {request : LimitRequest} {bytes reason : Nat} {now : Instant}
      {ops : List LimitOp} {kept : List Kept} {answers : List Answer}
      (refused : (limits.check request bytes now).2 = .error reason)
      (rest : Erases (limits.check request bytes now).1 ops kept answers) :
      Erases limits (.check request bytes now :: ops) kept answers

/-- No call of the run replaces the rate of a limit that exists. -/
def RatesFixed : Limits → List LimitOp → Prop
  | _, [] => True
  | limits, op :: rest => KeepsRates limits op ∧ RatesFixed (limits.apply op) rest

@[simp] theorem respond_fst (limits : Limits) (op : LimitOp) :
    (limits.respond op).1 = limits.apply op := by
  cases op <;> rfl

/-- One step of the simulation: the same call on both sides. -/
theorem Alike.respond {now : Instant} {left right : Limits} (alike : Alike now left right)
    {op : LimitOp} (forward : now ≤ op.time?.getD now) (keeps : KeepsRates left op) :
    (left.respond op).2 = (right.respond op).2 ∧
      Alike (op.time?.getD now) (left.apply op) (right.apply op) := by
  cases op with
  | setClass group peerClass => exact ⟨rfl, alike.setClass group peerClass⟩
  | setLimit id rate => exact ⟨rfl, alike.setLimit keeps⟩
  | check request bytes time =>
    obtain ⟨answer, after⟩ := (alike.later forward).check request bytes
    exact ⟨congrArg (fun answer => [answer]) answer, after⟩
  | sweep time =>
    have present := alike.later forward
    exact ⟨rfl, ((alike_sweep present.leftSound).trans present).trans
      (alike_sweep present.rightSound).symm⟩

/-- The simulation along a whole run: whatever was left out, the two sides stay
alike, and the checks that remain are answered alike. -/
theorem replay_of_alike {now : Instant} {left right : Limits} {ops : List LimitOp}
    {kept : List Kept} {answers : List Answer} (erases : Erases left ops kept answers)
    (alike : Alike now left right) (ordered : NonDecreasing now ops)
    (fixedRates : RatesFixed left ops) : replay right kept = answers := by
  induction erases generalizing now right with
  | done => rfl
  | keep rest inductionHypothesis =>
    obtain ⟨answer, after⟩ := alike.respond ordered.1 fixedRates.1
    simp only [replay, respondKept, answer]
    rw [inductionHypothesis (by simpa using after) ordered.2 (by simpa using fixedRates.2)]
  | unswept rest inductionHypothesis =>
    rename_i limits request bytes time _ _ _
    have present : Alike time limits right := alike.later ordered.1
    obtain ⟨answer, after⟩ := present.checkUnswept request bytes
    have remains := (alike_unswept present.leftSound request bytes).trans after
    simp only [replay, respondKept, List.singleton_append]
    rw [inductionHypothesis remains ordered.2 fixedRates.2, ← answer,
      (check_cases limits request bytes time).1]
  | sweep rest inductionHypothesis =>
    have present := alike.later ordered.1
    exact inductionHypothesis ((alike_sweep present.leftSound).trans present) ordered.2 fixedRates.2
  | refused refused rest inductionHypothesis =>
    rename_i limits request bytes reason time _ _ _
    have present := alike.later ordered.1
    have unsweptRefused : (limits.checkUnswept request bytes time).2 = .error reason := by
      rw [← (check_cases limits request bytes time).1]
      exact refused
    have undone := (alike_unswept present.leftSound request bytes).trans
      (alike_refused present.leftSound unsweptRefused)
    exact inductionHypothesis (undone.trans present) ordered.2 fixedRates.2

/-- Refused checks and sweeps leave no trace: whichever of them are erased from
a run, every check that remains gives the answer it gave, refusals with their
reason. -/
theorem erased_run_answers {ops : List LimitOp} {kept : List Kept} {answers : List Answer}
    (erases : Erases {} ops kept answers) (ordered : NonDecreasing 0 ops)
    (fixedRates : RatesFixed {} ops) : replay {} kept = answers :=
  replay_of_alike erases (alike_refl sound_default) ordered fixedRates

/-- Of the run of three requests at once, a sweep and a later request, the
refused third one and the sweep are erased, and the later one goes unswept. -/
theorem erased_run_answers_burst_and_later :
    replay {} [.op (.setLimit perPeerRule.id perPeerRule.rate), .op (.check (requestOf [1]) 1 0),
      .op (.check (requestOf [1]) 1 0), .unswept (requestOf [1]) 1 1000000000] =
        [.ok (), .ok (), .ok ()] := by
  have refused : ((run [.setLimit perPeerRule.id perPeerRule.rate, .check (requestOf [1]) 1 0,
      .check (requestOf [1]) 1 0]).check (requestOf [1]) 1 0).2 = .error scopePeer := by
    decide +kernel
  have erases : Erases {} (.setLimit perPeerRule.id perPeerRule.rate :: burstAndLater)
      [.op (.setLimit perPeerRule.id perPeerRule.rate), .op (.check (requestOf [1]) 1 0),
        .op (.check (requestOf [1]) 1 0), .unswept (requestOf [1]) 1 1000000000] _ :=
    .keep (.keep (.keep (.refused refused (.sweep (.unswept (.done _))))))
  have ordered : NonDecreasing 0 (.setLimit perPeerRule.id perPeerRule.rate :: burstAndLater) := by
    simp [NonDecreasing, burstAndLater, LimitOp.time?]
  have fixedRates : RatesFixed {} (.setLimit perPeerRule.id perPeerRule.rate :: burstAndLater) := by
    simp [RatesFixed, KeepsRates, burstAndLater]
  exact (erased_run_answers erases ordered fixedRates).trans (by decide +kernel)

end Libp2pFfi.Limits
