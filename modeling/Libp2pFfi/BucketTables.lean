import Libp2pFfi.Limits

/-!
# The table of buckets

Which buckets there are, and in which order they are brought up to date and
charged, is the same whatever tokens are counted in. Nothing here depends on what
the numbers of an `Arithmetic` are: a check is put into closed form, the calls on a
limiter are joined into runs, and every run leaves a tidy limiter, in which rules
have ids of their own and buckets belong to rules.
-/

namespace Libp2pFfi

/-- One call on the limiter. -/
inductive LimitOp where
  | setClass (group : Key) (peerClass : Nat)
  | setLimit (id : RuleId) (rate : Rate)
  | check (request : LimitRequest) (bytes : Nat) (now : Instant)
  | sweep (now : Instant)

/-- When a call happens, for the calls that look at the clock. -/
def LimitOp.time? : LimitOp → Option Instant
  | .setClass _ _ => none
  | .setLimit _ _ => none
  | .check _ _ now => some now
  | .sweep now => some now

namespace Limits

variable {F : Type}

/-! Matching. -/

/-- The table key of a pair of a rule and the key it matched with. -/
def slot (pair : Rule × BucketKey) : RuleId × BucketKey := (pair.1.id, pair.2)

/-- The pairs a request meets: the rules in force that apply to it, each with the bucket
its scope picks. -/
theorem mem_matching {limits : Limits F} {request : LimitRequest} {rule : Rule} {key : BucketKey} :
    (rule, key) ∈ limits.matching request ↔
      rule ∈ limits.rules ∧ applies (limits.classOf request.group) request rule = true ∧
        bucketKey rule.id.scope request = some key := by
  simp only [matching, List.mem_filterMap, List.mem_filter, Option.map_eq_some_iff, Prod.mk.injEq]
  constructor
  · rintro ⟨found, ⟨member, applied⟩, chosen, inScope, rfl, rfl⟩
    exact ⟨member, applied, inScope⟩
  · rintro ⟨member, applied, inScope⟩
    exact ⟨rule, ⟨member, applied⟩, key, inScope, rfl, rfl⟩

/-- Every matching rule names a bucket of its own. -/
theorem matching_distinct {limits : Limits F} (unique : (limits.rules.map Rule.id).Nodup)
    (request : LimitRequest) : ((limits.matching request).map slot).Nodup := by
  -- The ids alone are distinct already: matching keeps the order of the rules.
  have kept (rules : List Rule) :
      ((rules.filterMap fun rule => (bucketKey rule.id.scope request).map fun key =>
        (rule, key)).map (Prod.fst ∘ slot)).Sublist (rules.map Rule.id) := by
    induction rules with
    | nil => exact List.Sublist.refl _
    | cons rule rest inductionHypothesis =>
      cases inScope : bucketKey rule.id.scope request with
      | none =>
        simp only [List.filterMap_cons, inScope, Option.map_none, List.map_cons]
        exact inductionHypothesis.cons _
      | some key =>
        simp only [List.filterMap_cons, inScope, Option.map_some, List.map_cons]
        exact inductionHypothesis.cons_cons _
  have ids : (((limits.matching request).map slot).map Prod.fst).Sublist
      (limits.rules.map Rule.id) := by
    rw [List.map_map]
    exact (kept _).trans (List.filter_sublist.map _)
  exact List.Nodup.of_map _ (ids.nodup unique)

/-! Setting classes and limits. -/

/-- A class is no rule and no bucket. -/
theorem setClass_rules (limits : Limits F) (group : Key) (peerClass : Nat) :
    (limits.setClass group peerClass).rules = limits.rules ∧
      (limits.setClass group peerClass).buckets = limits.buckets := by
  unfold setClass
  split <;> exact ⟨rfl, rfl⟩

/-- The rules after a change: the others, and the new one if its rate sets a limit. -/
theorem mem_setLimit {limits : Limits F} {id : RuleId} {rate : Rate} {rule : Rule} :
    rule ∈ (limits.setLimit id rate).rules ↔
      rule ∈ limits.rules ∧ rule.id ≠ id ∨ rate.sets = true ∧ rule = ⟨id, rate⟩ := by
  unfold setLimit
  cases sets : rate.sets <;> simp

/-- Setting a limit touches the buckets of no other rule, and the buckets of its
own only when it removes the rule. -/
theorem setLimit_lookup (limits : Limits F) (id : RuleId) (rate : Rate) (key : RuleId × BucketKey) :
    (limits.setLimit id rate).buckets.lookup key =
      if rate.sets = false ∧ key.1 = id then none else limits.buckets.lookup key := by
  unfold setLimit
  cases sets : rate.sets with
  | true => simp
  | false =>
    simp only [Table.lookup_retain, Bool.false_eq_true, if_false, true_and]
    cases limits.buckets.lookup key <;> by_cases own : key.1 = id <;> simp [own]

/-! What every run keeps. -/

/-- Rule ids are unique, and every bucket belongs to a rule. -/
structure Tidy (limits : Limits F) : Prop where
  unique : (limits.rules.map Rule.id).Nodup
  owned : ∀ key bucket, limits.buckets.lookup key = some bucket →
    ∃ rule ∈ limits.rules, rule.id = key.1

theorem tidy_default : Tidy ({} : Limits F) where
  unique := List.nodup_nil
  owned := by simp

/-- A rule is determined by its id. -/
theorem Tidy.same {limits : Limits F} (tidy : Tidy limits) {left right : Rule}
    (first : left ∈ limits.rules) (second : right ∈ limits.rules) (ids : left.id = right.id) :
    left = right :=
  List.inj_on_of_nodup_map tidy.unique first second ids

/-- A sweep finds the rule of each bucket. -/
theorem owner_found {limits : Limits F} (tidy : Tidy limits) {rule : Rule}
    (member : rule ∈ limits.rules) :
    limits.rules.find? (fun other => other.id = rule.id) = some rule := by
  cases found : limits.rules.find? fun other => other.id = rule.id with
  | none => exact absurd (decide_eq_true rfl) (List.find?_eq_none.mp found rule member)
  | some other =>
    rw [tidy.same (List.mem_of_find?_eq_some found) member (by simpa using List.find?_some found)]

/-- With the rules as they were, it is enough to look at the buckets. -/
theorem tidy_of_buckets {limits : Limits F} (tidy : Tidy limits) {buckets : Buckets F}
    (owned : ∀ key bucket, buckets.lookup key = some bucket →
      ∃ rule ∈ limits.rules, rule.id = key.1) :
    Tidy { limits with buckets } :=
  { unique := tidy.unique, owned }

/-- What a limit set or removed leaves in the table was there, and is of the rules
that are left. -/
theorem setLimit_kept {limits : Limits F} {id : RuleId} {rate : Rate} {key : RuleId × BucketKey}
    {bucket : Bucket F} (found : (limits.setLimit id rate).buckets.lookup key = some bucket) :
    limits.buckets.lookup key = some bucket ∧ ¬ (rate.sets = false ∧ key.1 = id) := by
  rw [setLimit_lookup] at found
  split at found
  · cases found
  · rename_i kept
    exact ⟨found, kept⟩

/-- A rate replaces the one of its id and no other. -/
theorem tidy_setLimit {limits : Limits F} (tidy : Tidy limits) (id : RuleId) (rate : Rate) :
    Tidy (limits.setLimit id rate) := by
  constructor
  · have others : ((limits.rules.filter fun rule => rule.id ≠ id).map Rule.id).Nodup :=
      (List.filter_sublist.map _).nodup tidy.unique
    unfold setLimit
    split
    · rw [List.map_append, List.nodup_append]
      refine ⟨others, List.nodup_singleton _, ?_⟩
      intro left inOthers right inNew
      obtain ⟨rule, kept, rfl⟩ := List.mem_map.mp inOthers
      have different : rule.id ≠ id := by simpa using (List.mem_filter.mp kept).2
      rwa [List.mem_singleton.mp inNew]
    · exact others
  · intro key bucket found
    obtain ⟨held, kept⟩ := setLimit_kept found
    obtain ⟨rule, member, owner⟩ := tidy.owned key bucket held
    by_cases own : key.1 = id
    · have sets : rate.sets = true := by simpa [own] using kept
      exact ⟨⟨id, rate⟩, mem_setLimit.mpr (.inr ⟨sets, rfl⟩), own.symm⟩
    · exact ⟨rule, mem_setLimit.mpr (.inl ⟨member, owner ▸ own⟩), owner⟩

variable [Arithmetic F]

/-! The two passes of a check. -/

/-- The bucket of a pair, brought up to date. -/
def refreshed (buckets : Buckets F) (rule : Rule) (key : BucketKey) (now : Instant) : Bucket F :=
  (bucketOr buckets rule key now).refill rule.rate now

/-- Whether the bucket of a pair, once it is up to date, has fewer tokens than the
request costs. -/
def unpaid (bytes : Nat) (now : Instant) (buckets : Buckets F) (pair : Rule × BucketKey) : Bool :=
  (refreshed buckets pair.1 pair.2 now).tokens < pair.1.cost bytes F

/-- The pairs the first pass looks at: up to the first that is short, that one
included. -/
def visited (isShort : Rule × BucketKey → Bool) : List (Rule × BucketKey) → List (Rule × BucketKey)
  | [] => []
  | pair :: rest => if isShort pair then [pair] else pair :: visited isShort rest

/-- Bring the buckets of some pairs up to date as they were in `source`. -/
def touch (now : Instant) (source : Buckets F) (buckets : Buckets F)
    (pairs : List (Rule × BucketKey)) : Buckets F :=
  pairs.foldl (fun table pair => table.insert (slot pair) (refreshed source pair.1 pair.2 now)) buckets

/-- A check looks at no pair it does not meet, and at none twice. -/
theorem visited_subset (isShort : Rule × BucketKey → Bool) (pairs : List (Rule × BucketKey)) :
    (visited isShort pairs).Sublist pairs := by
  induction pairs with
  | nil => exact List.Sublist.refl _
  | cons pair rest inductionHypothesis =>
    by_cases stops : isShort pair = true
    · simp [visited, stops]
    · simpa [visited, stops] using inductionHypothesis

/-- A check that finds nothing short looks at them all. -/
theorem visited_all {isShort : Rule × BucketKey → Bool} {pairs : List (Rule × BucketKey)}
    (enough : pairs.find? isShort = none) : visited isShort pairs = pairs := by
  induction pairs with
  | nil => rfl
  | cons pair rest inductionHypothesis =>
    rw [List.find?_eq_none] at enough
    have first : isShort pair = false := by simpa using enough pair List.mem_cons_self
    have others : rest.find? isShort = none :=
      List.find?_eq_none.mpr fun other member => enough other (List.mem_cons_of_mem _ member)
    simp [visited, first, inductionHypothesis others]

/-- Touching changes the touched slots only. -/
theorem touch_other (now : Instant) (source buckets : Buckets F) (pairs : List (Rule × BucketKey))
    (key : RuleId × BucketKey) (absent : key ∉ pairs.map slot) :
    (touch now source buckets pairs).lookup key = buckets.lookup key := by
  induction pairs generalizing buckets with
  | nil => rfl
  | cons pair rest inductionHypothesis =>
    simp only [List.map_cons, List.mem_cons, not_or] at absent
    calc
      (touch now source buckets (pair :: rest)).lookup key
          = AList.lookup key (buckets.insert (slot pair) (refreshed source pair.1 pair.2 now)) :=
            inductionHypothesis _ absent.2
      _ = buckets.lookup key := AList.lookup_insert_ne absent.1

/-- A touched slot holds its refreshed bucket. -/
theorem touch_member (now : Instant) (source buckets : Buckets F) (pairs : List (Rule × BucketKey))
    (distinct : (pairs.map slot).Nodup) (pair : Rule × BucketKey) (member : pair ∈ pairs) :
    (touch now source buckets pairs).lookup (slot pair) =
      some (refreshed source pair.1 pair.2 now) := by
  induction pairs generalizing buckets with
  | nil => cases member
  | cons first rest inductionHypothesis =>
    rw [List.map_cons, List.nodup_cons] at distinct
    rcases List.mem_cons.mp member with rfl | inRest
    · exact (touch_other now source _ rest (slot pair) distinct.1).trans (AList.lookup_insert _)
    · exact inductionHypothesis _ distinct.2 inRest

/-- The first pass in closed form: it brings the visited pairs up to date, and
answers the scope of the first that is short, if one is. Earlier updates do not
disturb later ones because the slots are distinct. -/
theorem probe_eq (bytes : Nat) (now : Instant) (source : Buckets F)
    (pairs : List (Rule × BucketKey)) (distinct : (pairs.map slot).Nodup) :
    probe bytes now source pairs =
      (touch now source source (visited (unpaid bytes now source) pairs),
        (pairs.find? (unpaid bytes now source)).map fun pair => pair.1.id.scope) := by
  suffices general : ∀ buckets : Buckets F,
      (∀ pair ∈ pairs, buckets.lookup (slot pair) = source.lookup (slot pair)) →
      probe bytes now buckets pairs =
        (touch now source buckets (visited (unpaid bytes now source) pairs),
          (pairs.find? (unpaid bytes now source)).map fun pair => pair.1.id.scope) from
    general source fun _ _ => rfl
  intro buckets untouched
  induction pairs generalizing buckets with
  | nil => rfl
  | cons pair rest inductionHypothesis =>
    rw [List.map_cons, List.nodup_cons] at distinct
    have same : (bucketOr buckets pair.1 pair.2 now).refill pair.1.rate now =
        refreshed source pair.1 pair.2 now := by
      unfold refreshed bucketOr
      rw [show buckets.lookup (pair.1.id, pair.2) = source.lookup (pair.1.id, pair.2) from
        untouched pair List.mem_cons_self]
    by_cases stops : unpaid bytes now source pair = true
    · have lacking : (refreshed source pair.1 pair.2 now).tokens < pair.1.cost bytes F := by
        simpa [unpaid] using stops
      simp only [probe, same, lacking, if_true, visited, stops, List.find?_cons_of_pos,
        Option.map_some]
      rfl
    · have enough : ¬ (refreshed source pair.1 pair.2 now).tokens < pair.1.cost bytes F := by
        simpa [unpaid] using stops
      simp only [probe, same, enough, if_false, visited, stops]
      rw [inductionHypothesis distinct.2, List.find?_cons_of_neg stops]
      · rfl
      · intro other inRest
        have different : slot other ≠ slot pair := fun equal =>
          distinct.1 (equal ▸ List.mem_map_of_mem inRest)
        rw [← untouched other (List.mem_cons_of_mem _ inRest)]
        exact AList.lookup_insert_ne different

/-- The second pass changes the slots of its pairs only. -/
theorem charge_other (bytes : Nat) (buckets : Buckets F) (pairs : List (Rule × BucketKey))
    (key : RuleId × BucketKey) (absent : key ∉ pairs.map slot) :
    (charge bytes buckets pairs).lookup key = buckets.lookup key := by
  induction pairs generalizing buckets with
  | nil => rfl
  | cons pair rest inductionHypothesis =>
    simp only [List.map_cons, List.mem_cons, not_or] at absent
    simp only [charge]
    split
    · exact inductionHypothesis _ absent.2
    · exact (inductionHypothesis _ absent.2).trans (AList.lookup_insert_ne absent.1)

/-- The second pass takes the cost of each of its pairs exactly once. -/
theorem charge_member (bytes : Nat) (buckets : Buckets F) (pairs : List (Rule × BucketKey))
    (distinct : (pairs.map slot).Nodup) (pair : Rule × BucketKey) (member : pair ∈ pairs)
    (bucket : Bucket F) (held : buckets.lookup (slot pair) = some bucket) :
    (charge bytes buckets pairs).lookup (slot pair) =
      some { bucket with tokens := bucket.tokens - pair.1.cost bytes F } := by
  induction pairs generalizing buckets with
  | nil => cases member
  | cons first rest inductionHypothesis =>
    rw [List.map_cons, List.nodup_cons] at distinct
    rcases List.mem_cons.mp member with rfl | inRest
    · have found : buckets.lookup (pair.1.id, pair.2) = some bucket := held
      simp only [charge, found]
      exact (charge_other bytes _ rest (slot pair) distinct.1).trans (AList.lookup_insert _)
    · have different : slot pair ≠ slot first := fun equal =>
        distinct.1 (equal ▸ List.mem_map_of_mem inRest)
      simp only [charge]
      split
      · exact inductionHypothesis _ distinct.2 inRest held
      · exact inductionHypothesis _ distinct.2 inRest ((AList.lookup_insert_ne different).trans held)

/-- The three ways a check can end, before any sweep: the group is blocked; some
matching rule is unpaid, and the pairs up to it are brought up to date; or all of
them have the tokens, and all are charged. -/
theorem checkUnswept_ends {limits : Limits F} (unique : (limits.rules.map Rule.id).Nodup)
    (request : LimitRequest) (bytes : Nat) (now : Instant) :
    (limits.classOf request.group = classBlocked ∧
        limits.checkUnswept request bytes now = (limits, .error limitedBlocked)) ∨
      (limits.classOf request.group ≠ classBlocked ∧
        ∃ pair, (limits.matching request).find? (unpaid bytes now limits.buckets) = some pair ∧
          limits.checkUnswept request bytes now =
            ({ limits with
                buckets := touch now limits.buckets limits.buckets
                  (visited (unpaid bytes now limits.buckets) (limits.matching request)) },
              .error pair.1.id.scope)) ∨
      (limits.classOf request.group ≠ classBlocked ∧
        (limits.matching request).find? (unpaid bytes now limits.buckets) = none ∧
        limits.checkUnswept request bytes now =
          ({ limits with
              buckets := charge bytes
                (touch now limits.buckets limits.buckets (limits.matching request))
                (limits.matching request) },
            .ok ())) := by
  unfold checkUnswept
  by_cases blocked : limits.classOf request.group = classBlocked
  · exact .inl ⟨blocked, by rw [if_pos blocked]⟩
  · rw [if_neg blocked, probe_eq bytes now limits.buckets _ (matching_distinct unique request)]
    cases first : (limits.matching request).find? (unpaid bytes now limits.buckets) with
    | some pair => exact .inr (.inl ⟨blocked, pair, rfl, rfl⟩)
    | none => exact .inr (.inr ⟨blocked, rfl, by rw [visited_all first]; rfl⟩)

/-- An admitted check found the cost in every matching bucket, left each of them
charged once at the time of the check, and changed no other bucket. -/
theorem admitted_charged {limits : Limits F} (unique : (limits.rules.map Rule.id).Nodup)
    {request : LimitRequest} {bytes : Nat} {now : Instant} {after : Limits F}
    (admitted : limits.checkUnswept request bytes now = (after, .ok ())) :
    (∀ rule key, (rule, key) ∈ limits.matching request →
        ¬ (refreshed limits.buckets rule key now).tokens < rule.cost bytes F ∧
          after.buckets.lookup (rule.id, key) =
            some ⟨(refreshed limits.buckets rule key now).tokens - rule.cost bytes F, now⟩) ∧
      ∀ key, key ∉ (limits.matching request).map slot →
        after.buckets.lookup key = limits.buckets.lookup key := by
  rcases checkUnswept_ends unique request bytes now with ⟨-, same⟩ | ⟨-, pair, -, same⟩ | ⟨-, all, same⟩
  · rw [same] at admitted
    cases (Prod.mk.inj admitted).2
  · rw [same] at admitted
    cases (Prod.mk.inj admitted).2
  · rw [same] at admitted
    obtain rfl := (Prod.mk.inj admitted).1
    have distinct := matching_distinct unique request
    refine ⟨fun rule key member => ⟨fun lacking => ?_, ?_⟩, fun key absent => ?_⟩
    · exact List.find?_eq_none.mp all (rule, key) member (decide_eq_true lacking)
    · have held := touch_member now limits.buckets limits.buckets _ distinct (rule, key) member
      exact charge_member bytes _ _ distinct (rule, key) member _ held
    · exact (charge_other bytes _ _ key absent).trans
        (touch_other now limits.buckets limits.buckets _ key absent)

/-! Runs. -/

/-- The answer of a check. -/
abbrev Answer := Except Nat Unit

/-- What one call does to the limiter. The answer of a check is read where it matters.
-/
def apply (limits : Limits F) : LimitOp → Limits F
  | .setClass group peerClass => limits.setClass group peerClass
  | .setLimit id rate => limits.setLimit id rate
  | .check request bytes now => (limits.check request bytes now).1
  | .sweep now => limits.sweep now

/-- The limiter after some calls, from the empty one. -/
def run (ops : List LimitOp) (F : Type := ℚ) [Arithmetic F] : Limits F := ops.foldl apply {}

/-! Checks keep the rules and the classes. -/

@[simp] theorem sweep_rules (limits : Limits F) (now : Instant) :
    (limits.sweep now).rules = limits.rules := rfl

@[simp] theorem sweep_classes (limits : Limits F) (now : Instant) :
    (limits.sweep now).classes = limits.classes := rfl

@[simp] theorem checkUnswept_rules (limits : Limits F) (request : LimitRequest) (bytes : Nat)
    (now : Instant) : (limits.checkUnswept request bytes now).1.rules = limits.rules := by
  unfold checkUnswept
  split
  · rfl
  · split <;> rfl

@[simp] theorem checkUnswept_classes (limits : Limits F) (request : LimitRequest) (bytes : Nat)
    (now : Instant) : (limits.checkUnswept request bytes now).1.classes = limits.classes := by
  unfold checkUnswept
  split
  · rfl
  · split <;> rfl

/-- A check is its first part, and a sweep behind it when it was admitted and
the table has grown too large. -/
theorem check_cases (limits : Limits F) (request : LimitRequest) (bytes : Nat) (now : Instant) :
    (limits.check request bytes now).2 = (limits.checkUnswept request bytes now).2 ∧
      ((limits.check request bytes now).1 = (limits.checkUnswept request bytes now).1 ∨
        (limits.check request bytes now).1 =
          (limits.checkUnswept request bytes now).1.sweep now) := by
  unfold check
  split
  · rename_i after reason refused
    rw [refused]
    exact ⟨rfl, .inl rfl⟩
  · rename_i after admitted
    rw [admitted]
    refine ⟨rfl, ?_⟩
    split
    · exact .inr rfl
    · exact .inl rfl

@[simp] theorem check_rules (limits : Limits F) (request : LimitRequest) (bytes : Nat)
    (now : Instant) : (limits.check request bytes now).1.rules = limits.rules := by
  rcases (check_cases limits request bytes now).2 with same | same <;> simp [same]

@[simp] theorem check_classes (limits : Limits F) (request : LimitRequest) (bytes : Nat)
    (now : Instant) : (limits.check request bytes now).1.classes = limits.classes := by
  rcases (check_cases limits request bytes now).2 with same | same <;> simp [same]

/-! Every call keeps what a tidy limiter is. -/

/-- Whether a sweep keeps a bucket of a rule, which it does as long as the bucket is
not full again. -/
def isShort (rule : Rule) (now : Instant) (bucket : Bucket F) : Bool :=
  (bucket.refill rule.rate now).tokens < (rule.rate.burst : F)

/-- What a sweep does to the bucket of a rule in force. -/
theorem sweep_lookup {limits : Limits F} (tidy : Tidy limits) {rule : Rule}
    (member : rule ∈ limits.rules) (key : BucketKey) (now : Instant) :
    (limits.sweep now).buckets.lookup (rule.id, key) =
      (limits.buckets.lookup (rule.id, key)).bind fun bucket =>
        if isShort rule now bucket then some (bucket.refill rule.rate now) else none := by
  unfold sweep
  rw [Table.lookup_filterMap]
  simp only [owner_found tidy member, isShort, decide_eq_true_eq]

/-- Forgetting buckets gives none to a rule that is not there. -/
theorem tidy_sweep {limits : Limits F} (tidy : Tidy limits) (now : Instant) :
    Tidy (limits.sweep now) := by
  apply tidy_of_buckets tidy
  intro key bucket found
  rw [Table.lookup_filterMap] at found
  obtain ⟨old, held, -⟩ := Option.bind_eq_some_iff.mp found
  exact tidy.owned key old held

/-- Touching pairs of the rules in force gives every new bucket a rule. -/
theorem tidy_touch {limits : Limits F} (tidy : Tidy limits) (now : Instant)
    {pairs : List (Rule × BucketKey)} (inForce : ∀ pair ∈ pairs, pair.1 ∈ limits.rules) :
    Tidy { limits with buckets := touch now limits.buckets limits.buckets pairs } := by
  apply tidy_of_buckets tidy
  intro key bucket found
  by_cases touched : key ∈ pairs.map slot
  · obtain ⟨pair, inPairs, rfl⟩ := List.mem_map.mp touched
    exact ⟨pair.1, inForce pair inPairs, rfl⟩
  · rw [touch_other now limits.buckets limits.buckets pairs _ touched] at found
    exact tidy.owned key bucket found

/-- A check makes buckets only for the pairs it meets. -/
theorem tidy_checkUnswept {limits : Limits F} (tidy : Tidy limits) (request : LimitRequest)
    (bytes : Nat) (now : Instant) : Tidy (limits.checkUnswept request bytes now).1 := by
  rcases checkUnswept_ends tidy.unique request bytes now with
    ⟨-, same⟩ | ⟨-, pair, -, same⟩ | ⟨-, -, same⟩
  · rw [same]
    exact tidy
  · rw [same]
    have sublist := visited_subset (unpaid bytes now limits.buckets) (limits.matching request)
    exact tidy_touch tidy now fun pair inPairs => (mem_matching.mp (sublist.subset inPairs)).1
  · have others := (admitted_charged tidy.unique same).2
    rw [same]
    apply tidy_of_buckets tidy
    intro key bucket found
    by_cases matched : key ∈ (limits.matching request).map slot
    · obtain ⟨⟨rule, bucketKey⟩, member, rfl⟩ := List.mem_map.mp matched
      exact ⟨rule, (mem_matching.mp member).1, rfl⟩
    · exact tidy.owned key bucket ((others key matched).symm.trans found)

/-- So a check that sweeps first or does not is tidy as well. -/
theorem tidy_check {limits : Limits F} (tidy : Tidy limits) (request : LimitRequest)
    (bytes : Nat) (now : Instant) : Tidy (limits.check request bytes now).1 := by
  have unswept := tidy_checkUnswept tidy request bytes now
  rcases (check_cases limits request bytes now).2 with same | same
  · rw [same]
    exact unswept
  · rw [same]
    exact tidy_sweep unswept now

/-- Every call keeps a tidy limiter tidy. -/
theorem tidy_apply {limits : Limits F} (tidy : Tidy limits) (op : LimitOp) :
    Tidy (limits.apply op) := by
  cases op with
  | setClass group peerClass =>
    obtain ⟨rules, buckets⟩ := setClass_rules limits group peerClass
    constructor
    · simpa [apply, rules] using tidy.unique
    · simpa [apply, rules, buckets] using tidy.owned
  | setLimit id rate => exact tidy_setLimit tidy id rate
  | check request bytes now => exact tidy_check tidy request bytes now
  | sweep now => exact tidy_sweep tidy now

/-- Every reachable limiter is tidy. -/
theorem tidy_run (ops : List LimitOp) : Tidy (run ops F) := by
  induction ops using List.reverseRecOn with
  | nil => exact tidy_default
  | append_singleton before op inductionHypothesis =>
    rw [run, List.foldl_append]
    exact tidy_apply inductionHypothesis op

end Limits

end Libp2pFfi
