import Mathlib.Data.List.Chain

/-!
# Publishing the latest value

A value is wanted, and another one may be wanted before the first was published. At
every occasion the publisher offers the value that was wanted most recently, unless it
is the one that was taken last. An offer may be refused, any number of times.

So no value is taken twice in a row, nothing but the latest value is ever offered, and
a value that was not taken is offered again at the next occasion.
-/

namespace Latest

variable {α : Type}

/-- The value wanted most recently, the one taken last, and every offer with its answer,
the oldest first. -/
@[ext] structure Publisher (α : Type) where
  wanted : Option α := none
  taken : Option α := none
  offers : List (α × Bool) := []

/-- When a value may be offered. What the answer will be is decided by the value. -/
inductive Occasion (α : Type) where
  /-- Another value is wanted. -/
  | want (value : α) (takes : α → Bool)
  | again (takes : α → Bool)

/-- The value an occasion brings. -/
def Occasion.value? : Occasion α → Option α
  | want value _ => some value
  | again _ => none

/-- The values taken among these offers. -/
def sent (offers : List (α × Bool)) : List α := (offers.filter Prod.snd).map Prod.fst

@[simp] theorem sent_concat (offers : List (α × Bool)) (value : α) (took : Bool) :
    sent (offers ++ [(value, took)]) = sent offers ++ if took then [value] else [] := by
  cases took <;> simp [sent]

variable [DecidableEq α]

namespace Publisher

/-- Offer the wanted value, unless it is the one taken last. -/
def offer (publisher : Publisher α) (takes : α → Bool) : Publisher α :=
  match publisher.wanted with
  | none => publisher
  | some value =>
    if publisher.taken = some value then publisher
    else
      { publisher with
        taken := if takes value then some value else publisher.taken
        offers := publisher.offers ++ [(value, takes value)] }

def step (publisher : Publisher α) : Occasion α → Publisher α
  | .want value takes => { publisher with wanted := some value }.offer takes
  | .again takes => publisher.offer takes

/-- What the publisher remembers is what was taken last, no value was taken twice in a
row, and nothing was offered before a value was wanted. -/
structure Sound (publisher : Publisher α) : Prop where
  unwanted : publisher.wanted = none → publisher.offers = []
  last : publisher.taken = (sent publisher.offers).getLast?
  changes : (sent publisher.offers).IsChain (· ≠ ·)

variable {publisher : Publisher α}

theorem offer_idle (idle : ∀ value, publisher.wanted = some value → publisher.taken = some value)
    (takes : α → Bool) : publisher.offer takes = publisher := by
  unfold offer
  cases wants : publisher.wanted with
  | none => rfl
  | some value => exact if_pos (idle value wants)

theorem offer_due {value : α} (wants : publisher.wanted = some value)
    (other : publisher.taken ≠ some value) (takes : α → Bool) :
    publisher.offer takes =
      { publisher with
        taken := if takes value then some value else publisher.taken
        offers := publisher.offers ++ [(value, takes value)] } := by
  simp only [offer, wants, if_neg other]

/-- Nothing is offered, or the value wanted is, which is not the one taken last. -/
theorem offer_cases (publisher : Publisher α) (takes : α → Bool) :
    publisher.offer takes = publisher ∨
      ∃ value, publisher.wanted = some value ∧ publisher.taken ≠ some value ∧
        publisher.offer takes =
          { publisher with
            taken := if takes value then some value else publisher.taken
            offers := publisher.offers ++ [(value, takes value)] } := by
  by_cases due : ∃ value, publisher.wanted = some value ∧ publisher.taken ≠ some value
  · obtain ⟨value, wants, other⟩ := due
    exact .inr ⟨value, wants, other, offer_due wants other takes⟩
  · push Not at due
    exact .inl (offer_idle due takes)

theorem wanted_offer (publisher : Publisher α) (takes : α → Bool) :
    (publisher.offer takes).wanted = publisher.wanted := by
  rcases offer_cases publisher takes with same | ⟨value, -, -, offered⟩
  · rw [same]
  · rw [offered]

theorem wanted_step (publisher : Publisher α) (occasion : Occasion α) :
    (publisher.step occasion).wanted = occasion.value?.or publisher.wanted := by
  cases occasion with
  | want value takes => exact wanted_offer _ takes
  | again takes => exact wanted_offer _ takes

/-- What an occasion offers is the value wanted most recently, that of the occasion if it
has one. -/
theorem offers_step (publisher : Publisher α) (occasion : Occasion α) :
    ∃ new, (publisher.step occasion).offers = publisher.offers ++ new ∧
      ∀ offered ∈ new, (publisher.step occasion).wanted = some offered.1 := by
  have each (publisher : Publisher α) (takes : α → Bool) :
      ∃ new, (publisher.offer takes).offers = publisher.offers ++ new ∧
        ∀ offered ∈ new, (publisher.offer takes).wanted = some offered.1 := by
    rcases offer_cases publisher takes with same | ⟨value, wants, -, offered⟩
    · exact ⟨[], by rw [same, List.append_nil], by simp⟩
    · rw [offered]
      refine ⟨[(value, takes value)], rfl, ?_⟩
      simpa using wants
  cases occasion with
  | want value takes => exact each { publisher with wanted := some value } takes
  | again takes => exact each publisher takes

/-- A wanted value was taken last, or it is offered at the next occasion. -/
theorem taken_or_due {value : α} (wants : publisher.wanted = some value) :
    publisher.taken = some value ∨
      ∀ takes, (publisher.offer takes).offers = publisher.offers ++ [(value, takes value)] := by
  by_cases same : publisher.taken = some value
  · exact .inl same
  · refine .inr fun takes => ?_
    rw [offer_due wants same]

theorem Sound.offer (sound : publisher.Sound) (takes : α → Bool) :
    (publisher.offer takes).Sound := by
  rcases offer_cases publisher takes with same | ⟨value, wants, other, offered⟩
  · rwa [same]
  · have unwanted : publisher.wanted ≠ none := by simp [wants]
    rw [offered]
    cases took : takes value with
    | false =>
      constructor
      · exact fun none => absurd none unwanted
      · simpa using sound.last
      · simpa using sound.changes
    | true =>
      constructor
      · exact fun none => absurd none unwanted
      · simp
      · rw [sent_concat, if_pos rfl, List.isChain_append]
        refine ⟨sound.changes, List.isChain_singleton _, ?_⟩
        -- The value before was remembered, and this one is another.
        rintro earlier isLast later first same
        obtain rfl : value = later := by simpa using first
        exact other (sound.last.trans (same ▸ isLast))

theorem Sound.step (sound : publisher.Sound) (occasion : Occasion α) :
    (publisher.step occasion).Sound := by
  cases occasion with
  | want value takes =>
    have wants : Sound { publisher with wanted := some value } := by
      constructor
      · intro none
        cases none
      · exact sound.last
      · exact sound.changes
    exact wants.offer takes
  | again takes => exact sound.offer takes

/-- It stays so through every run. -/
theorem sound_run (occasions : List (Occasion α)) :
    (occasions.foldl Publisher.step ({} : Publisher α)).Sound := by
  induction occasions using List.reverseRecOn with
  | nil => exact ⟨fun _ => rfl, rfl, List.isChain_nil⟩
  | append_singleton occasions occasion inductionHypothesis =>
    rw [List.foldl_append]
    exact inductionHypothesis.step occasion

end Publisher

end Latest
