import Libp2pFfi.Runs

/-!
# Counting in windows that follow one another

A limiter that counts in windows lets the first `limit` calls of a window through.
A window opens with a call and ends a `span` of time later; the first call after
that opens the next one. No window has more than `limit` calls let through, but a
stretch of time as long as a window may begin inside one window and end inside the
next.

The calls let through in every such stretch are at most `limit` exactly if every
call that is among the first of its window finds few enough of the first of the
window before that are younger than `span`.
-/

namespace FixedWindow

/-- The calls of the window that is open and of the one before it, by their times. -/
structure Windows where
  previous : List Nat := []
  current : List Nat := []

variable (span limit : Nat)

/-- A call within `span` of the first one of the open window belongs to that window,
any other opens the next. -/
def Windows.call (windows : Windows) (now : Nat) : Windows :=
  match windows.current with
  | [] => { current := [now] }
  | start :: later =>
    if now - start < span then { windows with current := (start :: later) ++ [now] }
    else { previous := start :: later, current := [now] }

/-- The windows and the calls let through. -/
structure Tally where
  windows : Windows := {}
  granted : List Nat := []

/-- A call is let through if it is among the first of its window. -/
def Tally.ask (tally : Tally) (now : Nat) : Tally where
  windows := tally.windows.call span now
  granted := tally.granted ++
    if (tally.windows.call span now).current.length ≤ limit then [now] else []

def Tally.run (times : List Nat) : Tally := times.foldl (Tally.ask span limit) {}

/-- No stretch of time as long as a window has more than `limit` of these times. -/
def AtMost (times : List Nat) : Prop :=
  ∀ start, (times.filter fun time => start ≤ time ∧ time < start + span).length ≤ limit

/-- How many of these times are less than `span` ago. -/
def recent (times : List Nat) (now : Nat) : Nat := (times.filter fun time => now - time < span).length

/-- A call that is let through does not come too soon after the window before its
own: those let through then that are still recent, and those let through in its own
window, are at most `limit`. -/
def Spaced (windows : Windows) (now : Nat) : Prop :=
  (windows.call span now).current.length ≤ limit →
    recent span ((windows.call span now).previous.take limit) now +
      (windows.call span now).current.length ≤ limit

/-- What was let through, window by window. -/
structure Layered (tally : Tally) : Prop where
  fresh : tally.windows.current = [] → tally.granted = []
  /-- Whatever was let through before the last two windows is at least a `span`
  older than the last one. -/
  granted : ∃ older, tally.granted =
      older ++ (tally.windows.previous.take limit ++ tally.windows.current.take limit) ∧
    ∀ time ∈ older, ∀ start ∈ tally.windows.current.head?, time + span ≤ start
  before : ∀ time ∈ tally.windows.previous, ∀ start ∈ tally.windows.current.head?, time ≤ start
  within : ∀ time ∈ tally.windows.current, ∀ start ∈ tally.windows.current.head?,
    start ≤ time ∧ time < start + span

variable {span limit} {windows : Windows} {tally : Tally} {now : Nat}

/-- A call opens a window, or it is one more in the window that is open. -/
theorem Windows.call_cases (windows : Windows) (now : Nat) :
    (windows.call span now = { previous := windows.current, current := [now] } ∧
        ∀ start ∈ windows.current.head?, span ≤ now - start) ∨
      ∃ start, windows.current.head? = some start ∧ now - start < span ∧
        windows.call span now = { windows with current := windows.current ++ [now] } := by
  unfold Windows.call
  cases current : windows.current with
  | nil => exact .inl ⟨rfl, by simp⟩
  | cons start later =>
    by_cases soon : now - start < span
    · exact .inr ⟨start, rfl, soon, by simp [soon]⟩
    · refine .inl ⟨by simp [soon], ?_⟩
      simpa using soon

theorem Windows.length_call_pos (windows : Windows) (now : Nat) :
    0 < (windows.call span now).current.length := by
  rcases windows.call_cases now with ⟨opens, -⟩ | ⟨start, -, -, stays⟩
  · rw [opens]
    exact Nat.zero_lt_one
  · rw [stays, List.length_append]
    exact Nat.succ_pos _

theorem Windows.length_call_le (windows : Windows) (now : Nat) :
    (windows.call span now).current.length ≤ windows.current.length + 1 := by
  rcases windows.call_cases now with ⟨opens, -⟩ | ⟨start, -, -, stays⟩
  · rw [opens]
    exact Nat.succ_le_succ (Nat.zero_le _)
  · rw [stays, List.length_append]
    exact le_refl _

theorem layered_start : Layered span limit {} := by
  refine ⟨fun _ => rfl, ⟨[], by simp, ?_⟩, ?_, ?_⟩ <;> simp

/-- A list with one more at its end, up to the limit. -/
theorem take_concat (times : List Nat) (now : Nat) :
    (times ++ [now]).take limit =
      times.take limit ++ if (times ++ [now]).length ≤ limit then [now] else [] := by
  rw [List.take_append, List.length_append, List.length_singleton]
  by_cases room : times.length + 1 ≤ limit
  · have left : [now].length ≤ limit - times.length := by
      rw [List.length_singleton]
      omega
    rw [if_pos room, List.take_of_length_le left]
  · rw [if_neg room]
    have full : limit - times.length = 0 := by omega
    rw [full, List.take_zero]

/-- When a window opens, what was let through before the last one is over. -/
theorem Layered.aged (layered : Layered span limit tally) {older : List Nat}
    (granted : tally.granted =
      older ++ (tally.windows.previous.take limit ++ tally.windows.current.take limit))
    (old : ∀ time ∈ older, ∀ start ∈ tally.windows.current.head?, time + span ≤ start)
    (ended : ∀ start ∈ tally.windows.current.head?, span ≤ now - start) (wide : 0 < span) :
    ∀ time ∈ older ++ tally.windows.previous.take limit, time + span ≤ now := by
  intro time member
  cases current : tally.windows.current with
  | nil =>
    have nothing : older ++ tally.windows.previous.take limit = [] := by
      have empty := granted.symm.trans (layered.fresh current)
      rw [← List.append_assoc] at empty
      exact (List.append_eq_nil_iff.mp empty).1
    rw [nothing] at member
    cases member
  | cons start later =>
    have first : start ∈ tally.windows.current.head? := by rw [current]; rfl
    have began := ended start first
    rcases List.mem_append.mp member with isOlder | isPrevious
    · have before := old time isOlder start first
      omega
    · have before := layered.before time (List.mem_of_mem_take isPrevious) start first
      omega

theorem Layered.ask (layered : Layered span limit tally) (some : 0 < limit)
    (past : ∀ time ∈ tally.windows.current, time ≤ now) (wide : 0 < span) :
    Layered span limit (tally.ask span limit now) := by
  obtain ⟨older, granted, old⟩ := layered.granted
  rcases tally.windows.call_cases now with ⟨opens, ended⟩ | ⟨start, opened, soon, stays⟩
  · rw [Tally.ask, opens]
    constructor
    · simp
    · refine ⟨older ++ tally.windows.previous.take limit, ?_, ?_⟩
      · have one : ([now] : List Nat).take limit = [now] := List.take_of_length_le (by simpa)
        have room : ([now] : List Nat).length ≤ limit := by simpa
        dsimp only
        rw [granted, one, if_pos room, List.append_assoc, List.append_assoc, List.append_assoc]
      · rintro time member first ⟨⟩
        exact layered.aged granted old ended wide time member
    · rintro time member first ⟨⟩
      exact past time member
    · rintro time member first ⟨⟩
      obtain rfl := List.mem_singleton.mp member
      omega
  · have later : start ≤ now := past start (List.mem_of_mem_head? opened)
    have head : (tally.windows.current ++ [now]).head? = tally.windows.current.head? := by
      rw [List.head?_append_of_ne_nil]
      rintro empty
      rw [empty] at opened
      cases opened
    rw [Tally.ask, stays]
    constructor
    · simp
    · refine ⟨older, ?_, by rwa [head]⟩
      dsimp only
      rw [take_concat, granted]
      simp only [List.append_assoc]
    · dsimp only
      rw [head]
      exact layered.before
    · dsimp only
      rw [head]
      intro time member first isFirst
      obtain rfl := Option.some.inj (opened.symm.trans isFirst)
      rcases List.mem_append.mp member with old | isNew
      · exact layered.within time old start opened
      · obtain rfl := List.mem_singleton.mp isNew
        omega

/-- One more time at the end of a list in order breaks the bound only in the stretch
that ends with it. -/
theorem atMost_concat_iff {times : List Nat} (past : ∀ time ∈ times, time ≤ now) (wide : 0 < span)
    (bounded : AtMost span limit times) :
    AtMost span limit (times ++ [now]) ↔ recent span times now + 1 ≤ limit := by
  constructor
  · intro still
    have stretch := still (now + 1 - span)
    rw [List.filter_append, List.length_append] at stretch
    have same : times.filter (fun time => now + 1 - span ≤ time ∧ time < now + 1 - span + span) =
        times.filter fun time => now - time < span := by
      apply List.filter_congr
      intro time member
      have earlier := past time member
      rw [decide_eq_decide]
      omega
    have isNew : ([now].filter fun time =>
        now + 1 - span ≤ time ∧ time < now + 1 - span + span).length = 1 := by
      rw [List.filter_cons_of_pos (by simp; omega)]
      rfl
    rw [same, isNew] at stretch
    exact stretch
  · intro few start
    rw [List.filter_append, List.length_append]
    by_cases inside : start ≤ now ∧ now < start + span
    · have fewer : (times.filter fun time => start ≤ time ∧ time < start + span).length ≤
          recent span times now := by
        apply List.Sublist.length_le
        apply List.monotone_filter_right
        intro time holds
        simp only [decide_eq_true_eq] at holds ⊢
        omega
      have one := List.length_filter_le (fun time => decide (start ≤ time ∧ time < start + span))
        [now]
      rw [List.length_singleton] at one
      omega
    · rw [List.filter_cons_of_neg (by simpa using inside), List.filter_nil]
      exact bounded start

theorem AtMost.sublist {times fewer : List Nat} (bounded : AtMost span limit times)
    (sublist : fewer.Sublist times) : AtMost span limit fewer :=
  fun start => (sublist.filter _).length_le.trans (bounded start)

/-- What is recent when a call comes: the first of the window before, as far as they
are, and the first of its own. -/
theorem Layered.recent_granted (layered : Layered span limit tally)
    (past : ∀ time ∈ tally.windows.current, time ≤ now) (wide : 0 < span) :
    recent span tally.granted now =
      recent span ((tally.windows.call span now).previous.take limit) now +
        min ((tally.windows.call span now).current.length - 1) limit := by
  obtain ⟨older, granted, old⟩ := layered.granted
  have forgotten {times : List Nat} (aged : ∀ time ∈ times, time + span ≤ now) :
      recent span times now = 0 := by
    rw [recent, List.length_eq_zero_iff, List.filter_eq_nil_iff]
    intro time member
    have := aged time member
    simp only [decide_eq_true_eq]
    omega
  have append (first second : List Nat) :
      recent span (first ++ second) now = recent span first now + recent span second now := by
    rw [recent, List.filter_append, List.length_append]
    rfl
  rw [granted]
  rcases tally.windows.call_cases now with ⟨opens, ended⟩ | ⟨start, opened, soon, stays⟩
  · rw [opens, ← List.append_assoc, append, forgotten (layered.aged granted old ended wide)]
    simp
  · have began : start ≤ now := past start (List.mem_of_mem_head? opened)
    have isOver : recent span older now = 0 := by
      apply forgotten
      intro time member
      exact (old time member start opened).trans began
    have young : recent span (tally.windows.current.take limit) now =
        (tally.windows.current.take limit).length := by
      rw [recent, List.filter_eq_self.mpr]
      intro time member
      have inside := layered.within time (List.mem_of_mem_take member) start opened
      simp only [decide_eq_true_eq]
      omega
    rw [stays, append, append, isOver, young]
    simp [Nat.min_comm]

/-- A call keeps the bound exactly if it is spaced. -/
theorem Layered.atMost_ask_iff (layered : Layered span limit tally) (now : Nat)
    (past : ∀ time ∈ tally.windows.current, time ≤ now)
    (grantedPast : ∀ time ∈ tally.granted, time ≤ now) (wide : 0 < span)
    (bounded : AtMost span limit tally.granted) :
    AtMost span limit (tally.ask span limit now).granted ↔ Spaced span limit tally.windows now := by
  have counted := layered.recent_granted past wide
  rw [Tally.ask, Spaced]
  by_cases first : (tally.windows.call span now).current.length ≤ limit
  · rw [if_pos first, atMost_concat_iff grantedPast wide bounded, counted]
    have own : 0 < (tally.windows.call span now).current.length :=
      tally.windows.length_call_pos now
    constructor
    · intro few _
      omega
    · intro few
      have := few first
      omega
  · rw [if_neg first, List.append_nil]
    exact iff_of_true bounded fun isFirst => absurd isFirst first

/-! Runs. -/

section

variable (span limit)

theorem Tally.run_concat (times : List Nat) (now : Nat) :
    Tally.run span limit (times ++ [now]) = (Tally.run span limit times).ask span limit now := by
  rw [Tally.run, List.foldl_append]
  rfl

/-- The windows do not depend on what is let through. -/
theorem Tally.windows_run (times : List Nat) :
    (Tally.run span limit times).windows = times.foldl (Windows.call span) {} := by
  induction times using List.reverseRecOn with
  | nil => rfl
  | append_singleton times now inductionHypothesis =>
    rw [run_concat, List.foldl_append, ← inductionHypothesis]
    rfl

/-- Every time in the windows, and every time let through, is one of a call. -/
theorem Tally.mem_run (times : List Nat) :
    (∀ time ∈ (Tally.run span limit times).windows.current, time ∈ times) ∧
      (Tally.run span limit times).granted.Sublist times := by
  induction times using List.reverseRecOn with
  | nil => exact ⟨nofun, List.Sublist.refl _⟩
  | append_singleton times now inductionHypothesis =>
    obtain ⟨current, granted⟩ := inductionHypothesis
    rw [run_concat]
    constructor
    · intro time member
      rw [Tally.ask] at member
      rcases (Tally.run span limit times).windows.call_cases now with
        ⟨opens, -⟩ | ⟨start, -, -, stays⟩
      · rw [opens] at member
        obtain rfl := List.mem_singleton.mp member
        simp
      · rw [stays] at member
        rcases List.mem_append.mp member with old | isNew
        · exact List.mem_append_left _ (current time old)
        · exact List.mem_append_right _ isNew
    · refine granted.append ?_
      split
      · exact List.Sublist.refl _
      · exact List.nil_sublist _

end

theorem layered_run {times : List Nat} (ordered : times.Pairwise (· ≤ ·)) (some : 0 < limit)
    (wide : 0 < span) : Layered span limit (Tally.run span limit times) := by
  induction times using List.reverseRecOn with
  | nil => exact layered_start
  | append_singleton times now inductionHypothesis =>
    obtain ⟨earlier, -, last⟩ := List.pairwise_append.mp ordered
    rw [Tally.run_concat]
    refine (inductionHypothesis earlier).ask some ?_ wide
    intro time member
    exact last time ((Tally.mem_run span limit times).1 time member) now (by simp)

/-- Calls at times in order keep the bound in every stretch exactly if every one of
them is spaced. -/
theorem atMost_run_iff {times : List Nat} (ordered : times.Pairwise (· ≤ ·)) (some : 0 < limit)
    (wide : 0 < span) :
    AtMost span limit (Tally.run span limit times).granted ↔
      Runs.Admissible (Windows.call span) {} (Spaced span limit) times := by
  induction times using List.reverseRecOn with
  | nil => exact iff_of_true (fun _ => Nat.zero_le _) (Runs.admissible_nil _ _ _)
  | append_singleton times now inductionHypothesis =>
    obtain ⟨earlier, -, last⟩ := List.pairwise_append.mp ordered
    have past (time : Nat) (member : time ∈ times) : time ≤ now := last time member now (by simp)
    obtain ⟨current, granted⟩ := Tally.mem_run span limit times
    have step (bounded : AtMost span limit (Tally.run span limit times).granted) :=
      (layered_run earlier some wide).atMost_ask_iff now
        (fun time member => past time (current time member))
        (fun time member => past time (granted.subset member)) wide bounded
    rw [Runs.admissible_append, ← inductionHypothesis earlier, Runs.admissible_cons,
      Tally.run_concat, ← Tally.windows_run span limit]
    constructor
    · intro bounded
      have before := bounded.sublist (List.sublist_append_left _ _)
      exact ⟨before, (step before).mp bounded, Runs.admissible_nil _ _ _⟩
    · rintro ⟨before, spaced, -⟩
      exact (step before).mpr spaced

end FixedWindow
