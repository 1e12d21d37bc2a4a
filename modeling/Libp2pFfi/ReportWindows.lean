import Libp2pFfi.FixedWindows
import Libp2pFfi.Limits

/-!
# Reports about refused requests in any one second

`may_report` counts in windows: a window opens with a report and lasts a second,
and the first ten calls in it are answered yes. The next window opens with the first
call after that. So there are ten at most in a window, but a second that begins
inside one window and ends inside the next may hold reports of both. The count is a
`u32`, and a window with enough calls to wrap it has more than ten as well.
-/

namespace Libp2pFfi.ReportWindows

open FixedWindow

/-- A second. -/
abbrev second : Duration := Duration.fromSecs 1

/-- The limiter and the times at which it answered yes. -/
structure Reporter where
  limits : Limits := {}
  granted : List Instant := []

def Reporter.ask (reporter : Reporter) (now : Instant) : Reporter where
  limits := (reporter.limits.mayReport now).1
  granted := reporter.granted ++ if (reporter.limits.mayReport now).2 then [now] else []

/-- A new limiter after calls at these times. -/
def Reporter.run (times : List Instant) : Reporter := times.foldl Reporter.ask {}

/-- A call neither wraps the count of its window nor comes too soon after the window
before: if it is among the first ten of its window, then with those of the first ten
of the window before that are less than a second old there are ten at most. -/
structure Apart (windows : Windows) (now : Instant) : Prop where
  counted : (windows.call second now).current.length < 2 ^ 32
  spaced : Spaced second eventsPerSecond windows now

/-- The limiter knows when the open window began, and how many calls it has had. -/
structure Follows (limits : Limits) (windows : Windows) : Prop where
  eventsWindow : limits.eventsWindow = windows.current.head?
  eventsInWindow : limits.eventsInWindow = windows.current.length % 2 ^ 32

section

variable {limits : Limits} {windows : Windows} {now : Instant}

/-- A call is answered by its place in its window. -/
theorem Follows.mayReport (follows : Follows limits windows) (now : Instant) :
    Follows (limits.mayReport now).1 (windows.call second now) ∧
      (limits.mayReport now).2 =
        decide ((windows.call second now).current.length % 2 ^ 32 ≤ eventsPerSecond) := by
  unfold Limits.mayReport
  rcases windows.call_cases now with ⟨opens, ended⟩ | ⟨start, opened, soon, stays⟩
  · rw [opens]
    cases first : limits.eventsWindow with
    | none => exact ⟨⟨rfl, rfl⟩, rfl⟩
    | some start =>
      have late : ¬ now - start < Duration.fromSecs 1 :=
        Nat.not_lt.mpr (ended start (follows.eventsWindow.symm.trans first))
      dsimp only
      rw [if_neg late]
      exact ⟨⟨rfl, rfl⟩, rfl⟩
  · have began := follows.eventsWindow.trans opened
    have next : (limits.eventsInWindow + 1) % 2 ^ 32 =
        (windows.current ++ [now]).length % 2 ^ 32 := by
      rw [follows.eventsInWindow, List.length_append, List.length_singleton, Nat.mod_add_mod]
    have head : some start = (windows.current ++ [now]).head? := by
      rw [List.head?_append, opened]
      rfl
    rw [stays, began]
    dsimp only
    rw [if_pos soon, next]
    exact ⟨⟨head, rfl⟩, rfl⟩

end

theorem Reporter.run_concat (times : List Instant) (now : Instant) :
    Reporter.run (times ++ [now]) = (Reporter.run times).ask now := by
  rw [Reporter.run, List.foldl_append]
  rfl

theorem follows_run (times : List Instant) :
    Follows (Reporter.run times).limits (times.foldl (Windows.call second) {}) := by
  induction times using List.reverseRecOn with
  | nil => exact ⟨rfl, rfl⟩
  | append_singleton times now inductionHypothesis =>
    rw [Reporter.run_concat, List.foldl_append]
    exact (inductionHypothesis.mayReport now).1

/-- The times at which a new limiter answers yes. -/
theorem granted_concat (times : List Instant) (now : Instant) :
    (Reporter.run (times ++ [now])).granted = (Reporter.run times).granted ++
      if ((times.foldl (Windows.call second) {}).call second now).current.length % 2 ^ 32 ≤
        eventsPerSecond then [now] else [] := by
  have answer := ((follows_run times).mayReport now).2
  rw [Reporter.run_concat, Reporter.ask, answer]
  simp only [decide_eq_true_eq]

/-- As long as no count wraps, the limiter lets through what counting in windows
does. -/
theorem granted_of_counted {times : List Instant}
    (counted : Runs.Admissible (Windows.call second) {}
      (fun windows now => (windows.call second now).current.length < 2 ^ 32) times) :
    (Reporter.run times).granted = (Tally.run second eventsPerSecond times).granted := by
  induction times using List.reverseRecOn with
  | nil => rfl
  | append_singleton times now inductionHypothesis =>
    have earlier := counted.take _ _ (List.prefix_append times [now])
    have short := counted times now (List.prefix_refl _)
    rw [granted_concat, inductionHypothesis earlier, Tally.run_concat, Tally.ask,
      Tally.windows_run, Nat.mod_eq_of_lt short]

theorem length_current_lt {times : List Instant}
    (counted : Runs.Admissible (Windows.call second) {}
      (fun windows now => (windows.call second now).current.length < 2 ^ 32) times) :
    (times.foldl (Windows.call second) {}).current.length < 2 ^ 32 := by
  cases times using List.reverseRecOn with
  | nil => exact Nat.two_pow_pos 32
  | append_singleton times now =>
    rw [List.foldl_append]
    exact counted times now (List.prefix_refl _)

/-- A count that wraps breaks the bound: the window has had its ten. -/
theorem counted_of_atMost {times : List Instant} (ordered : times.Pairwise (· ≤ ·))
    (bounded : AtMost second eventsPerSecond (Reporter.run times).granted) :
    Runs.Admissible (Windows.call second) {}
      (fun windows now => (windows.call second now).current.length < 2 ^ 32) times := by
  induction times using List.reverseRecOn with
  | nil => exact Runs.admissible_nil _ _ _
  | append_singleton times now inductionHypothesis =>
    obtain ⟨before, -, last⟩ := List.pairwise_append.mp ordered
    have past (time : Instant) (member : time ∈ times) : time ≤ now := last time member now (by simp)
    rw [granted_concat] at bounded
    have earlier := bounded.sublist (List.sublist_append_left _ _)
    have counted := inductionHypothesis before earlier
    refine (Runs.admissible_append _ _ _ _ _).mpr ⟨counted, ?_⟩
    refine (Runs.admissible_cons _ _ _ _ _).mpr ⟨?_, Runs.admissible_nil _ _ _⟩
    obtain ⟨current, granted⟩ := Tally.mem_run second eventsPerSecond times
    have layered : Layered second eventsPerSecond (Tally.run second eventsPerSecond times) :=
      layered_run before (by decide) (by decide)
    have held := layered.recent_granted (fun time member => past time (current time member))
      (by decide)
    rw [granted_of_counted counted] at bounded earlier
    rw [Tally.windows_run] at held
    have small := length_current_lt counted
    generalize times.foldl (Windows.call second) {} = windows at bounded held small ⊢
    have next : (windows.call second now).current.length ≤ windows.current.length + 1 :=
      windows.length_call_le now
    by_contra wraps
    have exactly : (windows.call second now).current.length = 2 ^ 32 := by omega
    rw [exactly, if_pos (by decide),
      atMost_concat_iff (fun time member => past time (granted.subset member)) (by decide) earlier,
      held, exactly] at bounded
    simp only [eventsPerSecond] at bounded
    omega

/-- In every second ten reports at most, exactly if no call comes too soon after the
window before its own and no window has so many calls that their count wraps. -/
theorem reports_ten_per_second_iff {times : List Instant} (ordered : times.Pairwise (· ≤ ·)) :
    AtMost second eventsPerSecond (Reporter.run times).granted ↔
      Runs.Admissible (Windows.call second) {} Apart times := by
  constructor
  · intro bounded
    have counted := counted_of_atMost ordered bounded
    rw [granted_of_counted counted, atMost_run_iff ordered (by decide) (by decide)] at bounded
    exact fun before now inside => ⟨counted before now inside, bounded before now inside⟩
  · intro apart
    rw [granted_of_counted fun before now inside => (apart before now inside).counted,
      atMost_run_iff ordered (by decide) (by decide)]
    exact fun before now inside => (apart before now inside).spaced

/-- Two calls, and one after the window has ended. -/
theorem reports_ten_per_second_iff_three :
    AtMost second eventsPerSecond
      (Reporter.run [0, 0, Duration.fromSecs 3]).granted := by
  refine (reports_ten_per_second_iff (by decide)).mpr ?_
  simp only [Runs.admissible_cons, Runs.admissible_nil, and_true]
  refine ⟨⟨by decide, ?_⟩, ⟨by decide, ?_⟩, by decide, ?_⟩ <;> unfold Spaced <;> decide

/-- A call that opens a window, nine as it is about to end, and ten right after. -/
def burst : List Instant :=
  0 :: (List.replicate 9 (Duration.fromMillis 900) ++ List.replicate 10 (Duration.fromSecs 1))

/-- Nineteen of them are reported within a tenth of a second. -/
theorem nineteen_reports_in_a_second :
    burst.Pairwise (· ≤ ·) ∧
      ((Reporter.run burst).granted.filter fun time =>
        Duration.fromMillis 900 ≤ time ∧ time < Duration.fromMillis 900 + second).length = 19 ∧
      ¬ AtMost second eventsPerSecond (Reporter.run burst).granted := by
  have many : ((Reporter.run burst).granted.filter fun time =>
      Duration.fromMillis 900 ≤ time ∧ time < Duration.fromMillis 900 + second).length = 19 := by
    decide +kernel
  refine ⟨by decide +kernel, many, fun bounded => ?_⟩
  have few := bounded (Duration.fromMillis 900)
  rw [many] at few
  exact absurd few (by decide)

end Libp2pFfi.ReportWindows
