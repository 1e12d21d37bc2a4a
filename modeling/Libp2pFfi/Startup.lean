import Libp2pFfi.Threads

/-!
# Waiting for the listeners

Before it answers to anyone a node waits until every listener has reported an
address it can dial from, or can not report one any more, and at most for two
seconds. The list it keeps is what `await_listeners` filters with every event;
here it is what the log says: the listeners that nothing was heard of.
-/

namespace Libp2pFfi

/-- What a node hears of a listener that it waits for. A loopback address does not
count if the listener is on every interface. -/
def SwarmEvent.Settles : SwarmEvent → ListenerId × Bool → Prop
  | newListenAddr id address, (listener, wildcard) =>
    listener = id ∧ (wildcard = false ∨ isLoopback address = false)
  | listenerClosed id, (listener, _) => listener = id
  | listenerError id, (listener, _) => listener = id
  | _, _ => False

/-- An event is in the log. -/
def Heard (log : List Entry) (event : SwarmEvent) : Prop :=
  ∃ time, .heard time (.swarm event) ∈ log

/-- An action that handles an event notes it, and no other is noted. -/
theorem heard_step (system : System) (action : Action) (event : SwarmEvent) :
    Heard (system.step action).state.log event ↔
      Heard system.state.log event ∨ ∃ env, action = .handle env (.swarm event) := by
  have silent {touched : List Part} {extra : List Entry}
      (effects : ∀ entry ∈ extra, entry.Within touched) (log : List Entry) :
      Heard (log ++ extra) event ↔ Heard log event := by
    refine exists_congr fun time => ?_
    rw [List.mem_append]
    exact or_iff_left fun member => effects _ member
  cases action with
  | handle env input =>
    obtain ⟨extra, grown, effects⟩ := (State.confined_handle env (system.state.deliver input)
      input).adds
    rw [(State.noted_heard system.state env.nowMs input).log] at grown
    have noted : (system.step (.handle env input)).state.log =
        system.state.log ++ [.heard env.nowMs input] ++ extra := grown
    rw [noted, silent effects]
    constructor
    · rintro ⟨time, member⟩
      rcases List.mem_append.mp member with older | own
      · exact .inl ⟨time, older⟩
      · obtain ⟨rfl, rfl⟩ := Entry.heard.inj (List.mem_singleton.mp own)
        exact .inr ⟨env, rfl⟩
    · rintro (⟨time, older⟩ | ⟨other, same⟩)
      · exact ⟨time, List.mem_append_left _ older⟩
      · obtain ⟨rfl, rfl⟩ := Action.handle.inj same
        exact ⟨env.nowMs, List.mem_append_right _ (List.mem_singleton.mpr rfl)⟩
  | ready env =>
    obtain ⟨extra, grown, effects⟩ := (State.confined_ready env system.state).adds
    have noted : (system.step (.ready env)).state.log = system.state.log ++ extra := grown
    rw [noted, silent effects]
    exact (or_iff_left fun ⟨_, other⟩ => by cases other).symm
  | _ => exact (or_iff_left fun ⟨_, other⟩ => by cases other).symm

/-- After an event the node waits for the listeners it does not settle. -/
theorem mem_stillPending (pending : List (ListenerId × Bool)) (event : SwarmEvent)
    (listener : ListenerId × Bool) :
    listener ∈ stillPending pending event ↔ listener ∈ pending ∧ ¬event.Settles listener := by
  obtain ⟨id, wildcard⟩ := listener
  cases event with
  | newListenAddr reported address =>
    simp only [stillPending, SwarmEvent.Settles, List.mem_filter]
    cases wildcard
    · simp
    · simp [imp_iff_not_or]
  | listenerClosed reported => simp [stillPending, SwarmEvent.Settles]
  | listenerError reported => simp [stillPending, SwarmEvent.Settles]
  | _ => simp [stillPending, SwarmEvent.Settles]

namespace Process

variable {crates : Crates} {config : Config} {localPeer : PeerId} {since : Instant}
variable {listeners : List (ListenerId × Bool)}

/-- While it waits, a node waits for the listeners that nothing was heard of. -/
def Waits (listeners : List (ListenerId × Bool)) (process : Process) : Prop :=
  ∀ pending, process.phase = .starting pending →
    process.system.started = false ∧ ∀ listener, listener ∈ pending ↔ listener ∈ listeners ∧
      ∀ event, Heard process.system.state.log event → ¬event.Settles listener

theorem waits_step {process : Process} {deed : Deed} (waits : Waits listeners process)
    (enabled : process.Enabled crates since deed) :
    Waits listeners (process.step crates config deed) := by
  -- What happens is no event, and does not end the waiting.
  have kept {after : Process} (action : Action) (phase : after.phase = process.phase)
      (system : after.system = process.system.step action)
      (quiet : ∀ env event, action ≠ .handle env (.swarm event))
      (unbegun : (process.system.step action).started = process.system.started) :
      Waits listeners after := by
    intro pending isStarting
    obtain ⟨before, same⟩ := waits pending (phase ▸ isStarting)
    refine ⟨?_, fun listener => (same listener).trans ?_⟩
    · rw [system, unbegun, before]
    · refine and_congr_right fun _ => forall_congr' fun event => ?_
      rw [system, heard_step]
      simp only [quiet, exists_false, or_false]
  have untouched {after : Process} (phase : after.phase = process.phase)
      (system : after.system = process.system) : Waits listeners after := by
    unfold Waits
    rw [phase, system]
    exact waits
  have past {after : Process} (other : ∀ pending, after.phase ≠ .starting pending) :
      Waits listeners after := fun pending isStarting => absurd isStarting (other pending)
  cases deed with
  | invoke thread invocation =>
    change Waits listeners (process.invoke crates config thread invocation)
    unfold Process.invoke
    split <;> exact untouched rfl rfl
  | proceed thread =>
    change Waits listeners (process.proceed thread)
    unfold Process.proceed
    split
    · exact waits
    · exact kept .draw rfl rfl (by simp) rfl
    · split <;> exact untouched rfl rfl
    · split
      · split <;> exact untouched rfl rfl
      · exact untouched rfl rfl
    · exact waits
  | receive thread cap =>
    change Waits listeners (process.receive thread cap)
    unfold Process.receive
    split
    · split <;> exact untouched rfl rfl
    · exact waits
  | giveUp thread => exact untouched rfl rfl
  | poll cap => exact kept (.poll cap) rfl rfl (by simp) rfl
  | drop => exact untouched rfl rfl
  | internalQuery => exact kept .internalQuery rfl rfl (by simp) rfl
  | learn peer address => exact kept (.learn peer address) rfl rfl (by simp) rfl
  | listen env event =>
    obtain ⟨⟨pending, phase, -⟩, -⟩ := enabled
    obtain ⟨before, same⟩ := waits pending phase
    intro rest isStarting
    rw [step, phase] at isStarting ⊢
    obtain rfl : stillPending pending event = rest := Phase.starting.inj isStarting
    refine ⟨before, fun listener => ?_⟩
    rw [mem_stillPending, same, and_assoc]
    refine and_congr_right fun _ => ?_
    simp only [heard_step, Action.handle.injEq, Input.swarm.injEq]
    constructor
    · rintro ⟨older, latest⟩ any (isOlder | ⟨_, -, rfl⟩)
      · exact older any isOlder
      · exact latest
    · intro all
      exact ⟨fun any isOlder => all any (.inl isOlder), all event (.inr ⟨env, rfl, rfl⟩)⟩
  | ready env => exact past fun _ other => by cases other
  | take env =>
    refine past fun pending isStarting => ?_
    change (process.take env).phase = _ at isStarting
    unfold Process.take at isStarting
    split at isStarting
    · cases enabled.1.symm.trans isStarting
    · cases isStarting
    · cases enabled.1.symm.trans isStarting
  | swarm env event => exact past fun _ other => by cases enabled.1.symm.trans other
  | tick env => exact past fun _ other => by cases enabled.1.symm.trans other
  | panic left => exact past fun _ other => by cases other
  | poison => exact past fun _ other => by cases other
  | close => exact past fun _ other => by cases other

theorem waits_after {deeds : List Deed} (run : Run crates config localPeer since listeners deeds) :
    Waits listeners (after crates config localPeer since listeners deeds) := by
  refine Runs.invariant _ _ ?_ (fun _ _ waits enabled => waits_step waits enabled) run
  rintro pending isStarting
  obtain rfl : listeners = pending := Phase.starting.inj isStarting
  refine ⟨rfl, fun listener => ⟨fun member => ⟨member, ?_⟩, fun both => both.1⟩⟩
  rintro event ⟨time, member⟩
  cases member

/-- A node waits for exactly the listeners that it has heard nothing of, and gets
ready once it has heard of all of them or two seconds have passed, never earlier. -/
theorem ready_when_heard {earlier later : List Deed} {env : Env}
    (run : Run crates config localPeer since listeners (earlier ++ .ready env :: later)) :
    let waiting := after crates config localPeer since listeners earlier
    (∃ pending, waiting.phase = .starting pending ∧ ∀ listener, listener ∈ pending ↔
        listener ∈ listeners ∧
          ∀ event, Heard waiting.system.state.log event → ¬event.Settles listener) ∧
      ((∀ listener ∈ listeners,
          ∃ event, Heard waiting.system.state.log event ∧ event.Settles listener) ∨
        since + listenReadyTimeout ≤ env.now) := by
  obtain ⟨before, rest⟩ := (Runs.admissible_append _ _ _ _ _).mp run
  obtain ⟨⟨⟨pending, phase, enough⟩, -⟩, -⟩ := (Runs.admissible_cons _ _ _ _ _).mp rest
  have same := (waits_after before pending phase).2
  refine ⟨⟨pending, phase, same⟩, enough.imp_left fun none listener member => ?_⟩
  by_contra unheard
  have stays : listener ∈ pending :=
    (same listener).mpr ⟨member, fun event heard settles => unheard ⟨event, heard, settles⟩⟩
  rw [none] at stays
  cases stays

end Process

/-- A listener on every interface reports loopback first. -/
def Sample.loopbackFirst : List Deed :=
  [.listen Sample.env (.newListenAddr 0 [.ip4 ⟨[127, 0, 0, 1], rfl⟩]),
    .listen Sample.env (.newListenAddr 0 [.ip4 ⟨[192, 0, 2, 11], rfl⟩])]

/-- It is the second address that the node has waited for. -/
theorem Process.ready_when_heard_loopback :
    ∃ event, Heard (Process.after Sample.crates Sample.config Sample.peer 0 [(0, true)]
      Sample.loopbackFirst).system.state.log event ∧ event.Settles (0, true) := by
  have run : Process.Run Sample.crates Sample.config Sample.peer 0 [(0, true)]
      (Sample.loopbackFirst ++ [.ready Sample.env]) := by
    simp only [Process.Run, Sample.loopbackFirst, List.cons_append, List.nil_append,
      Runs.admissible_cons, Runs.admissible_nil, and_true]
    refine ⟨⟨⟨_, rfl, ?_⟩, rfl, trivial⟩, ⟨⟨_, rfl, ?_⟩, rfl, trivial⟩, ⟨_, rfl, .inl rfl⟩, rfl⟩
    · exact List.cons_ne_nil _ _
    · exact List.cons_ne_nil _ _
  obtain ⟨-, heard | late⟩ := Process.ready_when_heard run
  · exact heard (0, true) (List.mem_singleton.mpr rfl)
  · exact absurd late (by decide +kernel)

end Libp2pFfi
