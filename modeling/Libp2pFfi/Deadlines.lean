import Libp2pFfi.Errands

/-!
# When calls end

A caller names a timeout with each call. The node keeps no timer for a call but
looks at all of them on every tick, and a call goes through many hands in
between: it looks for providers, asks one after the other, and looks for their
addresses. None of that moves its deadline. So a tick ends the calls whose time
is over and no others, and once there was a tick at or after the deadline of a
call, one event has ended it.
-/

namespace Libp2pFfi

namespace State

theorem lookup_failCall (state : State) (id reason other : Nat) :
    (state.failCall id reason).calls.lookup other =
      if other = id then none else state.calls.lookup other := by
  unfold failCall
  split
  · rename_i absent
    split
    · rename_i same
      rw [same, absent]
    · rfl
  · exact Table.lookup_erase_if _ _ _

theorem lookup_foldl_failCall (ids : List Nat) (state : State) (reason id : Nat) :
    (ids.foldl (fun state id => state.failCall id reason) state).calls.lookup id =
      if id ∈ ids then none else state.calls.lookup id := by
  induction ids generalizing state with
  | nil => rfl
  | cons first rest inductionHypothesis =>
    rw [List.foldl_cons, inductionHypothesis, lookup_failCall]
    by_cases later : id ∈ rest
    · simp [later]
    · by_cases same : id = first <;> simp [later, same]

theorem mem_expired {env : Env} {state : State} {id : Nat} :
    id ∈ state.expired env ↔
      ∃ call, state.calls.lookup id = some call ∧ call.deadline ≤ env.now := by
  rw [expired, (env.order_perm _).mem_iff]
  simp only [List.mem_map, List.mem_filter, decide_eq_true_eq, Prod.exists]
  constructor
  · rintro ⟨other, call, ⟨listed, late⟩, rfl⟩
    exact ⟨call, Table.mem_toList.mp listed, late⟩
  · rintro ⟨call, found, late⟩
    exact ⟨id, call, ⟨Table.mem_toList.mpr found, late⟩, rfl⟩

/-- A tick ends the calls whose time is over, and leaves the others as they are. -/
theorem lookup_tick (env : Env) (state : State) (id : Nat) :
    (state.tick env).calls.lookup id =
      (state.calls.lookup id).filter fun call => env.now < call.deadline := by
  have rest : (state.tick env).calls =
      ((state.expired env).foldl (fun state id => state.failCall id failTimeout) state).calls :=
    congrArg CallView.calls (passive_tick env state).view
  rw [rest, lookup_foldl_failCall]
  cases found : state.calls.lookup id with
  | none => simp
  | some call =>
    by_cases late : call.deadline ≤ env.now
    · rw [if_pos (mem_expired.mpr ⟨call, found, late⟩)]
      exact (Option.filter_some_neg (by simpa using late)).symm
    · have notExpired : id ∉ state.expired env := by
        rw [mem_expired]
        rintro ⟨other, foundToo, lateToo⟩
        rw [Option.some.inj (found.symm.trans foundToo)] at late
        exact late lateToo
      rw [if_neg notExpired]
      exact (Option.filter_some_pos (by simpa using late)).symm

theorem log_failCall (state : State) (id reason : Nat) :
    state.log ⊆ (state.failCall id reason).log := by
  unfold failCall
  split
  · exact List.Subset.refl _
  · exact List.subset_append_left _ _

/-- A call that is ended has its event. -/
theorem failed_foldl_failCall {ids : List Nat} {state : State} {id reason : Nat} {call : Call}
    (listed : id ∈ ids) (found : state.calls.lookup id = some call) :
    .did (.emit (rpcFailed id call reason)) ∈
      (ids.foldl (fun state id => state.failCall id reason) state).log := by
  have grows (rest : List Nat) (state : State) :
      state.log ⊆ (rest.foldl (fun state id => state.failCall id reason) state).log := by
    induction rest generalizing state with
    | nil => exact List.Subset.refl _
    | cons first rest inductionHypothesis =>
      exact List.Subset.trans (log_failCall state first reason) (inductionHypothesis _)
  induction ids generalizing state with
  | nil => cases listed
  | cons first rest inductionHypothesis =>
    rw [List.foldl_cons]
    by_cases same : id = first
    · subst same
      refine grows rest _ ?_
      rw [failCall, found]
      exact List.mem_append_right _ (List.mem_singleton_self _)
    · have later := (List.mem_cons.mp listed).resolve_left same
      refine inductionHypothesis later ?_
      rw [lookup_failCall, if_neg same]
      exact found

theorem failed_tick {env : Env} {state : State} {id : Nat} {call : Call}
    (found : state.calls.lookup id = some call) (late : call.deadline ≤ env.now) :
    .did (.emit (rpcFailed id call failTimeout)) ∈ (state.tick env).log := by
  obtain ⟨extra, grown, -⟩ := (passive_tick env state).adds
  rw [grown]
  exact List.mem_append_left _ (failed_foldl_failCall (mem_expired.mpr ⟨call, found, late⟩) found)

theorem deadline_startCall (env : Env) (state : State) (id : Nat) (group : Key) (node : Option Key)
    (protocol : Nat) (payload : Bytes) (timeout : Duration) {errand : Errand}
    (found : (state.startCall env id group node protocol payload timeout).errand? id =
      some errand) : errand.deadline = env.now + timeout := by
  have own (before : State) (call : Call) (due : call.deadline = env.now + timeout)
      (isErrand : (before.setCall id call).errand? id = some errand) :
      errand.deadline = env.now + timeout := by
    rw [errand?, setCall, Table.lookup_insert_if, if_pos rfl] at isErrand
    exact Option.some.inj isErrand ▸ due
  unfold startCall at found
  dsimp only at found
  split at found
  · split at found <;> exact own _ _ rfl found
  · exact own _ _ rfl found

end State

/-- The call that was applied under an id is due at a moment, while it is in
progress. -/
structure Due (id : Nat) (group : Key) (protocol : Nat) (deadline : Instant) (system : System) :
    Prop where
  accounted : Accounted system
  applied : Applied system.state.log id group protocol
  deadline : ∀ errand, system.state.errand? id = some errand → errand.deadline = deadline

section

variable {crates : Crates} {system : System} {id : Nat} {group : Key} {protocol : Nat}
  {deadline : Instant}

/-- Lines are added, and what was applied stays so. -/
theorem Applied.grows {log more : List Entry} (applied : Applied log id group protocol)
    (grown : inputs log <+: inputs more) : Applied more id group protocol := by
  obtain ⟨node, payload, timeout, heard⟩ := applied
  exact ⟨node, payload, timeout, grown.subset heard⟩

theorem inputs_step (system : System) (action : Action) :
    inputs system.state.log <+: inputs (system.step action).state.log := by
  cases action with
  | ready env =>
    exact ((State.passive_ready env system.state).conserves_of_plain.inputs ▸ List.prefix_refl _)
  | handle env input =>
    change _ <+: inputs ((system.state.deliver input).handle env input).log
    rw [(State.handle_keeps env system.state input).1]
    exact List.prefix_append _ _
  | _ => exact List.prefix_refl _

/-- An id that was used is not given out again. -/
theorem Due.notDrawn (due : Due id group protocol deadline system) : id ∉ system.drawn :=
  fun isDrawn => (due.accounted.unused id (.inl isDrawn)).2.2 group protocol due.applied

/-- No handler makes the call again or moves its deadline. -/
theorem errand?_handle (due : Due id group protocol deadline system) {env : Env} {input : Input}
    (enabled : system.Enabled crates (.handle env input)) {errand : Errand}
    (found : (system.step (.handle env input)).state.errand? id = some errand) :
    system.state.errand? id = some errand := by
  obtain ⟨swarm, delivered, -⟩ := system.state.deliver_spec input
  have noted : ((system.state.deliver input).heard env.nowMs input).errand? =
      system.state.errand? := by
    rw [delivered]
    rfl
  cases input with
  | tick => exact noted ▸ (State.pursues_tick env _).faithful.errands id errand found
  | swarm event =>
    exact noted ▸ (State.pursues_swarmEvent env _ event).faithful.errands id errand found
  | command sent =>
    by_cases isCall : ∃ other group node protocol payload timeout,
        sent = .rpc other group node protocol payload timeout
    · obtain ⟨other, otherGroup, node, otherProtocol, payload, timeout, rfl⟩ := isCall
      have different : id ≠ other := by
        rintro rfl
        exact due.notDrawn (enabled.2.2.1 id (by simp [Command.ids]))
      have started := (State.faithful_advance env _ other).errands id errand found
      obtain ⟨call, written, -⟩ := State.startCall_spec env
        ((system.state.deliver (.command (.rpc other otherGroup node otherProtocol payload
          timeout))).heard env.nowMs (.command (.rpc other otherGroup node otherProtocol payload
          timeout))) other otherGroup node otherProtocol payload timeout
      rw [State.errand?, written, Table.lookup_insert_if, if_neg different] at started
      exact noted ▸ started
    · have pursues : State.Pursues env _ _ := .plain (State.passive_command env
        ((system.state.deliver (.command sent)).heard env.nowMs (.command sent)) sent
        (by simpa using isCall))
      exact noted ▸ pursues.faithful.errands id errand found

theorem due_step (action : Action) (due : Due id group protocol deadline system)
    (enabled : system.Enabled crates action) :
    Due id group protocol deadline (system.step action) := by
  refine ⟨accounted_step system action due.accounted enabled,
    due.applied.grows (inputs_step system action), fun errand found => due.deadline errand ?_⟩
  cases action with
  | ready env =>
    have pursues : State.Pursues env _ _ := .plain (State.passive_ready env system.state)
    exact pursues.faithful.errands id errand found
  | handle env input => exact errand?_handle due enabled found
  | _ => exact found

/-- A call is due when it was made for. -/
theorem due_call (accounted : Accounted system) {env : Env} {node : Option Key} {payload : Bytes}
    {timeout : Duration}
    (enabled : system.Enabled crates
      (.handle env (.command (.rpc id group node protocol payload timeout)))) :
    Due id group protocol (env.now + timeout)
      (system.step (.handle env (.command (.rpc id group node protocol payload timeout)))) := by
  refine ⟨accounted_step system _ accounted enabled, ⟨node, payload, timeout, ?_⟩,
    fun errand found => ?_⟩
  · change _ ∈ inputs ((system.state.deliver _).handle env _).log
    rw [(State.handle_keeps env system.state _).1]
    exact List.mem_append_right _ (List.mem_singleton_self _)
  · have started := (State.faithful_advance env _ id).errands id errand found
    exact State.deadline_startCall env _ id group node protocol payload timeout started

end

/-- The deadline stands from the command that makes the call on. -/
theorem System.due_after {crates : Crates} {config : Config} {localPeer : PeerId} {now : Instant}
    {before between : List Action} {made : Env} {id : Nat} {group : Key} {node : Option Key}
    {protocol : Nat} {payload : Bytes} {timeout : Duration}
    (run : Run crates config localPeer now
      (before ++ [.handle made (.command (.rpc id group node protocol payload timeout))] ++ between)) :
    Due id group protocol (made.now + timeout) (after config localPeer now
      (before ++ [.handle made (.command (.rpc id group node protocol payload timeout))] ++
        between)) := by
  induction between using List.reverseRecOn with
  | nil =>
    rw [List.append_nil] at run ⊢
    rw [after_append_singleton]
    refine due_call ?_ (run before _ (List.prefix_refl _))
    exact (run.take (List.prefix_append before _)).invariant
      (accounted_start config localPeer now) accounted_step
  | append_singleton between action inductionHypothesis =>
    rw [← List.append_assoc] at run ⊢
    rw [after_append_singleton]
    exact due_step action (inductionHypothesis (run.take (List.prefix_append _ [action])))
      (run _ action (List.prefix_refl _))

/-- A tick ends a call exactly if the time it was made for is over. So after a
tick at or past its deadline one event has ended it, which says that it timed out
if it was still in progress before. -/
theorem System.calls_end_when_due {crates : Crates} {config : Config} {localPeer : PeerId}
    {now : Instant} {before between : List Action} {made ticked : Env} {id : Nat} {group : Key}
    {node : Option Key} {protocol : Nat} {payload : Bytes} {timeout : Duration}
    (run : Run crates config localPeer now
      (before ++ [.handle made (.command (.rpc id group node protocol payload timeout))] ++ between ++
        [.handle ticked .tick])) :
    let waiting := (after config localPeer now (before ++
      [.handle made (.command (.rpc id group node protocol payload timeout))] ++ between)).state
    let state := (after config localPeer now (before ++
      [.handle made (.command (.rpc id group node protocol payload timeout))] ++ between ++
        [.handle ticked .tick])).state
    (ticked.now < made.now + timeout → state.calls.lookup id = waiting.calls.lookup id) ∧
      (made.now + timeout ≤ ticked.now → state.calls.lookup id = none ∧
        ∃ record, outcomes id state.log = [record] ∧ record.header.group = group ∧
          record.header.protocol = protocol ∧
          ∀ call, waiting.calls.lookup id = some call → record = rpcFailed id call failTimeout) := by
  intro waiting state
  have due := due_after (run.take (List.prefix_append _ _))
  have ticks : Due id group protocol (made.now + timeout) _ :=
    due_after (List.append_assoc _ _ _ ▸ run)
  rw [← List.append_assoc] at ticks
  have dueAt : ∀ call, waiting.calls.lookup id = some call →
      call.deadline = made.now + timeout := by
    intro call found
    exact due.deadline call.errand (congrArg (Option.map Call.errand) found)
  have isTicked : state = (waiting.heard ticked.nowMs .tick).tick ticked := by
    change (after config localPeer now (_ ++ [_])).state = _
    rw [after_append_singleton]
    rfl
  have calls : state.calls.lookup id =
      (waiting.calls.lookup id).filter fun call => ticked.now < call.deadline := by
    rw [isTicked, State.lookup_tick]
    rfl
  constructor
  · intro early
    rw [calls]
    cases found : waiting.calls.lookup id with
    | none => rfl
    | some call => exact Option.filter_some_pos (by simpa [dueAt call found] using early)
  · intro late
    have gone : state.calls.lookup id = none := by
      rw [calls]
      cases found : waiting.calls.lookup id with
      | none => rfl
      | some call => exact Option.filter_some_neg (by simpa [dueAt call found] using late)
    obtain ⟨record, only, ofGroup, ofProtocol⟩ :=
      ticks.accounted.ended id group protocol ticks.applied gone
    refine ⟨gone, record, only, ofGroup, ofProtocol, fun call found => ?_⟩
    have failed : .did (.emit (rpcFailed id call failTimeout)) ∈ state.log := by
      rw [isTicked]
      exact State.failed_tick found (dueAt call found ▸ late)
    have counted : rpcFailed id call failTimeout ∈ outcomes id state.log :=
      List.mem_filterMap.mpr ⟨_, failed, if_pos ⟨rfl, rfl⟩⟩
    rw [only] at counted
    exact (List.mem_singleton.mp counted).symm

/-- Ten seconds later. -/
def Sample.overdue : Env := { Sample.env with now := Duration.fromSecs 10 }

/-- A group's lookup has no end within ten seconds. -/
theorem System.calls_end_when_due_lookup :
    ∃ record, outcomes 1 (System.after Sample.config Sample.peer 0
      ([.draw, .ready Sample.env] ++ [.handle Sample.env Sample.call] ++
        [.handle Sample.env (Sample.lookupStep (.found []) false)] ++
        [.handle Sample.overdue .tick])).state.log = [record] := by
  have run : System.Run Sample.crates Sample.config Sample.peer 0
      ([.draw, .ready Sample.env] ++ [.handle Sample.env Sample.call] ++
        [.handle Sample.env (Sample.lookupStep (.found []) false)] ++
        [.handle Sample.overdue .tick]) := by
    simp only [Run, List.cons_append, List.nil_append, Runs.admissible_cons,
      Runs.admissible_nil, and_true]
    refine ⟨trivial, ⟨rfl, rfl⟩, ⟨rfl, rfl, ?_, Nat.zero_lt_one⟩, ⟨rfl, .lookup 1, ?_, trivial⟩,
      rfl, rfl⟩ <;> decide
  obtain ⟨-, record, only, -⟩ := (System.calls_end_when_due run).2 (by decide)
  exact ⟨record, only⟩

end Libp2pFfi
