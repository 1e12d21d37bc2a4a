import Libp2pFfi.Frames

/-!
# What advancing a call can do

`advance` is the one place where a call moves on, and it is entered from every
handler that ends something a call waited for. `Advance` lists its outcomes with
their conditions and the state each leaves; every argument about calls splits on
these and never looks at the loop again.

The candidates it passes over are those nothing is known of and whose addresses
were looked up already. Then it sends to the next one, or has its addresses
looked up, or finds nobody left: and then it waits, if the lookup of the group's
providers still runs, or fails the call.
-/

namespace Libp2pFfi.State

/-- A candidate that is passed over. -/
def Stuck (env : Env) (state : State) (call : Call) (peer : PeerId) : Prop :=
  env.isConnected peer = false ∧ state.swarm.addressBook.knows peer = false ∧ peer ∈ call.resolved

/-- Candidates were looked at in vain. -/
def passOver (state : State) (id : Nat) (peers : List PeerId) : State :=
  { state with log := state.log ++ peers.map fun peer => .did (.turn id peer false false) }

/-- A candidate is looked at. -/
def lookAt (env : Env) (state : State) (id : Nat) (peer : PeerId) : State :=
  state.did (.turn id peer (env.isConnected peer) (state.swarm.addressBook.knows peer))

/-- The outcomes of `advance`. -/
inductive Advance (env : Env) (state : State) (id : Nat) : State → Prop where
  /-- The call has ended already. -/
  | missing (absent : state.calls.lookup id = none) : Advance env state id state
  /-- Something is under way that will advance the call again. -/
  | busy (call : Call) (found : state.calls.lookup id = some call)
      (underWay : call.inFlight = true ∨ call.resolving = true) : Advance env state id state
  | waits (call : Call) (found : state.calls.lookup id = some call)
      (idle : call.inFlight = false ∧ call.resolving = false)
      (stuck : ∀ peer ∈ call.candidates, Stuck env state call peer)
      (running : call.lookupRunning = true) :
      Advance env state id
        ((state.passOver id call.candidates).setCall id { call with candidates := [] })
  | fails (call : Call) (found : state.calls.lookup id = some call)
      (idle : call.inFlight = false ∧ call.resolving = false)
      (stuck : ∀ peer ∈ call.candidates, Stuck env state call peer)
      (isOver : call.lookupRunning = false) :
      Advance env state id
        ({ state.passOver id call.candidates with calls := state.calls.erase id }.emit
          (rpcFailed id call call.lastFailure))
  | sends (call : Call) (found : state.calls.lookup id = some call)
      (idle : call.inFlight = false ∧ call.resolving = false)
      (skipped : List PeerId) (peer : PeerId) (rest : List PeerId)
      (split : call.candidates = skipped ++ peer :: rest)
      (stuck : ∀ peer ∈ skipped, Stuck env state call peer) :
      Advance env state id
        (((state.passOver id skipped).lookAt env id peer).sendCandidate id call peer rest)
  | resolves (call : Call) (found : state.calls.lookup id = some call)
      (idle : call.inFlight = false ∧ call.resolving = false)
      (skipped : List PeerId) (peer : PeerId) (rest : List PeerId)
      (split : call.candidates = skipped ++ peer :: rest)
      (stuck : ∀ peer ∈ skipped, Stuck env state call peer) (isNew : peer ∉ call.resolved) :
      Advance env state id
        (((state.passOver id skipped).lookAt env id peer).resolveCandidate id call peer rest)

theorem passOver_cons (state : State) (id : Nat) (peer : PeerId) (rest : List PeerId) :
    (state.did (.turn id peer false false)).passOver id rest = state.passOver id (peer :: rest) := by
  simp [passOver, did]

/-- Where the loop over the candidates ends. -/
theorem tryCandidates_cases (env : Env) (id : Nat) (call : Call) (state : State)
    (peers : List PeerId) :
    ((∀ peer ∈ peers, Stuck env state call peer) ∧
        tryCandidates env id call state peers =
          ((state.passOver id peers).setCall id { call with candidates := [] }, false)) ∨
      ∃ skipped peer rest, peers = skipped ++ peer :: rest ∧
        (∀ peer ∈ skipped, Stuck env state call peer) ∧
        (tryCandidates env id call state peers =
            (((state.passOver id skipped).lookAt env id peer).sendCandidate id call peer rest, true) ∨
          peer ∉ call.resolved ∧
            tryCandidates env id call state peers =
              (((state.passOver id skipped).lookAt env id peer).resolveCandidate id call peer rest,
                true)) := by
  induction peers generalizing state with
  | nil => exact .inl ⟨by simp, by simp [tryCandidates, passOver]⟩
  | cons peer rest inductionHypothesis =>
    have here : state.passOver id [] = state := by simp [passOver]
    by_cases dialable : (env.isConnected peer || state.swarm.addressBook.knows peer) = true
    · refine .inr ⟨[], peer, rest, rfl, by simp, .inl ?_⟩
      simp only [tryCandidates, dialable, if_true, here]
      rfl
    · have unreachable : env.isConnected peer = false ∧
          state.swarm.addressBook.knows peer = false := by simpa using dialable
      by_cases resolved : peer ∈ call.resolved
      · have stuck : Stuck env state call peer := ⟨unreachable.1, unreachable.2, resolved⟩
        have next : tryCandidates env id call state (peer :: rest) =
            tryCandidates env id call (state.did (.turn id peer false false)) rest := by
          simp [tryCandidates, unreachable, resolved]
        rw [next]
        rcases inductionHypothesis (state.did (.turn id peer false false)) with
          ⟨all, ends⟩ | ⟨skipped, other, later, split, all, ends⟩
        · refine .inl ⟨List.forall_mem_cons.mpr ⟨stuck, all⟩, ?_⟩
          rw [ends, passOver_cons]
        · refine .inr ⟨peer :: skipped, other, later, by rw [split]; rfl,
            List.forall_mem_cons.mpr ⟨stuck, all⟩, ?_⟩
          rw [← passOver_cons]
          exact ends
      · refine .inr ⟨[], peer, rest, rfl, by simp, .inr ⟨resolved, ?_⟩⟩
        simp only [tryCandidates, dialable, resolved, if_false, here]
        rfl

theorem advance_spec (env : Env) (state : State) (id : Nat) :
    Advance env state id (state.advance env id) := by
  unfold advance
  cases found : state.calls.lookup id with
  | none => exact .missing found
  | some call =>
    dsimp only
    by_cases underWay : (call.inFlight || call.resolving) = true
    · rw [if_pos underWay]
      exact .busy call found (by simpa using underWay)
    · rw [if_neg underWay]
      have idle : call.inFlight = false ∧ call.resolving = false := by simpa using underWay
      rcases tryCandidates_cases env id call state call.candidates with
        ⟨stuck, ends⟩ | ⟨skipped, peer, rest, split, stuck, ends | ⟨isNew, ends⟩⟩
      · rw [ends]
        dsimp only
        by_cases running : call.lookupRunning = true
        · rw [if_pos running]
          exact .waits call found idle stuck running
        · rw [if_neg running]
          have fails := Advance.fails call found idle stuck (by simpa using running)
          simp only [failCall, setCall, AList.lookup_insert, Table.erase_insert]
          exact fails
      · rw [ends]
        exact .sends call found idle skipped peer rest split stuck
      · rw [ends]
        exact .resolves call found idle skipped peer rest split stuck isNew

end Libp2pFfi.State
