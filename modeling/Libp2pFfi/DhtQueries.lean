import Libp2pFfi.Chronicle
import Libp2pFfi.Parts

/-!
# The life of a query

Kademlia reports on every query through one event, and the node tells by six
tables whose query it is. Three of them are for queries that the caller started:
a bootstrap, a random walk, and a search for providers. Such a query reports the
peers it discovers under the id of its command, and then its result, which is
the last thing reported under that id.

Each id of the caller's is in one of three stages. It is `Idle` as long as no
such command came with it. Then it is `Running`, with exactly one query in the
table of its kind. When the result is out it is `Ended`, and nothing can follow
because no table leads to it. The stages are stated on the three tables and on
the list of reports alone; a handler is one of four moves on these.
-/

namespace Libp2pFfi

/-- The kinds of query the caller can start. -/
inductive EnquiryKind where
  | bootstrap
  | walk
  | find
deriving DecidableEq

/-- What a command starts, and under which id. -/
def Command.enquiry? : Command → Option (EnquiryKind × Nat)
  | bootstrap id => some (.bootstrap, id)
  | randomWalk id => some (.walk, id)
  | findProviders id _ => some (.find, id)
  | _ => none

def Input.enquiry? : Input → Option (EnquiryKind × Nat)
  | command sent => sent.enquiry?
  | _ => none

/-- A command of this kind with this id was applied. -/
def Posed (log : List Entry) (kind : EnquiryKind) (id : Nat) : Prop :=
  ∃ input ∈ inputs log, input.enquiry? = some (kind, id)

/-- The table of a kind. -/
def DhtPart.table (part : DhtPart) : EnquiryKind → Table QueryId Nat
  | .bootstrap => part.bootstraps
  | .walk => part.walks
  | .find => part.providerQueries

def DhtPart.put (part : DhtPart) (kind : EnquiryKind) (table : Table QueryId Nat) : DhtPart :=
  match kind with
  | .bootstrap => { part with bootstraps := table }
  | .walk => { part with walks := table }
  | .find => { part with providerQueries := table }

theorem DhtPart.table_put (part : DhtPart) (kind other : EnquiryKind) (table : Table QueryId Nat) :
    (part.put kind table).table other = if other = kind then table else part.table other := by
  cases kind <;> cases other <;> rfl

/-- The record with which a line of the log reports on a query of the caller's. -/
def Entry.report? : Entry → Option Record
  | did (.emit record) =>
    if record.header.kind = .peerDiscovered ∨ record.header.kind = .dhtResult then some record
    else none
  | _ => none

/-- What was reported on the caller's queries, in order. -/
def reports (log : List Entry) : List Record := log.filterMap Entry.report?

/-- What was reported under one id. -/
def reportsOf (told : List Record) (id : Nat) : List Record :=
  told.filter fun record => record.header.id = id

/-- A peer that a query found. -/
structure Record.Finds (record : Record) (id : Nat) : Prop where
  kind : record.header.kind = .peerDiscovered
  id : record.header.id = id

/-- The result of a query, with the flag of the last event of an id. -/
structure Record.Ends (record : Record) (id : Nat) : Prop where
  kind : record.header.kind = .dhtResult
  id : record.header.id = id
  flags : record.header.flags = evfLast

theorem finds_discovered (crates : Crates) (id : Nat) (peer : PeerId) (addresses : List Multiaddr) :
    (discovered crates id peer addresses).Finds id :=
  ⟨rfl, rfl⟩

theorem ends_dhtResult (id reason : Nat) : (dhtResult id reason).Ends id :=
  ⟨rfl, rfl, rfl⟩

/-! The stages of an id. -/

/-- Nothing was started under the id. -/
structure Idle (part : DhtPart) (told : List Record) (id : Nat) : Prop where
  absent : ∀ kind, (part.table kind).Owes id false
  silent : reportsOf told id = []

/-- Exactly one query runs for the id, which is in the table of its kind. -/
structure Running (part : DhtPart) (told : List Record) (kind : EnquiryKind) (id : Nat) : Prop where
  owed : ∀ other, (part.table other).Owes id (decide (other = kind))
  unfinished : ∀ record ∈ reportsOf told id, record.Finds id

/-- The query of the id has ended: the last report under the id is its result,
and the only one. -/
structure Ended (part : DhtPart) (told : List Record) (id : Nat) : Prop where
  absent : ∀ kind, (part.table kind).Owes id false
  finished : ∃ found result, reportsOf told id = found ++ [result] ∧
    (∀ record ∈ found, record.Finds id) ∧ result.Ends id

/-- Every id is in the stage it should be in. -/
structure Enquired (applied : EnquiryKind → Nat → Prop) (part : DhtPart) (told : List Record) :
    Prop where
  idle : ∀ id, (∀ kind, ¬ applied kind id) → Idle part told id
  course : ∀ kind id, applied kind id → Running part told kind id ∨ Ended part told id

section

variable {part : DhtPart} {told : List Record} {id other : Nat}

theorem reportsOf_append (told more : List Record) (id : Nat) :
    reportsOf (told ++ more) id = reportsOf told id ++ reportsOf more id :=
  List.filter_append ..

/-- Reports under another id do not count. -/
theorem reportsOf_others {more : List Record} (own : ∀ record ∈ more, record.header.id = other)
    (different : other ≠ id) : reportsOf (told ++ more) id = reportsOf told id := by
  have none : reportsOf more id = [] := by
    apply List.filter_eq_nil_iff.mpr
    intro record member
    simp [own record member, different]
  rw [reportsOf_append, none, List.append_nil]

theorem reportsOf_own {more : List Record} (own : ∀ record ∈ more, record.header.id = id) :
    reportsOf (told ++ more) id = reportsOf told id ++ more := by
  have all : reportsOf more id = more := by
    apply List.filter_eq_self.mpr
    intro record member
    simp [own record member]
  rw [reportsOf_append, all]

/-- What happens under another id, seen from this one. -/
theorem Idle.aside {partToo : DhtPart} {toldToo : List Record} (isIdle : Idle part told id)
    (tables : ∀ kind flag, (part.table kind).Owes id flag → (partToo.table kind).Owes id flag)
    (same : reportsOf toldToo id = reportsOf told id) : Idle partToo toldToo id :=
  ⟨fun kind => tables kind _ (isIdle.absent kind), same.trans isIdle.silent⟩

theorem Running.aside {partToo : DhtPart} {toldToo : List Record} {kind : EnquiryKind}
    (running : Running part told kind id)
    (tables : ∀ kind flag, (part.table kind).Owes id flag → (partToo.table kind).Owes id flag)
    (same : reportsOf toldToo id = reportsOf told id) : Running partToo toldToo kind id :=
  ⟨fun other => tables other _ (running.owed other), by rw [same]; exact running.unfinished⟩

theorem Ended.aside {partToo : DhtPart} {toldToo : List Record} (ended : Ended part told id)
    (tables : ∀ kind flag, (part.table kind).Owes id flag → (partToo.table kind).Owes id flag)
    (same : reportsOf toldToo id = reportsOf told id) : Ended partToo toldToo id :=
  ⟨fun kind => tables kind _ (ended.absent kind), by rw [same]; exact ended.finished⟩

end

namespace Enquired

section

variable {applied appliedToo : EnquiryKind → Nat → Prop} {part partToo : DhtPart}
  {told toldToo : List Record} {kind : EnquiryKind} {query : QueryId} {id : Nat}

/-- A move is about one id if the others can neither tell it from the tables nor
from the reports. -/
theorem move (enquired : Enquired applied part told) (id : Nat)
    (tables : ∀ other, other ≠ id → ∀ kind flag, (part.table kind).Owes other flag →
      (partToo.table kind).Owes other flag)
    (same : ∀ other, other ≠ id → reportsOf toldToo other = reportsOf told other)
    (others : ∀ kind other, other ≠ id → (appliedToo kind other ↔ applied kind other))
    (unstarted : (∀ kind, ¬ appliedToo kind id) → Idle partToo toldToo id)
    (started : ∀ kind, appliedToo kind id →
      Running partToo toldToo kind id ∨ Ended partToo toldToo id) :
    Enquired appliedToo partToo toldToo := by
  constructor
  · intro other never
    by_cases own : other = id
    · subst own
      exact unstarted never
    · have before : ∀ kind, ¬ applied kind other := fun kind isApplied =>
        never kind ((others kind other own).mpr isApplied)
      exact (enquired.idle other before).aside (tables other own) (same other own)
  · intro kind other isApplied
    by_cases own : other = id
    · subst own
      exact started kind isApplied
    · rcases enquired.course kind other ((others kind other own).mp isApplied) with running | ended
      · exact .inl (running.aside (tables other own) (same other own))
      · exact .inr (ended.aside (tables other own) (same other own))

/-- What a query in a table tells: its id is running, and of that kind only. -/
theorem running_of_found (enquired : Enquired applied part told)
    (found : (part.table kind).lookup query = some id) :
    applied kind id ∧ Running part told kind id ∧ ∀ other, applied other id → other = kind := by
  have only (other : EnquiryKind) (isApplied : applied other id) :
      other = kind ∧ Running part told other id := by
    rcases enquired.course other id isApplied with running | ended
    · have owed := running.owed kind
      by_cases same : kind = other
      · exact ⟨same.symm, running⟩
      · rw [decide_eq_false same] at owed
        exact absurd found (owed query)
    · exact absurd found (ended.absent kind query)
  by_cases started : ∃ other, applied other id
  · obtain ⟨other, isApplied⟩ := started
    obtain ⟨rfl, running⟩ := only other isApplied
    exact ⟨isApplied, running, fun another isAppliedToo => (only another isAppliedToo).1⟩
  · have isIdle := enquired.idle id fun other isApplied => started ⟨other, isApplied⟩
    exact absurd found (isIdle.absent kind query)

/-- A command starts a query. -/
theorem begins (enquired : Enquired applied part told) (kind : EnquiryKind)
    (never : ∀ kind, ¬ applied kind id) (isNew : (part.table kind).lookup query = none)
    (applies : ∀ other tested, appliedToo other tested ↔
      applied other tested ∨ other = kind ∧ tested = id) :
    Enquired appliedToo (part.put kind ((part.table kind).insert query id)) told := by
  have isIdle := enquired.idle id never
  apply enquired.move id
  · intro other different tested flag owes
    rw [DhtPart.table_put]
    split
    · rename_i same
      subst same
      exact owes.insert_other (Ne.symm different) isNew
    · exact owes
  · exact fun _ _ => rfl
  · intro tested other different
    simp [applies, different]
  · intro neverToo
    exact absurd ((applies kind id).mpr (.inr ⟨rfl, rfl⟩)) (neverToo kind)
  · intro tested isApplied
    obtain rfl : tested = kind := by
      rcases (applies tested id).mp isApplied with old | ⟨same, -⟩
      · exact absurd old (never tested)
      · exact same
    refine .inl ⟨?_, by simp [isIdle.silent]⟩
    intro other
    rw [DhtPart.table_put]
    split
    · rename_i same
      rw [decide_eq_true same]
      exact (isIdle.absent tested).insert_own
    · rename_i different
      rw [decide_eq_false different]
      exact isIdle.absent other

/-- A command whose query cannot start has its result at once. -/
theorem refuses (enquired : Enquired applied part told) (kind : EnquiryKind)
    (never : ∀ kind, ¬ applied kind id)
    (applies : ∀ other tested, appliedToo other tested ↔
      applied other tested ∨ other = kind ∧ tested = id)
    {result : Record} (ends : result.Ends id) : Enquired appliedToo part (told ++ [result]) := by
  have isIdle := enquired.idle id never
  have own : ∀ record ∈ [result], record.header.id = id := by simp [ends.id]
  apply enquired.move id
  · exact fun _ _ _ _ owes => owes
  · exact fun other different => reportsOf_others own (Ne.symm different)
  · intro tested other different
    simp [applies, different]
  · intro neverToo
    exact absurd ((applies kind id).mpr (.inr ⟨rfl, rfl⟩)) (neverToo kind)
  · intro tested _
    refine .inr ⟨isIdle.absent, [], result, ?_, by simp, ends⟩
    rw [reportsOf_own own, isIdle.silent]

/-- A running query reports what it found. -/
theorem tells (enquired : Enquired applied part told) (kind : EnquiryKind)
    (runs : (part.table kind).lookup query = some id) {found : List Record}
    (finds : ∀ record ∈ found, record.Finds id) : Enquired applied part (told ++ found) := by
  obtain ⟨isApplied, running, only⟩ := enquired.running_of_found runs
  have own : ∀ record ∈ found, record.header.id = id := fun record member => (finds record member).id
  apply enquired.move id
  · exact fun _ _ _ _ owes => owes
  · exact fun other different => reportsOf_others own (Ne.symm different)
  · exact fun _ _ _ => Iff.rfl
  · intro never
    exact absurd isApplied (never kind)
  · intro tested isAppliedToo
    obtain rfl := only tested isAppliedToo
    refine .inl ⟨running.owed, ?_⟩
    rw [reportsOf_own own]
    intro record member
    rcases List.mem_append.mp member with old | new
    · exact running.unfinished record old
    · exact finds record new

/-- A running query ends. -/
theorem ends (enquired : Enquired applied part told) (kind : EnquiryKind)
    (runs : (part.table kind).lookup query = some id) {result : Record}
    (isResult : result.Ends id) :
    Enquired applied (part.put kind ((part.table kind).erase query)) (told ++ [result]) := by
  obtain ⟨isApplied, running, only⟩ := enquired.running_of_found runs
  have own : ∀ record ∈ [result], record.header.id = id := by simp [isResult.id]
  apply enquired.move id
  · intro other different tested flag owes
    rw [DhtPart.table_put]
    split
    · rename_i same
      subst same
      exact owes.erase_other (Ne.symm different) runs
    · exact owes
  · exact fun other different => reportsOf_others own (Ne.symm different)
  · exact fun _ _ _ => Iff.rfl
  · intro never
    exact absurd isApplied (never kind)
  · intro tested isAppliedToo
    obtain rfl := only tested isAppliedToo
    refine .inr ⟨?_, reportsOf told id, result, reportsOf_own own, running.unfinished, isResult⟩
    intro other
    have owed := running.owed other
    rw [DhtPart.table_put]
    split
    · rename_i same
      subst same
      exact owed.erase_own runs
    · rename_i different
      rw [decide_eq_false different] at owed
      exact owed

end

end Enquired

/-! The handlers. -/

theorem Entry.Within.unreported {touched : List Part} {entry : Entry}
    (within : entry.Within touched) (elsewhere : .dht ∉ touched) : entry.report? = none := by
  cases entry with
  | heard => rfl
  | did effect =>
    cases effect with
    | emit record =>
      apply if_neg
      rintro (isDiscovery | isResult)
      · exact elsewhere (within .dht (by rw [Effect.part?, isDiscovery]; rfl))
      · exact elsewhere (within .dht (by rw [Effect.part?, isResult]; rfl))
    | _ => rfl

theorem Record.Finds.report {record : Record} {id : Nat} (finds : record.Finds id) :
    (Entry.did (.emit record)).report? = some record :=
  if_pos (.inl finds.kind)

theorem Record.Ends.report {record : Record} {id : Nat} (ends : record.Ends id) :
    (Entry.did (.emit record)).report? = some record :=
  if_pos (.inr ends.kind)

/-- A line that reports nothing on them. -/
theorem reports_silent {log : List Entry} {entry : Entry} (silent : entry.report? = none) :
    reports (log ++ [entry]) = reports log :=
  State.filterMap_unseen (by simpa using silent) log

namespace State

/-- A handler that leaves the caller's queries alone reports nothing on them. -/
theorem Confined.reports {touched : List Part} {before after : State}
    (confined : Confined touched before after) (elsewhere : .dht ∉ touched) :
    reports after.log = reports before.log := by
  obtain ⟨extra, grown, within⟩ := confined.adds
  rw [grown]
  exact filterMap_unseen (fun entry member => (within entry member).unreported elsewhere) before.log

theorem reports_emit (state : State) {record : Record}
    (report : (Entry.did (.emit record)).report? = some record) :
    reports (state.emit record).log = reports state.log ++ [record] := by
  rw [emit, reports, List.filterMap_append, List.filterMap_cons, report]
  rfl

/-- A loop that reports peers. -/
theorem reports_foldl {α : Type} {id : Nat} {step : State → α → State}
    (each : ∀ state item, ∃ record, record.Finds id ∧ step state item = state.emit record)
    (items : List α) (state : State) :
    ∃ found, (∀ record ∈ found, record.Finds id) ∧
      reports (items.foldl step state).log = reports state.log ++ found ∧
      (items.foldl step state).dhtPart = state.dhtPart := by
  induction items generalizing state with
  | nil => exact ⟨[], by simp, by simp, rfl⟩
  | cons item rest inductionHypothesis =>
    obtain ⟨record, finds, emits⟩ := each state item
    obtain ⟨found, findsToo, told, part⟩ := inductionHypothesis (step state item)
    refine ⟨record :: found, List.forall_mem_cons.mpr ⟨finds, findsToo⟩, ?_, ?_⟩
    · rw [List.foldl_cons, told, emits, reports_emit state finds.report, List.append_assoc]
      rfl
    · rw [List.foldl_cons, part, emits]
      rfl

/-- The stages of the caller's ids, in a state. -/
abbrev Enquiries (applied : EnquiryKind → Nat → Prop) (state : State) : Prop :=
  Enquired applied state.dhtPart (reports state.log)

section

variable {applied : EnquiryKind → Nat → Prop} {before after : State}

theorem Confined.enquiries {touched : List Part} (confined : Confined touched before after)
    (elsewhere : .dht ∉ touched) (enquired : Enquiries applied before) :
    Enquiries applied after := by
  rw [Enquiries, confined.dht elsewhere, confined.reports elsewhere]
  exact enquired

theorem enquiries_callerProviders (env : Env) {query : QueryId} {id : Nat}
    (result : GetProvidersResult) (last : Bool) (enquired : Enquiries applied before)
    (runs : before.providerQueries.lookup query = some id) :
    Enquiries applied (before.callerProviders env query id result last) := by
  obtain ⟨found, finds, told, part⟩ := reports_foldl
    (fun state provider => ⟨_, finds_discovered env.crates id provider
      (state.swarm.addressBook.addressesOf provider), rfl⟩) (providersFound result) before
  have reported : Enquired applied before.dhtPart (reports before.log ++ found) :=
    Enquired.tells enquired .find runs finds
  rw [← told] at reported
  unfold callerProviders
  dsimp only
  split
  · have ended := reported.ends .find runs (ends_dhtResult id 0)
    rw [← part] at ended
    rw [Enquiries, reports_emit _ (ends_dhtResult id 0).report]
    exact ended
  · rw [Enquiries, part]
    exact reported

theorem enquiries_walked (env : Env) {query : QueryId} {id : Nat} (peers : List PeerInfo)
    (enquired : Enquiries applied before) (runs : before.walks.lookup query = some id) :
    Enquiries applied (before.walked env query id peers) := by
  obtain ⟨found, finds, told, part⟩ := reports_foldl
    (fun _ (info : PeerInfo) => ⟨_, finds_discovered env.crates id info.peer info.addrs, rfl⟩) peers
    { before with walks := before.walks.erase query }
  have ended := (Enquired.tells enquired .walk runs finds).ends .walk runs (ends_dhtResult id 0)
  have dropped : (before.walked env query id peers).dhtPart =
      before.dhtPart.put .walk (before.walks.erase query) :=
    part
  rw [Enquiries, dropped, walked, reports_emit _ (ends_dhtResult id 0).report, told]
  exact ended

theorem enquiries_providersReported (env : Env) (query : QueryId) (result : GetProvidersResult)
    (last : Bool) (enquired : Enquiries applied before) :
    Enquiries applied (before.providersReported env query result last) := by
  unfold providersReported
  split
  · exact (confined_topicProviders env before query result last).enquiries (by simp) enquired
  · split
    · rename_i id runs
      exact enquiries_callerProviders env result last enquired runs
    · split
      · exact (confined_callProviders env before query _ result last).enquiries (by simp) enquired
      · exact enquired

theorem enquiries_closestPeersReported (env : Env) (query : QueryId) (peers : List PeerInfo)
    (enquired : Enquiries applied before) :
    Enquiries applied (before.closestPeersReported env query peers) := by
  have each (state : State) (info : PeerInfo) :
      Confined [] state (state.addAddresses info.peer info.addrs) :=
    confined_of_parts rfl
  have known := (confined_foldl each peers before).enquiries (by simp) enquired
  unfold closestPeersReported
  dsimp only
  split
  · rename_i id resolves
    refine Confined.enquiries (Confined.trans ?_ (confined_advance env _ id)) (by simp) known
    exact confined_of_parts rfl
  · split
    · rename_i id runs
      exact enquiries_walked env peers known runs
    · exact known

theorem enquiries_bootstrapReported (query : QueryId) (ok last : Bool)
    (enquired : Enquiries applied before) :
    Enquiries applied (before.bootstrapReported query ok last) := by
  unfold bootstrapReported
  dsimp only
  split
  · split
    · exact enquired
    · rename_i id runs
      have ended := Enquired.ends enquired .bootstrap runs
        (ends_dhtResult id (if ok then 0 else failTimeout))
      rw [← reports_emit _ (ends_dhtResult id _).report] at ended
      exact ended
  · exact enquired

theorem enquiries_kadEvent (env : Env) (event : KadEvent) (enquired : Enquiries applied before) :
    Enquiries applied (before.kadEvent env event) := by
  cases event with
  | routingUpdated peer addresses isNewPeer =>
    unfold kadEvent
    cases isNewPeer <;> exact enquired
  | progressed query result last =>
    cases result with
    | getProviders found => exact enquiries_providersReported env query found last enquired
    | getClosestPeers peers => exact enquiries_closestPeersReported env query peers enquired
    | bootstrap ok => exact enquiries_bootstrapReported query ok last enquired
    | other => exact enquired
  | other => exact enquired

end

end State

/-- The stages of the caller's ids, in a run. Only ids that were used are past
the first one. -/
structure Enquiring (system : System) : Prop where
  balanced : Balanced system
  enquired : system.state.Enquiries (Posed system.state.log)
  used : ∀ kind id, Posed system.state.log kind id → ¬ system.Free id

theorem enquiring_start (config : Config) (localPeer : PeerId) (now : Instant) :
    Enquiring (System.start config localPeer now) := by
  have empty (kind : EnquiryKind) (id : Nat) :
      ¬ Posed (System.start config localPeer now).state.log kind id := by
    simp [Posed, System.start, State.new, inputs]
  refine ⟨balanced_start config localPeer now,
    ⟨?_, fun kind id posed => absurd posed (empty kind id)⟩,
    fun kind id posed => absurd posed (empty kind id)⟩
  intro id _
  refine ⟨?_, rfl⟩
  intro kind query
  cases kind <;> simp [System.start, State.new, State.dhtPart, DhtPart.table]

/-- A query that has not begun is in no table. -/
theorem State.Ledger.unheld {state : State} (ledger : State.Ledger state) (kind : EnquiryKind) :
    (state.dhtPart.table kind).lookup state.swarm.nextQuery = none := by
  have holders := ledger.queries state.swarm.nextQuery (by simp)
  rw [State.Agrees, ledger.newQueries _ (le_refl _)] at holders
  have owners := Holders.mk.inj holders
  cases kind with
  | bootstrap => exact owners.2.2.2.2.2
  | walk => exact owners.2.2.2.2.1
  | find => exact owners.2.1

section

variable {applied appliedToo : EnquiryKind → Nat → Prop} {state : State} {id : Nat}

theorem enquiries_command (env : Env) {command : Command} {kind : EnquiryKind}
    (poses : command.enquiry? = some (kind, id)) (enquired : state.Enquiries applied)
    (ledger : state.Ledger) (never : ∀ kind, ¬ applied kind id)
    (applies : ∀ other tested, appliedToo other tested ↔
      applied other tested ∨ other = kind ∧ tested = id) :
    (state.command env command).Enquiries appliedToo := by
  have begun := Enquired.begins enquired kind never (ledger.unheld kind) applies
  cases command with
  | bootstrap asked =>
    obtain ⟨rfl, rfl⟩ := Prod.mk.inj (Option.some.inj poses)
    unfold State.command State.bootstrap
    dsimp only
    split
    · rw [← reports_silent (by rfl : (Entry.did (.bootstrap state.swarm.nextQuery
        (.bootstrap asked))).report? = none)] at begun
      exact begun
    · have refused := Enquired.refuses enquired _ never applies (ends_dhtResult asked failUnreachable)
      rw [← State.reports_emit _ (ends_dhtResult asked _).report] at refused
      exact refused
  | randomWalk asked =>
    obtain ⟨rfl, rfl⟩ := Prod.mk.inj (Option.some.inj poses)
    rw [← reports_silent (by rfl : (Entry.did (.getClosestPeers state.swarm.nextQuery env.randomPeer
      (.walk asked))).report? = none)] at begun
    exact begun
  | findProviders asked key =>
    obtain ⟨rfl, rfl⟩ := Prod.mk.inj (Option.some.inj poses)
    rw [← reports_silent (by rfl : (Entry.did (.getProviders state.swarm.nextQuery
      (Wire.providerKey env.crates key) (.find asked))).report? = none)] at begun
    exact begun
  | _ => cases poses

end

section

variable {crates : Crates} {system : System} {env : Env} {input : Input}

theorem posed_handle (kind : EnquiryKind) (id : Nat) :
    Posed (system.step (.handle env input)).state.log kind id ↔
      Posed system.state.log kind id ∨ input.enquiry? = some (kind, id) := by
  have noted := (State.handle_keeps env system.state input).1
  rw [Posed, System.step, noted]
  simp only [List.mem_append, List.mem_singleton]
  constructor
  · rintro ⟨applied, old | rfl, poses⟩
    · exact .inl ⟨applied, old, poses⟩
    · exact .inr poses
  · rintro (⟨applied, old, poses⟩ | poses)
    · exact ⟨applied, .inl old, poses⟩
    · exact ⟨input, .inr rfl, poses⟩

/-- The id of a command that starts a query is one of its ids. -/
theorem Input.mem_ids_of_enquiry {kind : EnquiryKind} {id : Nat}
    (poses : input.enquiry? = some (kind, id)) : id ∈ input.ids := by
  cases input with
  | command sent => cases sent <;> simp_all [Input.enquiry?, Command.enquiry?, Input.ids, Command.ids]
  | _ => cases poses

theorem State.dhtPart_deliver (state : State) (input : Input) :
    (state.deliver input).dhtPart = state.dhtPart := by
  unfold State.deliver
  split <;> rfl

/-- A round of the event loop, seen from the caller's queries. -/
theorem enquiries_handle (enquiring : Enquiring system)
    (enabled : System.Enabled crates system (.handle env input)) :
    ((system.state.deliver input).handle env input).Enquiries
      (Posed (system.step (.handle env input)).state.log) := by
  have heard : ((system.state.deliver input).heard env.nowMs input).Enquiries
      (Posed system.state.log) := by
    have part : ((system.state.deliver input).heard env.nowMs input).dhtPart = system.state.dhtPart :=
      system.state.dhtPart_deliver input
    have told : reports ((system.state.deliver input).heard env.nowMs input).log =
        reports system.state.log :=
      (reports_silent rfl).trans (congrArg reports (State.deliver_keeps _ _).2.1)
    rw [State.Enquiries, part, told]
    exact enquiring.enquired
  by_cases poses : ∃ kind id, input.enquiry? = some (kind, id)
  · obtain ⟨kind, id, poses⟩ := poses
    cases input with
    | command sent =>
      have isDrawn : id ∈ system.drawn := enabled.2.2.1 id (Input.mem_ids_of_enquiry poses)
      have ledger := enquiring.balanced.ledger.orderly
        (State.orderly_heard system.state env.nowMs (.command sent))
      apply enquiries_command env poses heard ledger
      · exact fun other posed => enquiring.used other id posed (.inl isDrawn)
      · intro other tested
        rw [posed_handle, poses]
        simp only [Option.some.injEq, Prod.mk.injEq, eq_comm]
    | _ => cases poses
  · have unposed : Posed (system.step (.handle env input)).state.log = Posed system.state.log := by
      funext kind id
      rw [posed_handle]
      simp only [eq_iff_iff, or_iff_left_iff_imp]
      exact fun posesToo => absurd ⟨kind, id, posesToo⟩ poses
    rw [unposed]
    by_cases here : .dht ∈ input.parts
    · cases input with
      | tick => simp [Input.parts] at here
      | command sent =>
        cases sent with
        | bootstrap asked => exact absurd ⟨_, _, rfl⟩ poses
        | randomWalk asked => exact absurd ⟨_, _, rfl⟩ poses
        | findProviders asked key => exact absurd ⟨_, _, rfl⟩ poses
        | _ => simp [Input.parts, Command.parts] at here
      | swarm event =>
        cases event with
        | kad event => exact State.enquiries_kadEvent env event heard
        | rpc event => cases event <;> simp [Input.parts, SwarmEvent.parts] at here
        | _ => simp [Input.parts, SwarmEvent.parts] at here
    · exact (State.confined_handle env _ input).enquiries here heard

theorem enquiring_step (system : System) (action : Action) (enquiring : Enquiring system)
    (enabled : System.Enabled crates system action) : Enquiring (system.step action) := by
  have balanced := balanced_step system action enquiring.balanced enabled
  cases action with
  | draw =>
    exact ⟨balanced, enquiring.enquired, fun kind id posed isFree =>
      enquiring.used kind id posed isFree.of_draw⟩
  | poll cap => exact ⟨balanced, enquiring.enquired, enquiring.used⟩
  | internalQuery => exact ⟨balanced, enquiring.enquired, enquiring.used⟩
  | learn peer address => exact ⟨balanced, enquiring.enquired, enquiring.used⟩
  | ready env =>
    have passive := State.passive_ready env system.state
    have noted : inputs (system.state.ready env).log = inputs system.state.log :=
      passive.conserves_of_plain.inputs
    have posed : Posed (system.step (.ready env)).state.log = Posed system.state.log := by
      funext kind id
      simp only [Posed, System.step, noted]
    refine ⟨balanced, ?_, ?_⟩
    · rw [posed]
      exact (State.confined_ready env system.state).enquiries (by simp) enquiring.enquired
    · rw [posed]
      intro kind id wasPosed isFree
      exact enquiring.used kind id wasPosed (isFree.imp_right passive.nextId.trans)
  | handle env input =>
    refine ⟨balanced, enquiries_handle enquiring enabled, ?_⟩
    intro kind id posed
    rcases (posed_handle kind id).mp posed with old | poses
    · exact fun isFree => enquiring.used kind id old (free_of_free_after isFree)
    · have carries := Input.mem_ids_of_enquiry poses
      cases input with
      | command sent =>
        exact not_free_of_used enquiring.balanced.drawn (enabled.2.2.1 id carries) carries
      | _ => cases poses

end

/-! Whose results they are. -/

/-- The call a query runs for. -/
def Purpose.call? : Purpose → Option Nat
  | lookup call => some call
  | resolve call _ => some call
  | _ => none

/-- What a step of a query may write. A topic's lookup has peers dialed; a query
of the caller's is reported under its id; one of a call moves that call on. -/
def Purpose.Concerns : Purpose → Entry → Prop
  | topic _, .did (.dial _ _) => True
  | find id, .did (.emit record) => record.Finds id ∨ record.Ends id
  | walk id, .did (.emit record) => record.Finds id ∨ record.Ends id
  | bootstrap id, .did (.emit record) => record.Ends id
  | lookup call, entry => entry.call? = some call
  | resolve call _, entry => entry.call? = some call
  | _, _ => False

namespace State

/-- A step serves the purpose of its query, and nobody else. -/
structure Serves (purpose : Purpose) (before after : State) : Prop where
  calls : ∀ id, purpose.call? ≠ some id → after.calls.lookup id = before.calls.lookup id
  adds : Adds purpose.Concerns before after

section

variable {query : QueryId} {purpose : Purpose} {last : Bool} {before after : State}

theorem Serves.trans {third : State} (left : Serves purpose before after)
    (right : Serves purpose after third) : Serves purpose before third :=
  ⟨fun id foreign => (right.calls id foreign).trans (left.calls id foreign),
    left.adds.trans right.adds⟩

/-- A step without calls and without a line. -/
theorem serves_of_same (calls : after.calls = before.calls) (log : after.log = before.log) :
    Serves purpose before after :=
  ⟨fun _ _ => by rw [calls], [], by rw [log, List.append_nil], by simp⟩

theorem serves_line {effect : Effect} (calls : after.calls = before.calls)
    (log : after.log = before.log ++ [.did effect]) (concerns : purpose.Concerns (.did effect)) :
    Serves purpose before after :=
  ⟨fun _ _ => by rw [calls], Adds.one log concerns⟩

theorem serves_foldl {α : Type} {step : State → α → State}
    (each : ∀ state item, Serves purpose state (step state item)) (items : List α)
    (state : State) : Serves purpose state (items.foldl step state) := by
  induction items generalizing state with
  | nil => exact serves_of_same rfl rfl
  | cons item rest inductionHypothesis => exact (each state item).trans (inductionHypothesis _)

theorem serves_dialTopicMembers (env : Env) (key : Key) (dialed : Nat) (providers : List PeerId)
    (state : State) : Serves (.topic key) state (state.dialTopicMembers env dialed providers) := by
  induction providers generalizing state dialed with
  | nil => exact serves_of_same rfl rfl
  | cons peer rest inductionHypothesis =>
    unfold dialTopicMembers
    split
    · exact serves_of_same rfl rfl
    · split
      · exact inductionHypothesis dialed state
      · have dials : Serves (.topic key) state (state.did (.dial peer (env.dials peer))) :=
          serves_line rfl rfl trivial
        exact dials.trans (inductionHypothesis _ _)

/-- A step that changes the query's own call. -/
theorem serves_adjust {id : Nat} {change : Call → Call} (owner : purpose.call? = some id)
    (calls : after.calls = before.calls.adjust id change) (log : after.log = before.log) :
    Serves purpose before after := by
  refine ⟨fun other foreign => ?_, [], by rw [log, List.append_nil], by simp⟩
  have different : other ≠ id := by
    rintro rfl
    exact foreign owner
  rw [calls, Table.lookup_adjust, if_neg different]

theorem serves_advance (env : Env) {id : Nat} (owner : purpose.call? = some id)
    (concerns : ∀ entry : Entry, entry.call? = some id → purpose.Concerns entry)
    (ledger : Ledger before) : Serves purpose before (before.advance env id) := by
  constructor
  · intro other foreign
    have different : other ≠ id := by
      rintro rfl
      exact foreign owner
    exact (bystander_advance env ledger different).call
  · exact (attempts_advance env before id).mono fun entry attempt => concerns entry attempt.1

theorem serves_callerProviders (env : Env) (id : Nat) (result : GetProvidersResult) (last : Bool)
    (state : State) :
    Serves (.find id) state (state.callerProviders env query id result last) := by
  have each (state : State) (provider : PeerId) : Serves (.find id) state (state.emit
      (discovered env.crates id provider (state.swarm.addressBook.addressesOf provider))) :=
    serves_line rfl rfl (Or.inl (finds_discovered env.crates id provider _))
  have found := serves_foldl each (providersFound result) state
  unfold callerProviders
  dsimp only
  split
  · exact found.trans (serves_line rfl rfl (Or.inr (ends_dhtResult id 0)))
  · exact found

theorem serves_topicProviders (env : Env) (key : Key) (result : GetProvidersResult) (last : Bool)
    (state : State) : Serves (.topic key) state (state.topicProviders env query result last) := by
  have dialed := serves_dialTopicMembers env key 0 (providersFound result) state
  unfold topicProviders
  dsimp only
  split
  · exact dialed.trans (serves_of_same rfl rfl)
  · exact dialed

theorem serves_learn (state : State) (peers : List PeerInfo) :
    Serves purpose state (state.learn peers) := by
  have each (state : State) (info : PeerInfo) :
      Serves purpose state (state.addAddresses info.peer info.addrs) :=
    serves_of_same rfl rfl
  exact serves_foldl each peers state

theorem serves_walked (env : Env) (id : Nat) (peers : List PeerInfo) (state : State) :
    Serves (.walk id) state (state.walked env query id peers) := by
  have each (state : State) (info : PeerInfo) :
      Serves (.walk id) state (state.emit (discovered env.crates id info.peer info.addrs)) :=
    serves_line rfl rfl (Or.inl (finds_discovered env.crates id info.peer info.addrs))
  have dropped : Serves (.walk id) state { state with walks := state.walks.erase query } :=
    serves_of_same rfl rfl
  exact (dropped.trans (serves_foldl each peers _)).trans
    (serves_line rfl rfl (Or.inr (ends_dhtResult id 0)))

theorem serves_bootstrapReported {id : Nat} (ok : Bool)
    (owner : before.bootstraps.lookup query = some id) :
    Serves (.bootstrap id) before (before.bootstrapReported query ok last) := by
  unfold bootstrapReported
  dsimp only
  split
  · rw [owner]
    exact serves_line rfl rfl (ends_dhtResult id (if ok then 0 else failTimeout))
  · exact serves_of_same rfl rfl

/-- A step of a query is of use to its owner only. -/
theorem serves_progressed (env : Env) (result : QueryResult)
    (reporting : Reporting query purpose last before) (fits : result.Fits last purpose) :
    Serves purpose before (before.kadEvent env (.progressed query result last)) := by
  have owners := Holders.mk.inj reporting.holders
  have spec := progress env result reporting fits
  generalize before.kadEvent env (.progressed query result last) = after at spec ⊢
  cases spec with
  | topic key found => exact serves_topicProviders env key found last before
  | find id found => exact serves_callerProviders env id found last before
  | lookup call found =>
    have queued : Serves (.lookup call) before (before.queueLookup env query call found last) :=
      serves_adjust rfl rfl rfl
    exact queued.trans (serves_advance env rfl (fun _ own => own)
      (ledger_queueLookup env found reporting))
  | resolve call peer peers isLast =>
    subst isLast
    have known := reporting.passive (passive_learn before peers)
    have resumes (state : State) : Serves (.resolve call peer) state (state.resume query call) :=
      serves_adjust rfl rfl rfl
    exact ((serves_learn before peers).trans (resumes _)).trans
      (serves_advance env rfl (fun _ own => own) (ledger_resume known))
  | walk id peers => exact (serves_learn before peers).trans (serves_walked env id peers _)
  | bootstrap id ok => exact serves_bootstrapReported ok owners.2.2.2.2.2
  | nobody => exact serves_of_same rfl rfl

end

end State

/-- Which of the six tables hold a query. -/
def Holders.tables (holders : Holders) : List Bool :=
  [holders.topic.isSome, holders.find.isSome, holders.lookup.isSome, holders.resolve.isSome,
    holders.walk.isSome, holders.bootstrap.isSome]

theorem Holders.expected_tables (purpose : Option Purpose) :
    (Holders.expected purpose).tables.count true ≤ 1 := by
  cases purpose with
  | none => decide
  | some purpose => cases purpose <;> simp [Holders.expected, Holders.tables]

/-- A query has one owner, who alone hears of it, and what the caller started
runs or has ended. -/
structure DhtLifecycle (crates : Crates) (system : System) : Prop where
  owner : ∀ query, (system.state.holders query).tables.count true ≤ 1
  /-- The tables hold what libp2p has running, each query for its purpose. -/
  live : ∀ query, system.state.holders query =
    Holders.expected (system.state.swarm.queries.lookup query)
  served : ∀ env query result last,
    System.Enabled crates system (.handle env (.swarm (.kad (.progressed query result last)))) →
      ∃ purpose, system.state.swarm.queries.lookup query = some purpose ∧
        State.Serves purpose
          ((system.state.deliver (.swarm (.kad (.progressed query result last)))).heard env.nowMs
            (.swarm (.kad (.progressed query result last))))
          (system.step (.handle env (.swarm (.kad (.progressed query result last))))).state
  course : ∀ kind id, Posed system.state.log kind id →
    Running system.state.dhtPart (reports system.state.log) kind id ∨
      Ended system.state.dhtPart (reports system.state.log) id

/-- After any run, with bootstraps, walks, searches, calls and lookups of topics
in any order with the reports on them. -/
theorem dht_queries_reported_once {crates : Crates} {config : Config} {localPeer : PeerId}
    {now : Instant} {actions : List Action}
    (run : System.Run crates config localPeer now actions) :
    DhtLifecycle crates (System.after config localPeer now actions) := by
  obtain ⟨balanced, enquired, -⟩ : Enquiring (System.after config localPeer now actions) :=
    run.invariant (enquiring_start config localPeer now) enquiring_step
  have live (query : QueryId) := balanced.ledger.queries query (by simp)
  refine ⟨?_, live, ?_, enquired.course⟩
  · intro query
    rw [live query]
    exact Holders.expected_tables _
  · rintro env query result last ⟨-, purpose, running, fits⟩
    refine ⟨purpose, running, ?_⟩
    apply State.serves_progressed env result (balanced.ledger.reporting running ?_ ?_ ?_) fits
    all_goals cases last <;> rfl

/-- A search for the providers of the group, which finds the remote node. -/
def Sample.search : List Action :=
  [.draw, .ready Sample.env, .handle Sample.env (.command (.findProviders 1 Sample.group)),
    .handle Sample.env (Sample.lookupStep (.found [Sample.remotePeer]) false),
    .handle Sample.env (Sample.lookupStep .finished true)]

theorem Sample.search_run :
    System.Run Sample.crates Sample.config Sample.peer 0 Sample.search := by
  simp only [System.Run, Sample.search, Runs.admissible_cons, Runs.admissible_nil, and_true]
  refine ⟨trivial, ⟨rfl, rfl⟩, ⟨rfl, rfl, ?_, trivial⟩, ⟨rfl, .find 1, ?_, trivial⟩, rfl, .find 1, ?_,
    trivial⟩
  · decide
  · decide +kernel
  · decide +kernel

/-- It ends with the result, after the node it found. -/
theorem dht_queries_reported_once_search :
    ∃ found result, reportsOf (reports (System.after Sample.config Sample.peer 0
        Sample.search).state.log) 1 = found ++ [result] ∧
      (∀ record ∈ found, record.Finds 1) ∧ result.Ends 1 := by
  have posed : Posed (System.after Sample.config Sample.peer 0 Sample.search).state.log .find 1 :=
    ⟨.command (.findProviders 1 Sample.group), List.mem_cons_self, rfl⟩
  have isOver : (System.after Sample.config Sample.peer 0 Sample.search).state.providerQueries = ∅ := rfl
  rcases (dht_queries_reported_once Sample.search_run).course .find 1 posed with running | ended
  · obtain ⟨query, found, -⟩ := running.owed .find
    have nothing : (System.after Sample.config Sample.peer 0
      Sample.search).state.providerQueries.lookup query = some 1 := found
    rw [isOver] at nothing
    cases nothing
  · exact ended.finished

end Libp2pFfi
