import Maco.Graph.Runtime

/-!
# Valid states of a graph run

The validation of a runtime state, check by check, as propositions about the parts of the state: the
attempts of a branch follow one another, visits are routed at most once, edges and loops stay within
their bounds, join results are derived from their branches.
-/

namespace Maco.Graph

open Maco.Base

/-! ## The attempts of a branch -/

/-- A record within the bounds of its branch. -/
structure BranchAttemptRecord.Valid (record : BranchAttemptRecord) (maxAttempts : ℕ) : Prop where
  visit : record.visit ≠ 0
  attempt : record.attempt ≠ 0
  bound : record.attempt ≤ maxAttempts
  outcome : record.outcome.validate = .ok ()

/-- The visit and attempt of a record come next after the records before it. -/
def BranchAttemptRecord.Follows (record : BranchAttemptRecord)
    (previous : Option BranchAttemptRecord) : Prop :=
  match previous with
  | none => record.visit = 1 ∧ record.attempt = 1
  | some previous =>
    if previous.outcome.outcomeClass = .retryableFailure then
      record.visit = previous.visit ∧ record.attempt = previous.attempt + 1 ∧
        record.attempt < 2 ^ 16
    else record.visit = previous.visit + 1 ∧ record.attempt = 1 ∧ record.visit < 2 ^ 16

/-- A history of attempts after a record: each record is within bounds and comes next. -/
def Contiguous (maxAttempts : ℕ) : Option BranchAttemptRecord → List BranchAttemptRecord → Prop
  | _, [] => True
  | previous, record :: records =>
    record.Valid maxAttempts ∧ record.Follows previous ∧
      Contiguous maxAttempts (some record) records

variable {record : BranchAttemptRecord}

/-- The attempt after a record is the one that follows it. -/
theorem BranchAttemptRecord.next_ok {previous : BranchAttemptRecord}
    (found : previous.next overflow = .ok ⟨record.visit, record.attempt⟩) :
    record.Follows (some previous) := by
  obtain ⟨visit, attempt, outcome⟩ := previous
  cases outcome with
  | retryableFailure error =>
    simp only [BranchAttemptRecord.next, ok_iff, checkedAddU16_eq_some,
      BranchAttemptCursor.mk.injEq] at found
    obtain ⟨next, ⟨fits, rfl⟩, visit, same⟩ := found
    exact ⟨visit.symm, same.symm, same ▸ fits⟩
  | success | failure =>
    simp only [BranchAttemptRecord.next, ok_iff, checkedAddU16_eq_some,
      BranchAttemptCursor.mk.injEq] at found
    obtain ⟨next, ⟨fits, rfl⟩, same, attempt⟩ := found
    exact ⟨same.symm, attempt.symm, same ▸ fits⟩

variable {maxAttempts : ℕ} {previous result : Option BranchAttemptRecord}

/-- A record that passes its check is within bounds and comes next. -/
theorem validateRecord_ok
    (validated : BranchRuntimeState.validateRecord maxAttempts previous record = .ok result) :
    record.Valid maxAttempts ∧ record.Follows previous ∧ result = some record := by
  unfold BranchRuntimeState.validateRecord at validated
  cases previous with
  | none =>
    simp only [ok_iff, not_or, not_not, not_lt] at validated
    obtain ⟨⟨visit, attempt, bound⟩, _, outcome, follows, rfl⟩ := validated
    exact ⟨⟨visit, attempt, bound, outcome⟩, follows, rfl⟩
  | some previous =>
    simp only [ok_iff, not_or, not_not, not_lt] at validated
    obtain ⟨⟨visit, attempt, bound⟩, _, outcome, _, found, ⟨sameVisit, sameAttempt⟩, rfl⟩ :=
      validated
    refine ⟨⟨visit, attempt, bound, outcome⟩, BranchAttemptRecord.next_ok (found.trans ?_), rfl⟩
    rw [sameVisit, sameAttempt]

variable {records : List BranchAttemptRecord}

/-- The history loop passes over contiguous histories only. -/
theorem validateRecords_ok (validated : records.foldlM
      (BranchRuntimeState.validateRecord maxAttempts) previous = .ok result) :
    Contiguous maxAttempts previous records := by
  induction records generalizing previous with
  | nil => trivial
  | cons record records ih =>
    rw [List.foldlM_cons, bind_ok] at validated
    obtain ⟨_, first, rest⟩ := validated
    obtain ⟨valid, follows, rfl⟩ := validateRecord_ok first
    exact ⟨valid, follows, ih rest⟩

/-- A history is contiguous with one more record exactly when the record comes next. -/
theorem contiguous_append :
    Contiguous maxAttempts previous (records ++ [record]) ↔
      Contiguous maxAttempts previous records ∧ record.Valid maxAttempts ∧
        record.Follows (records.getLast?.or previous) := by
  induction records generalizing previous with
  | nil => simp [Contiguous]
  | cons first records ih =>
    rw [List.cons_append, Contiguous, ih, Contiguous, List.getLast?_cons, Option.some_or]
    cases records.getLast? <;> simp [and_assoc]

/-- A valid branch: its attempts are contiguous, and the attempt in progress or the retry marker is
for the next one. -/
structure BranchRuntimeState.Valid (branch : BranchRuntimeState) : Prop where
  positive : branch.maxAttempts ≠ 0
  supported : branch.maxAttempts ≤ maxBranchAttempts
  recorded : branch.attempts.length ≤ maxBranchHistoryRecords
  contiguous : Contiguous branch.maxAttempts none branch.attempts
  open_ : ∀ last ∈ branch.attempts.getLast?,
    last.outcome.outcomeClass = .retryableFailure → last.attempt ≠ branch.maxAttempts
  inProgress : ∀ cursor ∈ branch.attemptInProgress,
    nextAttemptCursor branch.attempts = .ok cursor ∧ cursor.attempt ≤ branch.maxAttempts ∧
      branch.retryScheduled = none
  retry : ∀ cursor ∈ branch.retryScheduled, branch.attemptInProgress = none ∧
    nextAttemptCursor branch.attempts = .ok cursor ∧ branch.endsRetryable

variable {branch : BranchRuntimeState}

/-- A branch that passes its check is valid. -/
theorem BranchRuntimeState.validate_ok {done : Unit} (validated : branch.validate = .ok done) :
    branch.Valid := by
  simp only [BranchRuntimeState.validate, ok_iff, whenSome_ok, not_or, not_not, not_lt, not_exists,
    not_and, Bool.not_eq_true, Option.isSome_eq_false_iff, Option.isNone_iff_eq_none] at validated
  obtain ⟨⟨positive, supported, recorded⟩, _, records, opened, progress, retry⟩ := validated
  refine ⟨positive, supported, recorded, validateRecords_ok records, opened, ?_, ?_⟩
  · intro cursor held
    obtain ⟨_, expected, rfl, bound, unmarked⟩ := progress cursor held
    exact ⟨expected, bound, unmarked⟩
  · intro cursor held
    obtain ⟨idle, _, expected, rfl, ends⟩ := retry cursor held
    exact ⟨idle, expected, ends⟩

/-! ## The kinds of nodes -/

section Kinds

variable {kind : DurableGraphNodeKind} {definition : DurableGraphDefinition} {nodeId : GraphNodeId}

theorem task?_eq_some :
    kind.task? = some (branchId, maxAttempts) ↔ kind = .task branchId maxAttempts := by
  cases kind <;> simp [DurableGraphNodeKind.task?]

theorem join?_eq_some : kind.join? = some branches ↔ kind = .join branches := by
  cases kind <;> simp [DurableGraphNodeKind.join?]

theorem loop?_eq_some : kind.loop? = some maxIterations ↔ kind = .loop maxIterations := by
  cases kind <;> simp [DurableGraphNodeKind.loop?]

theorem terminate?_eq_some : kind.terminate? = some outcome ↔ kind = .terminate outcome := by
  cases kind <;> simp [DurableGraphNodeKind.terminate?]

variable {node : DurableGraphNode}

theorem node_ok :
    definition.node nodeId = .ok node ↔ definition.node? nodeId = some node := require_ok

theorem kind?_eq_some :
    definition.kind? nodeId = some kind ↔
      ∃ node, definition.node? nodeId = some node ∧ node.kind = kind := by
  simp [DurableGraphDefinition.kind?]

theorem node?_id (found : definition.node? nodeId = some node) :
    node ∈ definition.nodes ∧ node.id = nodeId := by
  refine ⟨List.mem_of_find?_eq_some found, ?_⟩
  simpa using List.find?_some found

end Kinds

/-! ## Valid states -/

namespace DurableGraphRuntimeState

/-- A node with its visits, none of them routed twice. -/
structure NodeValid (state : DurableGraphRuntimeState) (nodeId : GraphNodeId) : Prop where
  visited : state.nodeVisits[nodeId]? = some (state.visits nodeId)
  routedEntry : state.routedVisits[nodeId]? = some (state.routed nodeId)
  bounded : state.visits nodeId ≤ maxNodeVisits
  routed : state.routed nodeId ≤ state.visits nodeId

/-- An edge traversed within its bound. -/
structure EdgeValid (state : DurableGraphRuntimeState) (edge : DurableGraphEdge) : Prop where
  counted : ∀ count, state.edgeTraversals[edge.id]? = some count → count ≠ 0
  forward : edge.kind.loop? = none → state.traversals edge.id ≤ 1
  looped : ∀ loopNodeId ∈ edge.kind.loop?, ∃ maxIterations,
    state.definition.kind? loopNodeId = some (.loop maxIterations) ∧
      state.traversals edge.id ≤ maxIterations

/-- A branch bound to its task node, with attempts for the visits of that node. -/
structure BranchValid (state : DurableGraphRuntimeState) (branchId : GraphBranchId)
    (branch : BranchRuntimeState) : Prop where
  valid : branch.Valid
  bound : state.definition.kind? branch.nodeId = some (.task branchId branch.maxAttempts)
  recorded : lastHistoryVisit branch ≤ state.visits branch.nodeId
  current : state.visits branch.nodeId ≤ min (lastHistoryVisit branch + 1) (2 ^ 16 - 1)
  routed : state.routed branch.nodeId ≤ lastHistoryVisit branch
  unrouted : state.routed branch.nodeId + 1 < 2 ^ 16 ∧
    state.visits branch.nodeId ≤ state.routed branch.nodeId + 1
  inProgress : ∀ cursor ∈ branch.attemptInProgress, cursor.visit = state.visits branch.nodeId ∧
    state.routed branch.nodeId < state.visits branch.nodeId
  retry : ∀ cursor ∈ branch.retryScheduled, cursor.visit = state.visits branch.nodeId ∧
    state.routed branch.nodeId < state.visits branch.nodeId

/-- A join result derived from branches that have all arrived. -/
def JoinValid (state : DurableGraphRuntimeState) (nodeId : GraphNodeId) (result : FanInResult) :
    Prop :=
  ∃ branches, state.definition.kind? nodeId = some (.join branches) ∧
    state.joinArrivals[nodeId]? = some (BTreeSet.ofList branches) ∧
      state.deriveFanInResult branches = .ok result

/-- Arrivals of branches a join requires. -/
def ArrivalsValid (state : DurableGraphRuntimeState) (nodeId : GraphNodeId)
    (arrivals : BTreeSet GraphBranchId) : Prop :=
  ∃ branches, state.definition.kind? nodeId = some (.join branches) ∧
    ∀ branchId ∈ arrivals, branchId ∈ branches

/-- A loop within its bound, with a decision for its last iteration. -/
def LoopValid (state : DurableGraphRuntimeState) (nodeId : GraphNodeId)
    (runtime : LoopRuntimeState) : Prop :=
  ∃ maxIterations, state.definition.kind? nodeId = some (.loop maxIterations) ∧
    runtime.completedIterations ≤ maxIterations ∧
      ∀ record ∈ runtime.currentDecision, record.iteration = runtime.completedIterations ∧
        (record.decision = .continue_ → record.iteration < maxIterations)

/-- A termination at its node, with no visit left. -/
structure TerminationValid (state : DurableGraphRuntimeState)
    (termination : GraphTerminationRecord) : Prop where
  kind : state.definition.kind? termination.nodeId = some (.terminate termination.outcome)
  routed : state.nodeVisits[termination.nodeId]? = state.routedVisits[termination.nodeId]?
  idle : state.activeNodes = ∅

/-- A valid state. -/
structure Valid (state : DurableGraphRuntimeState) : Prop where
  definition : state.definition.validate = .ok ()
  started : state.eventCount ≠ 0
  bounded : state.eventCount ≤ maxGraphEvents
  visitsSize : state.nodeVisits.size = state.definition.nodes.length
  routedSize : state.routedVisits.size = state.definition.nodes.length
  traversalsSize : state.edgeTraversals.size ≤ state.definition.edges.length
  nodes : ∀ node ∈ state.definition.nodes, state.NodeValid node.id
  active : state.activeNodes = state.expectedActive
  known : ∀ (edgeId : GraphEdgeId) count, state.edgeTraversals[edgeId]? = some count →
    edgeId ∈ state.definition.edges.map DurableGraphEdge.id
  edges : ∀ edge ∈ state.definition.edges, state.EdgeValid edge
  branches : ∀ (branchId : GraphBranchId) branch,
    state.branches[branchId]? = some branch → state.BranchValid branchId branch
  joins : ∀ (nodeId : GraphNodeId) result,
    state.joins[nodeId]? = some result → state.JoinValid nodeId result
  arrivals : ∀ (nodeId : GraphNodeId) arrivals,
    state.joinArrivals[nodeId]? = some arrivals → state.ArrivalsValid nodeId arrivals
  arrivalEdges : ∀ edge ∈ state.definition.edges, ∀ branchId ∈ edge.kind.joinArrival?,
    (state.traversals edge.id = 1 ↔ state.hasArrived edge.target branchId)
  loops : ∀ (nodeId : GraphNodeId) runtime,
    state.loops[nodeId]? = some runtime → state.LoopValid nodeId runtime
  branchesSize : state.branches.size =
    (state.definition.nodes.filter fun node => node.kind.task?.isSome).length
  loopsSize : state.loops.size =
    (state.definition.nodes.filter fun node => node.kind.loop?.isSome).length
  arrivalsSize : state.joinArrivals.size =
    (state.definition.nodes.filter fun node => node.kind.join?.isSome).length
  termination : ∀ termination ∈ state.termination, state.TerminationValid termination

section Checks

variable {state : DurableGraphRuntimeState} {done : Unit}

/-- A node that passes its check is valid. -/
theorem validateNode_ok {node : DurableGraphNode} (validated : state.validateNode node = .ok done) :
    state.NodeValid node.id := by
  simp only [validateNode, ok_iff, not_or, not_lt] at validated
  obtain ⟨visits, visited, routed, routedEntry, bounded, below⟩ := validated
  have visitsEq : state.visits node.id = visits := by
    simp [DurableGraphRuntimeState.visits, visited]
  have routedEq : state.routed node.id = routed := by
    simp [DurableGraphRuntimeState.routed, routedEntry]
  exact ⟨visitsEq ▸ visited, routedEq ▸ routedEntry, visitsEq ▸ bounded,
    visitsEq ▸ routedEq ▸ below⟩

/-- An edge that passes its check is valid. -/
theorem validateTraversals_ok
    (validated : state.validateTraversals edge = .ok done) : state.EdgeValid edge := by
  have counted : ¬ (state.edgeTraversals.contains edge.id = true ∧ state.traversals edge.id = 0) ↔
      ∀ count, state.edgeTraversals[edge.id]? = some count → count ≠ 0 := by
    rw [BTreeMap.contains_iff, traversals]
    cases state.edgeTraversals[edge.id]? <;> simp
  unfold validateTraversals at validated
  cases kind : edge.kind with
  | forward | joinArrival =>
    simp only [kind, ok_iff, counted, not_lt] at validated
    exact ⟨validated.1, fun _ => validated.2, by simp [kind, DurableGraphEdgeKind.loop?]⟩
  | loopBody loopNodeId | loopBack loopNodeId =>
    simp only [kind, ok_iff, counted, not_lt, node_ok, loop?_eq_some] at validated
    obtain ⟨positive, node, found, maxIterations, isLoop, below⟩ := validated
    refine ⟨positive, by simp [kind, DurableGraphEdgeKind.loop?], ?_⟩
    simp only [kind, DurableGraphEdgeKind.loop?, Option.mem_some_iff, forall_eq']
    exact ⟨maxIterations, kind?_eq_some.mpr ⟨node, found, isLoop⟩, below⟩

/-- A branch that passes its check is valid at its node. -/
theorem validateBranch_ok (validated : state.validateBranch branchId branch = .ok done) :
    state.BranchValid branchId branch := by
  simp only [validateBranch, ok_iff, node_ok, Prod.exists, task?_eq_some, Option.mem_def,
    checkedAddU16_eq_some, not_or, not_forall, exists_prop, not_lt, not_exists, not_and, not_not,
    not_le] at validated
  obtain ⟨_, valid, node, found, _, _, isTask, ⟨rfl, rfl⟩, recorded, current, routed,
    ⟨_, ⟨fits, rfl⟩, below⟩, progress, retry⟩ := validated
  exact ⟨BranchRuntimeState.validate_ok valid, kind?_eq_some.mpr ⟨node, found, isTask⟩, recorded,
    current, routed, ⟨fits, below⟩, progress, retry⟩

variable {nodeId : GraphNodeId}

/-- A join result that passes its check is valid. -/
theorem validateJoin_ok {result : FanInResult}
    (validated : state.validateJoin nodeId result = .ok done) : state.JoinValid nodeId result := by
  simp only [validateJoin, ok_iff, node_ok, join?_eq_some, not_not] at validated
  obtain ⟨node, found, branches, isJoin, arrived, _, derived, rfl⟩ := validated
  exact ⟨branches, kind?_eq_some.mpr ⟨node, found, isJoin⟩, arrived, derived⟩

/-- Arrivals at a join that pass their check are valid. -/
theorem validateJoinArrivals_ok
    (validated : state.validateJoinArrivals nodeId arrivals = .ok done) :
    state.ArrivalsValid nodeId arrivals := by
  simp only [validateJoinArrivals, ok_iff, node_ok, join?_eq_some, not_exists, not_and, not_not,
    BTreeSet.mem_toList] at validated
  obtain ⟨node, found, branches, isJoin, known⟩ := validated
  exact ⟨branches, kind?_eq_some.mpr ⟨node, found, isJoin⟩, known⟩

/-- A loop that passes its check is valid. -/
theorem validateLoop_ok
    (validated : state.validateLoop nodeId runtime = .ok done) :
      state.LoopValid nodeId runtime := by
  simp only [validateLoop, ok_iff, node_ok, loop?_eq_some, whenSome_ok, not_lt, not_and, not_le,
    not_not] at validated
  obtain ⟨node, found, maxIterations, isLoop, below, decided⟩ := validated
  exact ⟨maxIterations, kind?_eq_some.mpr ⟨node, found, isLoop⟩, below, decided⟩

/-- A termination that passes its check is valid. -/
theorem validateTermination_ok {termination : GraphTerminationRecord}
    (validated : state.validateTermination termination = .ok done) :
    state.TerminationValid termination := by
  simp only [validateTermination, ok_iff, node_ok, not_or, not_not] at validated
  obtain ⟨node, found, kind, routed, idle⟩ := validated
  exact ⟨kind?_eq_some.mpr ⟨node, found, kind⟩, routed, idle⟩

/-- A state that passes validation is valid. -/
theorem validate_ok (validated : state.validate = .ok done) : state.Valid := by
  simp only [validate, ok_iff, forM_ok, whenSome_ok, validateArrivalEdge, not_or, not_not, not_lt,
    not_exists, not_and, Prod.forall, BTreeMap.mem_toList] at validated
  obtain ⟨_, definition, ⟨started, bounded⟩, ⟨visitsSize, routedSize, traversalsSize⟩, nodes,
    active, known, edges, branches, joins, arrivals, arrivalEdges, loops,
    ⟨branchesSize, loopsSize⟩, arrivalsSize, termination⟩ := validated
  exact ⟨definition, started, bounded, visitsSize, routedSize, traversalsSize,
    fun node listed => validateNode_ok (nodes node listed), active, known,
    fun edge listed => validateTraversals_ok (edges edge listed),
    fun id branch found => validateBranch_ok (branches id branch found),
    fun id result found => validateJoin_ok (joins id result found),
    fun id held found => validateJoinArrivals_ok (arrivals id held found), arrivalEdges,
    fun id runtime found => validateLoop_ok (loops id runtime found), branchesSize, loopsSize,
    arrivalsSize, fun last held => validateTermination_ok (termination last held)⟩

end Checks

end DurableGraphRuntimeState

end Maco.Graph
