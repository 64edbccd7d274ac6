import Maco.Graph.Valid

/-!
# What an event of a graph run does

An accepted event has passed its checks, changes the state in one way and leaves a valid state.
-/

namespace Maco.Graph

open Maco.Base

variable {event : DurableGraphEvent}

namespace DurableGraphRuntimeState

variable {state next : DurableGraphRuntimeState}

/-! ## Routing -/

/-- A node at a visit that is not routed yet. -/
structure AtVisit (state : DurableGraphRuntimeState) (nodeId : GraphNodeId) (visit : ℕ) :
    Prop where
  visits : state.nodeVisits[nodeId]? = some visit
  routed : ∃ routed, state.routedVisits[nodeId]? = some routed ∧ visit = routed + 1
  fits : visit < 2 ^ 16

/-- What a node must have done before a visit of it is routed. -/
def SourceComplete (state : DurableGraphRuntimeState) (sourceNodeId : GraphNodeId) (visit : ℕ) :
    DurableGraphNodeKind → Prop
  | .task branchId _ => ∃ branch, state.branches[branchId]? = some branch ∧
      branch.isTerminalForVisit visit
  | .join _ => visit = 1 ∧ ∃ result, state.joins[sourceNodeId]? = some result
  | .loop _ => ∃ runtime record, state.loops[sourceNodeId]? = some runtime ∧
      runtime.currentDecision = some record ∧ record.iteration = visit ∧ record.routed = false
  | .terminate _ => False
  | .fork | .choice => True

variable {sourceNodeId : GraphNodeId} {visit : ℕ}

/-- A source that passes the check of its kind is complete. -/
theorem checkSourceVisit_ok (checked : state.checkSourceVisit sourceNodeId visit kind = .ok done) :
    state.SourceComplete sourceNodeId visit kind := by
  cases kind with
  | task branchId maxAttempts =>
    simpa only [checkSourceVisit, SourceComplete, ok_iff, not_not] using checked
  | join branches =>
    simpa only [checkSourceVisit, SourceComplete, refuseIf_ok, not_or, not_not, Bool.not_eq_false,
      BTreeMap.contains_iff] using checked
  | loop maxIterations =>
    simp only [checkSourceVisit, ok_iff, not_forall, not_or, not_not, Option.mem_def,
      Bool.not_eq_true, exists_prop] at checked
    obtain ⟨runtime, found, record, rest⟩ := checked
    exact ⟨runtime, record, found, rest⟩
  | terminate outcome => cases checked
  | fork | choice => trivial

/-- The source of a selection is complete. -/
theorem ensureSourceVisitComplete_ok
    (ensured : state.ensureSourceVisitComplete sourceNodeId visit = .ok done) :
    ∃ kind, state.definition.kind? sourceNodeId = some kind ∧
      state.SourceComplete sourceNodeId visit kind := by
  simp only [ensureSourceVisitComplete, bind_ok, node_ok] at ensured
  obtain ⟨node, found, checked⟩ := ensured
  exact ⟨_, kind?_eq_some.mpr ⟨node, found, rfl⟩, checkSourceVisit_ok checked⟩

/-- An edge that may be traversed once more: a forward edge once, an edge in the scope of a loop
once for every iteration. -/
structure Traversable (state : DurableGraphRuntimeState) (edge : DurableGraphEdge) : Prop where
  forward : edge.kind.loop? = none → state.traversals edge.id = 0
  looped : ∀ loopNodeId ∈ edge.kind.loop?, ∃ runtime, state.loops[loopNodeId]? = some runtime ∧
    state.traversals edge.id < runtime.completedIterations

variable {edge : DurableGraphEdge}

/-- An edge that passes the check of its traversals may be traversed. -/
theorem checkTraversal_ok (checked : state.checkTraversal edge = .ok done) :
    state.Traversable edge := by
  unfold checkTraversal at checked
  cases kind : edge.kind with
  | forward | joinArrival =>
    simp only [kind, refuseIf_ok, not_not] at checked
    exact ⟨fun _ => checked, by simp [kind, DurableGraphEdgeKind.loop?]⟩
  | loopBody loopNodeId | loopBack loopNodeId =>
    simp only [kind, ok_iff, not_le] at checked
    refine ⟨by simp [kind, DurableGraphEdgeKind.loop?], ?_⟩
    simpa [kind, DurableGraphEdgeKind.loop?] using checked

/-- The visits of the destination of an edge once it is reached. -/
def visitsAfter (state : DurableGraphRuntimeState) (edge : DurableGraphEdge) : ℕ :=
  if ((state.definition.kind? edge.target).bind DurableGraphNodeKind.join?).isSome = true then 1
  else state.visits edge.target + 1

/-- The join arrivals once the destination of an edge is reached. -/
def arrivalsAfter (state : DurableGraphRuntimeState) (edge : DurableGraphEdge) :
    BTreeMap GraphNodeId (BTreeSet GraphBranchId) :=
  match edge.kind.joinArrival? with
  | some branchId => state.joinArrivals.insert edge.target
      (((state.joinArrivals[edge.target]?).getD ∅).insert branchId)
  | none => state.joinArrivals

/-- The state once an edge is traversed. -/
def arrived (state : DurableGraphRuntimeState) (edge : DurableGraphEdge) :
    DurableGraphRuntimeState :=
  { state with
    edgeTraversals := state.edgeTraversals.insert edge.id (state.traversals edge.id + 1)
    joinArrivals := state.arrivalsAfter edge
    nodeVisits := state.nodeVisits.insert edge.target (state.visitsAfter edge)
    activeNodes := state.activeNodes.insert edge.target }

/-- When the destination of an edge may be reached. -/
structure Reachable (state : DurableGraphRuntimeState) (edge : DurableGraphEdge) : Prop where
  fits : state.traversals edge.id + 1 < 2 ^ 16
  target : ∃ kind, state.definition.kind? edge.target = some kind
  entry : state.nodeVisits[edge.target]? = some (state.visits edge.target)
  arrival : ∀ branchId ∈ edge.kind.joinArrival?, ∃ arrivals,
    state.joinArrivals[edge.target]? = some arrivals ∧ arrivals.contains branchId = false
  fresh : edge.kind.loop? = none →
    (state.definition.kind? edge.target).bind DurableGraphNodeKind.join? = none →
      state.visits edge.target = 0
  bounded : state.visitsAfter edge ≤ maxNodeVisits

/-- The visits a destination has once it is reached. -/
theorem visitDestination_ok {destination : DurableGraphNodeKind} {visits result : ℕ}
    (reached : visitDestination destination edge visits = .ok result) :
    (edge.kind.loop? = none → destination.join? = none → visits = 0) ∧
      result = if destination.join?.isSome = true then 1 else visits + 1 := by
  unfold visitDestination at reached
  split at reached
  case h_1 =>
    cases reached
    exact ⟨by simp [DurableGraphNodeKind.join?], rfl⟩
  case h_2 kind =>
    rw [require_ok, checkedAddU16_eq_some] at reached
    exact ⟨by simp [kind, DurableGraphEdgeKind.loop?], reached.2⟩
  case h_3 destination _ _ notJoin _ =>
    simp only [ok_iff, checkedAddU16_eq_some, not_and, not_not] at reached
    have plain : destination.join? = none := by
      cases destination with
      | join branches => exact (notJoin branches rfl).elim
      | _ => rfl
    simp only [plain, Option.isSome_none, Bool.false_eq_true, if_false]
    exact ⟨fun forward _ => reached.1 forward, reached.2.2⟩

/-- The arrivals an edge leaves. -/
theorem arriveAtJoin_ok (reached : state.arriveAtJoin edge = .ok arrivals) :
    (∀ branchId ∈ edge.kind.joinArrival?, ∃ held, state.joinArrivals[edge.target]? = some held ∧
      held.contains branchId = false) ∧ arrivals = state.arrivalsAfter edge := by
  unfold arriveAtJoin at reached
  unfold arrivalsAfter
  cases kind : edge.kind with
  | joinArrival branchId =>
    simp only [kind, ok_iff, Bool.not_eq_true] at reached
    obtain ⟨held, found, fresh, rfl⟩ := reached
    simp [DurableGraphEdgeKind.joinArrival?, found, fresh]
  | forward | loopBody | loopBack =>
    rw [kind] at reached
    cases reached
    simp [DurableGraphEdgeKind.joinArrival?]

/-- A traversed edge reaches its destination, which it may. -/
theorem traverse_ok (traversed : state.traverse edge = .ok next) :
    state.Reachable edge ∧ next = state.arrived edge := by
  simp only [traverse, reachDestination, ok_iff, checkedAddU16_eq_some, node_ok,
    not_lt] at traversed
  obtain ⟨_, ⟨fits, rfl⟩, _, arrives, node, found, visits, entry, _, visited, bounded, rfl⟩ :=
    traversed
  obtain ⟨arrival, rfl⟩ := arriveAtJoin_ok arrives
  obtain ⟨fresh, rfl⟩ := visitDestination_ok visited
  have kind : state.definition.kind? edge.target = some node.kind :=
    kind?_eq_some.mpr ⟨node, found, rfl⟩
  have same : visits = state.visits edge.target := by
    simp only [DurableGraphRuntimeState.visits]
    simpa using congrArg (Option.getD · 0) entry.symm
  subst same
  have after : state.visitsAfter edge =
      if node.kind.join?.isSome = true then 1 else state.visits edge.target + 1 := by
    simp only [visitsAfter, kind, Option.bind_some]
  refine ⟨⟨fits, ⟨_, kind⟩, entry, arrival, ?_, after ▸ bounded⟩, ?_⟩
  · simpa only [kind, Option.bind_some] using fresh
  · rw [arrived, after]
    rfl

/-- The loops once a visit of a source is routed. -/
def loopsAfter (state : DurableGraphRuntimeState) (sourceNodeId : GraphNodeId) :
    BTreeMap GraphNodeId LoopRuntimeState :=
  match state.loops[sourceNodeId]? with
  | none => state.loops
  | some runtime => state.loops.insert sourceNodeId { runtime with
      currentDecision := runtime.currentDecision.map fun record => { record with routed := true } }

/-- The state once a visit of a source is routed. -/
def departed (state : DurableGraphRuntimeState) (sourceNodeId : GraphNodeId) (visit : ℕ) :
    DurableGraphRuntimeState :=
  { state with
    routedVisits := state.routedVisits.insert sourceNodeId visit
    activeNodes := if state.visits sourceNodeId = visit then state.activeNodes.erase sourceNodeId
      else state.activeNodes
    loops := state.loopsAfter sourceNodeId }

/-- A source whose visit is routed has visits and, if it is a loop, a decision that was not routed.
-/
theorem routeSource_ok (routed : state.routeSource sourceNodeId visit = .ok next) :
    (∃ visits, state.nodeVisits[sourceNodeId]? = some visits) ∧
      (∀ runtime, state.loops[sourceNodeId]? = some runtime → ∃ record,
        runtime.currentDecision = some record ∧ record.routed = false) ∧
          next = state.departed sourceNodeId visit := by
  simp only [routeSource, ok_iff] at routed
  obtain ⟨visits, found, routed⟩ := routed
  have counted : state.visits sourceNodeId = visits := by
    simp [DurableGraphRuntimeState.visits, found]
  cases looped : state.loops[sourceNodeId]? with
  | none =>
    simp only [routeDecision, looped, Except.ok.injEq] at routed
    refine ⟨⟨visits, found⟩, by simp, ?_⟩
    rw [← routed, departed, loopsAfter, looped, counted]
  | some runtime =>
    simp only [routeDecision, looped, ok_iff, Bool.not_eq_true] at routed
    obtain ⟨record, decided, unrouted, rfl⟩ := routed
    refine ⟨⟨visits, found⟩, ?_, ?_⟩
    · rintro _ ⟨⟩
      exact ⟨record, decided, unrouted⟩
    · simp [departed, loopsAfter, looped, counted, decided]

/-- A selection of edges: the source is at an unrouted visit and has done what its kind demands, the
edges are all its eligible ones, each of them may be traversed, and all are. -/
structure Selects (state : DurableGraphRuntimeState) (sourceNodeId : GraphNodeId) (visit : ℕ)
    (edgeIds : List GraphEdgeId) (selected : List DurableGraphEdge)
    (walked : DurableGraphRuntimeState) : Prop where
  nonempty : edgeIds ≠ []
  short : edgeIds.length ≤ maxGraphEdges
  visited : ∃ visits, state.nodeVisits[sourceNodeId]? = some visits ∧ visit ≤ visits
  unrouted : ∃ routed, state.routedVisits[sourceNodeId]? = some routed ∧ visit = routed + 1
  fits : visit < 2 ^ 16
  complete : ∃ kind, state.definition.kind? sourceNodeId = some kind ∧
    state.SourceComplete sourceNodeId visit kind
  eligible : state.computeEligibleEdgeIds sourceNodeId = .ok edgeIds
  edges : edgeIds.mapM state.definition.edge = .ok selected
  traversable : ∀ edge ∈ selected, state.Traversable edge
  walk : selected.foldlM traverse state = .ok walked
  kept : ∃ visits, walked.nodeVisits[sourceNodeId]? = some visits
  decided : ∀ runtime, walked.loops[sourceNodeId]? = some runtime → ∃ record,
    runtime.currentDecision = some record ∧ record.routed = false

/-- Accepted edges are selected so. -/
theorem selectEdges_ok (accepted : state.selectEdges sourceNodeId visit edgeIds = .ok next) :
    ∃ selected walked, state.Selects sourceNodeId visit edgeIds selected walked ∧
      next = walked.departed sourceNodeId visit := by
  simp only [selectEdges, ok_iff, checkedAddU16_eq_some, forM_ok, not_or, not_not,
    not_lt] at accepted
  obtain ⟨⟨nonempty, short⟩, visits, visited, routed, unrouted, _, ⟨fits, rfl⟩, ⟨rfl, below⟩, _,
    ensured, _, eligible, rfl, selected, edges, checked, walked, walk, departs⟩ := accepted
  obtain ⟨kept, decided, rfl⟩ := routeSource_ok departs
  exact ⟨selected, walked,
    ⟨nonempty, short, ⟨visits, visited, below⟩, ⟨routed, unrouted, rfl⟩, fits,
    ensureSourceVisitComplete_ok ensured, eligible, edges,
    fun edge member => checkTraversal_ok (checked edge member), walk, kept, decided⟩, rfl⟩

/-! ## Events -/

/-- What an event does to a state that has begun, with the checks it has passed. -/
inductive Moves (state : DurableGraphRuntimeState) :
    DurableGraphEvent → DurableGraphRuntimeState → Prop where
  | start {branchId : GraphBranchId} {visit attempt : ℕ} {branch : BranchRuntimeState}
      (found : state.branches[branchId]? = some branch)
      (cursor : nextAttemptCursor branch.attempts = .ok ⟨visit, attempt⟩)
      (positive : attempt ≠ 0) (bound : attempt ≤ branch.maxAttempts)
      (idle : branch.attemptInProgress = none)
      (unmarked : attempt = 1 → branch.retryScheduled = none)
      (scheduled : 1 < attempt → branch.retryScheduled = some ⟨visit, attempt⟩)
      (current : state.AtVisit branch.nodeId visit) :
      Moves state (.branchAttemptStarted branchId visit attempt) { state with
        branches := state.branches.insert branchId { branch with
          retryScheduled := none
          attemptInProgress := some ⟨visit, attempt⟩ } }
  | complete {branchId : GraphBranchId} {visit attempt : ℕ} {outcome : BranchOutcome}
      {branch : BranchRuntimeState} (valid : outcome.validate = .ok ())
      (found : state.branches[branchId]? = some branch)
      (started : branch.attemptInProgress = some ⟨visit, attempt⟩)
      (bound : outcome.outcomeClass = .retryableFailure → attempt < branch.maxAttempts) :
      Moves state (.branchAttemptCompleted branchId visit attempt outcome) { state with
        branches := state.branches.insert branchId { branch with
          attempts := branch.attempts ++ [⟨visit, attempt, outcome⟩]
          attemptInProgress := none } }
  | retry {branchId : GraphBranchId} {visit nextAttempt : ℕ} {branch : BranchRuntimeState}
      (found : state.branches[branchId]? = some branch)
      (idle : branch.attemptInProgress = none) (unmarked : branch.retryScheduled = none)
      (cursor : nextAttemptCursor branch.attempts = .ok ⟨visit, nextAttempt⟩)
      (bound : nextAttempt ≤ branch.maxAttempts) (ends : branch.endsRetryable)
      (current : state.AtVisit branch.nodeId visit) :
      Moves state (.branchRetryScheduled branchId visit nextAttempt) { state with
        branches := state.branches.insert branchId { branch with
          retryScheduled := some ⟨visit, nextAttempt⟩ } }
  | resolve {joinNodeId : GraphNodeId} {result : FanInResult} {branches : List GraphBranchId}
      (unresolved : state.joins[joinNodeId]? = none) (reached : state.reached joinNodeId)
      (kind : state.definition.kind? joinNodeId = some (.join branches))
      (arrived : state.joinArrivals[joinNodeId]? = some (BTreeSet.ofList branches))
      (derived : state.deriveFanInResult branches = .ok result) :
      Moves state (.joinResolved joinNodeId result) { state with
        joins := state.joins.insert joinNodeId result }
  | iterate {loopNodeId : GraphNodeId} {decision : LoopDecision} {maxIterations : ℕ}
      {runtime : LoopRuntimeState} (reached : state.reached loopNodeId)
      (kind : state.definition.kind? loopNodeId = some (.loop maxIterations))
      (found : state.loops[loopNodeId]? = some runtime)
      (settled : ∀ record ∈ runtime.currentDecision, record.routed = true)
      (fits : runtime.completedIterations + 1 < 2 ^ 16)
      (bound : runtime.completedIterations + 1 ≤ maxIterations)
      (below : decision = .continue_ → runtime.completedIterations + 1 < maxIterations)
      (visited : state.nodeVisits[loopNodeId]? = some (runtime.completedIterations + 1)) :
      Moves state (.loopIterationCompleted loopNodeId (runtime.completedIterations + 1) decision)
        { state with
          loops := state.loops.insert loopNodeId ⟨runtime.completedIterations + 1,
            some ⟨runtime.completedIterations + 1, decision, false⟩⟩ }
  | select {sourceNodeId : GraphNodeId} {visit : ℕ} {edgeIds : List GraphEdgeId}
      {selected : List DurableGraphEdge} {walked : DurableGraphRuntimeState}
      (selects : state.Selects sourceNodeId visit edgeIds selected walked) :
      Moves state (.edgesSelected sourceNodeId visit edgeIds) (walked.departed sourceNodeId visit)
  | terminate {nodeId : GraphNodeId} {outcome : GraphTermination} {visits : ℕ}
      (reached : state.reached nodeId)
      (kind : state.definition.kind? nodeId = some (.terminate outcome))
      (alone : state.activeNodes = BTreeSet.ofList [nodeId])
      (visited : state.nodeVisits[nodeId]? = some visits) :
      Moves state (.terminated nodeId outcome) { state with
        routedVisits := state.routedVisits.insert nodeId visits
        activeNodes := state.activeNodes.erase nodeId
        termination := some ⟨nodeId, outcome⟩ }

variable {branchId : GraphBranchId} {attempt : ℕ}

/-- An attempt is started so. -/
theorem startBranchAttempt_ok
    (started : state.startBranchAttempt branchId visit attempt = .ok next) :
    Moves state (.branchAttemptStarted branchId visit attempt) next := by
  simp only [startBranchAttempt, ok_iff, not_or, not_not, not_lt, not_and, Bool.not_eq_true,
    Option.isSome_eq_false_iff, Option.isNone_iff_eq_none] at started
  obtain ⟨branch, found, _, cursor, ⟨rfl, positive, bound⟩, idle, unmarked, scheduled, _, visited,
    routed, unrouted, ⟨rfl, next⟩, rfl⟩ := started
  rw [checkedAddU16_eq_some] at next
  exact .start found cursor positive bound idle unmarked scheduled
    ⟨visited, ⟨routed, unrouted, next.2⟩, next.2 ▸ next.1⟩

/-- An attempt is completed so. -/
theorem completeBranchAttempt_ok
    (completed : state.completeBranchAttempt branchId visit attempt outcome = .ok next) :
    Moves state (.branchAttemptCompleted branchId visit attempt outcome) next := by
  simp only [completeBranchAttempt, ok_iff, not_and, not_not, not_le] at completed
  obtain ⟨_, valid, branch, found, started, bound, rfl⟩ := completed
  exact .complete valid found started bound

/-- A retry is scheduled so. -/
theorem scheduleBranchRetry_ok
    (retried : state.scheduleBranchRetry branchId visit nextAttempt = .ok next) :
    Moves state (.branchRetryScheduled branchId visit nextAttempt) next := by
  simp only [scheduleBranchRetry, ok_iff, not_or, not_not, not_lt, Bool.not_eq_true,
    Option.isSome_eq_false_iff, Option.isNone_iff_eq_none] at retried
  obtain ⟨branch, found, ⟨idle, unmarked⟩, _, cursor, ⟨rfl, bound⟩, ends, routed, unrouted, _,
    visited, ⟨rfl, next⟩, rfl⟩ := retried
  rw [checkedAddU16_eq_some] at next
  exact .retry found idle unmarked cursor bound ends
    ⟨visited, ⟨routed, unrouted, next.2⟩, next.2 ▸ next.1⟩

/-- A join is resolved so. -/
theorem resolveJoin_ok (resolved : state.resolveJoin joinNodeId result = .ok next) :
    Moves state (.joinResolved joinNodeId result) next := by
  simp only [resolveJoin, ok_iff, not_not, Bool.not_eq_true, BTreeMap.not_contains_iff, node_ok,
    join?_eq_some] at resolved
  obtain ⟨unresolved, reached, node, found, branches, isJoin, _, arrived, rfl, _, derived, rfl,
    rfl⟩ := resolved
  exact .resolve unresolved reached (kind?_eq_some.mpr ⟨node, found, isJoin⟩) arrived derived

/-- A loop iteration is completed so. -/
theorem completeLoopIteration_ok
    (completed : state.completeLoopIteration loopNodeId iteration decision = .ok next) :
    Moves state (.loopIterationCompleted loopNodeId iteration decision) next := by
  simp only [completeLoopIteration, ok_iff, not_not, not_or, not_and, not_lt, not_le, not_exists,
    Bool.not_eq_false, node_ok, loop?_eq_some, checkedAddU16_eq_some] at completed
  obtain ⟨reached, node, found, maxIterations, isLoop, runtime, looped, settled, _, ⟨fits, rfl⟩,
    ⟨rfl, bound⟩, below, _, visited, rfl, rfl⟩ := completed
  exact .iterate reached (kind?_eq_some.mpr ⟨node, found, isLoop⟩) looped settled fits bound below
    visited

/-- A graph is terminated so. -/
theorem terminateGraph_ok (terminated : state.terminateGraph nodeId outcome = .ok next) :
    Moves state (.terminated nodeId outcome) next := by
  simp only [terminateGraph, ok_iff, not_not, node_ok, terminate?_eq_some] at terminated
  obtain ⟨reached, node, found, _, ends, rfl, alone, visits, visited, rfl⟩ := terminated
  exact .terminate reached (kind?_eq_some.mpr ⟨node, found, ends⟩) alone visited

/-- An event is applied so. -/
theorem applyInitializedEvent_ok
    (applied : state.applyInitializedEvent event = .ok next) : Moves state event next := by
  cases event with
  | defined definition => cases applied
  | branchAttemptStarted => exact startBranchAttempt_ok applied
  | branchAttemptCompleted => exact completeBranchAttempt_ok applied
  | branchRetryScheduled => exact scheduleBranchRetry_ok applied
  | joinResolved => exact resolveJoin_ok applied
  | loopIterationCompleted => exact completeLoopIteration_ok applied
  | edgesSelected =>
    obtain ⟨selected, walked, selects, rfl⟩ := selectEdges_ok applied
    exact .select selects
  | terminated => exact terminateGraph_ok applied

/-- The state with one more event. -/
def counted (state : DurableGraphRuntimeState) : DurableGraphRuntimeState :=
  { state with eventCount := state.eventCount + 1 }

end DurableGraphRuntimeState

variable {state next : DurableGraphRuntimeState}

open DurableGraphRuntimeState in
/-- An event that is not the first moves a graph that is not terminated, and leaves a valid state.
-/
theorem applyGraphEvent_ok (applied : applyGraphEvent (some state) event = .ok next) :
    state.termination = none ∧
      ∃ moved, Moves state event moved ∧ moved.counted.Valid ∧ next = moved.counted := by
  have advanced : advanceGraph state event = .ok next := by
    cases event with
    | defined definition => cases applied
    | _ => exact applied
  simp only [advanceGraph, ok_iff, checkedAddU64_eq_some, not_le, Bool.not_eq_true,
    Option.isSome_eq_false_iff, Option.isNone_iff_eq_none] at advanced
  obtain ⟨open_, -, moved, moves, _, ⟨-, rfl⟩, _, valid, rfl⟩ := advanced
  exact ⟨open_, moved, applyInitializedEvent_ok moves, validate_ok valid, rfl⟩

/-! ## What a move leaves alone -/

namespace DurableGraphRuntimeState

/-- What the traversal of edges leaves alone. -/
structure Framed (state next : DurableGraphRuntimeState) : Prop where
  definition : next.definition = state.definition
  eventCount : next.eventCount = state.eventCount
  routedVisits : next.routedVisits = state.routedVisits
  branches : next.branches = state.branches
  joins : next.joins = state.joins
  loops : next.loops = state.loops
  termination : next.termination = state.termination

/-- A walk over edges leaves these alone. -/
theorem framed_walk {walked : DurableGraphRuntimeState} {selected : List DurableGraphEdge}
    (walk : selected.foldlM traverse state = .ok walked) : state.Framed walked := by
  refine foldlM_invariant (fun _ reached => state.Framed reached) ?_ ⟨rfl, rfl, rfl, rfl, rfl, rfl,
    rfl⟩ walk
  intro _ edge middle next framed stepped
  obtain ⟨-, rfl⟩ := traverse_ok stepped
  exact { framed with }

/-- What a new graph has not done yet. -/
structure Untouched (definition : DurableGraphDefinition) (state : DurableGraphRuntimeState) :
    Prop where
  definition : state.definition = definition
  eventCount : state.eventCount = 1
  edgeTraversals : state.edgeTraversals = ∅
  joins : state.joins = ∅
  termination : state.termination = none

/-- The state of a new graph. -/
theorem opening_frame (definition : DurableGraphDefinition) :
    Untouched definition (opening definition) := by
  have general : Untouched definition (definition.nodes.foldl register (blank definition)) := by
    refine List.foldlRecOn (motive := Untouched definition) _ _ ⟨rfl, rfl, rfl, rfl, rfl⟩ ?_
    intro state untouched node _
    unfold register
    cases node.kind <;> exact { untouched with }
  exact { general with }

/-- A move leaves the definition and the event count alone. -/
theorem Moves.frame (moves : Moves state event next) :
    next.definition = state.definition ∧ next.eventCount = state.eventCount := by
  cases moves with
  | select selects =>
    have framed := framed_walk selects.walk
    exact ⟨framed.definition, framed.eventCount⟩
  | start | complete | retry | resolve | iterate | terminate => exact ⟨rfl, rfl⟩

end DurableGraphRuntimeState

/-! ## Runs -/

variable {events : List DurableGraphEvent}

/-- A run with one more event. -/
theorem graphRun_append {next : Option DurableGraphRuntimeState}
    (run : graphRun (events ++ [event]) = .ok next) :
    ∃ state reached, graphRun events = .ok state ∧ applyGraphEvent state event = .ok reached ∧
      next = some reached := by
  simp only [graphRun, List.foldlM_append, List.foldlM_cons, List.foldlM_nil, ok_iff] at run
  obtain ⟨state, run, _, ⟨reached, applied, rfl⟩, rfl⟩ := run
  exact ⟨state, reached, run, applied, rfl⟩

theorem graphRun_none (run : graphRun events = .ok none) : events = [] := by
  rcases List.eq_nil_or_concat events with rfl | ⟨before, last, rfl⟩
  · rfl
  · rw [List.concat_eq_append] at run
    obtain ⟨_, _, _, _, impossible⟩ := graphRun_append run
    cases impossible

open DurableGraphRuntimeState in
/-- A property of runs holds of every run when the definition event establishes it and every
accepted event keeps it. -/
theorem run_induction (property : List DurableGraphEvent → DurableGraphRuntimeState → Prop)
    (first : ∀ definition, definition.validate = .ok () → (opening definition).Valid →
      property [.defined definition] (opening definition))
    (step : ∀ events state event moved, graphRun events = .ok (some state) → property events state →
      state.termination = none → Moves state event moved → moved.counted.Valid →
        property (events ++ [event]) moved.counted)
    (run : graphRun events = .ok (some state)) : property events state := by
  induction events using List.reverseRecOn generalizing state with
  | nil => cases run
  | append_singleton events event ih =>
    obtain ⟨before, _, earlier, applied, same⟩ := graphRun_append run
    cases same
    cases before with
    | none =>
      have start := graphRun_none earlier
      subst start
      cases event with
      | defined definition =>
        simp only [applyGraphEvent, initializeState, ok_iff] at applied
        obtain ⟨_, accepted, _, valid, rfl⟩ := applied
        exact first definition accepted (validate_ok valid)
      | _ => cases applied
    | some before =>
      obtain ⟨open_, moved, moves, valid, rfl⟩ := applyGraphEvent_ok applied
      exact step events before event moved earlier (ih earlier) open_ moves valid

theorem run_valid (run : graphRun events = .ok (some state)) : state.Valid :=
  run_induction (fun _ state => state.Valid) (fun _ _ valid => valid)
    (fun _ _ _ _ _ _ _ _ valid => valid) run

/-- The event count of a state is the length of its history. -/
theorem run_counts
    (run : graphRun events = .ok (some state)) : state.eventCount = events.length := by
  refine run_induction (fun events state => state.eventCount = events.length) ?_ ?_ run
  · intro definition _ _
    exact (DurableGraphRuntimeState.opening_frame definition).eventCount
  · intro events state event moved _ counts _ moves _
    rw [DurableGraphRuntimeState.counted, List.length_append, ← counts, moves.frame.2]
    rfl

/-- Replay accepts exactly the histories whose events are accepted one after another. -/
theorem replayGraphEvents_ok :
    replayGraphEvents events = .ok state ↔ graphRun events = .ok (some state) := by
  simp only [replayGraphEvents, ok_iff, not_lt]
  constructor
  · rintro ⟨-, -, _, run, rfl⟩
    exact run
  · intro run
    refine ⟨?_, run_counts run ▸ (run_valid run).bounded, some state, run, rfl⟩
    rintro rfl
    cases run

end Maco.Graph
