import Maco.Graph.Definition

/-!
# The runtime of a durable graph

The state of a graph run counts the visits of every node and how many of them have been routed on,
keeps the attempts of every branch, the arrivals and the result of every join, and the iterations of
every loop. One reducer applies an event to it, for candidate events and for replay alike: it checks
the event against the state, changes the state, and validates the whole state again.
-/

namespace Maco.Graph

open Maco.Base

structure BranchAttemptRecord where
  visit : ℕ
  attempt : ℕ
  outcome : BranchOutcome
deriving DecidableEq, Repr

structure BranchAttemptCursor where
  visit : ℕ
  attempt : ℕ
deriving DecidableEq, Repr

structure BranchRuntimeState where
  nodeId : GraphNodeId
  maxAttempts : ℕ
  attempts : List BranchAttemptRecord
  attemptInProgress : Option BranchAttemptCursor
  retryScheduled : Option BranchAttemptCursor
deriving DecidableEq, Repr

/-- The attempt after a record, with the text of a visit count that overflows. -/
def BranchAttemptRecord.next (record : BranchAttemptRecord) (overflow : String) :
    Except String BranchAttemptCursor :=
  match record.outcome with
  | .retryableFailure _ => do
    let attempt ← require (checkedAddU16 record.attempt 1) "durable branch retry attempt overflowed"
    pure ⟨record.visit, attempt⟩
  | .success _ | .failure _ => do
    let visit ← require (checkedAddU16 record.visit 1) overflow
    pure ⟨visit, 1⟩

/-- `next_attempt_cursor`. -/
def nextAttemptCursor (attempts : List BranchAttemptRecord) : Except String BranchAttemptCursor :=
  match attempts.getLast? with
  | none => .ok ⟨1, 1⟩
  | some previous => previous.next "durable branch visit overflowed"

namespace BranchRuntimeState

variable (branch : BranchRuntimeState)

/-- The last recorded outcome is a retryable failure. -/
def endsRetryable : Prop :=
  ∃ last ∈ branch.attempts.getLast?, last.outcome.outcomeClass = .retryableFailure

instance : Decidable branch.endsRetryable :=
  inferInstanceAs (Decidable (∃ last ∈ branch.attempts.getLast?, _))

/-- `successful_outcome`. -/
def successfulOutcome : Option BranchSuccess :=
  branch.attempts.getLast?.bind fun last =>
    match last.outcome with
    | .success result => some result
    | .retryableFailure _ | .failure _ => none

/-- `is_terminal_for_visit`. -/
def isTerminalForVisit (visit : ℕ) : Prop :=
  branch.attemptInProgress = none ∧ branch.retryScheduled = none ∧
    ∃ last ∈ branch.attempts.getLast?, last.visit = visit ∧
      last.outcome.outcomeClass ≠ .retryableFailure

instance (visit : ℕ) : Decidable (branch.isTerminalForVisit visit) :=
  inferInstanceAs (Decidable (_ ∧ _ ∧ ∃ last ∈ branch.attempts.getLast?, _))

/-- `route_class_for_visit`. -/
def routeClassForVisit (visit : ℕ) : Option BranchOutcomeClass :=
  if branch.attemptInProgress.isSome = true ∨ branch.retryScheduled.isSome = true then none
  else (branch.attempts.getLast?.filter fun last => last.visit = visit).map fun last =>
    last.outcome.outcomeClass

/-- The check of one record against the one before it, which it then is. -/
def validateRecord (maxAttempts : ℕ) (previous : Option BranchAttemptRecord)
    (record : BranchAttemptRecord) : Except String (Option BranchAttemptRecord) := do
  refuseIf (record.visit = 0 ∨ record.attempt = 0 ∨ maxAttempts < record.attempt)
    "durable branch attempt history exceeds a visit attempt bound"
  record.outcome.validate
  match previous with
  | some previous => do
    let expected ← previous.next "durable branch visit history overflowed"
    refuseIf (record.visit ≠ expected.visit ∨ record.attempt ≠ expected.attempt)
      "durable branch attempt history is not contiguous by visit"
    pure (some record)
  | none => do
    refuseIf (record.visit ≠ 1 ∨ record.attempt ≠ 1)
      "durable branch attempt history does not begin at visit one"
    pure (some record)

/-- `BranchRuntimeState::validate`. -/
def validate : Except String Unit := do
  refuseIf (branch.maxAttempts = 0 ∨ maxBranchAttempts < branch.maxAttempts ∨
      maxBranchHistoryRecords < branch.attempts.length)
    "durable branch runtime exceeds its attempt or history bound"
  let _ ← branch.attempts.foldlM (validateRecord branch.maxAttempts) none
  refuseIf (∃ last ∈ branch.attempts.getLast?,
      last.outcome.outcomeClass = .retryableFailure ∧ last.attempt = branch.maxAttempts)
    "durable branch ends with retryable failure at its hard attempt bound"
  whenSome branch.attemptInProgress fun inProgress => do
    let expected ← nextAttemptCursor branch.attempts
    refuseIf (inProgress ≠ expected ∨ branch.maxAttempts < inProgress.attempt ∨
        branch.retryScheduled.isSome = true)
      "durable branch in-progress attempt is contradictory"
  whenSome branch.retryScheduled fun retry => do
    refuseIf (branch.attemptInProgress.isSome = true)
      "durable branch retry marker has no matching retryable failure"
    let expected ← nextAttemptCursor branch.attempts
    refuseIf (retry ≠ expected ∨ ¬ branch.endsRetryable)
      "durable branch retry marker has no matching retryable failure"

end BranchRuntimeState

structure LoopDecisionRecord where
  iteration : ℕ
  decision : LoopDecision
  routed : Bool
deriving DecidableEq, Repr

structure LoopRuntimeState where
  completedIterations : ℕ
  currentDecision : Option LoopDecisionRecord
deriving DecidableEq, Repr

structure GraphTerminationRecord where
  nodeId : GraphNodeId
  outcome : GraphTermination
deriving DecidableEq, Repr

structure DurableGraphRuntimeState where
  definition : DurableGraphDefinition
  eventCount : ℕ
  nodeVisits : BTreeMap GraphNodeId ℕ
  routedVisits : BTreeMap GraphNodeId ℕ
  activeNodes : BTreeSet GraphNodeId
  edgeTraversals : BTreeMap GraphEdgeId ℕ
  branches : BTreeMap GraphBranchId BranchRuntimeState
  joins : BTreeMap GraphNodeId FanInResult
  joinArrivals : BTreeMap GraphNodeId (BTreeSet GraphBranchId)
  loops : BTreeMap GraphNodeId LoopRuntimeState
  termination : Option GraphTerminationRecord

/-- The fan-in of a number of successes among a number of branches. -/
def fanIn (successes total : ℕ) : FanInResult :=
  if successes = total then .allSuccess else if successes = 0 then .failure else .partialSuccess

namespace DurableGraphRuntimeState

variable (state : DurableGraphRuntimeState)

/-- The visits of a node, zero for one without an entry. -/
def visits (nodeId : GraphNodeId) : ℕ := (state.nodeVisits[nodeId]?).getD 0

/-- The routed visits of a node, zero for one without an entry. -/
def routed (nodeId : GraphNodeId) : ℕ := (state.routedVisits[nodeId]?).getD 0

/-- The traversals of an edge, zero for one without an entry. -/
def traversals (edgeId : GraphEdgeId) : ℕ := (state.edgeTraversals[edgeId]?).getD 0

def reached (nodeId : GraphNodeId) : Prop := 0 < state.visits nodeId

instance (nodeId : GraphNodeId) : Decidable (state.reached nodeId) :=
  inferInstanceAs (Decidable (0 < _))

/-- One branch of `derive_fan_in_result`. -/
def countSuccess (successCount : ℕ) (branchId : GraphBranchId) : Except String ℕ := do
  let branch ← require (state.branches[branchId]?) "durable graph join lost a required branch"
  let visit ← require (state.nodeVisits[branch.nodeId]?)
    "durable graph join branch lost its visit state"
  let routed ← require (state.routedVisits[branch.nodeId]?)
    "durable graph join branch lost its routed state"
  refuseIf (¬ branch.isTerminalForVisit visit ∨ routed ≠ visit)
    "durable graph join cannot resolve while a branch is retryable or in progress"
  pure (if branch.successfulOutcome.isSome = true then successCount + 1 else successCount)

/-- `derive_fan_in_result`. -/
def deriveFanInResult (branchIds : List GraphBranchId) : Except String FanInResult := do
  let successCount ← branchIds.foldlM state.countSuccess 0
  pure (fanIn successCount branchIds.length)

/-- The check of the visits of one node. -/
def validateNode (node : DurableGraphNode) : Except String Unit := do
  let visits ← require (state.nodeVisits[node.id]?) "durable graph runtime has no node-visit entry"
  let routed ← require (state.routedVisits[node.id]?)
    "durable graph runtime has no routed-visit entry"
  refuseIf (maxNodeVisits < visits ∨ visits < routed)
    "durable graph runtime node visits are malformed or out of bounds"

/-- The nodes with a visit that is not routed yet. -/
def expectedActive : BTreeSet GraphNodeId :=
  BTreeSet.ofList ((state.definition.nodes.map DurableGraphNode.id).filter fun nodeId =>
    state.routed nodeId < state.visits nodeId)

/-- The check of the traversals of one edge. -/
def validateTraversals (edge : DurableGraphEdge) : Except String Unit := do
  refuseIf (state.edgeTraversals.contains edge.id = true ∧ state.traversals edge.id = 0)
    "durable graph runtime stores a zero-count edge traversal"
  match edge.kind with
  | .forward | .joinArrival _ =>
    refuseIf (1 < state.traversals edge.id) "durable graph forward edge repeated"
  | .loopBody loopNodeId | .loopBack loopNodeId => do
    let node ← state.definition.node loopNodeId
    let maxIterations ← require node.kind.loop? "durable graph loop-scoped edge lost its loop"
    refuseIf (maxIterations < state.traversals edge.id)
      "durable graph loop-scoped edge exceeds its loop bound"

/-- The visit of the last recorded attempt. -/
def lastHistoryVisit (branch : BranchRuntimeState) : ℕ :=
  (branch.attempts.getLast?.map BranchAttemptRecord.visit).getD 0

/-- The check of one branch. -/
def validateBranch (branchId : GraphBranchId) (branch : BranchRuntimeState) :
    Except String Unit := do
  branch.validate
  let node ← state.definition.node branch.nodeId
  let (expectedBranchId, maxAttempts) ← require node.kind.task?
    "durable graph runtime branch names a non-task node"
  refuseIf (branchId ≠ expectedBranchId ∨ branch.maxAttempts ≠ maxAttempts)
    "durable graph runtime branch binding contradicts its definition"
  let visits := state.visits branch.nodeId
  let routed := state.routed branch.nodeId
  refuseIf (visits < lastHistoryVisit branch ∨
      min (lastHistoryVisit branch + 1) (2 ^ 16 - 1) < visits ∨
      lastHistoryVisit branch < routed ∨
      (∀ next ∈ checkedAddU16 routed 1, next < visits) ∨
      (∃ attempt ∈ branch.attemptInProgress, attempt.visit ≠ visits ∨ visits ≤ routed) ∨
      ∃ attempt ∈ branch.retryScheduled, attempt.visit ≠ visits ∨ visits ≤ routed)
    "durable graph runtime branch history exceeds its reached visit frontier"

/-- The check of one join result. -/
def validateJoin (nodeId : GraphNodeId) (result : FanInResult) : Except String Unit := do
  let node ← state.definition.node nodeId
  let branches ← require node.kind.join? "durable graph runtime join result names a non-join node"
  refuseIf (state.joinArrivals[nodeId]? ≠ some (BTreeSet.ofList branches))
    "durable graph runtime join result is not derived from its branches"
  let derived ← state.deriveFanInResult branches
  refuseIf (derived ≠ result) "durable graph runtime join result is not derived from its branches"

/-- The check of the arrivals of one join. -/
def validateJoinArrivals (joinNodeId : GraphNodeId) (arrivals : BTreeSet GraphBranchId) :
    Except String Unit := do
  let node ← state.definition.node joinNodeId
  let branches ← require node.kind.join? "durable graph runtime join arrival names a non-join node"
  refuseIf (∃ branchId ∈ arrivals.toList, branchId ∉ branches)
    "durable graph runtime join arrival names an unrelated branch"

/-- A branch has arrived at a join. -/
def hasArrived (joinNodeId : GraphNodeId) (branchId : GraphBranchId) : Prop :=
  ∃ arrivals ∈ state.joinArrivals[joinNodeId]?, arrivals.contains branchId = true

instance (joinNodeId : GraphNodeId) (branchId : GraphBranchId) :
    Decidable (state.hasArrived joinNodeId branchId) :=
  inferInstanceAs (Decidable (∃ arrivals ∈ state.joinArrivals[joinNodeId]?, _))

/-- The check that a join arrival and the traversal of its edge go together. -/
def validateArrivalEdge (edge : DurableGraphEdge) : Except String Unit :=
  whenSome edge.kind.joinArrival? fun branchId =>
    refuseIf (¬ (state.traversals edge.id = 1 ↔ state.hasArrived edge.target branchId))
      "durable graph runtime join arrival contradicts edge traversal history"

/-- The check of one loop. -/
def validateLoop (loopNodeId : GraphNodeId) (runtime : LoopRuntimeState) :
    Except String Unit := do
  let node ← state.definition.node loopNodeId
  let maxIterations ← require node.kind.loop?
    "durable graph runtime loop state names a non-loop node"
  refuseIf (maxIterations < runtime.completedIterations)
    "durable graph runtime loop exceeds its hard bound"
  whenSome runtime.currentDecision fun decision => do
    refuseIf (decision.iteration ≠ runtime.completedIterations)
      "durable graph runtime loop decision is out of sequence"
    refuseIf (decision.decision = .continue_ ∧ maxIterations ≤ decision.iteration)
      "durable graph runtime continues at its hard loop bound"

/-- The check of the termination record. -/
def validateTermination (termination : GraphTerminationRecord) : Except String Unit := do
  let node ← state.definition.node termination.nodeId
  refuseIf (node.kind ≠ .terminate termination.outcome ∨
      state.nodeVisits[termination.nodeId]? ≠ state.routedVisits[termination.nodeId]? ∨
      state.activeNodes ≠ ∅)
    "durable graph runtime termination provenance is invalid"

/-- `DurableGraphRuntimeState::validate`. -/
def validate : Except String Unit := do
  state.definition.validate
  refuseIf (state.eventCount = 0 ∨ maxGraphEvents < state.eventCount)
    "durable graph runtime event history count is out of bounds"
  refuseIf (state.nodeVisits.size ≠ state.definition.nodes.length ∨
      state.routedVisits.size ≠ state.definition.nodes.length ∨
      state.definition.edges.length < state.edgeTraversals.size)
    "durable graph runtime indexes do not match its definition"
  state.definition.nodes.forM state.validateNode
  refuseIf (state.activeNodes ≠ state.expectedActive)
    "durable graph runtime active frontier contradicts its visit history"
  refuseIf (∃ entry ∈ state.edgeTraversals.toList,
      entry.1 ∉ state.definition.edges.map DurableGraphEdge.id)
    "durable graph runtime traversed an unknown edge"
  state.definition.edges.forM state.validateTraversals
  state.branches.toList.forM fun entry => state.validateBranch entry.1 entry.2
  state.joins.toList.forM fun entry => state.validateJoin entry.1 entry.2
  state.joinArrivals.toList.forM fun entry => state.validateJoinArrivals entry.1 entry.2
  state.definition.edges.forM state.validateArrivalEdge
  state.loops.toList.forM fun entry => state.validateLoop entry.1 entry.2
  refuseIf (state.branches.size ≠
        (state.definition.nodes.filter fun node => node.kind.task?.isSome).length ∨
      state.loops.size ≠
        (state.definition.nodes.filter fun node => node.kind.loop?.isSome).length)
    "durable graph runtime branch or loop index is incomplete"
  refuseIf (state.joinArrivals.size ≠
      (state.definition.nodes.filter fun node => node.kind.join?.isSome).length)
    "durable graph runtime join-arrival index is incomplete"
  whenSome state.termination state.validateTermination

end DurableGraphRuntimeState

inductive DurableGraphEvent where
  | defined (definition : DurableGraphDefinition)
  | branchAttemptStarted (branchId : GraphBranchId) (visit attempt : ℕ)
  | branchAttemptCompleted (branchId : GraphBranchId) (visit attempt : ℕ)
      (outcome : BranchOutcome)
  | branchRetryScheduled (branchId : GraphBranchId) (visit nextAttempt : ℕ)
  | joinResolved (joinNodeId : GraphNodeId) (result : FanInResult)
  | loopIterationCompleted (loopNodeId : GraphNodeId) (iteration : ℕ) (decision : LoopDecision)
  | edgesSelected (sourceNodeId : GraphNodeId) (visit : ℕ) (edgeIds : List GraphEdgeId)
  | terminated (nodeId : GraphNodeId) (outcome : GraphTermination)
deriving DecidableEq, Repr

namespace DurableGraphRuntimeState

variable (state : DurableGraphRuntimeState)

/-- `start_branch_attempt`. -/
def startBranchAttempt (branchId : GraphBranchId) (visit attempt : ℕ) :
    Except String DurableGraphRuntimeState := do
  let branch ← require (state.branches[branchId]?)
    "durable graph branch attempt names an unknown branch"
  let expected ← nextAttemptCursor branch.attempts
  refuseIf ((⟨visit, attempt⟩ : BranchAttemptCursor) ≠ expected ∨ attempt = 0 ∨
      branch.maxAttempts < attempt)
    "durable graph branch attempt skips or repeats a visit or attempt number"
  refuseIf (branch.attemptInProgress.isSome = true)
    "durable graph branch already has an attempt in progress"
  refuseIf (attempt = 1 ∧ branch.retryScheduled.isSome = true)
    "durable graph initial visit attempt contradicts a retry marker"
  refuseIf (1 < attempt ∧ branch.retryScheduled ≠ some ⟨visit, attempt⟩)
    "durable graph branch retry was not durably scheduled"
  let visits ← require (state.nodeVisits[branch.nodeId]?)
    "durable graph branch node has no visit state"
  let routed ← require (state.routedVisits[branch.nodeId]?)
    "durable graph branch node has no routed-visit state"
  refuseIf (visits ≠ visit ∨ checkedAddU16 routed 1 ≠ some visit)
    "durable graph branch attempt starts before its task node is reached"
  pure { state with
    branches := state.branches.insert branchId { branch with
      retryScheduled := none
      attemptInProgress := some ⟨visit, attempt⟩ } }

/-- `complete_branch_attempt`. -/
def completeBranchAttempt (branchId : GraphBranchId) (visit attempt : ℕ)
    (outcome : BranchOutcome) : Except String DurableGraphRuntimeState := do
  outcome.validate
  let branch ← require (state.branches[branchId]?)
    "durable graph branch completion names an unknown branch"
  refuseIf (branch.attemptInProgress ≠ some ⟨visit, attempt⟩)
    "durable graph branch completion skips, repeats, or contradicts its start"
  refuseIf (outcome.outcomeClass = .retryableFailure ∧ branch.maxAttempts ≤ attempt)
    "durable graph retryable failure reached the hard attempt bound"
  pure { state with
    branches := state.branches.insert branchId { branch with
      attempts := branch.attempts ++ [⟨visit, attempt, outcome⟩]
      attemptInProgress := none } }

/-- `schedule_branch_retry`. -/
def scheduleBranchRetry (branchId : GraphBranchId) (visit nextAttempt : ℕ) :
    Except String DurableGraphRuntimeState := do
  let branch ← require (state.branches[branchId]?) "durable graph retry names an unknown branch"
  refuseIf (branch.attemptInProgress.isSome = true ∨ branch.retryScheduled.isSome = true)
    "durable graph retry transition repeats or overlaps another attempt"
  let expected ← nextAttemptCursor branch.attempts
  refuseIf ((⟨visit, nextAttempt⟩ : BranchAttemptCursor) ≠ expected ∨
      branch.maxAttempts < nextAttempt)
    "durable graph retry skips a visit or attempt or exceeds its hard bound"
  refuseIf (¬ branch.endsRetryable) "durable graph retry does not follow a retryable failure"
  let routed ← require (state.routedVisits[branch.nodeId]?)
    "durable graph branch node has no routed-visit state"
  let visits ← require (state.nodeVisits[branch.nodeId]?)
    "durable graph branch node has no visit state"
  refuseIf (visits ≠ visit ∨ checkedAddU16 routed 1 ≠ some visit)
    "durable graph retry does not belong to the active task visit"
  pure { state with
    branches := state.branches.insert branchId { branch with
      retryScheduled := some ⟨visit, nextAttempt⟩ } }

/-- `resolve_join`. -/
def resolveJoin (joinNodeId : GraphNodeId) (observed : FanInResult) :
    Except String DurableGraphRuntimeState := do
  refuseIf (state.joins.contains joinNodeId = true) "durable graph join resolution repeated"
  refuseIf (¬ state.reached joinNodeId) "durable graph join resolved before it was reached"
  let node ← state.definition.node joinNodeId
  let branches ← require node.kind.join? "durable graph join resolution names a non-join node"
  let arrivals ← require (state.joinArrivals[joinNodeId]?)
    "durable graph join has no arrival frontier"
  refuseIf (arrivals ≠ BTreeSet.ofList branches)
    "durable graph join cannot resolve before every required branch arrives"
  let derived ← state.deriveFanInResult branches
  refuseIf (observed ≠ derived)
    "durable graph join result contradicts immutable branch outcomes"
  pure { state with joins := state.joins.insert joinNodeId derived }

/-- `complete_loop_iteration`. -/
def completeLoopIteration (loopNodeId : GraphNodeId) (iteration : ℕ) (decision : LoopDecision) :
    Except String DurableGraphRuntimeState := do
  refuseIf (¬ state.reached loopNodeId)
    "durable graph loop decision occurs before the loop is reached"
  let node ← state.definition.node loopNodeId
  let maxIterations ← require node.kind.loop? "durable graph loop decision names a non-loop node"
  let runtime ← require (state.loops[loopNodeId]?) "durable graph loop has no runtime state"
  refuseIf (∃ record ∈ runtime.currentDecision, record.routed = false)
    "durable graph loop decision repeats before its route is selected"
  let expected ← require (checkedAddU16 runtime.completedIterations 1)
    "durable graph loop iteration overflowed"
  refuseIf (iteration ≠ expected ∨ maxIterations < iteration)
    "durable graph loop iteration skips, repeats, or exceeds its bound"
  refuseIf (decision = .continue_ ∧ maxIterations ≤ iteration)
    "durable graph loop cannot continue at its hard iteration bound"
  let visits ← require (state.nodeVisits[loopNodeId]?) "durable graph loop has no visit state"
  refuseIf (visits ≠ iteration) "durable graph loop iteration does not match its durable visit"
  pure { state with
    loops := state.loops.insert loopNodeId ⟨iteration, some ⟨iteration, decision, false⟩⟩ }

section

variable (sourceNodeId : GraphNodeId)

/-- What `ensure_source_visit_complete` checks for a kind of node. -/
def checkSourceVisit (visit : ℕ) : DurableGraphNodeKind → Except String Unit
  | .task branchId _ => do
    let branch ← require (state.branches[branchId]?) "durable graph task has no branch runtime"
    refuseIf (¬ branch.isTerminalForVisit visit)
      "durable graph task routes before its exact attempt completes"
  | .join _ =>
    refuseIf (visit ≠ 1 ∨ state.joins.contains sourceNodeId = false)
      "durable graph join routes before its immutable result is resolved"
  | .loop _ => do
    let runtime ← require (state.loops[sourceNodeId]?) "durable graph loop has no runtime state"
    refuseIf (∀ decision ∈ runtime.currentDecision,
        decision.iteration ≠ visit ∨ decision.routed = true)
      "durable graph loop routes before its exact decision is recorded"
  | .terminate _ => .error "durable graph termination node cannot select edges"
  | .fork | .choice => .ok ()

/-- `ensure_source_visit_complete`. -/
def ensureSourceVisitComplete (visit : ℕ) : Except String Unit := do
  let node ← state.definition.node sourceNodeId
  state.checkSourceVisit sourceNodeId visit node.kind

/-- `condition_matches`. -/
def conditionMatches (condition : DurableEdgeCondition) : Except String Bool :=
  match condition with
  | .always => .ok true
  | .branchLatestOutcome branchId outcome => do
    let branch ← require (state.branches[branchId]?)
      "durable graph edge condition lost its branch runtime"
    pure (decide (branch.routeClassForVisit (state.visits branch.nodeId) = some outcome))
  | .joinResult joinNodeId result => .ok (decide (state.joins[joinNodeId]? = some result))
  | .loopDecision loopNodeId decision => do
    let runtime ← require (state.loops[loopNodeId]?)
      "durable graph edge condition lost its loop runtime"
    pure (decide (∃ record ∈ runtime.currentDecision,
      record.routed = false ∧ record.decision = decision))

/-- `compute_eligible_edge_ids`. -/
def computeEligibleEdgeIds : Except String (List GraphEdgeId) := do
  let eligible ← collectM (fun edge => state.conditionMatches edge.condition) DurableGraphEdge.id
    (state.definition.outgoing sourceNodeId)
  let edgeIds := eligible.insertionSort (· ≤ ·)
  refuseIf (edgeIds = []) "durable graph reached a node with no currently valid route"
  pure edgeIds

section

variable (edge : DurableGraphEdge)

/-- The check that a selected edge may be traversed once more. -/
def checkTraversal : Except String Unit :=
  match edge.kind with
  | .forward | .joinArrival _ =>
    refuseIf (state.traversals edge.id ≠ 0) "durable graph forward edge transition repeated"
  | .loopBody loopNodeId | .loopBack loopNodeId => do
    let runtime ← require (state.loops[loopNodeId]?)
      "durable graph loop-scoped edge has no loop runtime"
    refuseIf (runtime.completedIterations ≤ state.traversals edge.id)
      "durable graph loop-scoped edge skips or repeats an iteration"

/-- The arrivals of a join after an edge. -/
def arriveAtJoin : Except String (BTreeMap GraphNodeId (BTreeSet GraphBranchId)) :=
  match edge.kind with
  | .joinArrival branchId => do
    let arrivals ← require (state.joinArrivals[edge.target]?)
      "durable graph join arrival has no destination frontier"
    refuseIf (arrivals.contains branchId = true) "durable graph join branch arrival repeated"
    pure (state.joinArrivals.insert edge.target (arrivals.insert branchId))
  | .forward | .loopBody _ | .loopBack _ => .ok state.joinArrivals

/-- The visits of the destination of an edge once it is reached. -/
def visitDestination (destination : DurableGraphNodeKind) (edge : DurableGraphEdge)
    (visits : ℕ) : Except String ℕ :=
  match destination, edge.kind with
  | .join _, _ => .ok 1
  | .loop _, .loopBack _ =>
    require (checkedAddU16 visits 1) "durable graph loop visit count overflowed"
  | _, kind => do
    refuseIf (kind.loop? = none ∧ visits ≠ 0)
      "durable graph forward transition repeats a reached node"
    require (checkedAddU16 visits 1) "durable graph node visit count overflowed"

/-- `reach_destination`. -/
def reachDestination : Except String DurableGraphRuntimeState := do
  let joinArrivals ← state.arriveAtJoin edge
  let destination ← state.definition.node edge.target
  let visits ← require (state.nodeVisits[edge.target]?)
    "durable graph destination has no visit state"
  let visits ← visitDestination destination.kind edge visits
  refuseIf (maxNodeVisits < visits) "durable graph node visit count exceeds its fixed bound"
  pure { state with
    joinArrivals
    nodeVisits := state.nodeVisits.insert edge.target visits
    activeNodes := state.activeNodes.insert edge.target }

/-- The traversal of one selected edge. -/
def traverse : Except String DurableGraphRuntimeState := do
  let count ← require (checkedAddU16 (state.traversals edge.id) 1)
    "durable graph edge traversal count overflowed"
  reachDestination { state with edgeTraversals := state.edgeTraversals.insert edge.id count } edge

end

/-- The decision of a loop source is marked as routed. -/
def routeDecision : Except String DurableGraphRuntimeState :=
  match state.loops[sourceNodeId]? with
  | none => .ok state
  | some runtime => do
    let decision ← require runtime.currentDecision "durable graph loop route has no decision"
    refuseIf (decision.routed = true) "durable graph loop decision route repeated"
    pure { state with
      loops := state.loops.insert sourceNodeId { runtime with
        currentDecision := some { decision with routed := true } } }

/-- The source of a selection has routed a visit. -/
def routeSource (visit : ℕ) : Except String DurableGraphRuntimeState := do
  let remaining ← require (state.nodeVisits[sourceNodeId]?)
    "durable graph routed source lost its visit state"
  routeDecision { state with
    routedVisits := state.routedVisits.insert sourceNodeId visit
    activeNodes :=
      if remaining = visit then state.activeNodes.erase sourceNodeId else state.activeNodes }
    sourceNodeId

/-- `select_edges`. -/
def selectEdges (visit : ℕ) (observedEdgeIds : List GraphEdgeId) :
    Except String DurableGraphRuntimeState := do
  refuseIf (observedEdgeIds = [] ∨ maxGraphEdges < observedEdgeIds.length)
    "durable graph edge selection is empty or exceeds its bound"
  let visits ← require (state.nodeVisits[sourceNodeId]?)
    "durable graph edge selection names an unknown source node"
  let routed ← require (state.routedVisits[sourceNodeId]?)
    "durable graph source node has no routed-visit state"
  let expectedVisit ← require (checkedAddU16 routed 1)
    "durable graph routed-visit count overflowed"
  refuseIf (visit ≠ expectedVisit ∨ visits < visit)
    "durable graph edge selection skips or repeats a source visit"
  state.ensureSourceVisitComplete sourceNodeId visit
  let expectedEdgeIds ← state.computeEligibleEdgeIds sourceNodeId
  refuseIf (observedEdgeIds ≠ expectedEdgeIds)
    "durable graph edge selection is partial, repeated, or condition-mismatched"
  let selected ← observedEdgeIds.mapM state.definition.edge
  selected.forM state.checkTraversal
  let state ← selected.foldlM traverse state
  state.routeSource sourceNodeId visit

end

/-- `terminate_graph`. -/
def terminateGraph (nodeId : GraphNodeId) (observed : GraphTermination) :
    Except String DurableGraphRuntimeState := do
  refuseIf (¬ state.reached nodeId)
    "durable graph terminates before its termination node is reached"
  let node ← state.definition.node nodeId
  let outcome ← require node.kind.terminate?
    "durable graph termination event names a non-termination node"
  refuseIf (outcome ≠ observed) "durable graph termination outcome contradicts its definition"
  refuseIf (state.activeNodes ≠ BTreeSet.ofList [nodeId])
    "durable graph cannot terminate while another graph visit remains active"
  let visits ← require (state.nodeVisits[nodeId]?)
    "durable graph termination node lost its visit state"
  pure { state with
    routedVisits := state.routedVisits.insert nodeId visits
    activeNodes := state.activeNodes.erase nodeId
    termination := some ⟨nodeId, observed⟩ }

/-- `apply_initialized_event`. -/
def applyInitializedEvent : DurableGraphEvent → Except String DurableGraphRuntimeState
  | .defined _ => .error "durable graph definition event cannot repeat"
  | .branchAttemptStarted branchId visit attempt => state.startBranchAttempt branchId visit attempt
  | .branchAttemptCompleted branchId visit attempt outcome =>
    state.completeBranchAttempt branchId visit attempt outcome
  | .branchRetryScheduled branchId visit nextAttempt =>
    state.scheduleBranchRetry branchId visit nextAttempt
  | .joinResolved joinNodeId result => state.resolveJoin joinNodeId result
  | .loopIterationCompleted loopNodeId iteration decision =>
    state.completeLoopIteration loopNodeId iteration decision
  | .edgesSelected sourceNodeId visit edgeIds => state.selectEdges sourceNodeId visit edgeIds
  | .terminated nodeId outcome => state.terminateGraph nodeId outcome

/-- The state with the entries of one node. -/
def register (state : DurableGraphRuntimeState) (node : DurableGraphNode) :
    DurableGraphRuntimeState :=
  let state := { state with
    nodeVisits := state.nodeVisits.insert node.id 0
    routedVisits := state.routedVisits.insert node.id 0 }
  match node.kind with
  | .task branchId maxAttempts => { state with
      branches := state.branches.insert branchId ⟨node.id, maxAttempts, [], none, none⟩ }
  | .loop _ => { state with loops := state.loops.insert node.id ⟨0, none⟩ }
  | .join _ => { state with joinArrivals := state.joinArrivals.insert node.id ∅ }
  | .fork | .choice | .terminate _ => state

/-- The state of a new graph, before its entry is reached. -/
def blank (definition : DurableGraphDefinition) : DurableGraphRuntimeState :=
  ⟨definition, 1, ∅, ∅, ∅, ∅, ∅, ∅, ∅, ∅, none⟩

/-- The state of a new graph. -/
def opening (definition : DurableGraphDefinition) : DurableGraphRuntimeState :=
  let state := definition.nodes.foldl register (blank definition)
  { state with
    nodeVisits := state.nodeVisits.insert definition.entryNodeId 1
    activeNodes := BTreeSet.ofList [definition.entryNodeId] }

end DurableGraphRuntimeState

/-- `initialize_state`. -/
def initializeState (definition : DurableGraphDefinition) :
    Except String DurableGraphRuntimeState := do
  definition.validate
  (DurableGraphRuntimeState.opening definition).validate
  pure (DurableGraphRuntimeState.opening definition)

/-- An event applied to a state that exists. -/
def advanceGraph (state : DurableGraphRuntimeState) (event : DurableGraphEvent) :
    Except String DurableGraphRuntimeState := do
  refuseIf (state.termination.isSome = true)
    "durable graph cannot transition after explicit termination"
  refuseIf (maxGraphEvents ≤ state.eventCount)
    "durable graph transition exceeds its fixed event-history bound"
  let next ← state.applyInitializedEvent event
  let eventCount ← require (checkedAddU64 next.eventCount 1)
    "durable graph event-history count overflowed"
  let next := { next with eventCount := eventCount }
  next.validate
  pure next

/-- `apply_graph_event`. -/
def applyGraphEvent (state : Option DurableGraphRuntimeState) (event : DurableGraphEvent) :
    Except String DurableGraphRuntimeState :=
  match state, event with
  | none, .defined definition => initializeState definition
  | none, _ => .error "durable graph must begin with its definition event"
  | some _, .defined _ => .error "durable graph definition event cannot repeat"
  | some state, event => advanceGraph state event

/-- The loop of `replay_graph_events`. -/
def graphRun (events : List DurableGraphEvent) : Except String (Option DurableGraphRuntimeState) :=
  events.foldlM (fun state event => do
    let next ← applyGraphEvent state event
    pure (some next)) none

/-- `replay_graph_events`. -/
def replayGraphEvents (events : List DurableGraphEvent) :
    Except String DurableGraphRuntimeState := do
  refuseIf (events = []) "durable graph replay has no definition event"
  refuseIf (maxGraphEvents < events.length) "durable graph replay exceeds its fixed event bound"
  let state ← graphRun events
  require state "durable graph replay produced no runtime state"

end Maco.Graph
