import Maco.Base.Map
import Maco.Base.Number
import Maco.Base.Result
import Maco.Base.Text

/-!
# Durable execution graphs

A graph has task nodes, each with a branch and a bound on its attempts, forks, choices on the
outcome of a branch, joins over branches, loops with a bound on their iterations, and termination
nodes. Edges go forward, arrive at a join, or stay in the scope of a loop. A definition is accepted
when its nodes route every outcome, its loops are the only cycles, every node can be reached, and
its longest history stays within a fixed bound.
-/

namespace Maco.Graph

open Maco.Base

def maxGraphNodes : ℕ := 64

def maxGraphEdges : ℕ := 256

def maxGraphBranches : ℕ := 64

def maxGraphEvents : ℕ := 4096

def maxSuccessWriteRefs : ℕ := 32

def maxBranchAttempts : ℕ := 16

def maxBranchHistoryRecords : ℕ := maxGraphEvents

def maxLoopIterations : ℕ := 64

def maxNodeVisits : ℕ := 1024

/-- `DurableGraphId`, checked when it is decoded. -/
abbrev DurableGraphId : Type := String

/-- `GraphNodeId`, checked when it is decoded. -/
abbrev GraphNodeId : Type := String

/-- `GraphEdgeId`, checked when it is decoded. -/
abbrev GraphEdgeId : Type := String

/-- `GraphBranchId`, checked when it is decoded. -/
abbrev GraphBranchId : Type := String

/-- `DurableText`, checked when it is decoded. -/
abbrev DurableText : Type := String

inductive FanInResult where
  | allSuccess
  | partialSuccess
  | failure
deriving DecidableEq, Repr

inductive GraphTermination where
  | success
  | partialSuccess
  | failure
  | cancelled
deriving DecidableEq, Repr

inductive BranchOutcomeClass where
  | success
  | retryableFailure
  | failure
deriving DecidableEq, Repr

inductive LoopDecision where
  | continue_
  | exit
deriving DecidableEq, Repr

/-- `is_strictly_sorted`. -/
def isStrictlySorted (values : List String) : Prop := values.Pairwise (· < ·)

instance (values : List String) : Decidable (isStrictlySorted values) :=
  inferInstanceAs (Decidable (values.Pairwise (· < ·)))

/-- Two lists that are equal once collected into sets. -/
def SameMembers {α : Type} (left right : List α) : Prop :=
  (∀ item ∈ left, item ∈ right) ∧ ∀ item ∈ right, item ∈ left

instance {α : Type} [DecidableEq α] (left right : List α) : Decidable (SameMembers left right) :=
  inferInstanceAs (Decidable (_ ∧ _))

structure BranchSuccess where
  resultRef : DurableText
  writeRefs : List DurableText
deriving DecidableEq, Repr

/-- `BranchSuccess::validate`. -/
def BranchSuccess.validate (success : BranchSuccess) : Except String Unit := do
  refuseIf (maxSuccessWriteRefs < success.writeRefs.length)
    "durable branch success exceeds its write-reference bound"
  refuseIf (¬ isStrictlySorted success.writeRefs)
    "durable branch success write references are not canonical and unique"

inductive BranchOutcome where
  | success (result : BranchSuccess)
  | retryableFailure (error : DurableText)
  | failure (error : DurableText)
deriving DecidableEq, Repr

/-- `BranchOutcome::class`. -/
def BranchOutcome.outcomeClass : BranchOutcome → BranchOutcomeClass
  | .success _ => .success
  | .retryableFailure _ => .retryableFailure
  | .failure _ => .failure

/-- `BranchOutcome::validate`. -/
def BranchOutcome.validate : BranchOutcome → Except String Unit
  | .success result => result.validate
  | .retryableFailure _ | .failure _ => .ok ()

inductive DurableGraphNodeKind where
  | task (branchId : GraphBranchId) (maxAttempts : ℕ)
  | fork
  | choice
  | join (branches : List GraphBranchId)
  | loop (maxIterations : ℕ)
  | terminate (outcome : GraphTermination)
deriving DecidableEq, Repr

namespace DurableGraphNodeKind

/-- The branch of a task node, with its attempt bound. -/
def task? : DurableGraphNodeKind → Option (GraphBranchId × ℕ)
  | .task branchId maxAttempts => some (branchId, maxAttempts)
  | _ => none

/-- The branches a join node requires. -/
def join? : DurableGraphNodeKind → Option (List GraphBranchId)
  | .join branches => some branches
  | _ => none

/-- The iteration bound of a loop node. -/
def loop? : DurableGraphNodeKind → Option ℕ
  | .loop maxIterations => some maxIterations
  | _ => none

/-- The outcome of a termination node. -/
def terminate? : DurableGraphNodeKind → Option GraphTermination
  | .terminate outcome => some outcome
  | _ => none

/-- The kinds that may have several incoming edges. -/
def mergesPaths : DurableGraphNodeKind → Bool
  | .join _ | .loop _ => true
  | _ => false

end DurableGraphNodeKind

structure DurableGraphNode where
  id : GraphNodeId
  kind : DurableGraphNodeKind
deriving DecidableEq, Repr

inductive DurableEdgeCondition where
  | always
  | branchLatestOutcome (branchId : GraphBranchId) (outcome : BranchOutcomeClass)
  | joinResult (joinNodeId : GraphNodeId) (result : FanInResult)
  | loopDecision (loopNodeId : GraphNodeId) (decision : LoopDecision)
deriving DecidableEq, Repr

inductive DurableGraphEdgeKind where
  | forward
  | joinArrival (branchId : GraphBranchId)
  | loopBody (loopNodeId : GraphNodeId)
  | loopBack (loopNodeId : GraphNodeId)
deriving DecidableEq, Repr

namespace DurableGraphEdgeKind

/-- The loop in whose scope an edge is. -/
def loop? : DurableGraphEdgeKind → Option GraphNodeId
  | .loopBody loopNodeId | .loopBack loopNodeId => some loopNodeId
  | .forward | .joinArrival _ => none

/-- The loop an edge goes back to. -/
def loopBack? : DurableGraphEdgeKind → Option GraphNodeId
  | .loopBack loopNodeId => some loopNodeId
  | _ => none

/-- The branch with which an edge arrives at a join. -/
def joinArrival? : DurableGraphEdgeKind → Option GraphBranchId
  | .joinArrival branchId => some branchId
  | _ => none

end DurableGraphEdgeKind

/-- `DurableGraphEdge`, with `source` for its field `from` and `target` for its field `to`. -/
structure DurableGraphEdge where
  id : GraphEdgeId
  source : GraphNodeId
  target : GraphNodeId
  kind : DurableGraphEdgeKind
  condition : DurableEdgeCondition
deriving DecidableEq, Repr

structure DurableGraphDefinition where
  graphId : DurableGraphId
  entryNodeId : GraphNodeId
  nodes : List DurableGraphNode
  edges : List DurableGraphEdge
deriving DecidableEq, Repr

/-- The branches, joins and loops of a definition, as `validate` collects them. -/
structure NodeIndex where
  branches : BTreeMap GraphBranchId (GraphNodeId × ℕ)
  joins : BTreeSet GraphNodeId
  loops : BTreeMap GraphNodeId ℕ
  terminationCount : ℕ

/-- Before the first node. -/
def NodeIndex.empty : NodeIndex := ⟨∅, ∅, ∅, 0⟩

/-- The check of one node, with what it adds to the index. -/
def NodeIndex.add (index : NodeIndex) (node : DurableGraphNode) : Except String NodeIndex :=
  match node.kind with
  | .task branchId maxAttempts => do
    refuseIf (maxAttempts = 0 ∨ maxBranchAttempts < maxAttempts)
      "durable graph task attempt bound is unsupported"
    refuseIf (index.branches.contains branchId = true) "durable graph repeats a branch id"
    pure { index with branches := index.branches.insert branchId (node.id, maxAttempts) }
  | .join required => do
    refuseIf (required.length < 2 ∨ maxGraphBranches < required.length)
      "durable graph join branch count is unsupported"
    refuseIf (¬ isStrictlySorted required)
      "durable graph join branches are not canonical and unique"
    pure { index with joins := index.joins.insert node.id }
  | .loop maxIterations => do
    refuseIf (maxIterations = 0 ∨ maxLoopIterations < maxIterations)
      "durable graph loop iteration bound is unsupported"
    pure { index with loops := index.loops.insert node.id maxIterations }
  | .terminate _ =>
    pure { index with terminationCount := index.terminationCount + 1 }
  | .fork | .choice => pure index

/-- The loop of each loop body node. -/
abbrev Membership : Type := BTreeMap GraphNodeId GraphNodeId

/-- `bind_loop_member`. -/
def bindLoopMember (membership : Membership) (nodeId loopNodeId : GraphNodeId) :
    Except String Membership := do
  refuseIf (∃ existing ∈ membership[nodeId]?, existing ≠ loopNodeId)
    "durable graph node belongs to overlapping loop bodies"
  pure (membership.insert nodeId loopNodeId)

/-- The outcome a task route is for. -/
def taskOutcome (taskBranchId : GraphBranchId) (edge : DurableGraphEdge) :
    Except String BranchOutcomeClass :=
  match edge.condition with
  | .branchLatestOutcome branchId outcome => do
    refuseIf (¬ (branchId = taskBranchId ∧ outcome ≠ .retryableFailure))
      ("durable graph task routes must be one unconditional edge or exhaustive terminal outcome " ++
        "edges")
    pure outcome
  | _ => .error
      ("durable graph task routes must be one unconditional edge or exhaustive terminal outcome " ++
        "edges")

/-- `validate_task_edges`. -/
def validateTaskEdges (taskBranchId : GraphBranchId) (edges : List DurableGraphEdge) :
    Except String Unit :=
  if edges.length = 1 ∧ ∀ edge ∈ edges, edge.condition = .always then .ok ()
  else do
    let outcomes ← edges.mapM (taskOutcome taskBranchId)
    refuseIf (edges.length ≠ 2 ∨ ¬ SameMembers outcomes [.success, .failure])
      "durable graph task terminal outcome routes are ambiguous or incomplete"

/-- The outcomes choice routes are for, with the branch they all discriminate on. -/
def choiceOutcomes : Option GraphBranchId → List DurableGraphEdge →
    Except String (List BranchOutcomeClass)
  | _, [] => .ok []
  | discriminator, edge :: edges =>
    match edge.condition with
    | .branchLatestOutcome branchId outcome => do
      refuseIf (∃ existing ∈ discriminator, existing ≠ branchId)
        "durable graph choice mixes branch discriminators"
      let outcomes ← choiceOutcomes (some branchId) edges
      pure (outcome :: outcomes)
    | _ => .error "durable graph choice requires branch-outcome conditional edges"

/-- `validate_choice_edges`. -/
def validateChoiceEdges (edges : List DurableGraphEdge) : Except String Unit := do
  let outcomes ← choiceOutcomes none edges
  refuseIf (edges.length ≠ 2 ∨ ¬ SameMembers outcomes [.success, .failure])
    "durable graph choice routes are ambiguous or incomplete"

/-- The result a join route is for. -/
def DurableEdgeCondition.joinResult? : DurableEdgeCondition → Option FanInResult
  | .joinResult _ result => some result
  | _ => none

/-- The decision a loop route is for. -/
def DurableEdgeCondition.loopDecision? : DurableEdgeCondition → Option LoopDecision
  | .loopDecision _ decision => some decision
  | _ => none

/-- A loop continues into its own body and exits forward. -/
def loopRouteAgrees (edge : DurableGraphEdge) : Bool :=
  match edge.condition, edge.kind with
  | .loopDecision loopNodeId .continue_, .loopBody bodyLoop => decide (loopNodeId = bodyLoop)
  | .loopDecision _ .exit, .forward => true
  | _, _ => false

/-- The check of the outgoing edges of a node. -/
def validateRoutes (kind : DurableGraphNodeKind) (edges : List DurableGraphEdge) :
    Except String Unit :=
  match kind with
  | .terminate _ =>
    refuseIf (edges ≠ []) "durable graph termination node has outgoing edges"
  | .fork => do
    refuseIf (edges.length < 2) "durable graph fork requires at least two outgoing edges"
    refuseIf (∃ edge ∈ edges, edge.condition ≠ .always)
      "durable graph fork must use unconditional outgoing edges"
    refuseIf (¬ (edges.map DurableGraphEdge.target).Nodup)
      "durable graph fork repeats an outgoing destination"
  | .choice => validateChoiceEdges edges
  | .task branchId _ => validateTaskEdges branchId edges
  | .join _ =>
    refuseIf (¬ SameMembers (edges.filterMap fun edge => edge.condition.joinResult?)
        [.allSuccess, .partialSuccess, .failure] ∨ edges.length ≠ 3)
      "durable graph join must route every distinct fan-in result"
  | .loop _ => do
    refuseIf (¬ SameMembers (edges.filterMap fun edge => edge.condition.loopDecision?)
        [.continue_, .exit] ∨ edges.length ≠ 2)
      "durable graph loop requires distinct continue and exit routes"
    refuseIf (∃ edge ∈ edges, loopRouteAgrees edge = false)
      "durable graph loop route kind contradicts its decision"

/-- The state of the search for a cycle: the incoming edges still to be met, the nodes with none
left, and the nodes taken. -/
structure CycleSearch where
  indegree : BTreeMap GraphNodeId ℕ
  ready : List GraphNodeId
  visited : ℕ

/-- A destination loses an incoming edge. -/
def CycleSearch.settle (search : CycleSearch) (destination : GraphNodeId) :
    Except String CycleSearch := do
  let degree ← require (search.indegree[destination]?) "durable graph cycle index lost a node"
  let degree ← require (checkedSubU64 degree 1) "durable graph cycle index underflowed"
  pure { search with
    indegree := search.indegree.insert destination degree
    ready := if degree = 0 then search.ready ++ [destination] else search.ready }

/-- The loop of `validate_acyclic_without_loop_backs`. -/
def CycleSearch.run (destinations : GraphNodeId → List GraphNodeId) :
    ℕ → CycleSearch → Except String CycleSearch
  | 0, search => .ok search
  | rounds + 1, search =>
    match search.ready with
    | [] => .ok search
    | nodeId :: ready => do
      let search ← (destinations nodeId).foldlM CycleSearch.settle { search with
        ready
        visited := search.visited + 1 }
      run destinations rounds search

namespace DurableGraphDefinition

variable (definition : DurableGraphDefinition)

/-- The node of an id. -/
def node? (nodeId : GraphNodeId) : Option DurableGraphNode :=
  definition.nodes.find? fun node => node.id == nodeId

/-- The kind of the node of an id. -/
def kind? (nodeId : GraphNodeId) : Option DurableGraphNodeKind :=
  (definition.node? nodeId).map DurableGraphNode.kind

def node (nodeId : GraphNodeId) : Except String DurableGraphNode :=
  require (definition.node? nodeId) "durable graph node is unknown"

def edge (edgeId : GraphEdgeId) : Except String DurableGraphEdge :=
  require (definition.edges.find? fun edge => edge.id == edgeId) "durable graph edge is unknown"

/-- The outgoing edges of a node. -/
def outgoing (nodeId : GraphNodeId) : List DurableGraphEdge :=
  definition.edges.filter fun edge => edge.source = nodeId

/-- The incoming edges of a node. -/
def incoming (nodeId : GraphNodeId) : List DurableGraphEdge :=
  definition.edges.filter fun edge => edge.target = nodeId

section

variable (index : NodeIndex)

/-- The check of an edge condition. -/
def validateCondition (edge : DurableGraphEdge) : Except String Unit :=
  match edge.condition with
  | .always => .ok ()
  | .branchLatestOutcome branchId _ =>
    refuseIf (index.branches.contains branchId = false)
      "durable graph condition references an unknown branch"
  | .joinResult joinNodeId _ =>
    refuseIf (joinNodeId ≠ edge.source ∨ index.joins.contains joinNodeId = false)
      "join-result edges must originate at their referenced join"
  | .loopDecision loopNodeId _ =>
    refuseIf (loopNodeId ≠ edge.source ∨ index.loops.contains loopNodeId = false)
      "loop-decision edges must originate at their referenced loop"

section

variable (membership : Membership)

/-- The check of an edge kind, with the loop body members it binds. -/
def validateEdgeKind (edge : DurableGraphEdge) : Except String Membership :=
  match edge.kind with
  | .forward => .ok membership
  | .joinArrival branchId => do
    let bound ← require (index.branches[branchId]?)
      "durable graph join arrival names an unknown branch"
    refuseIf (bound.1 ≠ edge.source ∨
        ¬ (∃ required ∈ (definition.kind? edge.target).bind DurableGraphNodeKind.join?,
          branchId ∈ required) ∨ edge.condition ≠ .always)
      "durable graph join arrival is not uniquely bound to its task and join"
    pure membership
  | .loopBody loopNodeId => do
    refuseIf (index.loops.contains loopNodeId = false ∨ edge.target = loopNodeId)
      "loop-body edge has an invalid loop binding"
    let bound ← bindLoopMember membership edge.target loopNodeId
    if edge.source ≠ loopNodeId then bindLoopMember bound edge.source loopNodeId else pure bound
  | .loopBack loopNodeId => do
    refuseIf (index.loops.contains loopNodeId = false ∨ edge.target ≠ loopNodeId ∨
        edge.condition ≠ .always)
      "loop-back edge is not an unconditional edge to its loop node"
    bindLoopMember membership edge.source loopNodeId

/-- The check of one edge. -/
def validateEdge (edge : DurableGraphEdge) : Except String Membership := do
  refuseIf (edge.source = edge.target) "durable graph self-edges are unsupported"
  refuseIf ((definition.node? edge.source).isNone = true ∨
      (definition.node? edge.target).isNone = true)
    "durable graph edge references an unknown node"
  validateCondition index edge
  definition.validateEdgeKind index membership edge

/-- The check of an edge against the loop bodies. -/
def validateScope (edge : DurableGraphEdge) : Except String Unit :=
  match edge.kind.loop? with
  | none =>
    refuseIf (membership.contains edge.source = true ∨ membership.contains edge.target = true)
      "loop-body nodes may only use explicitly loop-scoped edges"
  | some loopNodeId =>
    refuseIf ((∃ bound ∈ membership[edge.source]?, bound ≠ loopNodeId) ∨
        ∃ bound ∈ membership[edge.target]?, bound ≠ loopNodeId)
      "durable graph overlaps two loop bodies"

/-- The check that the arrivals of a join cover its branches. -/
def validateArrivals (node : DurableGraphNode) : Except String Unit :=
  whenSome node.kind.join? fun required => do
    let arrivals ← (definition.incoming node.id).mapM fun edge =>
      require edge.kind.joinArrival? "durable graph join has an unbound incoming edge"
    refuseIf (arrivals.length ≠ required.length ∨ ¬ SameMembers arrivals required)
      "durable graph join arrivals do not exactly cover its required branches"

/-- The destinations of a node without loop-back edges. -/
def advancing (nodeId : GraphNodeId) : List GraphNodeId :=
  ((definition.outgoing nodeId).filter fun edge => edge.kind.loopBack?.isNone).map
    DurableGraphEdge.target

/-- The incoming edges of each node without loop-back edges. -/
def indegree : BTreeMap GraphNodeId ℕ :=
  BTreeMap.ofList (definition.nodes.map fun node =>
    (node.id, ((definition.incoming node.id).filter fun edge => edge.kind.loopBack?.isNone).length))

/-- `validate_acyclic_without_loop_backs`. Every round takes a node whose incoming edges are met, so
one round a node and an edge are enough. -/
def validateAcyclicWithoutLoopBacks : Except String Unit := do
  let ready := (definition.indegree.toList.filter fun entry => entry.2 = 0).map Prod.fst
  let search ← CycleSearch.run definition.advancing
    (definition.nodes.length + definition.edges.length) ⟨definition.indegree, ready, 0⟩
  refuseIf (search.visited ≠ definition.nodes.length)
    "durable graph contains a cycle without an explicit bounded loop back-edge"

/-- What the edges of a choice reach from a node. -/
def reachedBy (chosen : DurableGraphEdge → Bool) (origin : GraphNodeId) : BTreeSet GraphNodeId :=
  ((Frontier.start origin).explore
    (fun nodeId => ((definition.outgoing nodeId).filter chosen).map DurableGraphEdge.target)
    (definition.edges.length + 1)).reached

/-- `validate_reachability`. -/
def validateReachability : Except String Unit :=
  refuseIf ((definition.reachedBy (fun _ => true) definition.entryNodeId).size ≠
      definition.nodes.length) "durable graph contains an unreachable node"

/-- The check of one loop. -/
def validateLoopScope (loopNodeId : GraphNodeId) : Except String Unit := do
  let reached := definition.reachedBy (fun edge => edge.kind = .loopBody loopNodeId) loopNodeId
  refuseIf (∃ entry ∈ membership.toList, entry.2 = loopNodeId ∧ reached.contains entry.1 = false)
    "durable graph loop body is not reachable from its loop node"
  refuseIf ((definition.edges.filter fun edge =>
      edge.kind = .loopBack loopNodeId ∧ reached.contains edge.source = true).length ≠ 1)
    "durable graph loop must have exactly one explicit back-edge"

/-- `validate_loop_scopes`. -/
def validateLoopScopes : Except String Unit :=
  (index.loops.toList.map Prod.fst).forM (definition.validateLoopScope membership)

/-- How often a node may be visited. -/
def nodeVisitBound (nodeId : GraphNodeId) : Except String ℕ :=
  match membership[nodeId]? with
  | some loopNodeId =>
    require (index.loops[loopNodeId]?) "durable graph event bound lost a loop body binding"
  | none => .ok 1

/-- What a node may add to the longest history. -/
def nodeEventBound (node : DurableGraphNode) : Except String ℕ := do
  let visits ← nodeVisitBound index membership node.id
  match node.kind with
  | .task _ maxAttempts => pure (visits * (maxAttempts * 3))
  | .loop maxIterations => do
    refuseIf (membership.contains node.id = true) "durable graph nested loops are unsupported"
    pure (maxIterations * 2)
  | .join _ => do
    refuseIf (membership.contains node.id = true)
      "durable graph joins inside loop bodies are unsupported"
    pure (visits * 2)
  | .fork | .choice | .terminate _ => pure visits

/-- The bound `validate_worst_case_event_bound` computes. -/
def worstCaseEventBound : Except String ℕ :=
  definition.nodes.foldlM (fun bound node => do
    let added ← nodeEventBound index membership node
    pure (bound + added)) 1

/-- `validate_worst_case_event_bound`. -/
def validateWorstCaseEventBound : Except String Unit := do
  let bound ← definition.worstCaseEventBound index membership
  refuseIf (maxGraphEvents < bound)
    "durable graph worst-case transition history exceeds its fixed event bound"

end

/-- `validate_edges`, with the loop body members it collects. -/
def validateEdges : Except String Membership := do
  refuseIf (¬ (definition.edges.map DurableGraphEdge.id).Nodup) "durable graph repeats an edge id"
  refuseIf (¬ (definition.edges.map fun edge =>
      (edge.source, edge.target, edge.kind, edge.condition)).Nodup)
    "durable graph repeats a structural edge under another id"
  let membership ← definition.edges.foldlM (definition.validateEdge index) ∅
  definition.edges.forM (validateScope membership)
  definition.nodes.forM fun node => validateRoutes node.kind (definition.outgoing node.id)
  refuseIf (∃ node ∈ definition.nodes, 1 < (definition.incoming node.id).length ∧
      node.kind.mergesPaths = false) "only join and loop nodes may have multiple incoming edges"
  definition.nodes.forM definition.validateArrivals
  definition.validateAcyclicWithoutLoopBacks
  definition.validateReachability
  definition.validateLoopScopes index membership
  definition.validateWorstCaseEventBound index membership
  pure membership

end

/-- The branches, joins and loops of the nodes. -/
def nodeIndex : Except String NodeIndex := definition.nodes.foldlM NodeIndex.add .empty

/-- `validate`, with the index and the loop body members it collects. -/
def indexed : Except String (NodeIndex × Membership) := do
  refuseIf (definition.nodes = [] ∨ maxGraphNodes < definition.nodes.length)
    "durable graph node count is empty or exceeds its fixed bound"
  refuseIf (maxGraphEdges < definition.edges.length)
    "durable graph edge count exceeds its fixed bound"
  refuseIf (¬ isStrictlySorted (definition.nodes.map DurableGraphNode.id) ∨
      ¬ isStrictlySorted (definition.edges.map DurableGraphEdge.id))
    "durable graph nodes or edges are not in canonical id order"
  refuseIf (¬ (definition.nodes.map DurableGraphNode.id).Nodup) "durable graph repeats a node id"
  refuseIf ((definition.node? definition.entryNodeId).isNone = true)
    "durable graph entry node is unknown"
  let index ← definition.nodeIndex
  refuseIf (maxGraphBranches < index.branches.size)
    "durable graph branch count exceeds its fixed bound"
  refuseIf (index.terminationCount = 0) "durable graph has no explicit termination node"
  refuseIf (∃ node ∈ definition.nodes, ∃ required ∈ node.kind.join?,
      ∃ branchId ∈ required, index.branches.contains branchId = false)
    "durable graph join references an unknown branch"
  let membership ← definition.validateEdges index
  pure (index, membership)

def validate : Except String Unit := do
  let _ ← definition.indexed
  pure ()

end DurableGraphDefinition

end Maco.Graph
