import Maco.Sync.Path

/-!
# The concurrent assignment scheduler

`run_concurrent_assignment_schedule` starts the assignments of a plan on threads. An assignment
waits for its parent to succeed and for every active assignment to be clear of its paths; the
children of an assignment that did not succeed are suppressed. The loop is a step function on the
scheduler's state. What the loop asks of the outside (the budget, the health breaker, the pre-claim
decision, the threads and the durable records) is answered anew in every step, and nothing is
assumed about the answers.
-/

namespace Maco.Supervise

open Maco.Base Maco.Sync

/-! ## Plans and outcomes -/

/-- The fields of `OrchestratorAssignment` the scheduler reads. `mechanical` says that every Worker
of the assignment declares a mechanical duty. -/
structure OrchestratorAssignment where
  id : String
  assignedPaths : List Path
  mechanical : Bool
deriving DecidableEq, Repr, Inhabited

/-- The assignments of `SupervisorPlan`. -/
abbrev SupervisorPlan : Type := List OrchestratorAssignment

/-- The assignment at a schedule index; the scheduler's indices are those of the plan. -/
def assignmentAt (plan : SupervisorPlan) (index : ℕ) : OrchestratorAssignment :=
  plan.getD index default

/-- The fields of `AssignmentScheduleEntry` the scheduler reads. -/
structure AssignmentScheduleEntry where
  assignmentId : String
  parentAssignmentId : Option String
deriving DecidableEq, Repr

/-- `assignments_overlap`. -/
def assignmentsOverlap (left right : OrchestratorAssignment) : Bool :=
  left.assignedPaths.any fun leftPath => right.assignedPaths.any (pathsOverlap leftPath)

inductive ReviewStatus where
  | pending
  | succeeded
  | failed
  | rejected
  | missing
deriving DecidableEq, Repr

/-- The fields of `OrchestratorReviewReport` that decide whether it failed. -/
structure OrchestratorReviewReport where
  accepted : Bool
  rejected : Bool
  status : ReviewStatus
deriving DecidableEq, Repr

/-- `report_failed`. -/
def reportFailed (report : OrchestratorReviewReport) : Bool :=
  !report.accepted || report.rejected || report.status != .succeeded

inductive FindingSeverity where
  | info
  | warning
  | error
deriving DecidableEq, Repr

structure Finding where
  severity : FindingSeverity
  message : String
  paths : List Path
deriving DecidableEq, Repr

/-- The fields of `AssignmentExecutionOutcome` the scheduler reads and writes. -/
structure AssignmentExecutionOutcome where
  report : Option OrchestratorReviewReport := none
  findings : List Finding := []
  releaseErrors : List String := []
  semanticReleaseErrors : List String := []
  assignmentFailed : Bool := false
  budgetDispatchStopped : Bool := false
  externalContainmentFailed : Bool := false
  nestedQuiescenceUnknown : Bool := false
  fatalError : Option String := none
deriving DecidableEq, Repr

namespace AssignmentExecutionOutcome

/-- `authority_requires_quarantine`. -/
def authorityRequiresQuarantine (outcome : AssignmentExecutionOutcome) : Bool :=
  outcome.nestedQuiescenceUnknown || outcome.externalContainmentFailed

/-- `AssignmentExecutionOutcome::fatal`. -/
def fatal (message : String) : AssignmentExecutionOutcome := { fatalError := some message }

/-- `requires_scheduler_abort`. -/
def requiresSchedulerAbort (outcome : AssignmentExecutionOutcome) : Bool :=
  outcome.fatalError.isSome || outcome.authorityRequiresQuarantine ||
    !outcome.releaseErrors.isEmpty || !outcome.semanticReleaseErrors.isEmpty

end AssignmentExecutionOutcome

/-- `assignment_outcome_succeeded`. -/
def assignmentOutcomeSucceeded (outcome : AssignmentExecutionOutcome) : Bool :=
  !outcome.assignmentFailed && !outcome.authorityRequiresQuarantine &&
    outcome.fatalError.isNone && outcome.releaseErrors.isEmpty &&
    outcome.semanticReleaseErrors.isEmpty &&
    outcome.report.any fun report => !reportFailed report

/-- `release_concurrent_assignment`, given what the claim and intent stores answered. -/
def releaseConcurrentAssignment (outcome : AssignmentExecutionOutcome)
    (releaseErrors semanticReleaseErrors : List String) : AssignmentExecutionOutcome :=
  { outcome with
    releaseErrors, semanticReleaseErrors
    fatalError :=
      if outcome.fatalError.isNone ∧ (releaseErrors ≠ [] ∨ semanticReleaseErrors ≠ []) then
        some ("supervisor assignment cleanup failed; scheduling stopped after joining active " ++
          "assignments")
      else outcome.fatalError }

/-- `suppressed_descendant_outcome`. -/
def suppressedDescendantOutcome (assignment : OrchestratorAssignment) (parentId : String) :
    AssignmentExecutionOutcome :=
  { findings := [⟨.error, "supervisor assignment '" ++ assignment.id ++
      "' was not dispatched because parent '" ++ parentId ++ "' did not complete successfully",
      assignment.assignedPaths⟩]
    assignmentFailed := true }

inductive ViabilityFinding where
  | yes
  | no
  | unknown
deriving DecidableEq, Repr

/-- `finding_name`. -/
def ViabilityFinding.name : ViabilityFinding → String
  | .yes => "yes"
  | .no => "no"
  | .unknown => "unknown"

inductive PreclaimDisposition where
  | claim
  | park
deriving DecidableEq, Repr

/-- The fields of `PreclaimDecision` the scheduler reads. -/
structure PreclaimDecision where
  disposition : PreclaimDisposition
  limitedScope : ViabilityFinding
  clearVerificationPath : ViabilityFinding
  autonomouslyCompletable : ViabilityFinding
  reason : String
deriving DecidableEq, Repr

/-- `parked_preclaim_outcome`. -/
def parkedPreclaimOutcome (assignment : OrchestratorAssignment) (decision : PreclaimDecision) :
    AssignmentExecutionOutcome :=
  let verdict := match decision.disposition with
    | .claim => "claim"
    | .park => "park"
  { assignmentFailed := true
    findings := [⟨.error, "pre-claim viability parked '" ++ assignment.id ++ "': verdict=" ++
      verdict ++ ", limited_scope=" ++ decision.limitedScope.name ++
      ", clear_verification_path=" ++ decision.clearVerificationPath.name ++
      ", autonomously_completable=" ++ decision.autonomouslyCompletable.name ++ "; reason: " ++
      decision.reason, assignment.assignedPaths⟩] }

/-! ## The board: what is pending, active and settled -/

/-- The pending and active indices and the outcomes. -/
structure Board where
  pending : BTreeSet ℕ
  active : BTreeSet ℕ
  outcomes : BTreeMap ℕ AssignmentExecutionOutcome

namespace Board

/-- Take an index off the board. -/
def drop (board : Board) (index : ℕ) : Board :=
  { board with pending := board.pending.erase index, active := board.active.erase index }

/-- Settle an index. -/
def conclude (board : Board) (index : ℕ) (outcome : AssignmentExecutionOutcome) : Board :=
  { board.drop index with outcomes := board.outcomes.insert index outcome }

/-- Start an index. -/
def start (board : Board) (index : ℕ) : Board :=
  { board with
    pending := board.pending.erase index
    active := board.active.insert index }

end Board

inductive AssignmentAdmissionState where
  | ready
  | waiting
  | suppressed (parentAssignmentId : String)
deriving DecidableEq, Repr

/-- The schedule index of an assignment id. -/
def positionOf (schedule : List AssignmentScheduleEntry) (assignmentId : String) : Option ℕ :=
  schedule.findIdx? fun candidate => candidate.assignmentId == assignmentId

/-- `assignment_admission_state`. -/
def assignmentAdmissionState (index : ℕ) (schedule : List AssignmentScheduleEntry)
    (outcomes : BTreeMap ℕ AssignmentExecutionOutcome) :
    Except String AssignmentAdmissionState := do
  let entry ← require schedule[index]?
    "assignment admission referenced an index outside the validated schedule"
  match entry.parentAssignmentId with
  | none => pure .ready
  | some parentId =>
    let parentIndex ← require (positionOf schedule parentId)
      ("assignment '" ++ entry.assignmentId ++ "' references missing parent '" ++ parentId ++ "'")
    match outcomes[parentIndex]? with
    | none => pure .waiting
    | some outcome =>
      if assignmentOutcomeSucceeded outcome then pure .ready else pure (.suppressed parentId)

/-- The scan of `suppress_failed_descendants` for the next index to suppress. -/
def firstSuppressed (schedule : List AssignmentScheduleEntry)
    (outcomes : BTreeMap ℕ AssignmentExecutionOutcome) :
    List ℕ → Except String (Option (ℕ × String))
  | [] => pure none
  | index :: rest => do
    match ← assignmentAdmissionState index schedule outcomes with
    | .suppressed parentId => pure (some (index, parentId))
    | _ => firstSuppressed schedule outcomes rest

/-- `suppress_failed_descendants`. Every round takes an index off the pending ones, so as many
rounds as there are pending indices are enough. -/
def suppressFailedDescendants (plan : SupervisorPlan) (schedule : List AssignmentScheduleEntry)
    (record : ℕ → Except String Unit) : ℕ → Board → Board × Except String Unit
  | 0, board => (board, .ok ())
  | rounds + 1, board =>
    match firstSuppressed schedule board.outcomes board.pending.toList with
    | .error refusal => (board, .error refusal)
    | .ok none => (board, .ok ())
    | .ok (some (index, parentId)) =>
      match plan[index]? with
      | none => (board.drop index,
          .error "suppressed assignment index is outside the supervisor plan")
      | some assignment =>
        match record index with
        | .error refusal => (board.drop index, .error refusal)
        | .ok _ => suppressFailedDescendants plan schedule record rounds
            (board.conclude index (suppressedDescendantOutcome assignment parentId))

/-- `select_ready_nonoverlapping_assignment`. -/
def selectReadyNonoverlappingAssignment (plan : SupervisorPlan)
    (schedule : List AssignmentScheduleEntry)
    (outcomes : BTreeMap ℕ AssignmentExecutionOutcome) (active : List ℕ) :
    List ℕ → Except String (Option ℕ)
  | [] => pure none
  | candidate :: rest => do
    let admission ← assignmentAdmissionState candidate schedule outcomes
    if admission = .ready ∧ active.all fun activeIndex =>
        !assignmentsOverlap (assignmentAt plan candidate) (assignmentAt plan activeIndex) then
      pure (some candidate)
    else selectReadyNonoverlappingAssignment plan schedule outcomes active rest

/-! ## Budget degradation -/

inductive BudgetDegradationRung where
  | modelTier
  | effort
  | fanOut
  | exhausted
deriving DecidableEq, Repr

inductive BudgetAction where
  | continue
  | degrade
  | ownerEscalation
deriving DecidableEq, Repr

/-- The fields of `RunBudgetReport` the scheduler reads; `softCeiling` says that a soft token or
cost ceiling is among its reasons. -/
structure BudgetView where
  newDispatchAllowed : Bool
  action : BudgetAction
  softCeiling : Bool
deriving DecidableEq, Repr

/-- The fields of `BudgetDegradationController` that decide the fan-out. -/
structure BudgetDegradationController where
  rung : BudgetDegradationRung
  effectiveFanOut : ℕ
deriving DecidableEq, Repr

/-- `BudgetDegradationController::new_with_selection_state`. -/
def BudgetDegradationController.new (maxConcurrentChildren : ℕ) : BudgetDegradationController :=
  ⟨.modelTier, max maxConcurrentChildren 1⟩

/-- The answers of the model catalog and the selector while an assignment's policy is made. -/
structure PolicyAnswers where
  bindingBefore : Except String Unit
  modelTier : Except String Unit
  bindingAfter : Except String Unit
  selection : Except String Unit

/-- `BudgetDegradationController::advance`. -/
def BudgetDegradationController.advance (controller : BudgetDegradationController)
    (answers : PolicyAnswers) : Except String BudgetDegradationController := do
  answers.bindingBefore
  match controller.rung with
  | .modelTier =>
    answers.modelTier
    answers.bindingAfter
    pure { controller with rung := .effort }
  | .effort =>
    answers.bindingAfter
    pure { controller with rung := .fanOut }
  | .fanOut =>
    let halved := max (controller.effectiveFanOut / 2) 1
    if halved = controller.effectiveFanOut then pure { controller with rung := .exhausted }
    else
      answers.bindingAfter
      pure ⟨.exhausted, halved⟩
  | .exhausted => pure controller

/-- `BudgetDegradationController::assignment_policy`: whether the assignment may be dispatched, and
the controller it leaves. -/
def BudgetDegradationController.assignmentPolicy (controller : BudgetDegradationController)
    (assignment : OrchestratorAssignment) (report : BudgetView) (answers : PolicyAnswers) :
    Except String (Option BudgetDegradationController) :=
  if report.newDispatchAllowed = false ∨ report.action = .ownerEscalation then pure none
  else do
    let budgetTrigger := report.action == .degrade && report.softCeiling
    let lowDifficultyTrigger :=
      !budgetTrigger && controller.rung == .modelTier && assignment.mechanical
    let controller ←
      if lowDifficultyTrigger || (budgetTrigger && assignment.mechanical) then
        controller.advance answers
      else pure controller
    answers.selection
    pure (some controller)

/-! ## The loop -/

/-- Where the loop stands: at its head, at the head of the admission loop, joining the active
threads after the one of the given assignment ended before its admission, waiting for a completion,
or returned. -/
inductive Phase where
  | schedule
  | admission
  | joining (assignmentId : String)
  | drain
  | done (result : Except String Unit)

/-- `SchedulerProgress` and the variables of the loop. -/
structure Scheduler where
  board : Board
  controller : BudgetDegradationController
  stopScheduling : Bool
  budgetPreventedDispatch : Bool
  budgetDeniedAssignmentIndices : BTreeSet ℕ
  circuitBreakerTripped : Bool
  phase : Phase

/-- What the outside answers in one step of the loop. -/
structure Answers where
  /-- `record_shared_orchestration_event` of a suppressed index. -/
  recordSuppressed : ℕ → Except String Unit
  /-- `commit_completed_selection_prefix`. -/
  commitSelection : Except String Unit
  /-- `health_breaker.permits_admission`. -/
  permitsAdmission : Bool
  /-- `concurrent_admission_report`: the report, and whether a live grant is waited for. -/
  budget : Except String (BudgetView × Bool)
  /-- `schedule_preclaim_decision`. -/
  preclaim : Except String PreclaimDecision
  policy : PolicyAnswers
  /-- `record_assignment_started_checkpoint`. -/
  startedCheckpoint : Except String Unit
  /-- The spawn of the assignment's thread. -/
  spawn : Except String Unit
  /-- The new thread's admission commit. -/
  admissionCommit : Except String Unit
  /-- The next completed index. -/
  completion : Except String ℕ
  /-- The outcome a joined thread returned, or nothing if it panicked. -/
  join : ℕ → Option AssignmentExecutionOutcome
  /-- `record_completed_assignment_checkpoint`. -/
  completedCheckpoint : ℕ → Except String Unit
  /-- The errors of the claim store and of the intent store. -/
  releaseErrors : ℕ → List String × List String
  /-- `observe_assignment_health` trips the breaker. -/
  trips : Bool
  /-- `record_breaker_trip`. -/
  recordTrip : Except String Unit

namespace Scheduler

/-- Return an error. -/
def fail (scheduler : Scheduler) (refusal : String) : Scheduler :=
  { scheduler with phase := .done (.error refusal) }

/-- Go on to a phase when an outside step succeeded, and fail otherwise. -/
def proceed (scheduler : Scheduler) (answer : Except String Unit) (phase : Phase) : Scheduler :=
  match answer with
  | .ok _ => { scheduler with phase }
  | .error refusal => scheduler.fail refusal

/-- The budget denies the pending assignments. -/
def denyPending (scheduler : Scheduler) (prevented : Bool) : Scheduler :=
  { scheduler with
    budgetPreventedDispatch := prevented
    budgetDeniedAssignmentIndices := scheduler.board.pending.toList.foldl
      (fun denied index => denied.insert index) scheduler.budgetDeniedAssignmentIndices
    stopScheduling := true }

variable (plan : SupervisorPlan) (schedule : List AssignmentScheduleEntry) (answers : Answers)

/-- The head of the loop. -/
def schedulePass (scheduler : Scheduler) : Scheduler :=
  if scheduler.board.pending.isEmpty ∧ scheduler.board.active.isEmpty then
    { scheduler with phase := .done (.ok ()) }
  else if scheduler.stopScheduling then { scheduler with phase := .drain }
  else
    let (board, suppressed) := suppressFailedDescendants plan schedule answers.recordSuppressed
      scheduler.board.pending.size scheduler.board
    match suppressed with
    | .error refusal => { scheduler with board }.fail refusal
    | .ok _ => { scheduler with board }.proceed answers.commitSelection .admission

/-- The outcome of a joined thread. -/
def joined (index : ℕ) : AssignmentExecutionOutcome :=
  (answers.join index).getD
    (.fatal ("supervisor assignment '" ++ (assignmentAt plan index).id ++ "' thread panicked"))

/-- The outcome of a joined thread, with its claims and intents released. -/
def released (index : ℕ) : AssignmentExecutionOutcome :=
  releaseConcurrentAssignment (joined plan answers index) (answers.releaseErrors index).1
    (answers.releaseErrors index).2

/-- Join every active thread, after a thread ended before its admission. -/
def joinActive : List ℕ → Board → Board × Except String Unit
  | [], board => (board, .ok ())
  | index :: rest, board =>
    match answers.completedCheckpoint index with
    | .error refusal => (board.drop index, .error refusal)
    | .ok _ => joinActive rest (board.conclude index (released plan answers index))

/-- The step that joins every active thread and fails. -/
def joinAll (assignmentId : String) (scheduler : Scheduler) : Scheduler :=
  let (board, joinedAll) := joinActive plan answers scheduler.board.active.toList scheduler.board
  let left := { scheduler with board }
  match joinedAll, answers.commitSelection with
  | .error refusal, _ => left.fail refusal
  | .ok _, .error refusal => left.fail refusal
  | .ok _, .ok _ => left.fail ("supervisor assignment '" ++ assignmentId ++
      "' ended before committing or declining budget admission")

/-- The thread of an admitted assignment: it starts, or its spawn fails. -/
def dispatch (index : ℕ) (scheduler : Scheduler) : Scheduler :=
  let id := (assignmentAt plan index).id
  match answers.spawn with
  | .ok _ =>
    let started := { scheduler with board := scheduler.board.start index }
    match answers.admissionCommit with
    | .ok _ => { started with phase := .admission }
    | .error _ => { started with phase := .joining id }
  | .error error =>
    let left := { scheduler with
      board := scheduler.board.conclude index
        (.fatal ("failed to spawn supervisor assignment '" ++ id ++ "' thread: " ++ error))
      stopScheduling := true }
    match answers.completedCheckpoint index with
    | .error refusal => left.fail refusal
    | .ok _ => left.proceed answers.commitSelection .drain

/-- A selected assignment: it is parked, held back by the budget, or dispatched. -/
def admitSelected (report : BudgetView) (index : ℕ) (scheduler : Scheduler) : Scheduler :=
  match answers.preclaim with
  | .error refusal => scheduler.fail refusal
  | .ok decision =>
    if decision.disposition ≠ .claim then
      { scheduler with
        board := scheduler.board.conclude index
          (parkedPreclaimOutcome (assignmentAt plan index) decision) }.proceed
        answers.commitSelection .admission
    else
      match scheduler.controller.assignmentPolicy (assignmentAt plan index) report
          answers.policy with
      | .error refusal => scheduler.fail refusal
      | .ok none => { scheduler.denyPending (scheduler.budgetPreventedDispatch ||
          !scheduler.board.pending.isEmpty) with phase := .drain }
      | .ok (some controller) =>
        match answers.startedCheckpoint with
        | .error refusal =>
          { scheduler with controller, board := scheduler.board.drop index }.fail refusal
        | .ok _ => dispatch plan answers index { scheduler with controller }

/-- One round of the admission loop. -/
def admitNext (scheduler : Scheduler) : Scheduler :=
  if scheduler.controller.effectiveFanOut ≤ scheduler.board.active.size then
    { scheduler with phase := .drain }
  else if answers.permitsAdmission = false then
    { scheduler with stopScheduling := true, phase := .drain }
  else
    match answers.budget with
    | .error _ => scheduler.fail "failed to inspect run budget before concurrent admission"
    | .ok (report, waitingForLiveGrant) =>
      if report.newDispatchAllowed = false then
        if waitingForLiveGrant ∧ ¬ scheduler.board.active.isEmpty then
          { scheduler with phase := .drain }
        else
          { scheduler.denyPending (scheduler.budgetPreventedDispatch ||
              !scheduler.board.pending.isEmpty) with phase := .drain }
      else
        match selectReadyNonoverlappingAssignment plan schedule scheduler.board.outcomes
            scheduler.board.active.toList scheduler.board.pending.toList with
        | .error refusal => scheduler.fail refusal
        | .ok none => { scheduler with phase := .drain }
        | .ok (some index) => admitSelected plan answers report index scheduler

/-- What a completed assignment that does not abort the schedule changes: the health breaker may
trip and the budget may stop further dispatch. -/
def observeCompletion (outcome : AssignmentExecutionOutcome) (scheduler : Scheduler) :
    Except String Scheduler := do
  let scheduler ←
    if scheduler.circuitBreakerTripped = false ∧ answers.trips then do
      answers.recordTrip
      pure { scheduler with circuitBreakerTripped := true, stopScheduling := true }
    else pure scheduler
  let (report, waitingForLiveGrant) ← context answers.budget
    "failed to inspect run budget after concurrent dispatch"
  if outcome.budgetDispatchStopped ∨ (¬ scheduler.board.pending.isEmpty ∧
      report.newDispatchAllowed = false ∧
      (scheduler.board.active.isEmpty ∨ waitingForLiveGrant = false)) then
    pure (scheduler.denyPending true)
  else pure scheduler

/-- A completed index: its thread is joined, its claims are released and its outcome is recorded. -/
def settle (index : ℕ) (scheduler : Scheduler) : Scheduler :=
  let outcome := released plan answers index
  let gone := { scheduler with board := scheduler.board.drop index }
  match answers.completedCheckpoint index with
  | .error refusal => gone.fail refusal
  | .ok _ =>
    match (if outcome.requiresSchedulerAbort then pure { gone with stopScheduling := true }
        else observeCompletion answers outcome gone : Except String Scheduler) with
    | .error refusal => gone.fail refusal
    | .ok observed =>
      { observed with board := scheduler.board.conclude index outcome }.proceed
        answers.commitSelection .schedule

/-- The wait for the next completion. -/
def drainNext (scheduler : Scheduler) : Scheduler :=
  if scheduler.board.active.isEmpty then
    if scheduler.board.pending.isEmpty ∨ scheduler.stopScheduling then
      { scheduler with phase := .done (.ok ()) }
    else scheduler.fail
      "supervisor scheduler could not select a hierarchy-ready pending assignment"
  else
    match answers.completion with
    | .error _ => scheduler.fail "supervisor assignment completion channel closed"
    | .ok index =>
      if index ∈ scheduler.board.active then settle plan answers index scheduler
      else scheduler.fail "supervisor completion referenced an inactive assignment"

/-- One step of `run_concurrent_assignment_schedule`. -/
def step (scheduler : Scheduler) (answers : Answers) : Scheduler :=
  match scheduler.phase with
  | .schedule => schedulePass plan schedule answers scheduler
  | .admission => admitNext plan schedule answers scheduler
  | .joining assignmentId => joinAll plan answers assignmentId scheduler
  | .drain => drainNext plan answers scheduler
  | .done _ => scheduler

/-- The scheduler before its first step. -/
def initial (maxConcurrentChildren : ℕ) : Scheduler where
  board := ⟨BTreeSet.ofList (List.range plan.length), ∅, ∅⟩
  controller := .new maxConcurrentChildren
  stopScheduling := false
  budgetPreventedDispatch := false
  budgetDeniedAssignmentIndices := ∅
  circuitBreakerTripped := false
  phase := .schedule

/-- The scheduler after a sequence of steps, each with its own answers. -/
def run (maxConcurrentChildren : ℕ) (answers : List Answers) : Scheduler :=
  answers.foldl (step plan schedule) (initial plan maxConcurrentChildren)

end Scheduler

end Maco.Supervise
