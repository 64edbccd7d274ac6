import Maco.Supervise.Scheduler

/-!
# Concurrent scheduling is exclusive and hierarchical

Whatever the outside answers, a step of the scheduler either clears the board, by taking an index
off, rejecting a pending one or settling an active one, or starts one pending index whose parent
succeeded and whose paths are clear of the active ones. The starts of a run are read off its states.
Over every run the active assignments are clear of each other, every index is started and settled at
most once, and an assignment is started only after its parent succeeded, so never below one that did
not. The fan-out is compared before the admission, which may halve it: an assignment is started
within the fan-out in force when no halving reaches the number of active assignments.
-/

namespace Maco.Supervise

open Maco.Base Maco.Sync List

variable {plan : SupervisorPlan} {schedule : List AssignmentScheduleEntry}

/-! ## The board -/

namespace Board

variable (board : Board) (index other : ℕ) (outcome : AssignmentExecutionOutcome)

@[simp] theorem mem_pending_drop :
    other ∈ (board.drop index).pending ↔ index ≠ other ∧ other ∈ board.pending := by
  simp only [drop, Std.ExtTreeSet.mem_erase, ne_eq, compare_eq_iff_eq]

@[simp] theorem mem_active_drop :
    other ∈ (board.drop index).active ↔ index ≠ other ∧ other ∈ board.active := by
  simp only [drop, Std.ExtTreeSet.mem_erase, ne_eq, compare_eq_iff_eq]

@[simp] theorem mem_pending_conclude :
    other ∈ (board.conclude index outcome).pending ↔ index ≠ other ∧ other ∈ board.pending :=
  board.mem_pending_drop index other

@[simp] theorem mem_active_conclude :
    other ∈ (board.conclude index outcome).active ↔ index ≠ other ∧ other ∈ board.active :=
  board.mem_active_drop index other

@[simp] theorem mem_pending_start :
    other ∈ (board.start index).pending ↔ index ≠ other ∧ other ∈ board.pending :=
  board.mem_pending_drop index other

@[simp] theorem mem_active_start :
    other ∈ (board.start index).active ↔ index = other ∨ other ∈ board.active := by
  simp only [start, BTreeSet.mem_insert]

@[simp] theorem mem_outcomes_conclude :
    other ∈ (board.conclude index outcome).outcomes ↔ index = other ∨ other ∈ board.outcomes := by
  simp only [conclude, drop, Std.ExtTreeMap.mem_insert, compare_eq_iff_eq]

@[simp] theorem outcomes_start : (board.start index).outcomes = board.outcomes := rfl

end Board

/-- The parent of a scheduled index, if it has one, has an outcome that succeeded. -/
def ParentSucceeded (schedule : List AssignmentScheduleEntry)
    (outcomes : BTreeMap ℕ AssignmentExecutionOutcome) (index : ℕ) : Prop :=
  ∃ entry, schedule[index]? = some entry ∧ ∀ parentId, entry.parentAssignmentId = some parentId →
    ∃ (parent : ℕ) (outcome : AssignmentExecutionOutcome),
      positionOf schedule parentId = some parent ∧ outcomes[parent]? = some outcome ∧
        assignmentOutcomeSucceeded outcome = true

/-- What a step that starts nothing does to the board. -/
inductive Clears (board : Board) : Board → Prop where
  /-- An index is taken off the board without an outcome. -/
  | drop (index : ℕ) : Clears board (board.drop index)
  /-- A pending index is suppressed, parked or not spawned. -/
  | reject {index : ℕ} {outcome : AssignmentExecutionOutcome} (pending : index ∈ board.pending)
      (failed : assignmentOutcomeSucceeded outcome = false) :
      Clears board (board.conclude index outcome)
  /-- An active index is settled. -/
  | settle {index : ℕ} {outcome : AssignmentExecutionOutcome} (active : index ∈ board.active) :
      Clears board (board.conclude index outcome)

/-- An admission that starts an index. -/
structure Admits (plan : SupervisorPlan) (schedule : List AssignmentScheduleEntry)
    (before after : Scheduler) (answers : Answers) (index : ℕ) : Prop where
  pending : index ∈ before.board.pending
  ready : ParentSucceeded schedule before.board.outcomes index
  clear : ∀ other ∈ before.board.active,
    assignmentsOverlap (assignmentAt plan index) (assignmentAt plan other) = false
  room : before.board.active.size < before.controller.effectiveFanOut
  board : after.board = before.board.start index
  /-- The index was selected under a report by which the policy decided. -/
  policy : ∃ report waiting, answers.budget = .ok (report, waiting) ∧
    selectReadyNonoverlappingAssignment plan schedule before.board.outcomes
      before.board.active.toList before.board.pending.toList = .ok (some index) ∧
    before.controller.assignmentPolicy (assignmentAt plan index) report answers.policy =
      .ok (some after.controller)

variable {index : ℕ} {outcomes : BTreeMap ℕ AssignmentExecutionOutcome}

/-- An index that is ready has a parent that succeeded, or none. -/
theorem assignmentAdmissionState_ready
    (ready : assignmentAdmissionState index schedule outcomes = .ok .ready) :
    ParentSucceeded schedule outcomes index := by
  simp only [assignmentAdmissionState, ok_iff] at ready
  obtain ⟨entry, scheduled, admitted⟩ := ready
  refine ⟨entry, scheduled, ?_⟩
  intro parentId named
  simp only [named, ok_iff] at admitted
  obtain ⟨parent, position, admitted⟩ := admitted
  refine ⟨parent, ?_⟩
  split at admitted
  case h_1 => cases admitted
  case h_2 outcome settled =>
    split at admitted
    case isTrue succeeded => exact ⟨outcome, position, settled, succeeded⟩
    case isFalse => cases admitted

/-- An index the scan finds is pending. -/
theorem firstSuppressed_mem {parentId : String} (pending : List ℕ)
    (found : firstSuppressed schedule outcomes pending = .ok (some (index, parentId))) :
    index ∈ pending := by
  induction pending with
  | nil => cases found
  | cons candidate rest ih =>
    simp only [firstSuppressed, bind_ok] at found
    obtain ⟨admission, -, found⟩ := found
    split at found
    · rw [pure_ok, Option.some.injEq, Prod.mk.injEq] at found
      exact found.1 ▸ mem_cons_self
    · exact mem_cons_of_mem _ (ih found)

/-- A selected index is pending, ready, and clear of the active ones. -/
theorem selectReady_ok {active : List ℕ} (pending : List ℕ)
    (selected : selectReadyNonoverlappingAssignment plan schedule outcomes active pending =
      .ok (some index)) :
    index ∈ pending ∧ assignmentAdmissionState index schedule outcomes = .ok .ready ∧
      ∀ other ∈ active,
        assignmentsOverlap (assignmentAt plan index) (assignmentAt plan other) = false := by
  induction pending with
  | nil => cases selected
  | cons candidate rest ih =>
    simp only [selectReadyNonoverlappingAssignment, bind_ok] at selected
    obtain ⟨admission, admitted, selected⟩ := selected
    split at selected
    case isTrue holds =>
      rw [pure_ok, Option.some.injEq] at selected
      subst selected
      obtain ⟨rfl, clear⟩ := holds
      refine ⟨mem_cons_self, admitted, ?_⟩
      simpa using clear
    case isFalse =>
      obtain ⟨member, rest⟩ := ih selected
      exact ⟨mem_cons_of_mem _ member, rest⟩

/-- Suppression clears the board. -/
theorem suppressFailedDescendants_clears (plan : SupervisorPlan)
    (schedule : List AssignmentScheduleEntry) (record : ℕ → Except String Unit) (rounds : ℕ)
    (board : Board) : Relation.ReflTransGen Clears board
      (suppressFailedDescendants plan schedule record rounds board).1 := by
  induction rounds generalizing board with
  | zero => exact .refl
  | succ rounds ih =>
    unfold suppressFailedDescendants
    split
    · exact .refl
    · exact .refl
    · rename_i index parentId found
      have pending := firstSuppressed_mem _ found
      rw [BTreeSet.mem_toList] at pending
      split
      · exact .single (.drop index)
      · split
        · exact .single (.drop index)
        · exact (ih _).head (.reject pending rfl)

/-- Joining the active threads clears the board. -/
theorem joinActive_clears (plan : SupervisorPlan) (answers : Answers) (indices : List ℕ)
    (board : Board) (distinct : indices.Nodup) (active : ∀ index ∈ indices, index ∈ board.active) :
    Relation.ReflTransGen Clears board (Scheduler.joinActive plan answers indices board).1 := by
  induction indices generalizing board with
  | nil => exact .refl
  | cons index rest ih =>
    rw [nodup_cons] at distinct
    unfold Scheduler.joinActive
    split
    · exact .single (.drop index)
    · refine (ih _ distinct.2 ?_).head (.settle (active index mem_cons_self))
      intro other member
      rw [Board.mem_active_conclude]
      exact ⟨fun same => distinct.1 (same ▸ member), active other (mem_cons_of_mem _ member)⟩

/-! ## Steps -/

/-- Under the report the policy of the assignment takes the last rung, which halves the fan-out. -/
def Halves (controller : BudgetDegradationController) (assignment : OrchestratorAssignment)
    (report : BudgetView) : Prop :=
  controller.rung = .fanOut ∧ report.action = .degrade ∧ report.softCeiling = true ∧
    assignment.mechanical = true

instance (controller : BudgetDegradationController) (assignment : OrchestratorAssignment)
    (report : BudgetView) : Decidable (Halves controller assignment report) :=
  inferInstanceAs (Decidable (_ ∧ _))

section

variable {controller next : BudgetDegradationController}

/-- Advancing halves the fan-out at its rung and keeps it at the others. -/
theorem advance_fanOut {answers : PolicyAnswers}
    (advanced : controller.advance answers = .ok next) :
    next.effectiveFanOut = if controller.rung = .fanOut then max (controller.effectiveFanOut / 2) 1
      else controller.effectiveFanOut := by
  simp only [BudgetDegradationController.advance, bind_ok] at advanced
  obtain ⟨_, -, advanced⟩ := advanced
  split at advanced
  case h_3 rung =>
    rw [if_pos rung]
    split at advanced
    case isTrue same =>
      rw [pure_ok] at advanced
      rw [← advanced, same]
    case isFalse =>
      simp only [ok_iff] at advanced
      obtain ⟨_, -, rfl⟩ := advanced
      rfl
  all_goals
    rename_i rung
    rw [rung, if_neg (by decide)]
    simp only [ok_iff] at advanced
    grind

/-- A policy halves the fan-out or keeps it. -/
theorem assignmentPolicy_fanOut {assignment : OrchestratorAssignment} {report : BudgetView}
    {answers : PolicyAnswers}
    (decided : controller.assignmentPolicy assignment report answers = .ok (some next)) :
    next.effectiveFanOut = if Halves controller assignment report then
      max (controller.effectiveFanOut / 2) 1 else controller.effectiveFanOut := by
  unfold BudgetDegradationController.assignmentPolicy at decided
  split at decided
  case isTrue => cases decided
  case isFalse =>
    dsimp only at decided
    split at decided
    case isTrue triggered =>
      simp only [ok_iff, Option.some.injEq] at decided
      obtain ⟨left, advanced, _, -, rfl⟩ := decided
      rw [advance_fanOut advanced]
      by_cases rung : controller.rung = .fanOut
      · simp_all [Halves]
      · rw [if_neg rung, if_neg fun halves => rung halves.1]
    case isFalse calm =>
      simp only [ok_iff, Option.some.injEq] at decided
      obtain ⟨left, rfl, _, -, rfl⟩ := decided
      rw [if_neg]
      rintro ⟨rung, degrades, soft, mechanical⟩
      simp_all

end

namespace Scheduler

@[simp] theorem fail_board (scheduler : Scheduler) (refusal : String) :
    (scheduler.fail refusal).board = scheduler.board := rfl

@[simp] theorem proceed_board (scheduler : Scheduler) (answer : Except String Unit)
    (phase : Phase) : (scheduler.proceed answer phase).board = scheduler.board := by
  cases answer <;> rfl

/-- The head of the loop clears the board. -/
theorem schedulePass_clears (answers : Answers) (scheduler : Scheduler) :
    Relation.ReflTransGen Clears scheduler.board
      (schedulePass plan schedule answers scheduler).board := by
  unfold schedulePass
  split
  · exact .refl
  · split
    · exact .refl
    · have moved := suppressFailedDescendants_clears plan schedule answers.recordSuppressed
        scheduler.board.pending.size scheduler.board
      dsimp only
      split
      · rw [fail_board]
        exact moved
      · rw [proceed_board]
        exact moved

/-- Joining all threads clears the board. -/
theorem joinAll_clears (answers : Answers) (assignmentId : String) (scheduler : Scheduler) :
    Relation.ReflTransGen Clears scheduler.board
      (joinAll plan answers assignmentId scheduler).board := by
  have moved := joinActive_clears plan answers scheduler.board.active.toList scheduler.board
    ((BTreeSet.sorted_toList _).imp ne_of_lt) fun other member => BTreeSet.mem_toList.mp member
  unfold joinAll
  dsimp only
  split <;> exact moved

/-- One round of admission clears the board or starts an index. -/
theorem admitNext_cases (answers : Answers) (scheduler : Scheduler) :
    Relation.ReflTransGen Clears scheduler.board
        (admitNext plan schedule answers scheduler).board ∨
      ∃ index, Admits plan schedule scheduler (admitNext plan schedule answers scheduler) answers
        index := by
  unfold admitNext
  split
  case isTrue => exact .inl .refl
  case isFalse full =>
  split
  case isTrue => exact .inl .refl
  case isFalse =>
  split
  case h_1 => exact .inl .refl
  case h_2 report waiting budget =>
  split
  · split <;> exact .inl .refl
  · split
    case h_1 => exact .inl .refl
    case h_2 => exact .inl .refl
    case h_3 index selected =>
      obtain ⟨pending, ready, clear⟩ := selectReady_ok _ selected
      rw [BTreeSet.mem_toList] at pending
      unfold admitSelected
      split
      case h_1 => exact .inl .refl
      case h_2 decision _ =>
      split
      · rw [proceed_board]
        exact .inl (.single (.reject pending rfl))
      · split
        case h_1 => exact .inl .refl
        case h_2 => exact .inl .refl
        case h_3 controller decided =>
        split
        · exact .inl (.single (.drop index))
        · unfold dispatch
          dsimp only
          split
          · refine .inr ⟨index, pending, assignmentAdmissionState_ready ready,
              fun other member => clear other (BTreeSet.mem_toList.mpr member), not_le.mp full, ?_,
              report, waiting, budget, selected, ?_⟩
            · split <;> rfl
            · split <;> exact decided
          · refine .inl (.single ?_)
            split
            · exact .reject pending rfl
            · rw [proceed_board]
              exact .reject pending rfl

/-- The wait for a completion clears the board. -/
theorem drainNext_clears (answers : Answers) (scheduler : Scheduler) :
    Relation.ReflTransGen Clears scheduler.board (drainNext plan answers scheduler).board := by
  unfold drainNext
  split
  · split <;> exact .refl
  · split
    case h_1 => exact .refl
    case h_2 index _ =>
    split
    case isFalse => exact .refl
    case isTrue active =>
      unfold settle
      dsimp only
      split
      · exact .single (.drop index)
      · split
        · exact .single (.drop index)
        · rw [proceed_board]
          exact .single (.settle active)

/-- Every step clears the board or starts an index. -/
theorem step_cases (plan : SupervisorPlan) (schedule : List AssignmentScheduleEntry)
    (scheduler : Scheduler) (answers : Answers) :
    Relation.ReflTransGen Clears scheduler.board (step plan schedule scheduler answers).board ∨
      ∃ index, Admits plan schedule scheduler (step plan schedule scheduler answers) answers
        index := by
  unfold step
  split
  · exact .inl (schedulePass_clears answers scheduler)
  · exact admitNext_cases answers scheduler
  · exact .inl (joinAll_clears answers _ scheduler)
  · exact .inl (drainNext_clears answers scheduler)
  · exact .inl .refl

end Scheduler

/-! ## The invariant -/

/-- What every reached board satisfies. -/
structure Orderly (plan : SupervisorPlan) (schedule : List AssignmentScheduleEntry)
    (board : Board) : Prop where
  /-- Active assignments have no overlapping paths. -/
  clear : ∀ index ∈ board.active, ∀ other ∈ board.active, index ≠ other →
    assignmentsOverlap (assignmentAt plan index) (assignmentAt plan other) = false
  pendingFresh : ∀ index ∈ board.pending, index ∉ board.active ∧ board.outcomes[index]? = none
  activeFresh : ∀ index ∈ board.active, board.outcomes[index]? = none
  /-- The parent of an active index succeeded, and of one that succeeded itself. -/
  activeParent : ∀ index ∈ board.active, ParentSucceeded schedule board.outcomes index
  parent : ∀ (index : ℕ) outcome, board.outcomes[index]? = some outcome →
    assignmentOutcomeSucceeded outcome = true → ParentSucceeded schedule board.outcomes index

/-- What a later board keeps of an earlier one: no index becomes pending, and no outcome changes. -/
structure Keeps (before after : Board) : Prop where
  pending : ∀ index ∈ after.pending, index ∈ before.pending
  outcomes : ∀ (index : ℕ) outcome, before.outcomes[index]? = some outcome →
    after.outcomes[index]? = some outcome

theorem Keeps.refl (board : Board) : Keeps board board := ⟨fun _ => id, fun _ _ => id⟩

theorem Keeps.trans {first second third : Board} (one : Keeps first second)
    (two : Keeps second third) : Keeps first third :=
  ⟨fun index => one.pending index ∘ two.pending index,
    fun index outcome => two.outcomes index outcome ∘ one.outcomes index outcome⟩

/-- A parent that succeeded is one whatever else is settled. -/
theorem ParentSucceeded.keep {before after : Board} (keeps : Keeps before after)
    (succeeded : ParentSucceeded schedule before.outcomes index) :
    ParentSucceeded schedule after.outcomes index := by
  obtain ⟨entry, scheduled, parents⟩ := succeeded
  refine ⟨entry, scheduled, ?_⟩
  intro parentId named
  obtain ⟨parent, outcome, position, known, success⟩ := parents parentId named
  exact ⟨parent, outcome, position, keeps.outcomes parent outcome known, success⟩

/-- The overlap of assignments does not depend on their order. -/
theorem assignmentsOverlap_comm (left right : OrchestratorAssignment) :
    assignmentsOverlap left right = assignmentsOverlap right left := by
  rw [Bool.eq_iff_iff]
  simp only [assignmentsOverlap, any_eq_true]
  constructor
  · rintro ⟨path, member, other, otherMember, overlap⟩
    exact ⟨other, otherMember, path, member, pathsOverlap_comm path other ▸ overlap⟩
  · rintro ⟨path, member, other, otherMember, overlap⟩
    exact ⟨other, otherMember, path, member, pathsOverlap_comm path other ▸ overlap⟩

variable {board next : Board}

/-- Settling an index without an outcome keeps the others. -/
theorem Board.keeps_conclude (outcome : AssignmentExecutionOutcome)
    (fresh : board.outcomes[index]? = none) : Keeps board (board.conclude index outcome) := by
  refine ⟨fun other waits => ((board.mem_pending_conclude index other outcome).mp waits).2, ?_⟩
  intro other found known
  exact (BTreeMap.get_insert_fresh fresh).mpr (.inl known)

section

variable (orderly : Orderly plan schedule board)

include orderly

/-- Taking an index off keeps the board orderly. -/
theorem Orderly.drop (index : ℕ) : Orderly plan schedule (board.drop index) where
  __ := orderly
  clear := by
    intro first active second activeToo
    rw [Board.mem_active_drop] at active activeToo
    exact orderly.clear first active.2 second activeToo.2
  pendingFresh := by
    intro other waits
    rw [Board.mem_pending_drop] at waits
    obtain ⟨inactive, unsettled⟩ := orderly.pendingFresh other waits.2
    exact ⟨fun active => inactive ((board.mem_active_drop index other).mp active).2, unsettled⟩
  activeFresh := fun other active =>
    orderly.activeFresh other ((board.mem_active_drop index other).mp active).2
  activeParent := fun other active =>
    orderly.activeParent other ((board.mem_active_drop index other).mp active).2

/-- Settling an index that has no outcome keeps the board orderly. -/
theorem Orderly.conclude {outcome : AssignmentExecutionOutcome}
    (fresh : board.outcomes[index]? = none)
    (parent : assignmentOutcomeSucceeded outcome = true →
      ParentSucceeded schedule board.outcomes index) :
    Orderly plan schedule (board.conclude index outcome) := by
  have keeps := Board.keeps_conclude outcome fresh
  have unsettled (other : ℕ) (different : index ≠ other) (before : board.outcomes[other]? = none) :
      (board.conclude index outcome).outcomes[other]? = none :=
    (BTreeMap.get_insert_of_ne _ _ different).trans before
  constructor
  case clear => exact (orderly.drop index).clear
  case pendingFresh =>
    intro other waits
    have dropped := (orderly.drop index).pendingFresh other waits
    exact ⟨dropped.1, unsettled other ((board.mem_pending_conclude ..).mp waits).1 dropped.2⟩
  case activeFresh =>
    intro other active
    rw [Board.mem_active_conclude] at active
    exact unsettled other active.1 (orderly.activeFresh other active.2)
  case activeParent =>
    intro other active
    rw [Board.mem_active_conclude] at active
    exact (orderly.activeParent other active.2).keep keeps
  case parent =>
    intro other found known success
    refine ParentSucceeded.keep keeps ?_
    rcases (BTreeMap.get_insert_fresh fresh).mp known with known | same
    · exact orderly.parent other found known success
    · obtain ⟨rfl, rfl⟩ := Prod.mk.inj same
      exact parent success

/-- Starting a ready index that is clear of the active ones keeps the board orderly. -/
theorem Orderly.start (pending : index ∈ board.pending)
    (ready : ParentSucceeded schedule board.outcomes index)
    (clear : ∀ other ∈ board.active,
      assignmentsOverlap (assignmentAt plan index) (assignmentAt plan other) = false) :
    Orderly plan schedule (board.start index) where
  __ := orderly
  clear := by
    intro first active second activeToo different
    rw [Board.mem_active_start] at active activeToo
    obtain rfl | active := active
    · obtain same | activeToo := activeToo
      · exact absurd same different
      · exact clear second activeToo
    · obtain rfl | activeToo := activeToo
      · rw [assignmentsOverlap_comm]
        exact clear first active
      · exact orderly.clear first active second activeToo different
  pendingFresh := by
    intro other waits
    rw [Board.mem_pending_start] at waits
    obtain ⟨inactive, unsettled⟩ := orderly.pendingFresh other waits.2
    exact ⟨fun active => ((board.mem_active_start index other).mp active).elim waits.1 inactive,
      unsettled⟩
  activeFresh := by
    intro other active
    obtain rfl | active := (board.mem_active_start index other).mp active
    · exact (orderly.pendingFresh index pending).2
    · exact orderly.activeFresh other active
  activeParent := by
    intro other active
    obtain rfl | active := (board.mem_active_start index other).mp active
    · exact ready
    · exact orderly.activeParent other active

/-- What clears an orderly board keeps it orderly, keeps its outcomes and starts nothing. -/
theorem Orderly.clears (clears : Relation.ReflTransGen Clears board next) :
    Orderly plan schedule next ∧ Keeps board next ∧
      ∀ index ∈ next.active, index ∈ board.active := by
  induction clears with
  | refl => exact ⟨orderly, .refl _, fun _ => id⟩
  | @tail middle last _ move ih =>
    obtain ⟨held, keeps, fewer⟩ := ih
    cases move with
    | drop index =>
      refine ⟨held.drop index, keeps.trans ⟨fun other waits => ?_, fun _ _ => id⟩,
        fun other active => ?_⟩
      · exact ((middle.mem_pending_drop index other).mp waits).2
      · exact fewer other ((middle.mem_active_drop index other).mp active).2
    | @reject index outcome pending failed =>
      have fresh := (held.pendingFresh index pending).2
      refine ⟨held.conclude fresh fun success => ?_,
        keeps.trans (Board.keeps_conclude outcome fresh),
        fun other active => fewer other ((middle.mem_active_conclude ..).mp active).2⟩
      rw [failed] at success
      cases success
    | @settle index outcome active =>
      have fresh := held.activeFresh index active
      exact ⟨held.conclude fresh fun _ => held.activeParent index active,
        keeps.trans (Board.keeps_conclude outcome fresh),
        fun other active => fewer other ((middle.mem_active_conclude ..).mp active).2⟩

end

/-- Every step keeps the board orderly, its outcomes, and what is not pending. -/
theorem Orderly.step {scheduler : Scheduler} (orderly : Orderly plan schedule scheduler.board)
    (answers : Answers) :
    Orderly plan schedule (scheduler.step plan schedule answers).board ∧
      Keeps scheduler.board (scheduler.step plan schedule answers).board := by
  rcases scheduler.step_cases plan schedule answers with clears | ⟨index, admits⟩
  · exact ⟨(orderly.clears clears).1, (orderly.clears clears).2.1⟩
  · rw [admits.board]
    exact ⟨orderly.start admits.pending admits.ready admits.clear,
      fun other waits => ((Board.mem_pending_start ..).mp waits).2, fun _ _ => id⟩

namespace Scheduler

variable (plan : SupervisorPlan) (schedule : List AssignmentScheduleEntry) {scheduler : Scheduler}

/-- The board stays orderly over a sequence of steps, and keeps its outcomes. -/
theorem foldl_orderly (orderly : Orderly plan schedule scheduler.board) (answers : List Answers) :
    Orderly plan schedule (answers.foldl (step plan schedule) scheduler).board ∧
      Keeps scheduler.board (answers.foldl (step plan schedule) scheduler).board :=
  foldlRecOn (motive := fun last : Scheduler => Orderly plan schedule last.board ∧
      Keeps scheduler.board last.board) answers _ ⟨orderly, .refl _⟩ fun _ held answer _ =>
    ⟨(held.1.step answer).1, held.2.trans (held.1.step answer).2⟩

theorem initial_orderly (maxConcurrentChildren : ℕ) :
    Orderly plan schedule (initial plan maxConcurrentChildren).board := by
  constructor <;> simp [initial]

/-- The board of every run is orderly. -/
theorem run_orderly (maxConcurrentChildren : ℕ) (answers : List Answers) :
    Orderly plan schedule (run plan schedule maxConcurrentChildren answers).board :=
  (foldl_orderly plan schedule (initial_orderly plan schedule _) answers).1

/-- Outcomes are final: a recorded one is neither lost nor replaced later in a run. -/
theorem run_outcomes_final (plan : SupervisorPlan)
    (schedule : List AssignmentScheduleEntry) (maxConcurrentChildren : ℕ)
    (answers later : List Answers) (index : ℕ) :
    let board := (run plan schedule maxConcurrentChildren answers).board
    board.outcomes[index]? = none ∨
      (run plan schedule maxConcurrentChildren (answers ++ later)).board.outcomes[index]? =
        board.outcomes[index]? := by
  intro board
  cases known : board.outcomes[index]? with
  | none => exact .inl rfl
  | some outcome =>
    rw [run, foldl_append]
    exact .inr ((foldl_orderly plan schedule (run_orderly plan schedule _ answers) later).2.outcomes
      index outcome known)

end Scheduler

/-! ## Starts -/

/-- A start: the index, the scheduler before and after the step that made it active, and what the
outside answered in that step. -/
structure Start where
  index : ℕ
  before : Scheduler
  answers : Answers
  after : Scheduler

namespace Scheduler

variable (plan : SupervisorPlan) (schedule : List AssignmentScheduleEntry)

/-- The starts of a step. -/
def newStarts (scheduler : Scheduler) (answers : Answers) : List Start :=
  let after := step plan schedule scheduler answers
  (after.board.active.toList.filter (· ∉ scheduler.board.active)).map
    (⟨·, scheduler, answers, after⟩)

/-- The starts of a sequence of steps, in order. -/
def starts : Scheduler → List Answers → List Start
  | _, [] => []
  | scheduler, answer :: rest =>
    newStarts plan schedule scheduler answer ++ starts (step plan schedule scheduler answer) rest

/-- The starts of a run. -/
def runStarts (maxConcurrentChildren : ℕ) (answers : List Answers) : List Start :=
  starts plan schedule (initial plan maxConcurrentChildren) answers

variable {plan schedule} {scheduler : Scheduler} {start : Start}

/-- What a step starts it admits. -/
theorem admits_of_mem_newStarts (orderly : Orderly plan schedule scheduler.board)
    {answers : Answers} (started : start ∈ newStarts plan schedule scheduler answers) :
    start.before = scheduler ∧ start.answers = answers ∧
      start.after = step plan schedule scheduler answers ∧
      Admits plan schedule start.before start.after start.answers start.index := by
  simp only [newStarts, mem_map, mem_filter, BTreeSet.mem_toList, decide_eq_true_eq] at started
  obtain ⟨index, ⟨active, inactive⟩, rfl⟩ := started
  refine ⟨rfl, rfl, rfl, ?_⟩
  rcases step_cases plan schedule scheduler answers with clears | ⟨other, admits⟩
  · exact absurd ((orderly.clears clears).2.2 index active) inactive
  · have same : other = index := by
      rw [admits.board, Board.mem_active_start] at active
      exact active.resolve_right inactive
    exact same ▸ admits

/-- A start of a sequence of steps is an admission at one of them. -/
theorem admits_of_mem_starts (orderly : Orderly plan schedule scheduler.board)
    {answers : List Answers} (started : start ∈ starts plan schedule scheduler answers) :
    ∃ earlier later, answers = earlier ++ start.answers :: later ∧
      start.before = earlier.foldl (step plan schedule) scheduler ∧
      Admits plan schedule start.before start.after start.answers start.index := by
  induction answers generalizing scheduler with
  | nil => cases started
  | cons answer rest ih =>
    rw [starts, mem_append] at started
    rcases started with now | later
    · obtain ⟨before, rfl, -, admits⟩ := admits_of_mem_newStarts orderly now
      exact ⟨[], rest, rfl, before, admits⟩
    · obtain ⟨earlier, after, rfl, before, admits⟩ := ih (orderly.step answer).1 later
      exact ⟨answer :: earlier, after, rfl, before, admits⟩

/-- What is started was pending, and is started once. -/
theorem starts_once (orderly : Orderly plan schedule scheduler.board) (answers : List Answers) :
    ((starts plan schedule scheduler answers).map Start.index).Nodup ∧
      ∀ start ∈ starts plan schedule scheduler answers, start.index ∈ scheduler.board.pending := by
  induction answers generalizing scheduler with
  | nil => exact ⟨nodup_nil, fun _ started => nomatch started⟩
  | cons answer rest ih =>
    obtain ⟨orderlyNext, keeps⟩ := orderly.step answer
    obtain ⟨once, waited⟩ := ih orderlyNext
    rw [starts, map_append, nodup_append]
    refine ⟨⟨?_, once, ?_⟩, ?_⟩
    · rw [newStarts, map_map]
      exact Nodup.map (fun _ _ => id)
        (((BTreeSet.sorted_toList _).imp ne_of_lt).filter _)
    · intro first begun second begunLater same
      obtain ⟨start, started, rfl⟩ := mem_map.mp begun
      obtain ⟨later, startedLater, rfl⟩ := mem_map.mp begunLater
      obtain ⟨-, -, after, admits⟩ := admits_of_mem_newStarts orderly started
      -- The first is no longer pending after the step, the second is.
      have pending := waited later startedLater
      rw [← after, admits.board, Board.mem_pending_start] at pending
      exact pending.1 same
    · intro start started
      rcases mem_append.mp started with started | later
      · obtain ⟨rfl, -, -, admits⟩ := admits_of_mem_newStarts orderly started
        exact admits.pending
      · exact keeps.pending _ (waited start later)

end Scheduler

/-! ## The hierarchy -/

/-- One scheduled index is the parent of another. -/
def ParentOf (schedule : List AssignmentScheduleEntry) (parent child : ℕ) : Prop :=
  ∃ entry parentId, schedule[child]? = some entry ∧ entry.parentAssignmentId = some parentId ∧
    positionOf schedule parentId = some parent

/-- One scheduled index is a transitive descendant of another. -/
abbrev DescendantOf (schedule : List AssignmentScheduleEntry) (ancestor index : ℕ) : Prop :=
  Relation.TransGen (ParentOf schedule) ancestor index

theorem ParentSucceeded.outcome {parent : ℕ} (succeeded : ParentSucceeded schedule outcomes index)
    (parentOf : ParentOf schedule parent index) :
    ∃ outcome, outcomes[parent]? = some outcome ∧ assignmentOutcomeSucceeded outcome = true := by
  obtain ⟨entry, scheduled, parents⟩ := succeeded
  obtain ⟨sameEntry, parentId, scheduledToo, named, position⟩ := parentOf
  rw [scheduled, Option.some.injEq] at scheduledToo
  obtain ⟨found, outcome, positionToo, known, success⟩ := parents parentId (scheduledToo ▸ named)
  rw [position, Option.some.injEq] at positionToo
  exact ⟨outcome, positionToo ▸ known, success⟩

/-- Every ancestor of an index whose parent succeeded has succeeded. -/
theorem Orderly.ancestor_succeeded (orderly : Orderly plan schedule board) {ancestor : ℕ}
    (below : DescendantOf schedule ancestor index)
    (succeeded : ParentSucceeded schedule board.outcomes index) :
    ∃ outcome, board.outcomes[ancestor]? = some outcome ∧
      assignmentOutcomeSucceeded outcome = true := by
  induction below with
  | single parentOf => exact succeeded.outcome parentOf
  | tail _ parentOf ih =>
    obtain ⟨outcome, known, success⟩ := succeeded.outcome parentOf
    exact ih (orderly.parent _ outcome known success)

namespace Scheduler

variable (plan : SupervisorPlan) (schedule : List AssignmentScheduleEntry)
  (maxConcurrentChildren : ℕ) (answers : List Answers)

/-- The schedule of a run is exclusive and hierarchical. -/
structure Exclusive : Prop where
  /-- Active assignments have no overlapping paths. -/
  clear : let active := (run plan schedule maxConcurrentChildren answers).board.active
    ∀ index ∈ active, ∀ other ∈ active, index ≠ other →
      assignmentsOverlap (assignmentAt plan index) (assignmentAt plan other) = false
  startedOnce : ((runStarts plan schedule maxConcurrentChildren answers).map Start.index).Nodup
  /-- An index that got its outcome gets no other. -/
  outcomeOnce : ∀ earlier later, answers = earlier ++ later → ∀ (index : ℕ) outcome,
    (run plan schedule maxConcurrentChildren earlier).board.outcomes[index]? = some outcome →
    (run plan schedule maxConcurrentChildren answers).board.outcomes[index]? = some outcome
  /-- An assignment with a parent is started after an outcome of the parent that succeeded. -/
  parentFirst : ∀ start ∈ runStarts plan schedule maxConcurrentChildren answers,
    ParentSucceeded schedule start.before.board.outcomes start.index
  /-- Nothing below an assignment that did not succeed is started. -/
  noDescendant : ∀ (ancestor : ℕ) outcome,
    (run plan schedule maxConcurrentChildren answers).board.outcomes[ancestor]? = some outcome →
    assignmentOutcomeSucceeded outcome = false →
    ∀ start ∈ runStarts plan schedule maxConcurrentChildren answers,
      ¬ DescendantOf schedule ancestor start.index

/-- Every assignment is started while fewer are active than the effective fan-out. -/
def WithinFanOut : Prop :=
  ∀ start ∈ runStarts plan schedule maxConcurrentChildren answers,
    start.before.board.active.size < start.after.controller.effectiveFanOut

variable {maxConcurrentChildren answers}

/-- An admission that halves the fan-out finds fewer active assignments than the half: read off the
budget report, the assignment it selects, the rung, the fan-out and the active count. -/
def HalvingFits (scheduler : Scheduler) (answers : Answers) : Prop :=
  ∀ report waiting index, answers.budget = .ok (report, waiting) →
    selectReadyNonoverlappingAssignment plan schedule scheduler.board.outcomes
      scheduler.board.active.toList scheduler.board.pending.toList = .ok (some index) →
    Halves scheduler.controller (assignmentAt plan index) report →
    scheduler.board.active.size < max (scheduler.controller.effectiveFanOut / 2) 1

variable {plan schedule}

/-- A start is within the fan-out exactly when its halving fits. -/
theorem within_iff_halvingFits {before after : Scheduler} {answers : Answers}
    (admits : Admits plan schedule before after answers index) :
    before.board.active.size < after.controller.effectiveFanOut ↔
      HalvingFits plan schedule before answers := by
  obtain ⟨report, waiting, budget, selected, decided⟩ := admits.policy
  rw [assignmentPolicy_fanOut decided]
  constructor
  · intro within report' waiting' index' budget' selected' halves
    obtain ⟨rfl, -⟩ := Prod.mk.inj (Except.ok.inj (budget.symm.trans budget'))
    obtain rfl := Option.some.inj (Except.ok.inj (selected.symm.trans selected'))
    rwa [if_pos halves] at within
  · intro fits
    split
    · exact fits report waiting index budget selected ‹_›
    · exact admits.room

/-- Nothing below an assignment that did not succeed in the end was started. -/
theorem run_noDescendant {start : Start} {ancestor : ℕ} {outcome : AssignmentExecutionOutcome}
    (known : (run plan schedule maxConcurrentChildren answers).board.outcomes[ancestor]? =
      some outcome) (failed : assignmentOutcomeSucceeded outcome = false)
    (started : start ∈ runStarts plan schedule maxConcurrentChildren answers) :
    ¬ DescendantOf schedule ancestor start.index := by
  intro below
  obtain ⟨earlier, later, rfl, before, admits⟩ :=
    admits_of_mem_starts (initial_orderly plan schedule _) started
  have orderly := run_orderly plan schedule maxConcurrentChildren earlier
  rw [run, ← before] at orderly
  obtain ⟨found, foundThen, success⟩ := orderly.ancestor_succeeded below admits.ready
  have kept := (foldl_orderly plan schedule orderly (start.answers :: later)).2
  rw [run, foldl_append, ← before, kept.outcomes ancestor found foundThen,
    Option.some.injEq] at known
  rw [known, failed] at success
  cases success

/-- Over every run of the scheduler, whatever the outside answers and in whatever order assignments
finish, the schedule is exclusive and hierarchical. It stays within the effective fan-out exactly
when the halving of every admission that starts an assignment fits, so in every run at each step of
which a halving would fit. -/
theorem run_exclusive_iff (plan : SupervisorPlan) (schedule : List AssignmentScheduleEntry)
    (maxConcurrentChildren : ℕ) (answers : List Answers) :
    Exclusive plan schedule maxConcurrentChildren answers ∧
    (WithinFanOut plan schedule maxConcurrentChildren answers ↔
      ∀ start ∈ runStarts plan schedule maxConcurrentChildren answers,
        HalvingFits plan schedule start.before start.answers) ∧
    ((∀ earlier answer later, answers = earlier ++ answer :: later →
        HalvingFits plan schedule (run plan schedule maxConcurrentChildren earlier) answer) →
      WithinFanOut plan schedule maxConcurrentChildren answers) := by
  have orderly := initial_orderly plan schedule maxConcurrentChildren
  have admitted {start : Start}
      (started : start ∈ runStarts plan schedule maxConcurrentChildren answers) :=
    admits_of_mem_starts orderly started
  refine ⟨?_, ?_, ?_⟩
  · constructor
    case clear => exact (run_orderly plan schedule _ answers).clear
    case startedOnce => exact (starts_once orderly answers).1
    case outcomeOnce =>
      rintro earlier later rfl index outcome known
      rw [run, foldl_append]
      exact (foldl_orderly plan schedule (run_orderly plan schedule _ earlier) later).2.outcomes
        index outcome known
    case parentFirst =>
      intro start started
      obtain ⟨-, -, -, -, admits⟩ := admitted started
      exact admits.ready
    case noDescendant =>
      intro ancestor outcome known failed start started
      exact run_noDescendant known failed started
  · refine forall₂_congr fun start started => ?_
    obtain ⟨-, -, -, -, admits⟩ := admitted started
    exact within_iff_halvingFits admits
  · intro fits start started
    obtain ⟨earlier, later, split, before, admits⟩ := admitted started
    have fitsHere := fits earlier start.answers later split
    rw [run, ← before] at fitsHere
    exact (within_iff_halvingFits admits).mpr fitsHere

end Scheduler

/-! ## No assignment is lost -/

/-- An index is pending, active or settled. -/
def Board.Knows (board : Board) (index : ℕ) : Prop :=
  index ∈ board.pending ∨ index ∈ board.active ∨ index ∈ board.outcomes

theorem Board.Knows.conclude (known : board.Knows index) {other : ℕ}
    (outcome : AssignmentExecutionOutcome) : (board.conclude other outcome).Knows index := by
  by_cases same : other = index <;> simp_all [Knows]

theorem Board.Knows.start (known : board.Knows index) {other : ℕ} :
    (board.start other).Knows index := by
  by_cases same : other = index <;> simp_all [Knows]

/-- Suppression loses an index only when it fails. -/
theorem suppressFailedDescendants_knows (plan : SupervisorPlan)
    (schedule : List AssignmentScheduleEntry) (record : ℕ → Except String Unit) (rounds : ℕ)
    (known : board.Knows index)
    (passed : (suppressFailedDescendants plan schedule record rounds board).2 = .ok ()) :
    (suppressFailedDescendants plan schedule record rounds board).1.Knows index := by
  induction rounds generalizing board with
  | zero => exact known
  | succ rounds ih =>
    unfold suppressFailedDescendants at passed ⊢
    split at passed
    · cases passed
    · exact known
    · split at passed
      · cases passed
      · split at passed
        · cases passed
        · exact ih (known.conclude _) passed

namespace Scheduler

/-- A scheduler that has not failed knows the index; once it returned, the index is settled, or
still pending after scheduling was stopped. -/
def Accounts (index : ℕ) (scheduler : Scheduler) : Prop :=
  match scheduler.phase with
  | .done (.error _) => True
  | .done (.ok _) => index ∈ scheduler.board.outcomes ∨
      scheduler.stopScheduling = true ∧ index ∈ scheduler.board.pending
  | _ => scheduler.board.Knows index

/-- Every step accounts for it: a branch fails, keeps the board, or settles or starts an index. -/
theorem step_accounts {scheduler : Scheduler} (held : scheduler.Accounts index)
    (answers : Answers) : (step plan schedule scheduler answers).Accounts index := by
  have absent {indices : BTreeSet ℕ} (empty : indices.isEmpty = true) : index ∉ indices :=
    Std.ExtTreeSet.eq_empty_iff_forall_not_mem.mp (Std.ExtTreeSet.isEmpty_iff.mp empty) index
  unfold step
  split
  case h_5 => exact held
  all_goals
    rename_i phase
    have known : scheduler.board.Knows index := by simpa only [Accounts, phase] using held
  · unfold schedulePass proceed
    split
    case isTrue empty =>
      exact .inl ((known.resolve_left (absent empty.1)).resolve_left (absent empty.2))
    case isFalse =>
      have kept := suppressFailedDescendants_knows plan schedule answers.recordSuppressed
        scheduler.board.pending.size known
      dsimp only
      repeat' split
      all_goals first | trivial | exact known | exact kept ‹_›
  · unfold admitNext admitSelected dispatch proceed
    dsimp only
    repeat' split
    all_goals first | trivial | exact known | exact known.conclude _ | exact known.start
  · unfold joinAll
    dsimp only
    split <;> trivial
  · unfold drainNext settle proceed
    split
    case isTrue inactive =>
      split
      case isTrue ended =>
        rcases known with pending | active | settled
        · exact .inr ⟨ended.resolve_left fun empty => absent empty pending, pending⟩
        · exact absurd active (absent inactive)
        · exact .inl settled
      case isFalse => trivial
    case isFalse =>
      dsimp only
      repeat' split
      all_goals first | trivial | exact known.conclude _

/-- No assignment is lost: a run that has not failed has each one pending, active or settled, and a
run that returned has settled each one that was not pending when scheduling was stopped. -/
theorem run_accounts (plan : SupervisorPlan) (schedule : List AssignmentScheduleEntry)
    (maxConcurrentChildren : ℕ) (answers : List Answers) (index : Fin plan.length) :
    (run plan schedule maxConcurrentChildren answers).Accounts index := by
  refine foldlRecOn (motive := Accounts index) answers _ (.inl ?_)
    fun scheduler held answer _ => step_accounts held answer
  exact BTreeSet.mem_ofList.mpr (mem_range.mpr index.isLt)

end Scheduler

/-! ## Runs -/

/-- Three assignments with mechanical duties and paths clear of each other. -/
def trio : SupervisorPlan :=
  [⟨"a", [[.normal "a"]], true⟩, ⟨"b", [[.normal "b"]], true⟩, ⟨"c", [[.normal "c"]], true⟩]

/-- The schedule of the trio: no assignment has a parent. -/
def trioSchedule : List AssignmentScheduleEntry := [⟨"a", none⟩, ⟨"b", none⟩, ⟨"c", none⟩]

/-- An outside that accepts everything under a given budget report. -/
def accepting (report : BudgetView) : Answers where
  recordSuppressed := fun _ => .ok ()
  commitSelection := .ok ()
  permitsAdmission := true
  budget := .ok (report, false)
  preclaim := .ok ⟨.claim, .yes, .yes, .yes, ""⟩
  policy := ⟨.ok (), .ok (), .ok (), .ok ()⟩
  startedCheckpoint := .ok ()
  spawn := .ok ()
  admissionCommit := .ok ()
  completion := .ok 0
  join := fun _ => some { report := some ⟨true, false, .succeeded⟩ }
  completedCheckpoint := fun _ => .ok ()
  releaseErrors := fun _ => ([], [])
  trips := false
  recordTrip := .ok ()

/-- A budget below its ceilings lets two of the three run at a time, and the third after one of them
is settled. -/
theorem Scheduler.run_exclusive_iff_calm :
    let answers := List.replicate 8 (accepting ⟨true, .continue, false⟩)
    (runStarts trio trioSchedule 2 answers).map (fun start =>
        (start.index, start.before.board.active.size, start.after.controller.effectiveFanOut)) =
      [(0, 0, 2), (1, 1, 2), (2, 1, 2)] ∧
    Exclusive trio trioSchedule 2 answers ∧ WithinFanOut trio trioSchedule 2 answers := by
  intro answers
  obtain ⟨exclusive, -, within⟩ := run_exclusive_iff trio trioSchedule 2 answers
  refine ⟨by decide +kernel, exclusive, within ?_⟩
  rintro earlier answer later split report waiting index budget - ⟨-, degrades, -⟩
  have member : answer ∈ answers := split ▸ mem_append_right earlier mem_cons_self
  obtain rfl := eq_of_mem_replicate member
  cases budget
  cases degrades

/-- Under a soft ceiling the third admission halves the fan-out from three to one and starts its
assignment beside two active ones. -/
theorem Scheduler.run_starts_beyond_fanOut :
    ¬ WithinFanOut trio trioSchedule 3
      (List.replicate 4 (accepting ⟨true, .degrade, true⟩)) := by
  unfold WithinFanOut
  decide +kernel

end Maco.Supervise
