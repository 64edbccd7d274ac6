import Maco.Graph.Transition

/-!
# Graph runs are append-only and end clean

Along a run the attempts of a branch only grow, the attempts of a visit are numbered from one with a
retryable failure before each later one, and a join result stays what the final outcomes of its
branches make it. A run that ends in its termination event leaves no visit unrouted, no attempt in
progress and no retry due.
-/

namespace Maco.Graph

open Maco.Base BTreeMap List

/-- A join of an accepted definition waits for two branches at least. -/
theorem DurableGraphDefinition.two_le_join {definition : DurableGraphDefinition}
    {nodeId : GraphNodeId} {branches : List GraphBranchId}
    (accepted : definition.validate = .ok done)
    (found : definition.kind? nodeId = some (.join branches)) : 2 ≤ branches.length := by
  simp only [DurableGraphDefinition.validate, DurableGraphDefinition.indexed, ok_iff] at accepted
  obtain ⟨_, ⟨-, -, -, -, -, index, indexed, -⟩, -⟩ := accepted
  obtain ⟨node, listed, kind⟩ := Option.map_eq_some_iff.mp found
  refine foldlM_invariant (fun nodes (_ : NodeIndex) => ∀ node ∈ nodes, ∀ branches,
    node.kind = .join branches → 2 ≤ branches.length) ?_ (by simp) indexed node
    (mem_of_find?_eq_some listed) branches kind
  intro nodes node index next before added
  refine forall_mem_append.mpr ⟨before, forall_mem_singleton.mpr fun branches kind => ?_⟩
  simp only [NodeIndex.add, kind, ok_iff, not_or, not_lt] at added
  exact added.1.1

/-! ## The attempts of one visit -/

/-- The attempts recorded for one visit. -/
def visitAttempts (attempts : List BranchAttemptRecord) (visit : ℕ) : List BranchAttemptRecord :=
  attempts.filter fun record => record.visit = visit

/-- The attempts of a visit once one more is recorded. -/
theorem visitAttempts_append (attempts : List BranchAttemptRecord) (record : BranchAttemptRecord)
    (visit : ℕ) : visitAttempts (attempts ++ [record]) visit =
      visitAttempts attempts visit ++ if record.visit = visit then [record] else [] := by
  simp only [visitAttempts, filter_append, filter_singleton, Bool.cond_decide]

/-- The order of the attempts of a history: those of a visit are numbered from one, all but the last
are retryable failures, and only the last visit may be open. -/
structure Numbered (attempts : List BranchAttemptRecord) : Prop where
  numbers : ∀ visit, (visitAttempts attempts visit).map BranchAttemptRecord.attempt =
    List.range' 1 (visitAttempts attempts visit).length
  retried : ∀ visit, ∀ record ∈ (visitAttempts attempts visit).dropLast,
    record.outcome.outcomeClass = .retryableFailure
  ordered : ∀ last ∈ attempts.getLast?, ∀ record ∈ attempts, record.visit ≤ last.visit
  past : ∀ last ∈ attempts.getLast?, ∀ visit, visit ≠ last.visit →
    ∀ record ∈ (visitAttempts attempts visit).getLast?,
      record.outcome.outcomeClass ≠ .retryableFailure

variable {attempts : List BranchAttemptRecord}

variable {last : BranchAttemptRecord}

/-- The last record is the last one of its visit. -/
theorem visitAttempts_last (found : attempts.getLast? = some last) :
    (visitAttempts attempts last.visit).getLast? = some last := by
  obtain ⟨before, rfl⟩ := getLast?_eq_some_iff.mp found
  rw [visitAttempts_append, if_pos rfl, getLast?_concat]

/-- The number of the last record of a visit is how many it has. -/
theorem Numbered.last_number
    (numbered : Numbered attempts) (found : attempts.getLast? = some last) :
    last.attempt = (visitAttempts attempts last.visit).length := by
  obtain ⟨before, split⟩ := getLast?_eq_some_iff.mp (visitAttempts_last found)
  have numbers := numbered.numbers last.visit
  rw [split, map_append, map_singleton, length_append, length_singleton, range'_concat] at numbers
  have same := (append_inj' numbers rfl).2
  rw [split, length_append, length_singleton]
  simp only [List.cons.injEq, and_true] at same
  omega

variable {record : BranchAttemptRecord}

/-- A record keeps the attempts in order when it takes the next number of its visit after retryable
failures, no later visit is recorded, and the other visits are over. -/
theorem Numbered.extend (numbered : Numbered attempts)
    (number : record.attempt = (visitAttempts attempts record.visit).length + 1)
    (latest : ∀ earlier ∈ attempts, earlier.visit ≤ record.visit)
    (failed : ∀ earlier ∈ visitAttempts attempts record.visit,
      earlier.outcome.outcomeClass = .retryableFailure)
    (ended : ∀ visit, visit ≠ record.visit → ∀ last ∈ (visitAttempts attempts visit).getLast?,
      last.outcome.outcomeClass ≠ .retryableFailure) : Numbered (attempts ++ [record]) := by
  constructor
  case numbers =>
    intro visit
    rw [visitAttempts_append]
    by_cases same : record.visit = visit
    · subst same
      rw [if_pos rfl, map_append, numbered.numbers, length_append,
        length_singleton, range'_concat, map_singleton, number]
      simp [Nat.add_comm]
    · simp [same, numbered.numbers]
  case retried =>
    intro visit
    rw [visitAttempts_append]
    by_cases same : record.visit = visit
    · subst same
      rw [if_pos rfl, dropLast_concat]
      exact failed
    · simpa [same] using numbered.retried visit
  case ordered =>
    intro final isFinal
    have same : record = final := by simpa using isFinal
    subst same
    exact forall_mem_append.mpr ⟨latest, forall_mem_singleton.mpr le_rfl⟩
  case past =>
    intro final isFinal visit different
    have same : record = final := by simpa using isFinal
    subst same
    rw [visitAttempts_append, if_neg (Ne.symm different), append_nil]
    exact ended visit different

/-- A record that comes next keeps the attempts in order. -/
theorem Numbered.append
    (numbered : Numbered attempts) (follows : record.Follows attempts.getLast?) :
    Numbered (attempts ++ [record]) := by
  cases found : attempts.getLast? with
  | none =>
    have empty : attempts = [] := getLast?_eq_none_iff.mp found
    subst empty
    rw [found] at follows
    exact numbered.extend (by simp [visitAttempts, follows.2]) (by simp) (by simp [visitAttempts])
      (by simp [visitAttempts])
  | some last =>
    have below := numbered.ordered last found
    rw [found] at follows
    unfold BranchAttemptRecord.Follows at follows
    dsimp only at follows
    split at follows
    case isTrue retryable =>
      -- The visit goes on: the record takes the next number after a retryable failure.
      obtain ⟨visit, attempt, -⟩ := follows
      obtain ⟨before, split⟩ := getLast?_eq_some_iff.mp (visitAttempts_last found)
      have earlier := numbered.retried last.visit
      rw [split, dropLast_concat] at earlier
      refine numbered.extend ?_ (visit ▸ below) ?_ (visit ▸ numbered.past last found)
      · rw [visit, attempt, numbered.last_number found]
      · rw [visit, split]
        exact forall_mem_append.mpr ⟨earlier, forall_mem_singleton.mpr retryable⟩
    case isFalse settled =>
      -- The visit is over: the record opens the next one.
      obtain ⟨visit, attempt, -⟩ := follows
      have fresh : visitAttempts attempts record.visit = [] := by
        rw [visitAttempts, filter_eq_nil_iff]
        intro earlier listed
        have latest := below earlier listed
        have apart : earlier.visit ≠ record.visit := by omega
        simpa using apart
      refine numbered.extend ?_ ?_ (by simp [fresh]) ?_
      · rw [fresh, attempt, length_nil]
      · intro earlier listed
        have latest := below earlier listed
        omega
      · intro other _
        by_cases here : other = last.visit
        · rw [here, visitAttempts_last found]
          simpa using settled
        · exact numbered.past last found other here

/-- A contiguous history is in order. -/
theorem Contiguous.numbered
    (contiguous : Contiguous maxAttempts none attempts) : Numbered attempts := by
  induction attempts using List.reverseRecOn with
  | nil => exact ⟨by simp [visitAttempts], by simp [visitAttempts], by simp, by simp⟩
  | append_singleton attempts record ih =>
    obtain ⟨earlier, -, follows⟩ := contiguous_append.mp contiguous
    rw [Option.or_none] at follows
    exact (ih earlier).append follows

/-! ## What a run keeps -/

variable {nodeId : GraphNodeId} {next : DurableGraphRuntimeState}

namespace DurableGraphRuntimeState

/-- A branch whose visits are all routed and whose last outcome is final. -/
structure Settled (state : DurableGraphRuntimeState) (branch : BranchRuntimeState) : Prop where
  routed : state.routedVisits[branch.nodeId]? = state.nodeVisits[branch.nodeId]?
  terminal : ∃ visit, state.nodeVisits[branch.nodeId]? = some visit ∧
    branch.isTerminalForVisit visit

/-- The last recorded outcome of a branch is a success. -/
def succeeded (state : DurableGraphRuntimeState) (branchId : GraphBranchId) : Prop :=
  ∃ branch ∈ state.branches[branchId]?, ∃ last ∈ branch.attempts.getLast?,
    last.outcome.outcomeClass = .success

instance (state : DurableGraphRuntimeState) (branchId : GraphBranchId) :
    Decidable (state.succeeded branchId) :=
  inferInstanceAs (Decidable (∃ branch ∈ state.branches[branchId]?,
    ∃ last ∈ branch.attempts.getLast?, _))

variable {state : DurableGraphRuntimeState}

variable {branchId : GraphBranchId}

/-- A counted branch is settled, and a success when its last outcome is one. -/
theorem countSuccess_ok {successes result : ℕ}
    (counted : state.countSuccess successes branchId = .ok result) :
    (∃ branch, state.branches[branchId]? = some branch ∧ state.Settled branch) ∧
      result = if state.succeeded branchId then successes + 1 else successes := by
  simp only [countSuccess, ok_iff, not_or, not_not] at counted
  obtain ⟨branch, found, visit, visited, routed, routedEntry, ⟨terminal, rfl⟩, rfl⟩ := counted
  have same : branch.successfulOutcome.isSome = true ↔ state.succeeded branchId := by
    simp only [succeeded, found, BranchRuntimeState.successfulOutcome, Option.mem_some_iff,
      exists_eq_left']
    cases branch.attempts.getLast? with
    | none => simp
    | some last =>
      cases outcome : last.outcome <;> simp [outcome, BranchOutcome.outcomeClass]
  refine ⟨⟨branch, found, ⟨routedEntry.trans visited.symm, ⟨_, visited, terminal⟩⟩⟩, ?_⟩
  simp only [same]

variable {result : FanInResult}

/-- A derived fan-in has settled branches and comes from the successes among them. -/
theorem deriveFanInResult_ok (derived : state.deriveFanInResult branchIds = .ok result) :
    (∀ branchId ∈ branchIds, ∃ branch, state.branches[branchId]? = some branch ∧
      state.Settled branch) ∧
        result = fanIn (branchIds.countP fun branchId => state.succeeded branchId)
          branchIds.length := by
  simp only [deriveFanInResult, ok_iff] at derived
  obtain ⟨total, folded, rfl⟩ := derived
  have tracked := foldlM_invariant (fun ids total => (∀ branchId ∈ ids, ∃ branch,
    state.branches[branchId]? = some branch ∧ state.Settled branch) ∧
      total = ids.countP fun branchId => state.succeeded branchId) (by
    rintro ids branchId _ next ⟨settled, rfl⟩ counted
    obtain ⟨first, rfl⟩ := countSuccess_ok counted
    refine ⟨forall_mem_append.mpr ⟨settled, forall_mem_singleton.mpr first⟩, ?_⟩
    rw [countP_append, countP_singleton]
    simp only [decide_eq_true_eq]
    split <;> rfl) (by simp) folded
  exact ⟨tracked.1, by rw [tracked.2]⟩

/-- What a run keeps from one of its states to a later one: attempts are only added, and a resolved
join keeps its result and the branches it was resolved from. -/
structure AppendOnly (state final : DurableGraphRuntimeState) : Prop where
  definition : final.definition = state.definition
  attempts : ∀ (branchId : GraphBranchId) branch,
    state.branches[branchId]? = some branch → ∃ grown, final.branches[branchId]? = some grown ∧
      branch.attempts <+: grown.attempts
  joins : ∀ (nodeId : GraphNodeId) result,
    state.joins[nodeId]? = some result → final.joins[nodeId]? = some result
  fanIn : ∀ (nodeId : GraphNodeId) result (branches : List GraphBranchId),
    state.joins[nodeId]? = some result → state.definition.kind? nodeId = some (.join branches) →
      ∀ branchId ∈ branches, final.branches[branchId]? = state.branches[branchId]?

theorem AppendOnly.refl (state : DurableGraphRuntimeState) : state.AppendOnly state :=
  ⟨rfl, fun _ branch found => ⟨branch, found, prefix_rfl⟩, fun _ _ found => found,
    fun _ _ _ _ _ _ _ => rfl⟩

variable {branch : BranchRuntimeState}

/-- The branches of a resolved join are settled. -/
theorem Valid.settled (valid : state.Valid) {branches : List GraphBranchId}
    (resolved : state.joins[nodeId]? = some result)
    (kind : state.definition.kind? nodeId = some (.join branches)) (member : branchId ∈ branches)
    (found : state.branches[branchId]? = some branch) : state.Settled branch := by
  obtain ⟨required, isJoin, -, derived⟩ := valid.joins nodeId result resolved
  have same : required = branches := by
    rw [kind] at isJoin
    simpa using isJoin.symm
  subst same
  obtain ⟨other, held, settled⟩ := (deriveFanInResult_ok derived).1 branchId member
  rw [found] at held
  cases held
  exact settled

/-- A settled branch is not at an unrouted visit. -/
theorem Settled.not_current
    (settled : state.Settled branch) : ¬ state.AtVisit branch.nodeId visit := by
  rintro ⟨visits, ⟨routed, found, rfl⟩, -⟩
  have same := settled.routed
  rw [visits, found] at same
  simp at same

/-- A move keeps what is recorded. -/
theorem Moves.appendOnly {event : DurableGraphEvent}
    (valid : state.Valid) (moves : Moves state event next) : state.AppendOnly next := by
  -- A branch event changes one branch, which is not one of a resolved join.
  have changed : ∀ (branchId : GraphBranchId) (branch changed : BranchRuntimeState),
      state.branches[branchId]? = some branch → branch.attempts <+: changed.attempts →
        ¬ state.Settled branch → state.AppendOnly { state with
          branches := state.branches.insert branchId changed } := by
    intro branchId branch changed found grows unsettled
    refine ⟨rfl, ?_, fun _ _ found => found, ?_⟩
    · intro otherId other held
      by_cases same : branchId = otherId
      · subst same
        rw [found] at held
        cases held
        exact ⟨changed, get_insert_self _ _ _, grows⟩
      · exact ⟨other, (get_insert_of_ne _ _ same).trans held, prefix_rfl⟩
    · intro nodeId result branches resolved kind otherId member
      apply get_insert_of_ne
      rintro rfl
      exact unsettled (valid.settled resolved kind member found)
  cases moves with
  | start found cursor positive bound idle unmarked scheduled current =>
    exact changed _ _ _ found prefix_rfl fun settled => settled.not_current current
  | complete accepted found started bound =>
    refine changed _ _ _ found (prefix_append _ _) ?_
    intro settled
    obtain ⟨visit, -, idle, -⟩ := settled.terminal
    rw [started] at idle
    cases idle
  | retry found idle unmarked cursor bound ends current =>
    exact changed _ _ _ found prefix_rfl fun settled => settled.not_current current
  | resolve unresolved reached kind arrived derived =>
    refine ⟨rfl, fun _ branch found => ⟨branch, found, prefix_rfl⟩, ?_, fun _ _ _ _ _ _ _ => rfl⟩
    intro nodeId result resolved
    refine (get_insert_of_ne _ _ ?_).trans resolved
    rintro rfl
    rw [unresolved] at resolved
    cases resolved
  | iterate | terminate =>
    exact ⟨rfl, fun _ branch found => ⟨branch, found, prefix_rfl⟩, fun _ _ found => found,
      fun _ _ _ _ _ _ _ => rfl⟩
  | select selects =>
    have framed := framed_walk selects.walk
    refine ⟨framed.definition, ?_, ?_, ?_⟩
    · intro branchId branch found
      exact ⟨branch, by rw [departed, framed.branches, found], prefix_rfl⟩
    · intro nodeId result resolved
      rw [departed, framed.joins, resolved]
    · intro nodeId result branches resolved kind branchId member
      rw [departed, framed.branches]

/-- What is kept twice is kept. -/
theorem AppendOnly.trans {first second third : DurableGraphRuntimeState}
    (before : first.AppendOnly second) (after : second.AppendOnly third) :
    first.AppendOnly third where
  definition := after.definition.trans before.definition
  attempts := by
    intro branchId branch found
    obtain ⟨middle, held, grows⟩ := before.attempts branchId branch found
    obtain ⟨last, kept, more⟩ := after.attempts branchId middle held
    exact ⟨last, kept, grows.trans more⟩
  joins := fun nodeId result resolved =>
    after.joins nodeId result (before.joins nodeId result resolved)
  fanIn := by
    intro nodeId result branches resolved kind branchId member
    have later := after.fanIn nodeId result branches (before.joins nodeId result resolved)
      (before.definition ▸ kind) branchId member
    exact later.trans (before.fanIn nodeId result branches resolved kind branchId member)

end DurableGraphRuntimeState

open DurableGraphRuntimeState

variable {events : List DurableGraphEvent} {state : DurableGraphRuntimeState}

/-- A run keeps what is recorded at each of its states. -/
theorem run_appendOnly {later : List DurableGraphEvent}
    {final : DurableGraphRuntimeState} (run : graphRun events = .ok (some state))
    (extended : graphRun (events ++ later) = .ok (some final)) : state.AppendOnly final := by
  induction later using List.reverseRecOn generalizing final with
  | nil =>
    rw [append_nil, run] at extended
    cases extended
    exact .refl state
  | append_singleton later event ih =>
    rw [← append_assoc] at extended
    obtain ⟨before, _, earlier, applied, same⟩ := graphRun_append extended
    cases same
    cases before with
    | none =>
      have start := (append_eq_nil_iff.mp (graphRun_none earlier)).1
      subst start
      cases run
    | some before =>
      obtain ⟨-, moved, moves, -, rfl⟩ := applyGraphEvent_ok applied
      have kept := moves.appendOnly (run_valid earlier)
      have counted : before.AppendOnly moved.counted := { kept with }
      exact (ih earlier).trans counted

/-! ## The end of a run -/

variable {branch : BranchRuntimeState} {branchId : GraphBranchId}

namespace DurableGraphRuntimeState

/-- A branch whose last outcome is a retryable failure has not routed the visit of that attempt. -/
def RetriesUnrouted (state : DurableGraphRuntimeState) : Prop :=
  ∀ (branchId : GraphBranchId) branch,
    state.branches[branchId]? = some branch → branch.endsRetryable →
      state.routed branch.nodeId < lastHistoryVisit branch

/-- A new graph has no attempts. -/
theorem opening_attempts {definition : DurableGraphDefinition}
    (found : (opening definition).branches[branchId]? = some branch) : branch.attempts = [] := by
  revert branchId branch
  refine List.foldlRecOn (motive := fun state : DurableGraphRuntimeState =>
    ∀ {branchId : GraphBranchId} {branch : BranchRuntimeState},
      state.branches[branchId]? = some branch → branch.attempts = []) _ _ ?_ ?_
  · intro branchId branch found
    simp [blank] at found
  · intro state empty node _ branchId branch found
    unfold register at found
    cases kind : node.kind with
    | task =>
      rw [kind] at found
      rcases get_insert_cases found with ⟨-, rfl⟩ | ⟨-, old⟩
      · rfl
      · exact empty old
    | fork | choice | join | loop | terminate =>
      rw [kind] at found
      exact empty found

/-- The routed visits once a visit of a source is routed. -/
theorem routed_departed (state : DurableGraphRuntimeState) (sourceNodeId nodeId : GraphNodeId)
    (visit : ℕ) : (state.departed sourceNodeId visit).routed nodeId =
      if sourceNodeId = nodeId then visit else state.routed nodeId := by
  simp only [departed, DurableGraphRuntimeState.routed, get_insert]
  split <;> simp

/-- A branch may change when its retries stay unrouted. -/
theorem RetriesUnrouted.insert (unrouted : state.RetriesUnrouted)
    (here : branch.endsRetryable → state.routed branch.nodeId < lastHistoryVisit branch) :
    { state with branches := state.branches.insert branchId branch }.RetriesUnrouted := by
  intro otherId other held ends
  rcases get_insert_cases held with ⟨-, rfl⟩ | ⟨-, old⟩
  · exact here ends
  · exact unrouted otherId other old ends

/-- A move keeps retries unrouted. -/
theorem Moves.retriesUnrouted
    (valid : state.Valid) (unrouted : state.RetriesUnrouted) (moves : Moves state event next) :
    next.RetriesUnrouted := by
  cases moves with
  | @start _ _ _ branch found => exact unrouted.insert (unrouted _ branch found)
  | @complete _ visit _ _ branch _ found started =>
    refine unrouted.insert fun ends => ?_
    -- An attempt in progress is one of the current, unrouted visit.
    have current := (valid.branches _ branch found).inProgress _ started
    have same : visit = state.visits branch.nodeId := current.1
    simp only [lastHistoryVisit, getLast?_concat, Option.map_some, Option.getD_some]
    rw [same]
    exact current.2
  | @retry _ _ _ branch found => exact unrouted.insert (unrouted _ branch found)
  | resolve | iterate => exact unrouted
  | @select sourceNodeId visit edgeIds selected walked selects =>
    have framed := framed_walk selects.walk
    intro branchId branch found ends
    have held : state.branches[branchId]? = some branch := framed.branches ▸ found
    rw [routed_departed]
    split
    case isTrue same =>
      -- A task is routed only once its last outcome is final.
      obtain ⟨kind, isKind, complete⟩ := selects.complete
      have bound := (valid.branches branchId branch held).bound
      rw [← same, isKind, Option.some.injEq] at bound
      subst bound
      obtain ⟨other, otherFound, terminal⟩ := complete
      rw [held, Option.some.injEq] at otherFound
      subst otherFound
      obtain ⟨last, isLast, retryable⟩ := ends
      obtain ⟨-, -, final, isFinal, -, settled⟩ := terminal
      rw [Option.mem_def] at isLast isFinal
      rw [isLast, Option.some.injEq] at isFinal
      exact absurd retryable (isFinal ▸ settled)
    case isFalse different =>
      have same : walked.routed branch.nodeId = state.routed branch.nodeId := by
        rw [DurableGraphRuntimeState.routed, framed.routedVisits, DurableGraphRuntimeState.routed]
      rw [same]
      exact unrouted branchId branch held ends
  | @terminate nodeId outcome visits reached kind alone visited =>
    intro branchId branch found ends
    have apart : nodeId ≠ branch.nodeId := by
      rintro rfl
      have bound := (valid.branches branchId branch found).bound
      rw [kind] at bound
      cases bound
    rw [DurableGraphRuntimeState.routed, get_insert_of_ne _ _ apart]
    exact unrouted branchId branch found ends

end DurableGraphRuntimeState

/-- A run keeps retries unrouted. -/
theorem run_retriesUnrouted (run : graphRun events = .ok (some state)) : state.RetriesUnrouted := by
  refine run_induction (fun _ state => state.RetriesUnrouted) ?_ ?_ run
  · intro definition _ _ branchId branch found ends
    obtain ⟨last, isLast, -⟩ := ends
    rw [opening_attempts found] at isLast
    cases isLast
  · intro events state event moved earlier unrouted _ moves _
    have kept := moves.retriesUnrouted (run_valid earlier) unrouted
    exact kept

namespace DurableGraphRuntimeState

/-- The attempts of a visit of a branch: numbered from one, with a retryable failure before each
later one, and a success or a failure last unless the visit is the one the branch is at. -/
structure VisitOrdered (state : DurableGraphRuntimeState) (branch : BranchRuntimeState)
    (visit : ℕ) : Prop where
  numbered : (visitAttempts branch.attempts visit).map BranchAttemptRecord.attempt =
    List.range' 1 (visitAttempts branch.attempts visit).length
  retried : ∀ record ∈ (visitAttempts branch.attempts visit).dropLast,
    record.outcome.outcomeClass = .retryableFailure
  ended : ∀ last ∈ (visitAttempts branch.attempts visit).getLast?,
    last.outcome.outcomeClass = .retryableFailure →
      state.visits branch.nodeId = visit ∧ state.routed branch.nodeId < visit

section

variable (valid : state.Valid)

include valid

/-- The attempts of every visit are in order. -/
theorem Valid.visitOrdered (unrouted : state.RetriesUnrouted)
    (found : state.branches[branchId]? = some branch) (visit : ℕ) :
    state.VisitOrdered branch visit := by
  have held := valid.branches branchId branch found
  have numbered := held.valid.contiguous.numbered
  refine ⟨numbered.numbers visit, numbered.retried visit, ?_⟩
  intro record isRecord retryable
  have listed : record ∈ branch.attempts := mem_of_mem_filter (mem_of_getLast? isRecord)
  obtain ⟨last, isLast⟩ : ∃ last, branch.attempts.getLast? = some last :=
    Option.isSome_iff_exists.mp (by
      rw [getLast?_isSome]
      exact ne_nil_of_mem listed)
  have here : visit = last.visit := by
    by_contra different
    exact numbered.past last isLast visit different record isRecord retryable
  subst here
  rw [visitAttempts_last isLast, Option.mem_def, Option.some.injEq] at isRecord
  subst isRecord
  have history : lastHistoryVisit branch = last.visit := by
    simp [lastHistoryVisit, isLast]
  have behind := unrouted branchId branch found ⟨last, isLast, retryable⟩
  have recorded := held.recorded
  have current := held.unrouted.2
  rw [history] at behind recorded
  exact ⟨by omega, behind⟩

/-- A join result is what the final outcomes of its branches make it. -/
structure FanInOf (state : DurableGraphRuntimeState) (branches : List GraphBranchId)
    (result : FanInResult) : Prop where
  settled : ∀ branchId ∈ branches, ∃ branch, state.branches[branchId]? = some branch ∧
    state.Settled branch
  all : result = .allSuccess ↔ ∀ branchId ∈ branches, state.succeeded branchId
  none_ : result = .failure ↔ ∀ branchId ∈ branches, ¬ state.succeeded branchId

/-- Every join result is what the final outcomes of its branches make it. -/
theorem Valid.fanInOf {result : FanInResult} (resolved : state.joins[nodeId]? = some result) :
    ∃ branches, state.definition.kind? nodeId = some (.join branches) ∧
      state.FanInOf branches result := by
  obtain ⟨branches, kind, -, derived⟩ := valid.joins nodeId result resolved
  obtain ⟨settled, rfl⟩ := deriveFanInResult_ok derived
  have some_ : branches.length ≠ 0 := by
    have bounds := DurableGraphDefinition.two_le_join valid.definition kind
    omega
  refine ⟨branches, kind, settled, ?_, ?_⟩
  · rw [fanIn]
    constructor
    · intro isAll
      have full : branches.countP (fun branchId => state.succeeded branchId) = branches.length := by
        by_contra partial_
        rw [if_neg partial_] at isAll
        split at isAll <;> cases isAll
      simpa using countP_eq_length.mp full
    · intro all
      have full : branches.countP (fun branchId => state.succeeded branchId) = branches.length :=
        countP_eq_length.mpr (by simpa using all)
      rw [if_pos full]
  · rw [fanIn]
    constructor
    · intro isNone
      have zero : branches.countP (fun branchId => state.succeeded branchId) = 0 := by
        by_contra positive
        rw [if_neg positive] at isNone
        split at isNone <;> cases isNone
      simpa using countP_eq_zero.mp zero
    · intro none_
      have zero : branches.countP (fun branchId => state.succeeded branchId) = 0 :=
        countP_eq_zero.mpr (by simpa using none_)
      rw [zero, if_neg (Ne.symm some_), if_pos rfl]

/-- A run that ends at its termination node: that node was the only active one, every other visit
had been routed, and no branch is in progress or waits for a retry. -/
structure EndsClean (before final : DurableGraphRuntimeState) (nodeId : GraphNodeId) : Prop where
  alone : before.activeNodes = BTreeSet.ofList [nodeId]
  idle : final.activeNodes = ∅
  routed : ∀ node ∈ final.definition.nodes, final.routed node.id = final.visits node.id
  others : ∀ node ∈ before.definition.nodes, node.id ≠ nodeId →
    before.routed node.id = before.visits node.id
  branches : ∀ (branchId : GraphBranchId) branch,
    final.branches[branchId]? = some branch → branch.attemptInProgress = none ∧
      branch.retryScheduled = none ∧ ¬ branch.endsRetryable

/-- A node is active exactly when a visit of it is not routed. -/
theorem Valid.active_iff : nodeId ∈ state.activeNodes ↔
      nodeId ∈ state.definition.nodes.map DurableGraphNode.id ∧
        state.routed nodeId < state.visits nodeId := by
  rw [valid.active, expectedActive, BTreeSet.mem_ofList, mem_filter, decide_eq_true_eq]

/-- The node of a branch is one of the definition. -/
theorem Valid.node_listed (found : state.branches[branchId]? = some branch) :
    branch.nodeId ∈ state.definition.nodes.map DurableGraphNode.id := by
  obtain ⟨node, listed, -⟩ := kind?_eq_some.mp (valid.branches branchId branch found).bound
  obtain ⟨member, same⟩ := node?_id listed
  exact mem_map.mpr ⟨node, member, same⟩

/-- A state without an active node has no visit left. -/
theorem Valid.routed_of_idle (member : nodeId ∈ state.definition.nodes.map DurableGraphNode.id)
    (idle : nodeId ∉ state.activeNodes) : state.routed nodeId = state.visits nodeId := by
  obtain ⟨node, listed, rfl⟩ := mem_map.mp member
  have below := (valid.nodes node listed).routed
  rw [valid.active_iff] at idle
  have above : ¬ state.routed node.id < state.visits node.id := fun less => idle ⟨member, less⟩
  omega

/-- With no active node no branch is in progress or waits for a retry. -/
theorem Valid.quiet_of_idle (unrouted : state.RetriesUnrouted) (idle : state.activeNodes = ∅)
    (found : state.branches[branchId]? = some branch) :
    branch.attemptInProgress = none ∧ branch.retryScheduled = none ∧ ¬ branch.endsRetryable := by
  have held := valid.branches branchId branch found
  have routed := valid.routed_of_idle (valid.node_listed found) (by simp [idle])
  refine ⟨?_, ?_, ?_⟩
  · rw [Option.eq_none_iff_forall_not_mem]
    intro cursor started
    have behind := (held.inProgress cursor started).2
    omega
  · rw [Option.eq_none_iff_forall_not_mem]
    intro cursor scheduled
    have behind := (held.retry cursor scheduled).2
    omega
  · intro ends
    have behind := unrouted branchId branch found ends
    have recorded := held.recorded
    omega

/-- A termination ends the run clean. -/
theorem Moves.endsClean
    (moves : Moves state (.terminated nodeId outcome) next) (after : next.counted.Valid)
    (unrouted : next.counted.RetriesUnrouted) : state.EndsClean next.counted nodeId := by
  cases moves with
  | terminate reached kind alone visited =>
    have idle := (after.termination ⟨nodeId, outcome⟩ rfl).idle
    refine ⟨alone, idle, ?_, ?_, fun _ _ found => after.quiet_of_idle unrouted idle found⟩
    · intro node listed
      exact after.routed_of_idle (mem_map_of_mem listed) (by rw [idle]; simp)
    · intro node listed different
      apply valid.routed_of_idle (mem_map_of_mem listed)
      rw [alone, BTreeSet.mem_ofList, mem_singleton]
      exact different

end

end DurableGraphRuntimeState

/-- Runs are append-only and end clean: from any state of an accepted run to its last one, attempts
are only added, join results stay and stay derived from the final outcomes of their branches, the
attempts of every visit are numbered from one with a retryable failure before each later one and a
success or failure last, and a termination leaves nothing open. -/
theorem replay_appends_and_ends_clean {events later : List DurableGraphEvent}
    {state final : DurableGraphRuntimeState} (reached : replayGraphEvents events = .ok state)
    (extended : replayGraphEvents (events ++ later) = .ok final) :
    state.AppendOnly final ∧
      (∀ (branchId : GraphBranchId) branch,
        final.branches[branchId]? = some branch → ∀ visit, final.VisitOrdered branch visit) ∧
      (∀ (nodeId : GraphNodeId) result, final.joins[nodeId]? = some result →
        ∃ branches, final.definition.kind? nodeId = some (.join branches) ∧
          final.FanInOf branches result) ∧
      ∀ (earlier : List DurableGraphEvent) (nodeId : GraphNodeId) (outcome : GraphTermination),
        events ++ later = earlier ++ [.terminated nodeId outcome] →
          ∃ before, replayGraphEvents earlier = .ok before ∧ before.EndsClean final nodeId := by
  rw [replayGraphEvents_ok] at reached extended
  have valid := run_valid extended
  refine ⟨run_appendOnly reached extended, ?_, fun _ _ resolved => valid.fanInOf resolved, ?_⟩
  · intro branchId branch found visit
    exact valid.visitOrdered (run_retriesUnrouted extended) found visit
  · intro earlier nodeId outcome split
    have unrouted := run_retriesUnrouted extended
    rw [split] at extended
    obtain ⟨before, _, run, applied, same⟩ := graphRun_append extended
    cases same
    cases before with
    | none => cases applied
    | some before =>
      obtain ⟨-, moved, moves, after, rfl⟩ := applyGraphEvent_ok applied
      exact ⟨before, replayGraphEvents_ok.mpr run, moves.endsClean (run_valid run) after unrouted⟩

/-- Two branches between a fork and a join, one of them with a second attempt. -/
def sampleGraph : DurableGraphDefinition where
  graphId := "sample"
  entryNodeId := "a"
  nodes := [⟨"a", .fork⟩, ⟨"b", .task "left" 2⟩, ⟨"c", .task "right" 1⟩,
    ⟨"d", .join ["left", "right"]⟩, ⟨"x", .terminate .success⟩,
    ⟨"y", .terminate .partialSuccess⟩, ⟨"z", .terminate .failure⟩]
  edges := [⟨"1", "a", "b", .forward, .always⟩, ⟨"2", "a", "c", .forward, .always⟩,
    ⟨"3", "b", "d", .joinArrival "left", .always⟩, ⟨"4", "c", "d", .joinArrival "right", .always⟩,
    ⟨"5", "d", "x", .forward, .joinResult "d" .allSuccess⟩,
    ⟨"6", "d", "y", .forward, .joinResult "d" .partialSuccess⟩,
    ⟨"7", "d", "z", .forward, .joinResult "d" .failure⟩]

/-- The left branch fails once and is to be tried again. -/
def sampleStart : List DurableGraphEvent :=
  [.defined sampleGraph, .edgesSelected "a" 1 ["1", "2"], .branchAttemptStarted "left" 1 1,
    .branchAttemptCompleted "left" 1 1 (.retryableFailure "busy"), .branchRetryScheduled "left" 1 2]

/-- The left branch succeeds, the right one fails, and the graph ends in a partial success. -/
def sampleRest : List DurableGraphEvent :=
  [.branchAttemptStarted "left" 1 2, .branchAttemptCompleted "left" 1 2 (.success ⟨"done", []⟩),
    .edgesSelected "b" 1 ["3"], .branchAttemptStarted "right" 1 1,
    .branchAttemptCompleted "right" 1 1 (.failure "broken"), .edgesSelected "c" 1 ["4"],
    .joinResolved "d" .partialSuccess, .edgesSelected "d" 1 ["6"],
    .terminated "y" .partialSuccess]

/-- A run with a retry and a join that is resolved before it ends. -/
theorem replay_appends_and_ends_clean_sample :
    ∃ state final before : DurableGraphRuntimeState, replayGraphEvents sampleStart = .ok state ∧
      replayGraphEvents (sampleStart ++ sampleRest) = .ok final ∧
        final.joins["d"]? = some .partialSuccess ∧ state.AppendOnly final ∧
          before.EndsClean final "y" := by
  have started : (replayGraphEvents sampleStart).toOption.map
      (fun state => state.eventCount) = some 5 := by decide +kernel
  have finished : (replayGraphEvents (sampleStart ++ sampleRest)).toOption.map
      (fun state => state.joins["d"]?) = some (some .partialSuccess) := by decide +kernel
  obtain ⟨state, reached, -⟩ := ok_of_toOption started
  obtain ⟨final, extended, resolved⟩ := ok_of_toOption finished
  obtain ⟨kept, -, -, ends⟩ := replay_appends_and_ends_clean reached extended
  obtain ⟨before, -, clean⟩ := ends (sampleStart ++ sampleRest.dropLast) "y" .partialSuccess rfl
  exact ⟨state, final, before, reached, extended, resolved, kept, clean⟩

end Maco.Graph
