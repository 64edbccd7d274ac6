import Maco.Turn.Speaker

/-!
# The validator accepts exactly the reachable states

A state of a turn protocol is valid exactly when some sequence of successful selections, completions
and terminations leads to it from the initial state. Every mutation validates what it leaves; in the
other direction every valid state other than the initial one has a valid predecessor with a smaller
generation.
-/

namespace Maco.Turn

open Maco.Base TurnProtocolDefinition List

namespace TurnProtocolState

/-! ## Valid states -/

/-- The generation after the last completion. -/
def completionGeneration (state : TurnProtocolState) : ℕ :=
  if state.definition.policy.kind.isSelective = true then state.completedTurns * 2
  else state.completedTurns

/-- The receipt of the last completion, by its speaker. -/
def receiptOf (state : TurnProtocolState) (speaker : String) : TurnCompletionReceipt :=
  ⟨speaker, ⟨state.completedTurns - 1, state.completionGeneration - 1⟩, state.completedTurns,
    state.completionGeneration⟩

/-- Selections and completions alternate; a selection is pending exactly when there is a speaker. -/
structure SelectionsValid (state : TurnProtocolState) : Prop where
  count : state.selectionCount = state.completedTurns ∨
    (state.status.isCompleted = false ∧ state.selectionCount = state.completedTurns + 1)
  pending : state.status.isActive = true →
    (state.selectionCount = state.completedTurns + 1 ↔ state.currentSpeaker.isSome = true)

/-- There are no selections, and the speakers are those of their turns. -/
structure DerivedValid (state : TurnProtocolState) : Prop where
  count : state.selectionCount = 0
  current : state.status.isCompleted = false → ∃ speaker,
    state.definition.turnSpeaker state.completedTurns = some speaker ∧
      (state.status.isActive = true → state.currentSpeaker = some speaker)
  last : state.completedTurns ≠ 0 → ∃ speaker,
    state.definition.turnSpeaker (state.completedTurns - 1) = some speaker ∧
      state.lastSpeaker = some speaker

/-- A valid state. -/
structure Valid (state : TurnProtocolState) : Prop where
  definition : state.definition.validate = .ok ()
  selected : state.selectedSpeaker = state.currentSpeaker
  current : ∀ speaker ∈ state.currentSpeaker, state.definition.containsParticipant speaker
  last : ∀ speaker ∈ state.lastSpeaker, state.definition.containsParticipant speaker
  running : state.status.isCompleted = false → state.completedTurns < state.definition.maxTurns
  finished : state.status.isCompleted = true → state.completedTurns = state.definition.maxTurns
  generation : state.generation =
    state.completedTurns + state.selectionCount + state.terminationIncrement
  fits : state.generation < 2 ^ 64
  reason : ∀ reason, state.status = .terminated reason →
    validateTerminationReason reason state.definition.limits = .ok ()
  quiet : state.status.isActive = false → state.currentSpeaker = none
  fresh : state.completedTurns = 0 → state.lastSpeaker = none ∧ state.lastCompletion = none
  history : state.completedTurns ≠ 0 → ∃ speaker, state.lastSpeaker = some speaker ∧
    state.lastCompletion = some (state.receiptOf speaker)
  selective : state.definition.policy.kind.isSelective = true → state.SelectionsValid
  derived : state.definition.policy.kind.isSelective = false → state.DerivedValid

variable {state : TurnProtocolState}

theorem Valid.turns_le (valid : state.Valid) :
    state.completedTurns ≤ state.definition.maxTurns := by
  cases completed : state.status.isCompleted with
  | false => exact (valid.running completed).le
  | true => exact (valid.finished completed).le

section Checks

variable {state : TurnProtocolState} {done : Unit}

theorem corruptIf_ok {condition : Prop} [Decidable condition] :
    corruptIf condition detail = .ok done ↔ ¬ condition := refuseIf_ok

/-- The check of the generation. -/
theorem validateGeneration_ok : state.validateGeneration = .ok done ↔
    state.generation = state.completedTurns + state.selectionCount + state.terminationIncrement ∧
      state.generation < 2 ^ 64 := by
  simp only [validateGeneration, ok_iff, checkedAddU64_eq_some, corruptIf_ok, not_not]
  constructor
  · rintro ⟨_, ⟨-, rfl⟩, _, ⟨fits, rfl⟩, same⟩
    exact ⟨same, same ▸ fits⟩
  · rintro ⟨same, fits⟩
    exact ⟨_, ⟨by omega, rfl⟩, _, ⟨by omega, rfl⟩, same⟩

/-- The check of the termination reason. -/
theorem validateReason_ok : state.validateReason = .ok done ↔
    ∀ reason, state.status = .terminated reason →
      validateTerminationReason reason state.definition.limits = .ok () := by
  unfold validateReason
  cases state.status with
  | active | completed => simp
  | terminated reason => simp [mapError_ok]

/-- The check of the last completion. -/
theorem validateReceipt_ok (small : state.completedTurns ≤ hardMaxTurns) :
    state.validateReceipt = .ok done ↔
      (state.completedTurns = 0 → state.lastSpeaker = none ∧ state.lastCompletion = none) ∧
        (state.completedTurns ≠ 0 → ∃ speaker, state.lastSpeaker = some speaker ∧
          state.definition.containsParticipant speaker ∧
            state.lastCompletion = some (state.receiptOf speaker)) := by
  have million : hardMaxTurns = 1000000 := rfl
  unfold validateReceipt
  split
  case isTrue zero =>
    simp [corruptIf_ok, zero]
  case isFalse positive =>
    have generation : ∀ receipt expected, receipt.completedTurnsAfter = state.completedTurns →
        (state.receiptGeneration receipt = .ok expected ↔
          expected = state.completionGeneration) := by
      intro receipt expected same
      unfold receiptGeneration completionGeneration checkedMulU64
      rw [same]
      split
      · rw [if_pos (by omega), require_ok, Option.some.injEq]
        exact eq_comm
      · rw [Except.ok.injEq]
        exact eq_comm
    simp only [ok_iff, corruptIf_ok, not_or, not_not, checkedAddU64_eq_some, positive,
      false_implies, true_and, not_false_eq_true, true_implies, ne_eq]
    constructor
    · rintro ⟨receipt, found, _, derived, count, ⟨-, before⟩, ⟨-, earlier⟩, after, speaker, known⟩
      rw [generation receipt _ count] at derived
      refine ⟨receipt.speakerId, speaker, known, ?_⟩
      rw [found, Option.some.injEq]
      obtain ⟨id, ⟨turns, gen⟩, turnsAfter, genAfter⟩ := receipt
      simp only at count before earlier after derived
      simp only [receiptOf, TurnCompletionReceipt.mk.injEq, TurnExpectation.mk.injEq, true_and]
      omega
    · rintro ⟨speaker, last, known, found⟩
      have more : state.completionGeneration ≠ 0 ∧ state.completionGeneration < 2 ^ 64 := by
        unfold completionGeneration
        split <;> omega
      refine ⟨_, found, _, (generation _ _ rfl).mpr rfl, rfl, ⟨?_, ?_⟩, ⟨?_, ?_⟩, rfl, last, known⟩
      all_goals
        dsimp only [receiptOf]
        omega

/-- The check of the selections. -/
theorem validateSelections_ok (small : state.completedTurns ≤ hardMaxTurns) :
    state.validateSelections = .ok done ↔ state.SelectionsValid := by
  have million : hardMaxTurns = 1000000 := rfl
  simp only [validateSelections, ok_iff, checkedAddU64_eq_some, corruptIf_ok, not_not, not_and]
  constructor
  · rintro ⟨_, ⟨-, rfl⟩, count, pending⟩
    exact ⟨count, pending⟩
  · rintro ⟨count, pending⟩
    exact ⟨_, ⟨by omega, rfl⟩, count, pending⟩

section

variable (quiet : state.status.isActive = false → state.currentSpeaker = none)
  (fresh : state.completedTurns = 0 → state.lastSpeaker = none)
include quiet fresh

/-- The check of the speakers under round robin. -/
theorem validateRoundRobin_ok (accepted : state.definition.Accepted)
    (policy : state.definition.policy = .roundRobin) :
    state.validateRoundRobin = .ok done ↔ state.DerivedValid := by
  simp only [validateRoundRobin, bind_ok, corruptIf_ok, not_or, not_not, exists_const]
  constructor
  · rintro ⟨count, current, last⟩
    refine ⟨count, ?_, ?_⟩
    · intro _
      obtain ⟨speaker, derived⟩ := accepted.speaker_roundRobin policy state.completedTurns
      refine ⟨speaker, derived, ?_⟩
      intro active
      rw [current, if_pos active, ← derived, turnSpeaker, policy]
    · intro positive
      obtain ⟨speaker, derived⟩ := accepted.speaker_roundRobin policy (state.completedTurns - 1)
      refine ⟨speaker, derived, ?_⟩
      rw [last, if_neg positive, ← derived, turnSpeaker, policy]
  · rintro ⟨count, current, last⟩
    refine ⟨count, ?_, ?_⟩
    · split
      case isTrue active =>
        obtain ⟨speaker, derived, held⟩ := current (TurnProtocolStatus.running_of_active active)
        rw [held active, ← derived, turnSpeaker, policy]
      case isFalse inactive => exact quiet (by simpa using inactive)
    · split
      case isTrue zero => exact fresh zero
      case isFalse positive =>
        obtain ⟨speaker, derived, held⟩ := last positive
        rw [held, ← derived, turnSpeaker, policy]

/-- The check of the speakers under a speaker graph. -/
theorem validateGraphSpeakers_ok (policy : state.definition.policy = .graphSelected graph) :
    state.validateGraphSpeakers graph = .ok done ↔ state.DerivedValid := by
  have walk : ∀ turn, state.definition.turnSpeaker turn = graph.walk turn := by
    intro turn
    rw [turnSpeaker, policy]
  have before : state.completedTurns ≠ 0 →
      graph.before state.completedTurns = graph.walk (state.completedTurns - 1) := by
    intro positive
    obtain ⟨turns, same⟩ := Nat.exists_eq_succ_of_ne_zero positive
    rw [same]
    rfl
  simp only [validateGraphSpeakers, bind_ok, corruptIf_ok, not_or, not_not, exists_const,
    Prod.exists, deriveGraphSpeakers_ok]
  constructor
  · rintro ⟨count, _, _, ⟨rfl, walked, ended⟩, last, current⟩
    refine ⟨count, ?_, ?_⟩
    · intro running
      obtain ⟨speaker, derived, held⟩ := walked running
      refine ⟨speaker, (walk _).trans derived, ?_⟩
      intro active
      rw [current, held, if_pos active]
    · intro positive
      rw [before positive] at last
      rw [walk]
      cases completed : state.status.isCompleted with
      | true =>
        obtain ⟨speaker, found⟩ := (ended completed).2 positive
        rw [before positive] at found
        exact ⟨speaker, found, last.trans found⟩
      | false =>
        obtain ⟨speaker, derived, -⟩ := walked completed
        obtain ⟨turns, same⟩ := Nat.exists_eq_succ_of_ne_zero positive
        rw [same] at derived
        obtain ⟨earlier, found, -⟩ := Option.bind_eq_some_iff.mp derived
        have found : graph.walk (state.completedTurns - 1) = some earlier := by
          rw [same]
          exact found
        exact ⟨earlier, found, last.trans found⟩
  · rintro ⟨count, current, last⟩
    refine ⟨count, graph.before state.completedTurns, state.currentSpeaker, ⟨rfl, ?_, ?_⟩, ?_, rfl⟩
    · intro running
      obtain ⟨speaker, derived, held⟩ := current running
      refine ⟨speaker, (walk _).symm.trans derived, ?_⟩
      split
      case isTrue active => exact held active
      case isFalse inactive => exact quiet (by simpa using inactive)
    · intro completed
      refine ⟨quiet (TurnProtocolStatus.inactive_of_completed completed), ?_⟩
      intro positive
      obtain ⟨speaker, derived, -⟩ := last positive
      exact ⟨speaker, (before positive).trans ((walk _).symm.trans derived)⟩
    · by_cases zero : state.completedTurns = 0
      · rw [fresh zero, zero]
        rfl
      · obtain ⟨speaker, derived, held⟩ := last zero
        rw [held, before zero, ← walk, derived]

/-- The check of the speakers and selections of the policy. -/
theorem validatePolicyState_ok (accepted : state.definition.Accepted)
    (small : state.completedTurns ≤ hardMaxTurns) :
    state.validatePolicyState = .ok done ↔
      (state.definition.policy.kind.isSelective = true → state.SelectionsValid) ∧
        (state.definition.policy.kind.isSelective = false → state.DerivedValid) := by
  unfold validatePolicyState
  cases policy : state.definition.policy with
  | modelSelected | freeForm =>
    simp [validateSelections_ok small, TurnPolicy.kind, TurnPolicyKind.isSelective]
  | roundRobin =>
    simp [validateRoundRobin_ok quiet fresh accepted policy, TurnPolicy.kind,
      TurnPolicyKind.isSelective]
  | graphSelected graph =>
    simp [validateGraphSpeakers_ok quiet fresh policy, TurnPolicy.kind, TurnPolicyKind.isSelective]

end

/-- The check of a state. -/
theorem validate_ok : state.validate = .ok done ↔ state.Valid := by
  simp only [validate, ok_iff, corruptIf_ok, mapError_ok, forM_ok, whenSome_ok,
    validateGeneration_ok, validateReason_ok, not_not, not_lt, not_or, not_and, not_le,
    forall_mem_cons, not_mem_nil, false_implies, implies_true, and_true, Bool.not_eq_true,
    Option.isSome_eq_false_iff, Option.isNone_iff_eq_none]
  constructor
  · rintro ⟨_, definition, selected, ⟨-, current, last⟩, most, ⟨running, finished⟩,
      ⟨generation, fits⟩, reason, quiet, _, receipt, policy⟩
    have accepted := accepted_of_validate definition
    have small := most.trans accepted.bounded
    rw [validateReceipt_ok small] at receipt
    obtain ⟨fresh, history⟩ := receipt
    have silent : state.status.isActive = false → state.currentSpeaker = none :=
      fun inactive => (quiet inactive).2
    rw [validatePolicyState_ok silent (fun zero => (fresh zero).1) accepted small] at policy
    refine ⟨definition, selected, current, last, running, finished, generation, fits, reason,
      silent, fresh, ?_, policy.1, policy.2⟩
    intro positive
    obtain ⟨speaker, held, -, found⟩ := history positive
    exact ⟨speaker, held, found⟩
  · intro valid
    have accepted := accepted_of_validate valid.definition
    have most := valid.turns_le
    have small := most.trans accepted.bounded
    refine ⟨(), valid.definition, valid.selected, ⟨valid.selected ▸ valid.current, valid.current,
      valid.last⟩, most, ⟨valid.running, valid.finished⟩, ⟨valid.generation, valid.fits⟩,
      valid.reason, ?_, (), ?_, ?_⟩
    · intro inactive
      exact ⟨valid.selected.trans (valid.quiet inactive), valid.quiet inactive⟩
    · rw [validateReceipt_ok small]
      refine ⟨valid.fresh, ?_⟩
      intro positive
      obtain ⟨speaker, held, found⟩ := valid.history positive
      exact ⟨speaker, held, valid.last speaker held, found⟩
    · rw [validatePolicyState_ok valid.quiet (fun zero => (valid.fresh zero).1) accepted small]
      exact ⟨valid.selective, valid.derived⟩

end Checks

/-! ## Mutations -/

section Mutations

variable {state next : TurnProtocolState} {expected : TurnExpectation}

theorem validateExpectation_ok {done : Unit} :
    state.validateExpectation expected = .ok done ↔ expected = state.expectation := by
  obtain ⟨turns, generation⟩ := expected
  simp only [validateExpectation, ok_iff, not_not, expectation, TurnExpectation.mk.injEq]
  exact and_comm

/-- The state after a selection. -/
def afterSelection (state : TurnProtocolState) (participantId : String) : TurnProtocolState :=
  { state with
    selectionCount := state.selectionCount + 1
    generation := state.generation + 1
    selectedSpeaker := some participantId
    currentSpeaker := some participantId }

/-- A speaker is selected exactly when the protocol is active, expects it, selects its speakers,
knows the participant and has no speaker, and the state that follows is valid. -/
theorem selectSpeaker_ok :
    state.selectSpeaker participantId expected = .ok next ↔
      state.status.isActive = true ∧ expected = state.expectation ∧
        state.definition.policy.kind.isSelective = true ∧
          state.definition.containsParticipant participantId ∧ state.selectedSpeaker = none ∧
            state.selectionCount + 1 < 2 ^ 64 ∧ state.generation + 1 < 2 ^ 64 ∧
              next = state.afterSelection participantId ∧ next.Valid := by
  simp only [selectSpeaker, ensureActive, validateExpectation_ok, ok_iff, whenSome_ok,
    checkedAddU64_eq_some, validate_ok, not_not, Bool.not_eq_false, reduceCtorEq, imp_false]
  constructor
  · rintro ⟨active, met, selective, known, idle, _, ⟨count, rfl⟩, _, ⟨fits, rfl⟩, valid, rfl⟩
    exact ⟨active, met, selective, known, Option.eq_none_iff_forall_not_mem.mpr idle, count, fits,
      rfl, valid⟩
  · rintro ⟨active, met, selective, known, idle, count, fits, rfl, valid⟩
    exact ⟨active, met, selective, known, by simp [idle], _, ⟨count, rfl⟩, _, ⟨fits, rfl⟩, valid,
      rfl⟩

/-- The state after a completion, before its successor is known. -/
def afterTurn (state : TurnProtocolState) (speakerId : String) : TurnProtocolState :=
  { state with
    completedTurns := state.completedTurns + 1
    generation := state.generation + 1
    lastSpeaker := some speakerId
    lastCompletion := some ⟨speakerId, state.expectation, state.completedTurns + 1,
      state.generation + 1⟩ }

/-- A turn is completed exactly when the protocol is active, expects it, is not given the last
completion again, and has the speaker selected, and the state that follows is valid. -/
theorem completeTurn_ok :
    state.completeTurn speakerId expected = .ok next ↔
      (∀ receipt ∈ state.lastCompletion, ¬ (receipt.speakerId = speakerId ∧
        receipt.expected = expected)) ∧ state.status.isActive = true ∧
          expected = state.expectation ∧ state.definition.containsParticipant speakerId ∧
            state.selectedSpeaker = some speakerId ∧ state.completedTurns + 1 < 2 ^ 64 ∧
              state.generation + 1 < 2 ^ 64 ∧
                succeed (state.afterTurn speakerId) speakerId = .ok next ∧ next.Valid := by
  simp only [completeTurn, ensureActive, validateExpectation_ok, ok_iff, checkedAddU64_eq_some,
    validate_ok, not_not, Bool.not_eq_false, not_exists, not_and]
  constructor
  · rintro ⟨fresh, active, rfl, known, _, selected, rfl, _, ⟨turns, rfl⟩, _, ⟨fits, rfl⟩, _,
      succeeded, valid, rfl⟩
    exact ⟨fresh, active, rfl, known, selected, turns, fits, succeeded, valid⟩
  · rintro ⟨fresh, active, rfl, known, selected, turns, fits, succeeded, valid⟩
    exact ⟨fresh, active, rfl, known, _, selected, rfl, _, ⟨turns, rfl⟩, _, ⟨fits, rfl⟩, _,
      succeeded, valid, rfl⟩

/-- The state after a termination. -/
def afterTermination (state : TurnProtocolState) (reason : String) : TurnProtocolState :=
  { state with
    generation := state.generation + 1
    status := .terminated reason
    selectedSpeaker := none
    currentSpeaker := none }

/-- A protocol is terminated exactly when it is active, expects it and takes the reason, and the
state that follows is valid. -/
theorem terminate_ok :
    state.terminate reason expected = .ok next ↔
      state.status.isActive = true ∧ expected = state.expectation ∧
        validateTerminationReason reason state.definition.limits = .ok () ∧
          state.generation + 1 < 2 ^ 64 ∧ next = state.afterTermination reason ∧ next.Valid := by
  simp only [terminate, ensureActive, validateExpectation_ok, ok_iff, checkedAddU64_eq_some,
    validate_ok, Bool.not_eq_false]
  constructor
  · rintro ⟨active, met, _, accepted, _, ⟨fits, rfl⟩, valid, rfl⟩
    exact ⟨active, met, accepted, fits, rfl, valid⟩
  · rintro ⟨active, met, accepted, fits, rfl, valid⟩
    exact ⟨active, met, (), accepted, _, ⟨fits, rfl⟩, valid, rfl⟩

/-- What every mutation leaves: a valid state of the same definition with the next generation. -/
theorem candidate_ok (accepted : state.candidate mutation expected = .ok next) :
    state.status.isActive = true ∧ expected = state.expectation ∧ next.Valid ∧
      next.definition = state.definition ∧ next.generation = state.generation + 1 := by
  cases mutation with
  | selectSpeaker participantId =>
    obtain ⟨active, met, -, -, -, -, -, rfl, valid⟩ := selectSpeaker_ok.mp accepted
    exact ⟨active, met, valid, rfl, rfl⟩
  | completeTurn speakerId =>
    obtain ⟨-, active, met, -, -, -, -, succeeded, valid⟩ := completeTurn_ok.mp accepted
    refine ⟨active, met, valid, ?_⟩
    unfold succeed at succeeded
    split at succeeded
    · rw [pure_ok] at succeeded
      subst succeeded
      exact ⟨rfl, rfl⟩
    · simp only [ok_iff] at succeeded
      obtain ⟨successor, -, rfl⟩ := succeeded
      exact ⟨rfl, rfl⟩
  | terminate reason =>
    obtain ⟨active, met, -, -, rfl, valid⟩ := terminate_ok.mp accepted
    exact ⟨active, met, valid, rfl, rfl⟩

end Mutations

/-! ## Runs -/

/-- The state after a sequence of mutations. -/
def turnRun (definition : TurnProtocolDefinition) (steps : List (TurnMutation × TurnExpectation)) :
    Except TurnProtocolError TurnProtocolState :=
  steps.foldlM (fun state step => state.candidate step.1 step.2) (initial definition)

/-- The initial speaker is the speaker of the first turn. -/
theorem initialSpeaker_eq (definition : TurnProtocolDefinition) :
    initialSpeaker definition = definition.turnSpeaker 0 := by
  unfold initialSpeaker turnSpeaker
  cases definition.policy with
  | roundRobin =>
    rw [Nat.zero_mod, head?_eq_getElem?]
  | graphSelected graph => rfl
  | modelSelected | freeForm => rfl

variable {definition : TurnProtocolDefinition}

/-- A policy that selects its speakers derives none. -/
theorem turnSpeaker_selective (selects : definition.policy.kind.isSelective = true) (turn : ℕ) :
    definition.turnSpeaker turn = none := by
  unfold turnSpeaker
  cases policy : definition.policy with
  | modelSelected | freeForm => rfl
  | roundRobin | graphSelected =>
    rw [policy] at selects
    cases selects

/-- The first turn of a policy that derives its speakers has one. -/
theorem turnSpeaker_first (accepted : definition.Accepted)
    (derives : definition.policy.kind.isSelective = false) :
    ∃ speaker, definition.turnSpeaker 0 = some speaker := by
  cases policy : definition.policy with
  | roundRobin => exact accepted.speaker_roundRobin policy 0
  | graphSelected graph =>
    refine ⟨graph.initialSpeaker, ?_⟩
    rw [turnSpeaker, policy]
    rfl
  | modelSelected | freeForm =>
    rw [policy] at derives
    cases derives

/-- The initial state of an accepted definition is valid. -/
theorem initial_valid (accepted : definition.validate = .ok ()) : (initial definition).Valid := by
  have facts := accepted_of_validate accepted
  have opening : (initial definition).currentSpeaker = definition.turnSpeaker 0 :=
    initialSpeaker_eq definition
  constructor
  case definition => exact accepted
  case selected => rfl
  case current => exact fun speaker held => facts.speaker_mem (opening.symm.trans held)
  case last => simp [initial]
  case running => exact fun _ => Nat.pos_of_ne_zero facts.turns
  case finished => exact fun completed => by cases completed
  case generation => rfl
  case fits => exact Nat.two_pow_pos 64
  case reason => exact fun _ terminated => by cases terminated
  case quiet => exact fun inactive => by cases inactive
  case fresh => exact fun _ => ⟨rfl, rfl⟩
  case history => exact fun positive => absurd rfl positive
  case selective =>
    intro selects
    have silent : definition.turnSpeaker 0 = none := turnSpeaker_selective selects 0
    refine ⟨.inl rfl, fun _ => ?_⟩
    rw [opening, silent]
    simp [initial]
  case derived =>
    intro derives
    obtain ⟨speaker, found⟩ := turnSpeaker_first facts derives
    exact ⟨rfl, fun _ => ⟨speaker, found, fun _ => opening.trans found⟩,
      fun positive => absurd rfl positive⟩

/-! ## Predecessors -/

section Predecessors

variable {state : TurnProtocolState} (valid : state.Valid)

include valid

/-- What a mutation led from: a valid state of the same definition, one generation earlier. -/
def Follows (state before : TurnProtocolState) : Prop :=
  before.Valid ∧ before.definition = state.definition ∧ before.generation < state.generation ∧
    ∃ mutation, before.candidate mutation before.expectation = .ok state

/-- The state before a termination, with its speaker. -/
def resumed (state : TurnProtocolState) (speaker : Option String) : TurnProtocolState :=
  { state with
    generation := state.generation - 1
    status := .active
    selectedSpeaker := speaker
    currentSpeaker := speaker }

/-- A terminated state could have been active with some speaker. -/
theorem Valid.resumable (running : state.status.isCompleted = false) :
    ∃ speaker : Option String,
      (∀ id ∈ speaker, state.definition.containsParticipant id) ∧
        (state.definition.policy.kind.isSelective = true →
          (state.selectionCount = state.completedTurns + 1 ↔ speaker.isSome = true)) ∧
        (state.definition.policy.kind.isSelective = false →
          state.definition.turnSpeaker state.completedTurns = speaker ∧ speaker.isSome = true) := by
  have accepted := accepted_of_validate valid.definition
  cases selective : state.definition.policy.kind.isSelective with
  | true =>
    by_cases pending : state.selectionCount = state.completedTurns + 1
    · obtain ⟨first, member⟩ := exists_mem_of_ne_nil _ accepted.nonempty
      refine ⟨some first, ?_, fun _ => by simp [pending], fun derives => by cases derives⟩
      rintro id ⟨⟩
      exact member
    · exact ⟨none, by simp, fun _ => by simp [pending], fun derives => by cases derives⟩
  | false =>
    obtain ⟨speaker, derived, -⟩ := (valid.derived selective).current running
    refine ⟨some speaker, ?_, (fun selects => by cases selects), fun _ => ⟨derived, rfl⟩⟩
    rintro id ⟨⟩
    exact accepted.speaker_mem derived

/-- A terminated state follows an active one. -/
theorem Valid.follows_of_terminated {reason : String}
    (terminated : state.status = .terminated reason) : ∃ before, state.Follows before := by
  have running : state.status.isCompleted = false := by rw [terminated]; rfl
  have inactive : state.status.isActive = false := by rw [terminated]; rfl
  have increment : state.terminationIncrement = 1 := by rw [terminationIncrement, terminated]
  have generation := valid.generation
  rw [increment] at generation
  obtain ⟨speaker, known, pending, derived⟩ := valid.resumable running
  have before : (state.resumed speaker).Valid := {
    valid with
    selected := rfl
    current := known
    running := fun _ => valid.running running
    finished := fun completed => by cases completed
    generation := by
      change state.generation - 1 = state.completedTurns + state.selectionCount + 0
      omega
    fits := lt_of_le_of_lt (Nat.sub_le _ 1) valid.fits
    reason := fun _ ended => by cases ended
    quiet := fun idle => by cases idle
    selective := by
      intro selects
      have counted := (valid.selective selects).count
      rw [running] at counted
      exact ⟨counted, fun _ => pending selects⟩
    derived := by
      intro derives
      obtain ⟨found, present⟩ := derived derives
      obtain ⟨id, rfl⟩ := Option.isSome_iff_exists.mp present
      have facts := valid.derived derives
      exact ⟨facts.count, fun _ => ⟨id, found, fun _ => rfl⟩, facts.last⟩ }
  refine ⟨state.resumed speaker, before, rfl, ?_, .terminate reason, terminate_ok.mpr ?_⟩
  · change state.generation - 1 < state.generation
    omega
  · refine ⟨rfl, rfl, valid.reason reason terminated, ?_, ?_, valid⟩
    · change state.generation - 1 + 1 < 2 ^ 64
      have fits := valid.fits
      omega
    · have quiet := valid.quiet inactive
      have selected := valid.selected.trans quiet
      have count : state.generation - 1 + 1 = state.generation := by omega
      cases state
      simp_all [resumed, afterTermination]

/-- The state before a selection. -/
def unselected (state : TurnProtocolState) : TurnProtocolState :=
  { state with
    selectionCount := state.completedTurns
    generation := state.generation - 1
    selectedSpeaker := none
    currentSpeaker := none }

/-- A state with a pending selection follows one without. -/
theorem Valid.follows_of_selected (active : state.status = .active)
    (selects : state.definition.policy.kind.isSelective = true)
    (pending : state.selectionCount = state.completedTurns + 1) :
    ∃ before, state.Follows before := by
  have running : state.status.isCompleted = false := by rw [active]; rfl
  have increment : state.terminationIncrement = 0 := by rw [terminationIncrement, active]
  have generation := valid.generation
  rw [increment, pending] at generation
  have fits := valid.fits
  have held := ((valid.selective selects).pending (by rw [active]; rfl)).mp pending
  obtain ⟨speaker, current⟩ := Option.isSome_iff_exists.mp held
  have before : state.unselected.Valid := {
    valid with
    selected := rfl
    current := fun _ none_ => by cases none_
    generation := by
      change state.generation - 1 =
        state.completedTurns + state.completedTurns + state.terminationIncrement
      omega
    fits := lt_of_le_of_lt (Nat.sub_le _ 1) fits
    quiet := fun _ => rfl
    selective := by
      refine fun _ => ⟨.inl rfl, fun _ => ?_⟩
      simp [unselected]
    derived := fun derives => by cases selects.symm.trans derives }
  refine ⟨state.unselected, before, rfl, ?_, .selectSpeaker speaker, selectSpeaker_ok.mpr ?_⟩
  · change state.generation - 1 < state.generation
    omega
  · refine ⟨by rw [unselected, active]; rfl, rfl, selects, valid.current speaker current, rfl, ?_,
      ?_, ?_, valid⟩
    · change state.completedTurns + 1 < 2 ^ 64
      omega
    · change state.generation - 1 + 1 < 2 ^ 64
      omega
    · have selected := valid.selected.trans current
      have count : state.generation - 1 + 1 = state.generation := by omega
      cases state
      simp_all [unselected, afterSelection]

/-- The state before a completion, by the speaker who completed it and the one before. -/
def uncompleted (state : TurnProtocolState) (speaker : String) (prior : Option String) :
    TurnProtocolState :=
  { state with
    status := .active
    completedTurns := state.completedTurns - 1
    generation := state.generation - 1
    selectedSpeaker := some speaker
    currentSpeaker := some speaker
    lastSpeaker := prior
    lastCompletion := prior.map (receiptOf { state with
      completedTurns := state.completedTurns - 1 }) }

/-- Who may have spoken before the last speaker. -/
structure Prior (state : TurnProtocolState) (prior : Option String) : Prop where
  known : ∀ id ∈ prior, state.definition.containsParticipant id
  first : state.completedTurns - 1 = 0 ↔ prior = none
  derived : state.definition.policy.kind.isSelective = false → state.completedTurns - 1 ≠ 0 →
    state.definition.turnSpeaker (state.completedTurns - 1 - 1) = prior

variable (some_ : state.completedTurns ≠ 0)

include some_

/-- A state whose turns are completed could have had some speaker before its last one. -/
theorem Valid.exists_prior : ∃ prior, state.Prior prior := by
  have accepted := accepted_of_validate valid.definition
  by_cases first : state.completedTurns - 1 = 0
  · exact ⟨none, by simp, by simp [first], fun _ more => absurd first more⟩
  · cases selective : state.definition.policy.kind.isSelective with
    | true =>
      obtain ⟨id, member⟩ := exists_mem_of_ne_nil _ accepted.nonempty
      refine ⟨some id, ?_, by simp [first], fun derives => by cases selective.symm.trans derives⟩
      rintro id ⟨⟩
      exact member
    | false =>
      obtain ⟨speaker, derived, -⟩ := (valid.derived selective).last some_
      have later :
          (state.definition.turnSpeaker (state.completedTurns - 1 - 1 + 1)).isSome = true := by
        rw [Nat.sub_add_cancel (by omega), derived]
        rfl
      obtain ⟨id, found⟩ := accepted.speaker_before later
      refine ⟨some id, ?_, by simp [first], fun _ _ => found⟩
      rintro id ⟨⟩
      exact accepted.speaker_mem found

variable (ongoing : state.terminationIncrement = 0)
  (settled : state.definition.policy.kind.isSelective = true →
    state.selectionCount = state.completedTurns)

include ongoing settled

/-- What the completion that led to a state leaves without the successor. -/
theorem Valid.completes (last : state.lastSpeaker = some speaker)
    (receipt : state.lastCompletion = some (state.receiptOf speaker))
    (earlier : state.Prior prior) :
    (state.uncompleted speaker prior).Valid ∧
      (state.uncompleted speaker prior).afterTurn speaker = { state with
        status := .active
        selectedSpeaker := some speaker
        currentSpeaker := some speaker } := by
  have accepted := accepted_of_validate valid.definition
  have generation := valid.generation
  rw [ongoing] at generation
  have fits := valid.fits
  have most := valid.turns_le
  have count : state.generation = state.completionGeneration := by
    unfold completionGeneration
    split
    case isTrue selects => rw [generation, settled selects]; omega
    case isFalse derives =>
      rw [generation, (valid.derived (by simpa using derives)).count]
      omega
  refine ⟨?_, ?_⟩
  · constructor
    case definition => exact valid.definition
    case selected => rfl
    case current =>
      rintro id ⟨⟩
      exact valid.last speaker last
    case last => exact earlier.known
    case running =>
      intro _
      change state.completedTurns - 1 < state.definition.maxTurns
      omega
    case finished => exact fun completed => by cases completed
    case generation =>
      change state.generation - 1 = state.completedTurns - 1 + state.selectionCount + 0
      omega
    case fits => exact lt_of_le_of_lt (Nat.sub_le _ 1) fits
    case reason => exact fun _ ended => by cases ended
    case quiet => exact fun idle => by cases idle
    case fresh =>
      intro zero
      have absent : prior = none := earlier.first.mp zero
      subst absent
      exact ⟨rfl, rfl⟩
    case history =>
      intro more
      cases prior with
      | none => exact absurd (earlier.first.mpr rfl) more
      | some id => exact ⟨id, rfl, rfl⟩
    case selective =>
      intro selects
      have pending : state.selectionCount = state.completedTurns - 1 + 1 := by
        rw [settled selects]
        omega
      refine ⟨.inr ⟨rfl, pending⟩, fun _ => ?_⟩
      exact ⟨fun _ => rfl, fun _ => pending⟩
    case derived =>
      intro derives
      have facts := valid.derived derives
      obtain ⟨id, found, held⟩ := facts.last some_
      have same : id = speaker := Option.some.inj (held.symm.trans last)
      refine ⟨facts.count, fun _ => ⟨speaker, same ▸ found, fun _ => rfl⟩, ?_⟩
      intro more
      cases prior with
      | none => exact absurd (earlier.first.mpr rfl) more
      | some id => exact ⟨id, earlier.derived derives more, rfl⟩
  · have turns : state.completedTurns - 1 + 1 = state.completedTurns := by omega
    have next : state.generation - 1 + 1 = state.generation := by omega
    unfold afterTurn uncompleted expectation
    simp only [turns, next, last, receipt, receiptOf, ← count]

/-- A state after a completion follows the one in which its last speaker had the turn. -/
theorem Valid.follows_of_completed : ∃ before, state.Follows before := by
  have accepted := accepted_of_validate valid.definition
  obtain ⟨speaker, last, receipt⟩ := valid.history some_
  obtain ⟨prior, earlier⟩ := valid.exists_prior some_
  obtain ⟨before, after⟩ := valid.completes some_ ongoing settled last receipt earlier
  have generation := valid.generation
  have fits := valid.fits
  refine ⟨state.uncompleted speaker prior, before, rfl, ?_, .completeTurn speaker,
    completeTurn_ok.mpr ⟨?_, rfl, rfl, valid.last speaker last, rfl, ?_, ?_, ?_, valid⟩⟩
  · change state.generation - 1 < state.generation
    omega
  · rintro given member ⟨-, same⟩
    -- the completion before this one was made at an earlier turn
    obtain ⟨id, found, rfl⟩ := Option.map_eq_some_iff.mp member
    have unchanged : state.completedTurns - 1 - 1 = state.completedTurns - 1 :=
      congrArg TurnExpectation.completedTurns same
    have zero : prior = none := earlier.first.mp (by omega)
    rw [zero] at found
    cases found
  · change state.completedTurns - 1 + 1 < 2 ^ 64
    omega
  · change state.generation - 1 + 1 < 2 ^ 64
    omega
  · rw [after]
    unfold succeed
    split
    case isTrue full =>
      have completed : state.status.isCompleted = true := by
        cases ended : state.status.isCompleted with
        | true => rfl
        | false => exact absurd full (valid.running ended).ne
      have quiet := valid.quiet (TurnProtocolStatus.inactive_of_completed completed)
      have selected := valid.selected.trans quiet
      have status : state.status = .completed .maximumTurnsReached := by
        revert completed
        cases state.status with
        | active | terminated => simp [TurnProtocolStatus.isCompleted]
        | completed reason => cases reason; simp
      rw [pure_ok]
      cases state
      subst status quiet selected
      rfl
    case isFalse more =>
      have active : state.status = .active := by
        have unfinished := mt valid.finished more
        revert unfinished ongoing
        unfold terminationIncrement
        cases state.status <;> simp [TurnProtocolStatus.isCompleted]
      have speaks : state.status.isActive = true := by rw [active]; rfl
      have selected := valid.selected
      simp only [ok_iff]
      refine ⟨state.currentSpeaker, ?_, ?_⟩
      · cases selective : state.definition.policy.kind.isSelective with
        | true =>
          have idle : state.currentSpeaker = none := by
            have pending := (valid.selective selective).pending speaks
            have count := settled selective
            simpa [count] using pending
          rw [idle]
          unfold nextSpeaker
          cases policy : state.definition.policy with
          | modelSelected | freeForm => rfl
          | roundRobin | graphSelected =>
            rw [policy] at selective
            cases selective
        | false =>
          have facts := valid.derived selective
          obtain ⟨id, found, held⟩ := facts.last some_
          have same : id = speaker := Option.some.inj (held.symm.trans last)
          obtain ⟨next, present, current⟩ := facts.current (by rw [active]; rfl)
          have turns : state.completedTurns - 1 + 1 = state.completedTurns := by omega
          refine (accepted.nextSpeaker_ok (same ▸ found)).mpr ⟨next, ?_, current speaks⟩
          rw [turns]
          exact present
      · cases state
        dsimp only at active selected
        subst active selected
        rfl

omit some_ ongoing settled in
/-- A valid state that follows no other is the initial one. -/
theorem Valid.initial_or_follows :
    state = initial state.definition ∨ ∃ before, state.Follows before := by
  cases status : state.status with
  | terminated reason => exact .inr (valid.follows_of_terminated status)
  | completed reason =>
    have accepted := accepted_of_validate valid.definition
    have completed : state.status.isCompleted = true := by rw [status]; rfl
    have full := valid.finished completed
    refine .inr (valid.follows_of_completed ?_ (by rw [terminationIncrement, status]) ?_)
    · rw [full]
      exact accepted.turns
    · intro selects
      have counted := (valid.selective selects).count
      simpa [completed] using counted
  | active =>
    have speaks : state.status.isActive = true := by rw [status]; rfl
    have ongoing : state.terminationIncrement = 0 := by rw [terminationIncrement, status]
    by_cases pending : state.definition.policy.kind.isSelective = true ∧
        state.selectionCount = state.completedTurns + 1
    · exact .inr (valid.follows_of_selected status pending.1 pending.2)
    · have settled : state.definition.policy.kind.isSelective = true →
          state.selectionCount = state.completedTurns := by
        intro selects
        have counted := (valid.selective selects).count
        exact counted.resolve_right fun more => pending ⟨selects, more.2⟩
      by_cases none_ : state.completedTurns = 0
      · left
        obtain ⟨noLast, noReceipt⟩ := valid.fresh none_
        have selections : state.selectionCount = 0 := by
          cases selective : state.definition.policy.kind.isSelective with
          | true => rw [settled selective, none_]
          | false => exact (valid.derived selective).count
        have generation := valid.generation
        rw [ongoing, none_, selections] at generation
        have speaker : state.currentSpeaker = initialSpeaker state.definition := by
          rw [initialSpeaker_eq]
          cases selective : state.definition.policy.kind.isSelective with
          | true =>
            rw [turnSpeaker_selective selective]
            have idle := (valid.selective selective).pending speaks
            simpa [none_, selections] using idle
          | false =>
            obtain ⟨id, found, held⟩ := (valid.derived selective).current (by rw [status]; rfl)
            rw [held speaks, ← found, none_]
        have selected := valid.selected.trans speaker
        cases state
        dsimp only at *
        subst status noLast noReceipt selections generation speaker selected none_
        rfl
      · exact .inr (valid.follows_of_completed none_ ongoing settled)

end Predecessors

/-! ## Reachable states -/

theorem turnRun_append :
    turnRun definition (steps ++ [step]) = .ok state ↔
      ∃ before, turnRun definition steps = .ok before ∧
        before.candidate step.1 step.2 = .ok state := by
  simp only [turnRun, foldlM_append, foldlM_cons, foldlM_nil, ok_iff, exists_eq_right]

/-- A run leaves a valid state of its definition. -/
theorem turnRun_valid (accepted : definition.validate = .ok ())
    (ran : turnRun definition steps = .ok state) : state.Valid ∧ state.definition = definition := by
  induction steps using reverseRecOn generalizing state with
  | nil =>
    have same : initial definition = state := Except.ok.inj ran
    exact same ▸ ⟨initial_valid accepted, rfl⟩
  | append_singleton steps step ih =>
    obtain ⟨before, earlier, taken⟩ := turnRun_append.mp ran
    obtain ⟨-, -, valid, kept, -⟩ := candidate_ok taken
    exact ⟨valid, kept.trans (ih earlier).2⟩

/-- A valid state is left by some run of its definition. -/
theorem Valid.reached (valid : state.Valid) :
    ∃ steps, turnRun state.definition steps = .ok state := by
  -- by the generation, which every mutation raises
  induction generation : state.generation using Nat.strong_induction_on generalizing state with
  | _ generation ih =>
    obtain same | ⟨before, earlier, kept, less, mutation, taken⟩ := valid.initial_or_follows
    · refine ⟨[], ?_⟩
      rw [turnRun, foldlM_nil, ← same]
      rfl
    · obtain ⟨steps, ran⟩ := ih before.generation (generation ▸ less) earlier rfl
      rw [kept] at ran
      exact ⟨steps ++ [(mutation, before.expectation)], turnRun_append.mpr ⟨before, ran, taken⟩⟩

/-- For an accepted definition, a state with that definition passes the validator exactly when some
sequence of successful selections, completions and terminations leads to it from the initial state.
-/
theorem validate_iff_reachable (definition : TurnProtocolDefinition)
    (accepted : definition.validate = .ok ()) (state : TurnProtocolState)
    (same : state.definition = definition) :
    state.validate = .ok () ↔ ∃ steps, turnRun definition steps = .ok state := by
  rw [validate_ok]
  constructor
  · intro valid
    subst same
    exact valid.reached
  · rintro ⟨steps, ran⟩
    exact (turnRun_valid accepted ran).1

/-- Two participants who speak in turn, as their graph says. -/
def sampleDefinition : TurnProtocolDefinition where
  sessionId := "session"
  protocolId := "review"
  participants := [⟨"lead", .delegatingCoordinator⟩, ⟨"auditor", .readOnlyReviewAuditor⟩]
  policy := .graphSelected ⟨"auditor",
    ((∅ : BTreeMap String (List String)).insert "auditor" ["lead"]).insert "lead" ["auditor"]⟩
  maxTurns := 4
  limits := .default

/-- The protocol terminated in its second turn. -/
def sampleTerminated : TurnProtocolState where
  definition := sampleDefinition
  status := .terminated "done"
  selectedSpeaker := none
  currentSpeaker := none
  lastSpeaker := some "auditor"
  completedTurns := 1
  selectionCount := 0
  generation := 2
  lastCompletion := some ⟨"auditor", ⟨0, 0⟩, 1, 1⟩

theorem validate_iff_reachable_sample :
    sampleTerminated.validate = .ok () ∧
      ∃ steps, turnRun sampleDefinition steps = .ok sampleTerminated := by
  have definition : sampleDefinition.validate.toOption.map id = some () := by decide +kernel
  have state : sampleTerminated.validate.toOption.map id = some () := by decide +kernel
  obtain ⟨_, accepted, -⟩ := ok_of_toOption definition
  obtain ⟨_, checked, -⟩ := ok_of_toOption state
  exact ⟨checked,
    (validate_iff_reachable sampleDefinition accepted sampleTerminated rfl).mp checked⟩

end TurnProtocolState

end Maco.Turn
