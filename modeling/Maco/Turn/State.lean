import Maco.Base.Map
import Maco.Base.Number
import Maco.Base.Result
import Maco.Base.Text

/-!
# Turn protocols

A turn protocol hands the turn to one participant after another until a maximum number of turns is
reached or the protocol is terminated. Under round robin and under a speaker graph the next speaker
is derived; under model selection and in free form each turn is preceded by an explicit selection.
Every mutation names the turn count and the generation it expects, and leaves a state that is
validated as a whole.
-/

namespace Maco.Turn

open Maco.Base

def hardMaxParticipants : ℕ := 4096

def hardMaxGraphEdges : ℕ := 262144

def hardMaxIdentifierBytes : ℕ := 256

def hardMaxTerminationReasonBytes : ℕ := 4096

def hardMaxTurns : ℕ := 1000000

def hardMaxStateBytes : ℕ := 128 * 1024 * 1024

inductive RoleCategory where
  | delegatingCoordinator
  | nonDelegatingTerminalWorker
  | readOnlyResearcher
  | readOnlyReviewAuditor
deriving DecidableEq, Repr

inductive TurnDefinitionError where
  | invalidLimit (field : String) (requested hardMax : ℕ)
  | invalidIdentifier (field : String)
  | emptyParticipants
  | tooManyParticipants (actual max : ℕ)
  | invalidParticipant (participantId : String)
  | duplicateParticipant (participantId : String)
  | invalidMaximumTurns (requested max : ℕ)
  | invalidGraphInitialSpeaker (speakerId : String)
  | tooManyGraphTransitions (actual max : ℕ)
  | invalidGraphSource (speakerId : String)
  | invalidGraphTransition (source target : String)
  | duplicateGraphTransition (source target : String)
deriving DecidableEq, Repr

structure TurnProtocolLimits where
  maxParticipants : ℕ
  maxGraphEdges : ℕ
  maxIdentifierBytes : ℕ
  maxTerminationReasonBytes : ℕ
  maxTurns : ℕ
  maxStateBytes : ℕ
deriving DecidableEq, Repr

/-- `TurnProtocolLimits::default`. -/
def TurnProtocolLimits.default : TurnProtocolLimits :=
  ⟨1024, 65536, hardMaxIdentifierBytes, 1024, 100000, 16 * 1024 * 1024⟩

/-- `validate_limit`. -/
def validateLimit (field : String) (requested hardMax : ℕ) : Except TurnDefinitionError Unit :=
  refuseIf (requested = 0 ∨ hardMax < requested) (.invalidLimit field requested hardMax)

/-- `TurnProtocolLimits::validate`. -/
def TurnProtocolLimits.validate (limits : TurnProtocolLimits) :
    Except TurnDefinitionError Unit := do
  validateLimit "max_participants" limits.maxParticipants hardMaxParticipants
  validateLimit "max_graph_edges" limits.maxGraphEdges hardMaxGraphEdges
  validateLimit "max_identifier_bytes" limits.maxIdentifierBytes hardMaxIdentifierBytes
  validateLimit "max_termination_reason_bytes" limits.maxTerminationReasonBytes
    hardMaxTerminationReasonBytes
  validateLimit "max_turns" limits.maxTurns hardMaxTurns
  validateLimit "max_state_bytes" limits.maxStateBytes hardMaxStateBytes

/-- `validate_identifier`. -/
def validateIdentifier (field value : String) (limits : TurnProtocolLimits) :
    Except TurnDefinitionError Unit :=
  refuseIf (value = "" ∨ limits.maxIdentifierBytes < byteLength value ∨
      allChars (fun character => isNameChar character || character == ':') value = false)
    (.invalidIdentifier field)

structure TurnParticipant where
  agentId : String
  roleCategory : RoleCategory
deriving DecidableEq, Repr

structure SpeakerGraph where
  initialSpeaker : String
  transitions : BTreeMap String (List String)
deriving DecidableEq

/-- The speakers that may follow a speaker. -/
def SpeakerGraph.choices (graph : SpeakerGraph) (speaker : String) : List String :=
  (graph.transitions[speaker]?).getD []

inductive TurnPolicy where
  | roundRobin
  | modelSelected
  | graphSelected (graph : SpeakerGraph)
  | freeForm
deriving DecidableEq

inductive TurnPolicyKind where
  | roundRobin
  | modelSelected
  | graphSelected
  | freeForm
deriving DecidableEq, Repr

/-- `TurnPolicy::kind`. -/
def TurnPolicy.kind : TurnPolicy → TurnPolicyKind
  | .roundRobin => .roundRobin
  | .modelSelected => .modelSelected
  | .graphSelected _ => .graphSelected
  | .freeForm => .freeForm

/-- The policies whose turns are selected one by one. -/
def TurnPolicyKind.isSelective : TurnPolicyKind → Bool
  | .modelSelected | .freeForm => true
  | .roundRobin | .graphSelected => false

/-- One participant of `TurnProtocolDefinition::validate`. -/
def addParticipant (limits : TurnProtocolLimits) (ids : BTreeSet String)
    (participant : TurnParticipant) : Except TurnDefinitionError (BTreeSet String) := do
  (validateIdentifier "participant_id" participant.agentId limits).mapError
    fun _ => .invalidParticipant participant.agentId
  refuseIf (ids.contains participant.agentId = true) (.duplicateParticipant participant.agentId)
  pure (ids.insert participant.agentId)

/-- One transition of `validate_graph`: the edges counted so far and the targets seen. -/
def addTransition (ids : BTreeSet String) (limits : TurnProtocolLimits) (source : String)
    (seen : ℕ × BTreeSet String) (target : String) :
    Except TurnDefinitionError (ℕ × BTreeSet String) := do
  let edgeCount ← require (checkedAddU64 seen.1 1)
    (.tooManyGraphTransitions (2 ^ 64 - 1) limits.maxGraphEdges)
  refuseIf (limits.maxGraphEdges < edgeCount)
    (.tooManyGraphTransitions edgeCount limits.maxGraphEdges)
  refuseIf (ids.contains target = false) (.invalidGraphTransition source target)
  refuseIf (seen.2.contains target = true) (.duplicateGraphTransition source target)
  pure (edgeCount, seen.2.insert target)

/-- The transitions of one source of `validate_graph`. -/
def addSource (ids : BTreeSet String) (limits : TurnProtocolLimits) (edgeCount : ℕ)
    (entry : String × List String) : Except TurnDefinitionError ℕ := do
  refuseIf (ids.contains entry.1 = false) (.invalidGraphSource entry.1)
  let (edgeCount, _) ← entry.2.foldlM (addTransition ids limits entry.1) (edgeCount, ∅)
  pure edgeCount

/-- `validate_graph`. -/
def validateGraph (graph : SpeakerGraph) (ids : BTreeSet String) (limits : TurnProtocolLimits) :
    Except TurnDefinitionError Unit := do
  refuseIf (ids.contains graph.initialSpeaker = false)
    (.invalidGraphInitialSpeaker graph.initialSpeaker)
  let _ ← graph.transitions.toList.foldlM (addSource ids limits) 0
  pure ()

structure TurnProtocolDefinition where
  sessionId : String
  protocolId : String
  participants : List TurnParticipant
  policy : TurnPolicy
  maxTurns : ℕ
  limits : TurnProtocolLimits
deriving DecidableEq

namespace TurnProtocolDefinition

variable (definition : TurnProtocolDefinition)

/-- The ids of the participants. -/
def agentIds : List String := definition.participants.map TurnParticipant.agentId

/-- The policy's own part of `validate`. -/
def validatePolicy (ids : BTreeSet String) : Except TurnDefinitionError Unit :=
  match definition.policy with
  | .graphSelected graph => validateGraph graph ids definition.limits
  | .roundRobin | .modelSelected | .freeForm => .ok ()

/-- `TurnProtocolDefinition::validate`. -/
def validate : Except TurnDefinitionError Unit := do
  definition.limits.validate
  validateIdentifier "session_id" definition.sessionId definition.limits
  validateIdentifier "protocol_id" definition.protocolId definition.limits
  refuseIf (definition.participants = []) .emptyParticipants
  refuseIf (definition.limits.maxParticipants < definition.participants.length)
    (.tooManyParticipants definition.participants.length definition.limits.maxParticipants)
  let ids ← definition.participants.foldlM (addParticipant definition.limits) ∅
  refuseIf (definition.maxTurns = 0 ∨ definition.limits.maxTurns < definition.maxTurns)
    (.invalidMaximumTurns definition.maxTurns definition.limits.maxTurns)
  definition.validatePolicy ids

/-- `contains_participant`. -/
def containsParticipant (participantId : String) : Prop := participantId ∈ definition.agentIds

instance (participantId : String) : Decidable (definition.containsParticipant participantId) :=
  inferInstanceAs (Decidable (participantId ∈ definition.agentIds))

/-- `participant_index`. -/
def participantIndex (participantId : String) : Option ℕ :=
  definition.agentIds.findIdx? (· == participantId)

end TurnProtocolDefinition

inductive TurnCompletionReason where
  | maximumTurnsReached
deriving DecidableEq, Repr

inductive TurnProtocolStatus where
  | active
  | terminated (reason : String)
  | completed (reason : TurnCompletionReason)
deriving DecidableEq, Repr

/-- `TurnProtocolStatus::is_active`. -/
def TurnProtocolStatus.isActive : TurnProtocolStatus → Bool
  | .active => true
  | .terminated _ | .completed _ => false

/-- The status of a protocol that ran out of turns. -/
def TurnProtocolStatus.isCompleted : TurnProtocolStatus → Bool
  | .completed _ => true
  | .active | .terminated _ => false

structure TurnExpectation where
  completedTurns : ℕ
  generation : ℕ
deriving DecidableEq, Repr

structure TurnCompletionReceipt where
  speakerId : String
  expected : TurnExpectation
  completedTurnsAfter : ℕ
  generationAfter : ℕ
deriving DecidableEq, Repr

structure TurnProtocolState where
  definition : TurnProtocolDefinition
  status : TurnProtocolStatus
  selectedSpeaker : Option String
  currentSpeaker : Option String
  lastSpeaker : Option String
  completedTurns : ℕ
  selectionCount : ℕ
  generation : ℕ
  lastCompletion : Option TurnCompletionReceipt
deriving DecidableEq

/-- What makes a state corrupt, for the detail text of `TurnProtocolError::CorruptState`. -/
inductive CorruptDetail where
  | invalidDefinition (error : TurnDefinitionError)
  | selectedAndCurrentDiffer
  | ineligibleSpeaker (field : String)
  | generationComponentsOverflow
  | inconsistentGeneration (generation completedTurns selectionCount : ℕ)
      (status : TurnProtocolStatus)
  | invalidTerminationReason
  | terminalStateRetainsSpeaker
  | zeroTurnStateRetainsHistory
  | missingReceipt
  | receiptGenerationOverflows
  | inconsistentReceipt
  | roundRobinSelections
  | roundRobinSpeakers
  | turnCounterOverflows
  | inconsistentSelectionCount
  | pendingSelectionDisagrees
  | graphSelections
  | missingSuccessor (speaker : String)
  | ambiguousSuccessor (speaker : String)
  | graphSpeakers
deriving DecidableEq, Repr

/-- `TurnProtocolError`, with the outcomes of file operations as one case. -/
inductive TurnProtocolError where
  | invalidDefinition (error : TurnDefinitionError)
  | corruptState (detail : CorruptDetail)
  | counterStatusInconsistency (completedTurns maxTurns : ℕ) (status : TurnProtocolStatus)
  | definitionMismatch
  | poisoned
  | persistence
  | stateByteLimitExceeded (actual max : ℕ)
  | notActive (status : TurnProtocolStatus)
  | doubleCompletion (speakerId : String) (expected : TurnExpectation)
  | staleGeneration (expected actual : ℕ)
  | staleCompletedTurnCounter (expected actual : ℕ)
  | invalidSelection (participantId : String)
  | selectionNotAllowed (policy : TurnPolicyKind)
  | speakerAlreadySelected (speakerId : String)
  | noSpeakerSelected
  | wrongSpeaker (selectedSpeaker actualSpeaker : String)
  | missingGraphTransition (source : String)
  | ambiguousGraphTransition (source : String) (choices : List String)
  | invalidGraphTransition (source target : String)
  | counterExhausted
  | generationExhausted
  | selectionCounterExhausted
  | invalidTerminationReason
deriving DecidableEq, Repr

/-- `validate_termination_reason`. -/
def validateTerminationReason (reason : String) (limits : TurnProtocolLimits) :
    Except TurnProtocolError Unit :=
  refuseIf (reason = "" ∨ reason ≠ trim reason ∨
      limits.maxTerminationReasonBytes < byteLength reason ∨ anyChar isControl reason = true)
    .invalidTerminationReason

/-- One step of the walk of `derive_graph_speakers`: the current speaker and the one before. -/
def walkStep (graph : SpeakerGraph) (completedTurns : ℕ) (status : TurnProtocolStatus)
    (speakers : String × Option String) (step : ℕ) :
    Except TurnProtocolError (String × Option String) :=
  if step + 1 < completedTurns ∨ status.isCompleted = false then
    match graph.choices speakers.1 with
    | [next] => .ok (next, some speakers.1)
    | [] => .error (.corruptState (.missingSuccessor speakers.1))
    | _ => .error (.corruptState (.ambiguousSuccessor speakers.1))
  else .ok (speakers.1, some speakers.1)

/-- `derive_graph_speakers`: the last and the current speaker. -/
def deriveGraphSpeakers (graph : SpeakerGraph) (completedTurns : ℕ)
    (status : TurnProtocolStatus) : Except TurnProtocolError (Option String × Option String) := do
  let (current, last) ← (List.range completedTurns).foldlM
    (walkStep graph completedTurns status) (graph.initialSpeaker, none)
  pure (last, if status.isActive then some current else none)

namespace TurnProtocolState

/-- The speaker of a new protocol. -/
def initialSpeaker (definition : TurnProtocolDefinition) : Option String :=
  match definition.policy with
  | .roundRobin => definition.agentIds.head?
  | .graphSelected graph => some graph.initialSpeaker
  | .modelSelected | .freeForm => none

/-- `TurnProtocolState::initial`. -/
def initial (definition : TurnProtocolDefinition) : TurnProtocolState :=
  ⟨definition, .active, initialSpeaker definition, initialSpeaker definition, none, 0, 0, 0, none⟩

variable (state : TurnProtocolState)

def expectation : TurnExpectation := ⟨state.completedTurns, state.generation⟩

/-- `counter_status_error`. -/
def counterStatusError : TurnProtocolError :=
  .counterStatusInconsistency state.completedTurns state.definition.maxTurns state.status

/-- A state is refused with a reason. -/
def corruptIf (condition : Prop) [Decidable condition] (detail : CorruptDetail) :
    Except TurnProtocolError Unit :=
  refuseIf condition (.corruptState detail)

/-- The generation a termination adds. -/
def terminationIncrement : ℕ :=
  match state.status with
  | .terminated _ => 1
  | .active | .completed _ => 0

/-- The check of the generation against the turns, the selections and the status. -/
def validateGeneration : Except TurnProtocolError Unit := do
  let turns ← require (checkedAddU64 state.completedTurns state.selectionCount)
    (.corruptState .generationComponentsOverflow)
  let expected ← require (checkedAddU64 turns state.terminationIncrement)
    (.corruptState .generationComponentsOverflow)
  corruptIf (state.generation ≠ expected) (.inconsistentGeneration state.generation
    state.completedTurns state.selectionCount state.status)

/-- The check of the termination reason. -/
def validateReason : Except TurnProtocolError Unit :=
  match state.status with
  | .terminated reason => (validateTerminationReason reason state.definition.limits).mapError
      fun _ => .corruptState .invalidTerminationReason
  | .active | .completed _ => .ok ()

/-- The generation after a completion under a policy. -/
def receiptGeneration (receipt : TurnCompletionReceipt) : Except TurnProtocolError ℕ :=
  if state.definition.policy.kind.isSelective = true then
    require (checkedMulU64 receipt.completedTurnsAfter 2)
      (.corruptState .receiptGenerationOverflows)
  else .ok receipt.completedTurnsAfter

/-- The check of the last completion. -/
def validateReceipt : Except TurnProtocolError Unit :=
  if state.completedTurns = 0 then
    corruptIf (state.lastSpeaker.isSome = true ∨ state.lastCompletion.isSome = true)
      .zeroTurnStateRetainsHistory
  else do
    let receipt ← require state.lastCompletion (.corruptState .missingReceipt)
    let expectedGeneration ← state.receiptGeneration receipt
    corruptIf (receipt.completedTurnsAfter ≠ state.completedTurns ∨
        checkedAddU64 receipt.expected.completedTurns 1 ≠ some receipt.completedTurnsAfter ∨
        checkedAddU64 receipt.expected.generation 1 ≠ some receipt.generationAfter ∨
        receipt.generationAfter ≠ expectedGeneration ∨
        state.lastSpeaker ≠ some receipt.speakerId ∨
        ¬ state.definition.containsParticipant receipt.speakerId)
      .inconsistentReceipt

/-- The check of the speakers under round robin. -/
def validateRoundRobin : Except TurnProtocolError Unit := do
  corruptIf (state.selectionCount ≠ 0) .roundRobinSelections
  let ids := state.definition.agentIds
  let current := if state.status.isActive then ids[state.completedTurns % ids.length]? else none
  let last := if state.completedTurns = 0 then none
    else ids[(state.completedTurns - 1) % ids.length]?
  corruptIf (state.currentSpeaker ≠ current ∨ state.lastSpeaker ≠ last) .roundRobinSpeakers

/-- The check of the selections of a policy that selects its speakers. -/
def validateSelections : Except TurnProtocolError Unit := do
  let pending ← require (checkedAddU64 state.completedTurns 1)
    (.corruptState .turnCounterOverflows)
  corruptIf (¬ (state.selectionCount = state.completedTurns ∨
      (state.status.isCompleted = false ∧ state.selectionCount = pending)))
    .inconsistentSelectionCount
  corruptIf (state.status.isActive = true ∧
      ¬ (state.selectionCount = pending ↔ state.currentSpeaker.isSome = true))
    .pendingSelectionDisagrees

/-- The check of the speakers under a speaker graph. -/
def validateGraphSpeakers (graph : SpeakerGraph) : Except TurnProtocolError Unit := do
  corruptIf (state.selectionCount ≠ 0) .graphSelections
  let derived ← deriveGraphSpeakers graph state.completedTurns state.status
  corruptIf (state.lastSpeaker ≠ derived.1 ∨ state.currentSpeaker ≠ derived.2) .graphSpeakers

/-- `validate_policy_state`. -/
def validatePolicyState : Except TurnProtocolError Unit :=
  match state.definition.policy with
  | .roundRobin => state.validateRoundRobin
  | .modelSelected | .freeForm => state.validateSelections
  | .graphSelected graph => state.validateGraphSpeakers graph

/-- `TurnProtocolState::validate`. -/
def validate : Except TurnProtocolError Unit := do
  state.definition.validate.mapError fun error => .corruptState (.invalidDefinition error)
  corruptIf (state.selectedSpeaker ≠ state.currentSpeaker) .selectedAndCurrentDiffer
  [("selected_speaker", state.selectedSpeaker), ("current_speaker", state.currentSpeaker),
    ("last_speaker", state.lastSpeaker)].forM fun entry => whenSome entry.2 fun speaker =>
      corruptIf (¬ state.definition.containsParticipant speaker) (.ineligibleSpeaker entry.1)
  refuseIf (state.definition.maxTurns < state.completedTurns) state.counterStatusError
  refuseIf ((state.status.isCompleted = false ∧ state.definition.maxTurns ≤ state.completedTurns) ∨
      (state.status.isCompleted = true ∧ state.completedTurns ≠ state.definition.maxTurns))
    state.counterStatusError
  state.validateGeneration
  state.validateReason
  corruptIf (state.status.isActive = false ∧
      (state.selectedSpeaker.isSome = true ∨ state.currentSpeaker.isSome = true))
    .terminalStateRetainsSpeaker
  state.validateReceipt
  state.validatePolicyState

/-- `ensure_active`. -/
def ensureActive : Except TurnProtocolError Unit :=
  refuseIf (state.status.isActive = false) (.notActive state.status)

/-- `validate_expectation`. -/
def validateExpectation (expected : TurnExpectation) : Except TurnProtocolError Unit := do
  refuseIf (expected.generation ≠ state.generation)
    (.staleGeneration expected.generation state.generation)
  refuseIf (expected.completedTurns ≠ state.completedTurns)
    (.staleCompletedTurnCounter expected.completedTurns state.completedTurns)

/-- `graph_successor`. -/
def graphSuccessor (graph : SpeakerGraph) (speaker : String)
    (definition : TurnProtocolDefinition) : Except TurnProtocolError (Option String) :=
  match graph.choices speaker with
  | [] => .error (.missingGraphTransition speaker)
  | [next] => do
    refuseIf (¬ definition.containsParticipant next) (.invalidGraphTransition speaker next)
    pure (some next)
  | choices => .error (.ambiguousGraphTransition speaker choices)

/-- `next_speaker`. -/
def nextSpeaker (completedSpeaker : String) : Except TurnProtocolError (Option String) :=
  match state.definition.policy with
  | .roundRobin => do
    let index ← require (state.definition.participantIndex completedSpeaker)
      (.invalidSelection completedSpeaker)
    pure state.definition.agentIds[(index + 1) % state.definition.agentIds.length]?
  | .modelSelected | .freeForm => .ok none
  | .graphSelected graph => graphSuccessor graph completedSpeaker state.definition

/-- The candidate of `select_speaker`. -/
def selectSpeaker (participantId : String) (expected : TurnExpectation) :
    Except TurnProtocolError TurnProtocolState := do
  state.ensureActive
  state.validateExpectation expected
  refuseIf (state.definition.policy.kind.isSelective = false)
    (.selectionNotAllowed state.definition.policy.kind)
  refuseIf (¬ state.definition.containsParticipant participantId) (.invalidSelection participantId)
  whenSome state.selectedSpeaker fun selected => .error (.speakerAlreadySelected selected)
  let selectionCount ← require (checkedAddU64 state.selectionCount 1) .selectionCounterExhausted
  let generation ← require (checkedAddU64 state.generation 1) .generationExhausted
  let candidate := { state with
    selectionCount
    generation
    selectedSpeaker := some participantId
    currentSpeaker := some participantId }
  candidate.validate
  pure candidate

/-- The speaker of the turn after a completion, with the status it leaves. -/
def succeed (candidate : TurnProtocolState) (speakerId : String) :
    Except TurnProtocolError TurnProtocolState :=
  if candidate.completedTurns = candidate.definition.maxTurns then
    pure { candidate with
      status := .completed .maximumTurnsReached
      selectedSpeaker := none
      currentSpeaker := none }
  else do
    let successor ← candidate.nextSpeaker speakerId
    pure { candidate with selectedSpeaker := successor, currentSpeaker := successor }

/-- The candidate of `complete_turn`. -/
def completeTurn (speakerId : String) (expected : TurnExpectation) :
    Except TurnProtocolError TurnProtocolState := do
  refuseIf (∃ receipt ∈ state.lastCompletion,
      receipt.speakerId = speakerId ∧ receipt.expected = expected)
    (.doubleCompletion speakerId expected)
  state.ensureActive
  state.validateExpectation expected
  refuseIf (¬ state.definition.containsParticipant speakerId) (.invalidSelection speakerId)
  let selected ← require state.selectedSpeaker .noSpeakerSelected
  refuseIf (selected ≠ speakerId) (.wrongSpeaker selected speakerId)
  let completedTurnsAfter ← require (checkedAddU64 state.completedTurns 1) .counterExhausted
  let generationAfter ← require (checkedAddU64 state.generation 1) .generationExhausted
  let candidate ← succeed { state with
    completedTurns := completedTurnsAfter
    generation := generationAfter
    lastSpeaker := some speakerId
    lastCompletion := some ⟨speakerId, expected, completedTurnsAfter, generationAfter⟩ } speakerId
  candidate.validate
  pure candidate

/-- The candidate of `terminate`. -/
def terminate (reason : String) (expected : TurnExpectation) :
    Except TurnProtocolError TurnProtocolState := do
  state.ensureActive
  state.validateExpectation expected
  validateTerminationReason reason state.definition.limits
  let generation ← require (checkedAddU64 state.generation 1) .generationExhausted
  let candidate := { state with
    generation
    status := .terminated reason
    selectedSpeaker := none
    currentSpeaker := none }
  candidate.validate
  pure candidate

end TurnProtocolState

/-- A mutation of a turn protocol. -/
inductive TurnMutation where
  | selectSpeaker (participantId : String)
  | completeTurn (speakerId : String)
  | terminate (reason : String)
deriving DecidableEq, Repr

/-- The candidate of a mutation. -/
def TurnProtocolState.candidate (state : TurnProtocolState) (mutation : TurnMutation)
    (expected : TurnExpectation) : Except TurnProtocolError TurnProtocolState :=
  match mutation with
  | .selectSpeaker participantId => state.selectSpeaker participantId expected
  | .completeTurn speakerId => state.completeTurn speakerId expected
  | .terminate reason => state.terminate reason expected

end Maco.Turn
