import Maco.Forge.ClaimReducer

/-!
# Reconstructing an item thread

The coordination engine reads the trusted comments of a thread, keeps the earliest of repeated
events, reduces the claims, then the agent states of accepted claims, and reports every record it
kept or set aside.
-/

namespace Maco.Forge

open Maco.Base Maco.Publication

structure ForgeAgentState where
  agentId : String
  activationNonce : String
  sequence : ℕ
  phase : AgentPhase
  message : Option String
  provenance : RecordProvenance
deriving DecidableEq

structure AcceptedRecord where
  eventId : String
  provenance : RecordProvenance
deriving DecidableEq

structure CoordinationSnapshot where
  observedAt : ForgeTimestamp
  claims : List ForgeClaimState
  agents : List ForgeAgentState
  records : List AcceptedRecord
  dispositions : List RecordDisposition
deriving DecidableEq

/-! ## The engine and the records it reads -/

structure ForgeCoordinationEngine where
  providerId : String
  trustedActors : BTreeMap ProviderObjectId ForgeActor

/-- One actor of the allowlist. -/
def trustActor (providerId : String) (actors : BTreeMap ProviderObjectId ForgeActor)
    (actor : ForgeActor) : Except String (BTreeMap ProviderObjectId ForgeActor) := do
  refuseIf (actor.providerId ≠ providerId)
    "trusted actors must belong to one exact forge provider"
  refuseIf (actors[actor.providerActorId]?.any (· == actor))
    "trusted actor allowlist contains a duplicate actor"
  refuseIf (actors.contains actor.providerActorId)
    "trusted actor allowlist is ambiguous for one provider actor id"
  pure (actors.insert actor.providerActorId actor)

/-- `ForgeCoordinationEngine::new`. -/
def ForgeCoordinationEngine.new (trustedActors : List ForgeActor) :
    Except String ForgeCoordinationEngine := do
  refuseIf (trustedActors = [] ∨ 64 < trustedActors.length)
    "forge coordination requires a bounded non-empty trusted actor allowlist"
  let first ← require trustedActors.head? "trusted actor allowlist unexpectedly became empty"
  let actors ← trustedActors.foldlM (trustActor first.providerId) ∅
  pure ⟨first.providerId, actors⟩

/-- `ForgeCoordinationEngine::is_trusted_actor`. -/
def ForgeCoordinationEngine.isTrustedActor (engine : ForgeCoordinationEngine)
    (actor : ForgeActor) : Bool :=
  engine.trustedActors[actor.providerActorId]?.any (· == actor)

/-- A repeated event is the same record by the same actor. -/
def requireSameRecord (current observed : ObservedRecord) : Except String Unit :=
  refuseIf (current.record ≠ observed.record ∨
    current.provenance.actor ≠ observed.provenance.actor)
    "coordination event id is ambiguously reused"

/-- The records read so far. -/
structure ReadRecords where
  byEvent : Earliest String ObservedRecord
  markerCount : ℕ

/-- One more record; there are at most `MAX_COORDINATION_RECORDS`. -/
def ReadRecords.read (state : ReadRecords) (observed : ObservedRecord) :
    Except String ReadRecords := do
  let markerCount := state.markerCount + 1
  refuseIf (512 < markerCount) "coordination thread exceeds its record count limit"
  let byEvent ← state.byEvent.keep ObservedRecord.rank requireSameRecord observed.record.eventId
    observed
  pure ⟨byEvent, markerCount⟩

section Engine

variable (recordFromStr : RecordReader) (engine : ForgeCoordinationEngine)

/-- The record a comment's body carries, which has to target the observed item. -/
def readBody (item : ForgeItem) (comment : ForgeComment) :
    Except String (Option ObservedRecord) := do
  match ← parseRecord recordFromStr comment.body with
  | none => pure none
  | some record => do
      record.requireTarget item
      pure (some ⟨record, .fromComment comment⟩)

/-- The record of a comment; comments by others than the trusted actors are discussion. -/
def readComment (item : ForgeItem) (comment : ForgeComment) :
    Except String (Option ObservedRecord) :=
  if engine.isTrustedActor comment.author then readBody recordFromStr item comment else pure none

/-- `ForgeCoordinationEngine::parse_records`. -/
def parseRecords (observation : ItemThreadObservation) :
    Except String (List ObservedRecord × List RecordDisposition) := do
  let state ← observation.comments.foldlM
    (onRead (readComment recordFromStr engine observation.item) ReadRecords.read) ⟨.empty, 0⟩
  pure (state.byEvent.table.values, state.byEvent.displaced.map (·.disposition .replay))

end Engine

/-! ## Agent states -/

/-- What is known about the activation an agent state belongs to. -/
structure Resolution where
  resolved : Option (String × ObservedRecord)
  nonceExists : Bool

section Model

variable (model : ClaimModel)

/-- One activation that may be the one of an agent state. -/
def resolveActivation (agentId activationNonce : String) (state : Resolution)
    (entry : LineageKey × ObservedRecord) : Except String Resolution :=
  if (ofLex entry.1).2 ≠ activationNonce then pure state
  else do
    let definition ← require model.definitions[(ofLex entry.1).1]?
      "claim activation lost its definition"
    if definition.agentId ≠ agentId then pure { state with nonceExists := true }
    else do
      refuseIf state.resolved.isSome
        "agent state ambiguously matches multiple claim activations"
      pure ⟨some ((ofLex entry.1).1, entry.2), true⟩

/-- `resolve_state_activation`. -/
def resolveStateActivation (agentId activationNonce : String) :
    Except String (String × ObservedRecord) := do
  let found ← model.activations.toList.foldlM (resolveActivation model agentId activationNonce)
    ⟨none, false⟩
  require found.resolved (if found.nonceExists then
    "agent state activation nonce belongs to a different agent"
    else "agent state uses an unknown activation nonce")

/-- A repeated agent state has the payload and the actor of the first one. -/
def requireSameState (current observed : ObservedRecord) : Except String Unit := do
  refuseIf (current.record.action ≠ observed.record.action)
    "agent state sequence has ambiguous payloads"
  refuseIf (current.provenance.actor ≠ observed.provenance.actor)
    "agent state sequence is replayed by a different actor"

/-- A claim id, one of its nonces and a sequence number. -/
abbrev StateKey : Type := Lex (String × Lex (String × ℕ))

/-- Read one record into the table of agent states. -/
def readAgentState (states : Earliest StateKey ObservedRecord) (observed : ObservedRecord) :
    Except String (Earliest StateKey ObservedRecord) :=
  match observed.record.action with
  | .agentState fields => do
      let (claimId, activation) ←
        resolveStateActivation model fields.agentId fields.activationNonce
      refuseIf (observed.provenance.actor ≠ activation.provenance.actor ∨
        observed.provenance.createdAt < activation.provenance.createdAt)
        "agent state is not bound to its activation actor and provider time"
      states.keep ObservedRecord.rank requireSameState
        (toLex (claimId, toLex (fields.activationNonce, fields.sequence))) observed
  | .claim _ | .heartbeat _ | .release _ _ => pure states

/-- The agent states of accepted lineages, and the ones set aside. -/
structure SequencedStates where
  sequences : BTreeMap LineageKey (BTreeMap ℕ ObservedRecord)
  dispositions : List RecordDisposition

/-- Set an agent state aside. -/
def SequencedStates.dispose (state : SequencedStates) (kind : RecordDispositionKind)
    (observed : ObservedRecord) : SequencedStates :=
  { state with dispositions := state.dispositions ++ [observed.disposition kind] }

/-- An agent state of an accepted claim, which may not come in the second the claim ended. -/
def SequencedStates.place (state : SequencedStates) (lineage : ForgeClaimState)
    (activationNonce : String) (sequence : ℕ) (observed : ObservedRecord) :
    Except String SequencedStates := do
  refuseIf (lineage.terminal.any fun terminal =>
    terminal.createdAt == observed.provenance.createdAt)
    "same-second agent state and lineage termination are ambiguous"
  let key := toLex (lineage.agentId, activationNonce)
  let states := state.sequences[key]?.getD ∅
  refuseIf (states.contains sequence) "canonical agent state sequence was inserted more than once"
  pure { state with sequences := state.sequences.insert key (states.insert sequence observed) }

/-- An agent state by the winning nonce of its claim. -/
def SequencedStates.placeWinner (claims : Claims) (state : SequencedStates) (claimId : String)
    (activationNonce : String) (sequence : ℕ) (observed : ObservedRecord) :
    Except String SequencedStates := do
  let lineage ← require claims[claimId]? "winning agent state lineage lost its reduced claim"
  if lineage.status = .conflict ∨ lineage.status = .invalidTakeover ∨
      lineage.terminal.any fun terminal =>
        decide (terminal.createdAt < observed.provenance.createdAt) then
    pure (state.dispose .obsoleteLineageMutation observed)
  else state.place lineage activationNonce sequence observed

/-- One canonical agent state. -/
def placeState (claims : Claims) (state : SequencedStates) (entry : StateKey × ObservedRecord) :
    Except String SequencedStates := do
  let claimId := (ofLex entry.1).1
  let activationNonce := (ofLex (ofLex entry.1).2).1
  let definition ← require model.definitions[claimId]?
    "agent state lineage lost its claim definition"
  if definition.winningNonce = activationNonce then
    state.placeWinner claims claimId activationNonce (ofLex (ofLex entry.1).2).2 entry.2
  else pure (state.dispose .losingActivationNonce entry.2)

/-- The states of one lineage read so far. -/
structure StateHistory where
  expectedSequence : ℕ
  actor : Option ForgeActor
  priorProvenance : Option RecordProvenance
  latest : Option ForgeAgentState

/-- The fields of an agent state record. -/
def ObservedRecord.agentState (observed : ObservedRecord) : Option AgentStateFields :=
  match observed.record.action with
  | .agentState fields => some fields
  | .claim _ | .heartbeat _ | .release _ _ => none

/-- One state of a lineage. -/
def StateHistory.read (agentId activationNonce : String) (history : StateHistory)
    (entry : ℕ × ObservedRecord) : Except String StateHistory := do
  let provenance := entry.2.provenance
  refuseIf (entry.1 ≠ history.expectedSequence)
    "agent state history is incomplete or has a sequence gap"
  let expectedSequence ← require (checkedAddU64 history.expectedSequence 1)
    "agent state sequence overflowed"
  refuseIf (history.actor.any (· != provenance.actor))
    "agent state history changes its trusted writer"
  refuseIf (history.priorProvenance.any fun prior =>
    decide (provenance.createdAt < prior.createdAt))
    "agent state sequence rolls provider time backward"
  let fields ← require entry.2.agentState "agent state reducer received a non-state record"
  pure ⟨expectedSequence, some provenance.actor, some provenance,
    some ⟨agentId, activationNonce, entry.1, fields.phase, fields.message, provenance⟩⟩

/-- The latest state of one lineage. -/
def latestState (lineages : BTreeMap LineageKey ForgeClaimState)
    (agents : BTreeMap LineageKey ForgeAgentState)
    (entry : LineageKey × BTreeMap ℕ ObservedRecord) :
    Except String (BTreeMap LineageKey ForgeAgentState) := do
  let agentId := (ofLex entry.1).1
  let activationNonce := (ofLex entry.1).2
  let lineage ← require lineages[entry.1]? "validated agent state lineage disappeared"
  let definition ← require model.definitions[lineage.claimId]?
    "agent state lineage lost its claim definition"
  refuseIf (definition.winningNonce ≠ activationNonce)
    "agent state is not bound to the winning claim activation nonce"
  let history ← entry.2.toList.foldlM (StateHistory.read agentId activationNonce)
    ⟨1, none, none, none⟩
  let latest ← require history.latest "agent state history unexpectedly had no records"
  pure (agents.insert entry.1 latest)

/-- The accepted claims by agent and nonce. -/
def acceptedLineages (claims : Claims) : Except String (BTreeMap LineageKey ForgeClaimState) :=
  (claims.values.filter (·.status.accepted)).foldlM (fun lineages claim => do
    let key := toLex (claim.agentId, claim.activationNonce)
    refuseIf (lineages.contains key)
      "accepted claims ambiguously reuse one agent activation lineage"
    pure (lineages.insert key claim)) ∅

/-- `reduce_agent_states`. -/
def reduceAgentStates (records : List ObservedRecord) (claims : Claims) :
    Except String (BTreeMap LineageKey ForgeAgentState × List RecordDisposition) := do
  let lineages ← acceptedLineages claims
  let canonical ← records.foldlM (readAgentState model) .empty
  let placed ← canonical.table.toList.foldlM (placeState model claims)
    ⟨∅, canonical.displaced.map (·.disposition .replay)⟩
  let agents ← placed.sequences.toList.foldlM (latestState model lineages) ∅
  pure (agents, placed.dispositions)

end Model

/-! ## The snapshot -/

/-- Mark the claims that are stale at the time of the observation. -/
def markStale (claims : Claims) (observedSeconds : ℕ) : Except String Claims :=
  claims.toList.foldlM (fun marked entry => do
    let stale ← entry.2.staleAt observedSeconds
    pure (marked.insert entry.1 { entry.2 with staleAtObservation := stale })) claims

/-- The order in which kept records and dispositions are reported. -/
def reportKey (provenance : RecordProvenance) (eventId : String) :
    Lex (Lex (ForgeTimestamp × ProviderObjectId) × String) :=
  toLex (provenance.key, eventId)

/-- The snapshot of the records read from a thread. -/
def snapshotOf (observedAt : ForgeTimestamp) (records : List ObservedRecord)
    (replays : List RecordDisposition) : Except String CoordinationSnapshot := do
  let model ← ClaimModel.new records
  let (claims, claimDispositions) ← reduceClaims records model
  let observedSeconds ← timestampSeconds observedAt
  let claims ← markStale claims observedSeconds
  let (agents, stateDispositions) ← reduceAgentStates model records claims
  pure {
    observedAt
    claims := claims.values
    agents := agents.values
    records := sortBy (fun record => reportKey record.provenance record.eventId)
      (records.map fun observed => ⟨observed.record.eventId, observed.provenance⟩)
    dispositions := sortBy (fun disposition =>
      reportKey disposition.provenance disposition.eventId)
      (replays ++ claimDispositions ++ stateDispositions) }

/-- `ForgeCoordinationEngine::reconstruct`. -/
def reconstruct (recordFromStr : RecordReader) (engine : ForgeCoordinationEngine)
    (observation : ItemThreadObservation) : Except String CoordinationSnapshot := do
  refuseIf (observation.item.repository.providerId ≠ engine.providerId)
    "coordination observation belongs to a different forge provider"
  let (records, replays) ← parseRecords recordFromStr engine observation
  snapshotOf observation.observedAt records replays

end Maco.Forge
