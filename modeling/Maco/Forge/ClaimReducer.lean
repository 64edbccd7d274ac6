import Maco.Base.Earliest
import Maco.Base.Sequence
import Maco.Forge.Record

/-!
# Claims of an item thread

The claims a thread's records stand for. The records are first read into a table of claim
definitions, with the activation nonce that wins each claim, and a table of activations. Then the
seconds at which anything happened are replayed in order: within one second the heartbeats and
releases come first, and the claims that begin in it follow in the order of their ids.
-/

namespace Maco.Forge

open Maco.Base Maco.Publication

structure RecordProvenance where
  providerCommentId : ProviderObjectId
  actor : ForgeActor
  createdAt : ForgeTimestamp
  url : String
deriving DecidableEq

/-- `RecordProvenance::from_comment`. -/
def RecordProvenance.fromComment (comment : ForgeComment) : RecordProvenance :=
  ⟨comment.providerCommentId, comment.author, comment.createdAt, comment.url⟩

/-- `provenance_key`. -/
def RecordProvenance.key (provenance : RecordProvenance) :
    Lex (ForgeTimestamp × ProviderObjectId) :=
  toLex (provenance.createdAt, provenance.providerCommentId)

structure ObservedRecord where
  record : CoordinationRecord
  provenance : RecordProvenance
deriving DecidableEq

/-- The rank by which the earliest of several equal records is kept. -/
def ObservedRecord.rank (observed : ObservedRecord) : Lex (ForgeTimestamp × ProviderObjectId) :=
  observed.provenance.key

inductive RecordDispositionKind where
  | replay
  | losingActivationNonce
  | obsoleteLineageMutation
deriving DecidableEq, Repr

structure RecordDisposition where
  kind : RecordDispositionKind
  eventId : String
  provenance : RecordProvenance
deriving DecidableEq

/-- How a record that has no effect is reported. -/
def ObservedRecord.disposition (kind : RecordDispositionKind) (observed : ObservedRecord) :
    RecordDisposition :=
  ⟨kind, observed.record.eventId, observed.provenance⟩

inductive ClaimStatus where
  | active
  | released
  | superseded
  | conflict
  | invalidTakeover
deriving DecidableEq, Repr

/-- The statuses of claims that held their scopes at some time. -/
def ClaimStatus.accepted : ClaimStatus → Bool
  | .active | .released | .superseded => true
  | .conflict | .invalidTakeover => false

structure ForgeClaimState where
  claimId : String
  agentId : String
  activationNonce : String
  scopes : List String
  staleAfterSeconds : ℕ
  supersedes : Option String
  supersededBy : Option String
  status : ClaimStatus
  conflictsWith : Option String
  activation : RecordProvenance
  lastHeartbeat : RecordProvenance
  terminal : Option RecordProvenance
  staleAtObservation : Bool
deriving DecidableEq

/-- The claims, by id. -/
abbrev Claims : Type := BTreeMap String ForgeClaimState

/-- A claim id with one of its activation nonces. -/
abbrev LineageKey : Type := Lex (String × String)

/-! ## Definitions and activations -/

structure ClaimDefinition where
  agentId : String
  scopes : List String
  staleAfterSeconds : ℕ
  supersedes : Option String
  winningTimestamp : ForgeTimestamp
  winningNonce : String
deriving DecidableEq

/-- The definition one activation proposes. -/
def ClaimFields.candidate (fields : ClaimFields) (createdAt : ForgeTimestamp) :
    ClaimDefinition where
  agentId := fields.agentId
  scopes := fields.scopes
  staleAfterSeconds := fields.staleAfterSeconds
  supersedes := fields.supersedes
  winningTimestamp := createdAt
  winningNonce := fields.activationNonce

/-- The rank by which an activation wins a claim. -/
def ClaimDefinition.rank (definition : ClaimDefinition) : Lex (ForgeTimestamp × String) :=
  toLex (definition.winningTimestamp, definition.winningNonce)

/-- Activations of one claim define it alike. -/
def requireSameDefinition (current candidate : ClaimDefinition) : Except String Unit :=
  refuseIf (current.agentId ≠ candidate.agentId ∨ current.scopes ≠ candidate.scopes ∨
    current.staleAfterSeconds ≠ candidate.staleAfterSeconds ∨
    current.supersedes ≠ candidate.supersedes)
    "one claim id has ambiguous activation definitions"

/-- The definition of a claim after one of its activations: the earliest one wins. -/
def defineClaim (definitions : BTreeMap String ClaimDefinition) (claimId : String)
    (candidate : ClaimDefinition) : Except String (BTreeMap String ClaimDefinition) :=
  match definitions[claimId]? with
  | none => pure (definitions.insert claimId candidate)
  | some current => do
      requireSameDefinition current candidate
      pure (if candidate.rank < current.rank then
        definitions.insert claimId { current with
          winningTimestamp := candidate.winningTimestamp
          winningNonce := candidate.winningNonce }
      else definitions)

/-- A repeated mutation has the action and the actor of the first one. -/
def requireSameAction (refusal : String) (current observed : ObservedRecord) : Except String Unit :=
  refuseIf (current.record.action ≠ observed.record.action ∨
    current.provenance.actor ≠ observed.provenance.actor) refusal

/-- The tables filled while the claims are read. -/
structure ClaimTables where
  definitions : BTreeMap String ClaimDefinition
  activations : Earliest LineageKey ObservedRecord

/-- Read one record into the tables. -/
def readClaim (tables : ClaimTables) (observed : ObservedRecord) : Except String ClaimTables :=
  match observed.record.action with
  | .claim fields => do
      let definitions ← defineClaim tables.definitions fields.claimId
        (fields.candidate observed.provenance.createdAt)
      let activations ← tables.activations.keep ObservedRecord.rank
        (requireSameAction "one claim activation nonce has ambiguous records")
        (toLex (fields.claimId, fields.activationNonce)) observed
      pure ⟨definitions, activations⟩
  | .heartbeat _ | .release _ _ | .agentState _ => pure tables

structure ClaimModel where
  definitions : BTreeMap String ClaimDefinition
  activations : BTreeMap LineageKey ObservedRecord
  replayDispositions : List RecordDisposition

/-- The claim a heartbeat or a release refers to. -/
def CoordinationAction.reference : CoordinationAction → Option ClaimReference
  | .heartbeat reference | .release reference _ => some reference
  | .claim _ | .agentState _ => none

/-- A heartbeat or a release refers to an activation that was read. -/
def ClaimTables.checkReference (tables : ClaimTables) (reference : ClaimReference) :
    Except String Unit := do
  let definition ← require tables.definitions[reference.claimId]?
    ("claim reference `" ++ reference.claimId ++ "` has no activation")
  refuseIf (definition.agentId ≠ reference.agentId)
    "claim reference agent does not match its activation"
  refuseIf (tables.activations.table.contains
    (toLex (reference.claimId, reference.activationNonce)) = false)
    "claim reference uses an unknown activation nonce"

/-- `ClaimModel::new`. -/
def ClaimModel.new (records : List ObservedRecord) : Except String ClaimModel := do
  let tables ← records.foldlM readClaim ⟨∅, .empty⟩
  (records.filterMap (·.record.action.reference)).forM tables.checkReference
  pure ⟨tables.definitions, tables.activations.table,
    tables.activations.displaced.map (·.disposition .replay)⟩

/-! ## Heartbeats and releases of one second -/

/-- The heartbeats and releases read in one second, and which kinds each lineage has. -/
structure ReferenceTables where
  byReference : Earliest (Lex (ℕ × LineageKey)) ObservedRecord
  kinds : BTreeMap LineageKey (BTreeSet ℕ)

/-- Read a heartbeat (kind 0) or a release (kind 1). -/
def ReferenceTables.readReference (tables : ReferenceTables) (observed : ObservedRecord) (kind : ℕ)
    (reference : ClaimReference) : Except String ReferenceTables := do
  let lineage := toLex (reference.claimId, reference.activationNonce)
  let byReference ← tables.byReference.keep ObservedRecord.rank
    (requireSameAction "same-second claim mutation has ambiguous payloads or actors")
    (toLex (kind, lineage)) observed
  pure ⟨byReference, tables.kinds.insert lineage ((tables.kinds[lineage]?.getD ∅).insert kind)⟩

/-- Read one record of the second. -/
def readMutation (tables : ReferenceTables) (observed : ObservedRecord) :
    Except String ReferenceTables :=
  match observed.record.action with
  | .heartbeat reference => tables.readReference observed 0 reference
  | .release reference _ => tables.readReference observed 1 reference
  | .claim _ | .agentState _ => pure tables

/-- `canonical_claim_references`: each mutation of the second once, and the repetitions. -/
def canonicalClaimReferences (records : List ObservedRecord) (timestamp : ForgeTimestamp) :
    Except String (List ObservedRecord × List RecordDisposition) := do
  let tables ← (records.filter fun observed =>
    observed.provenance.createdAt == timestamp).foldlM readMutation ⟨.empty, ∅⟩
  refuseIf (tables.kinds.values.any fun present => decide (1 < present.size))
    "same-second heartbeat and release for one lineage are ambiguous"
  pure (tables.byReference.table.values,
    tables.byReference.displaced.map (·.disposition .replay))

/-- The claim id and the nonce an action names. -/
def CoordinationAction.lineage : CoordinationAction → String × String
  | .claim fields => (fields.claimId, fields.activationNonce)
  | .heartbeat reference | .release reference _ => (reference.claimId, reference.activationNonce)
  | .agentState _ => ("", "")

/-- `record_order_key`. -/
def ObservedRecord.orderKey (observed : ObservedRecord) : Lex (String × Lex (String × String)) :=
  toLex (observed.record.action.lineage.1,
    toLex (observed.record.action.lineage.2, observed.record.eventId))

/-- The state while the mutations of one second are applied. -/
structure SecondState where
  claims : Claims
  explicitlyReleased : BTreeSet String
  dispositions : List RecordDisposition

/-- Report a record that has no effect. -/
def SecondState.dispose (state : SecondState) (kind : RecordDispositionKind)
    (observed : ObservedRecord) : SecondState :=
  { state with dispositions := state.dispositions ++ [observed.disposition kind] }

/-- The effect of a mutation on the claim it names: only an active claim is changed. -/
def SecondState.mutate (state : SecondState) (observed : ObservedRecord)
    (claim : ForgeClaimState) (claimId : String) (release : Bool) : SecondState :=
  if claim.status ≠ .active then state.dispose .obsoleteLineageMutation observed
  else if release then
    { state with
      claims := state.claims.insert claimId
        { claim with status := .released, terminal := some observed.provenance }
      explicitlyReleased := state.explicitlyReleased.insert claimId }
  else
    { state with
      claims := state.claims.insert claimId { claim with lastHeartbeat := observed.provenance } }

section Model

variable (model : ClaimModel)

/-- A mutation by the winning nonce of its claim. -/
def mutateWinner (state : SecondState) (observed : ObservedRecord) (reference : ClaimReference)
    (release : Bool) : Except String SecondState := do
  let activation ← require
    model.activations[toLex (reference.claimId, reference.activationNonce)]?
    "winning claim activation is missing"
  refuseIf (observed.provenance.createdAt < activation.provenance.createdAt)
    "claim mutation precedes its winning activation"
  let claim ← require state.claims[reference.claimId]?
    "claim mutation appears before its activation timestamp"
  refuseIf (claim.agentId ≠ reference.agentId ∨
    claim.activationNonce ≠ reference.activationNonce ∨
    claim.activation.actor ≠ observed.provenance.actor)
    "claim mutation is not bound to its exact activation owner"
  pure (state.mutate observed claim reference.claimId release)

/-- A heartbeat or a release; one by a losing nonce has no effect. -/
def applyMutation (state : SecondState) (observed : ObservedRecord) (reference : ClaimReference)
    (release : Bool) : Except String SecondState := do
  let definition ← require model.definitions[reference.claimId]?
    "validated claim reference lost its definition"
  if reference.activationNonce = definition.winningNonce then
    mutateWinner model state observed reference release
  else pure (state.dispose .losingActivationNonce observed)

/-- One canonical reference of the second. -/
def applyReference (state : SecondState) (observed : ObservedRecord) : Except String SecondState :=
  match observed.record.action with
  | .heartbeat reference => applyMutation model state observed reference false
  | .release reference _ => applyMutation model state observed reference true
  | .claim _ | .agentState _ => pure state

end Model

/-! ## Activations of one second -/

/-- `active_conflict`. -/
def activeConflict (claims : Claims) (scopes : List String) (except : Option String) :
    Option String :=
  (((claims.values.filter fun claim => claim.status == .active).filter fun claim =>
    except != some claim.claimId).find? fun claim =>
      scopesOverlap claim.scopes scopes).map (·.claimId)

/-- An active claim whose owner was last heard its own threshold ago. -/
def ForgeClaimState.staleAt (claim : ForgeClaimState) (now : ℕ) : Except String Bool :=
  if claim.status = .active then do
    let heard ← timestampSeconds claim.lastHeartbeat.createdAt
    elapsedAtLeast heard now claim.staleAfterSeconds
  else pure false

/-- What is decided about a beginning claim: the claims after its predecessor was marked, and the
status it begins with. -/
structure Verdict where
  claims : Claims
  status : ClaimStatus
  conflict : Option String

/-- The predecessor of an accepted claim: a stale one ends here. -/
def ForgeClaimState.succeededBy (predecessor : ForgeClaimState) (stale : Bool) (claimId : String)
    (observed : ObservedRecord) : ForgeClaimState :=
  if stale then
    { predecessor with
      status := .superseded
      terminal := some observed.provenance
      supersededBy := some claimId }
  else { predecessor with supersededBy := some claimId }

/-- A claim that names a predecessor with its own scopes. -/
def judgeTakeover (claims : Claims) (now : ℕ) (claimId : String) (observed : ObservedRecord)
    (conflicting : Option String) (predecessorId : String) (predecessor : ForgeClaimState) :
    Except String Verdict := do
  let stale ← predecessor.staleAt now
  pure (if predecessor.supersededBy.isSome then
      ⟨claims, .invalidTakeover, predecessor.supersededBy⟩
    else if ¬ (stale = true ∨ predecessor.status = .released) then
      ⟨claims, .invalidTakeover, some predecessorId⟩
    else if conflicting.any (· != predecessorId) then ⟨claims, .conflict, conflicting⟩
    else ⟨claims.insert predecessorId (predecessor.succeededBy stale claimId observed),
      .active, none⟩)

/-- The verdict on a beginning claim. -/
def judge (claims : Claims) (now : ℕ) (claimId : String) (observed : ObservedRecord)
    (definition : ClaimDefinition) : Except String Verdict :=
  let conflicting := activeConflict claims definition.scopes (some claimId)
  match definition.supersedes with
  | none => pure (match conflicting with
      | some active => ⟨claims, .conflict, some active⟩
      | none => ⟨claims, .active, none⟩)
  | some predecessorId =>
      match claims[predecessorId]?.filter fun claim => claim.scopes == definition.scopes with
      | none => pure ⟨claims, .invalidTakeover, some predecessorId⟩
      | some predecessor =>
          judgeTakeover claims now claimId observed conflicting predecessorId predecessor

/-- The state a claim begins with. -/
def ClaimDefinition.begin (definition : ClaimDefinition) (claimId : String)
    (observed : ObservedRecord) (status : ClaimStatus) (conflict : Option String) :
    ForgeClaimState where
  claimId
  agentId := definition.agentId
  activationNonce := definition.winningNonce
  scopes := definition.scopes
  staleAfterSeconds := definition.staleAfterSeconds
  supersedes := definition.supersedes
  supersededBy := none
  status
  conflictsWith := conflict
  activation := observed.provenance
  lastHeartbeat := observed.provenance
  terminal := none
  staleAtObservation := false

section Model

variable (records : List ObservedRecord) (model : ClaimModel)

/-- One claim begins. -/
def applyActivation (now : ℕ) (explicitlyReleased : BTreeSet String) (claims : Claims)
    (entry : String × ObservedRecord) : Except String Claims := do
  let definition ← require model.definitions[entry.1]? "claim activation lost its definition"
  refuseIf (explicitlyReleased.toList.any fun releasedId => claims[releasedId]?.any fun released =>
    scopesOverlap released.scopes definition.scopes)
    "same-second overlapping claim release and activation are ambiguous"
  let verdict ← judge claims now entry.1 entry.2 definition
  pure (verdict.claims.insert entry.1
    (definition.begin entry.1 entry.2 verdict.status verdict.conflict))

/-- The winning activations of one second, in the order of their claim ids. -/
def activationsAt (timestamp : ForgeTimestamp) : List (String × ObservedRecord) :=
  sortBy Prod.fst ((model.activations.toList.filter fun entry =>
    entry.2.provenance.createdAt == timestamp && model.definitions[(ofLex entry.1).1]?.any fun
      definition => definition.winningNonce == (ofLex entry.1).2).map fun entry =>
        ((ofLex entry.1).1, entry.2))

/-- The claims after one second, and the records of the second that had no effect. -/
def reduceSecond (claims : Claims) (timestamp : ForgeTimestamp) :
    Except String (Claims × List RecordDisposition) := do
  let now ← timestampSeconds timestamp
  let (references, replays) ← canonicalClaimReferences records timestamp
  let state ← (sortBy ObservedRecord.orderKey references).foldlM (applyReference model)
    ⟨claims, ∅, replays⟩
  let claims ← (activationsAt model timestamp).foldlM
    (applyActivation model now state.explicitlyReleased) state.claims
  pure (claims, state.dispositions)

/-- The activations by losing nonces. -/
def losingActivations : Except String (List RecordDisposition) :=
  model.activations.toList.foldlM (fun dispositions entry => do
    let definition ← require model.definitions[(ofLex entry.1).1]?
      "claim activation lost its definition"
    pure (if (ofLex entry.1).2 = definition.winningNonce then dispositions
      else dispositions ++ [entry.2.disposition .losingActivationNonce])) []

/-- Agent states do not change claims. -/
def CoordinationAction.concernsClaims : CoordinationAction → Bool
  | .claim _ | .heartbeat _ | .release _ _ => true
  | .agentState _ => false

/-- The seconds at which claims change, in order. -/
def claimTimestamps : List ForgeTimestamp :=
  (BTreeSet.ofList ((records.filter (·.record.action.concernsClaims)).map
    (·.provenance.createdAt))).toList

/-- Reduce one more second. -/
def reduceTimestamp (reduced : Claims × List RecordDisposition) (timestamp : ForgeTimestamp) :
    Except String (Claims × List RecordDisposition) := do
  let (claims, dispositions) ← reduceSecond records model reduced.1 timestamp
  pure (claims, reduced.2 ++ dispositions)

/-- `reduce_claims`. -/
def reduceClaims : Except String (Claims × List RecordDisposition) := do
  let losing ← losingActivations model
  (claimTimestamps records).foldlM (reduceTimestamp records model)
    (∅, model.replayDispositions ++ losing)

end Model

end Maco.Forge
