import Maco.SyncStore.Staleness

/-!
# Claims with a remote authority

A store may be bound to a remote authority that keeps an owner for the scope of a claim. Taking a
claim over and releasing an agent's claims first act on the remote and then run the local
transaction. The remote is a table of owners that a takeover changes as a whole or not at all; what
it accepts is up to it. The two steps agree only in part: a takeover that the local transaction
refuses has already moved the remote owner, and a release selects the remote bindings by the string
it was given but the local claims by its normal form.
-/

namespace Maco.SyncStore

open Maco.Base Maco.Sync Maco.Publication List

variable {ρ : Type} [DecidableEq ρ]

structure RemoteOwnerBinding where
  runIdentity : String
  activationNonce : String
deriving DecidableEq, Repr

/-- `RemoteOwnerBinding::owner`. -/
def RemoteOwnerBinding.owner (binding : RemoteOwnerBinding) :
    Except String CoordinationOwnerIdentity :=
  context (CoordinationOwnerIdentity.new binding.runIdentity binding.activationNonce)
    "remote owner binding"

/-- The binding recorded for a claim. -/
def ClaimRemoteOwner.binding (record : ClaimRemoteOwner) : RemoteOwnerBinding :=
  ⟨record.runIdentity, record.activationNonce⟩

/-- The record `remote_binding_for_token` finds. -/
def remoteRecordForToken (remoteOwners : List ClaimRemoteOwner) (token : ℕ) :
    Option ClaimRemoteOwner :=
  remoteOwners.find? fun entry => entry.token == token

/-- `remote_binding_for_token`. -/
def remoteBindingForToken (remoteOwners : List ClaimRemoteOwner) (token : ℕ) :
    Option RemoteOwnerBinding :=
  (remoteRecordForToken remoteOwners token).map ClaimRemoteOwner.binding

/-- The owners a remote authority keeps, by scope. -/
abbrev RemoteLedger : Type := BTreeMap (List Path) CoordinationOwnerIdentity

/-- What a remote authority decides: the nonce of an activation, and whether a takeover and a
release are accepted. -/
structure RemoteCoordination where
  mintActivationNonce : String → Except String String
  takeover : RemoteLedger → CoordinationOwnerIdentity → CoordinationOwnerIdentity → List Path →
    Except String Unit
  release : RemoteOwnerBinding → String → Except String Unit

/-! ## Takeover -/

/-- `remote_takeover`: an accepted takeover gives the scope to the successor. -/
def remoteTakeover (remote : RemoteCoordination) (ledger : RemoteLedger)
    (predecessor : CoordinationOwnerIdentity) (successorRun : String) (scope : List Path) :
    Except String (CoordinationOwnerIdentity × RemoteLedger) := do
  let nonce ← remote.mintActivationNonce successorRun
  let successor ← context (CoordinationOwnerIdentity.new successorRun nonce) "successor"
  remote.takeover ledger predecessor successor scope
  pure (successor, ledger.insert scope successor)

/-- The remote takeover of a claim that has a binding. -/
def takeBindingOver (remote : RemoteCoordination) (ledger : RemoteLedger) (value : ClaimsState ρ)
    (priorToken : ℕ) (agentId : String) (binding : RemoteOwnerBinding) :
    Except String (Option CoordinationOwnerIdentity × RemoteLedger) := do
  let predecessor ← binding.owner
  let priorClaim ← require (value.claims.find? fun claim => claim.token == priorToken)
    ("claim token is not active: " ++ toString priorToken)
  let (successor, moved) ← remoteTakeover remote ledger predecessor agentId priorClaim.paths
  pure (some successor, moved)

section

variable (checksum : List Path → Except String String) (remote : RemoteCoordination)

/-- The remote part of `takeover_at`. -/
def takeoverRemotely (repository : ρ) (ledger : RemoteLedger) (snapshot : StoredSnapshot ρ)
    (priorToken : ℕ) (agentId : String) :
    Except String (Option CoordinationOwnerIdentity × RemoteLedger) := do
  validateAuthenticatedStore checksum repository snapshot
  match remoteBindingForToken snapshot.value.remoteOwners priorToken with
  | some binding => takeBindingOver remote ledger snapshot.value priorToken agentId binding
  | none => pure (none, ledger)

/-- What a takeover leaves: the remote owners, the durable snapshot, and the result. -/
structure TakeoverEffect (ρ : Type) where
  ledger : RemoteLedger
  snapshot : StoredSnapshot ρ
  result : Except String ClaimTakeoverOutcome

/-- `takeover_at` of a store with a remote. -/
def takeoverAt (repository : ρ) (ledger : RemoteLedger) (snapshot : StoredSnapshot ρ)
    (priorToken : ℕ) (agentId : String) (timing : Option ClaimTiming) (now : ℕ) :
    TakeoverEffect ρ :=
  match validateTiming timing with
  | .error refusal => ⟨ledger, snapshot, .error refusal⟩
  | .ok _ =>
    match takeoverRemotely checksum remote repository ledger snapshot priorToken agentId with
    | .error refusal => ⟨ledger, snapshot, .error refusal⟩
    | .ok (successor, moved) =>
      let (committed, result) := withLockedUpdate checksum repository snapshot
        (takeoverUpdate checksum priorToken agentId timing now successor)
      ⟨moved, committed, result⟩

/-- The remote owner of a claim: the owner of the scope it is stored with. -/
def remoteOwnerOf (ledger : RemoteLedger) (value : ClaimsState ρ) (token : ℕ) :
    Option CoordinationOwnerIdentity :=
  (value.claims.find? fun claim => claim.token == token).bind fun claim => ledger[claim.paths]?

/-- The call returned an error and the durable snapshot is the one it started from. -/
def TakeoverEffect.Refused (effect : TakeoverEffect ρ) (snapshot : StoredSnapshot ρ) : Prop :=
  effect.result.isOk = false ∧ effect.snapshot = snapshot

/-- The inputs on which the remote gives the scope of a claim to a successor: the claim is stored
and has a remote binding, and the remote mints a nonce and accepts the takeover. -/
structure RemoteAccepts (repository : ρ) (ledger : RemoteLedger) (snapshot : StoredSnapshot ρ)
    (priorToken : ℕ) (agentId : String) (timing : Option ClaimTiming)
    (successor : CoordinationOwnerIdentity) : Prop where
  timed : validateTiming timing = .ok ()
  opens : validateAuthenticatedStore checksum repository snapshot = .ok ()
  named : ∃ nonce, remote.mintActivationNonce agentId = .ok nonce ∧
    CoordinationOwnerIdentity.new agentId nonce = .ok successor
  accepted : ∃ binding predecessor claim,
    remoteBindingForToken snapshot.value.remoteOwners priorToken = some binding ∧
    binding.owner = .ok predecessor ∧
    snapshot.value.claims.find? (fun claim => claim.token == priorToken) = some claim ∧
    remote.takeover ledger predecessor successor claim.paths = .ok ()

end

/-- The checks of the local transaction on the state it starts from: no liveness is ambiguous, the
claim is takeover-eligible, the supersessions and the lineage of the claim are within their bounds,
it is no subordinate and has none, and the agent id has a normal form that fits. -/
structure TakeoverAdmits (value : ClaimsState ρ) (priorToken : ℕ) (agentId : String) (now : ℕ)
    (coordinator : Inner) (entry : ClaimLiveness) : Prop where
  rebuilt : coordinatorFromAuthenticated value = .ok coordinator
  unambiguous : ensureUnambiguousLiveness (allClaims coordinator) value.liveness
    value.supersessions now = .ok ()
  recorded : value.liveness.find? (fun entry => entry.token == priorToken) = some entry
  eligible : (classifyLiveness entry now).1 = .takeoverEligible
  records : value.supersessions.length < maxSupersessionRecords
  lineage : ∃ depth < maxSupersessionLineageDepth,
    supersessionLineageDepth entry.claimId value.supersessions = .ok depth
  top : coordinator.subordinateClaims[priorToken]? = none
  childless : ∀ binding ∈ coordinator.subordinateBindings, binding.parentToken = priorToken →
    coordinator.subordinateClaims[binding.childToken]? = none
  agent : ∃ name, normalizeAgentId agentId = .ok name ∧ byteLength name ≤ maxAgentIdBytes

variable {checksum : List Path → Except String String} {remote : RemoteCoordination}
  {repository : ρ} {snapshot : StoredSnapshot ρ} {priorToken : ℕ} {agentId : String}
  {timing : Option ClaimTiming} {ledger : RemoteLedger}

/-- On other inputs the remote owners stay as they are. -/
theorem takeoverAt_ledger (now : ℕ) :
    (takeoverAt checksum remote repository ledger snapshot priorToken agentId timing now).ledger =
        ledger ∨
      ∃ successor,
        RemoteAccepts checksum remote repository ledger snapshot priorToken agentId timing
          successor := by
  unfold takeoverAt
  cases timed : validateTiming timing with
  | error refusal => exact .inl rfl
  | ok _ =>
    cases accepted : takeoverRemotely checksum remote repository ledger snapshot priorToken
        agentId with
    | error refusal => exact .inl rfl
    | ok answer =>
      simp only [takeoverRemotely, bind_ok] at accepted
      obtain ⟨_, opens, outcome⟩ := accepted
      split at outcome
      case h_1 binding bound =>
        simp only [takeBindingOver, remoteTakeover, ok_iff, context_ok] at outcome
        obtain ⟨predecessor, owner, claim, listed, _,
          ⟨nonce, minted, successor, named, _, taken, -⟩, -⟩ := outcome
        exact .inr ⟨successor, timed, opens, ⟨nonce, minted, named⟩, binding, predecessor, claim,
          bound, owner, listed, taken⟩
      case h_2 =>
        rw [pure_ok] at outcome
        exact .inl (congrArg Prod.snd outcome).symm

variable {operation : Working → Except String (α × Working)}

/-- A transaction that returns an error and leaves the snapshot did not commit: the snapshot it
started from was accepted. -/
theorem withLockedUpdate_refused_iff :
    ((withLockedUpdate checksum repository snapshot operation).2.isOk = false ∧
      (withLockedUpdate checksum repository snapshot operation).1 = snapshot) ↔
      ¬ ∃ output committed, commitUpdate checksum repository snapshot operation =
        .ok (output, committed) := by
  unfold withLockedUpdate
  split
  case h_1 refusal failed =>
    rw [failed]
    exact iff_of_true ⟨rfl, rfl⟩ (by simp)
  case h_2 output committed committing =>
    refine iff_of_false ?_ (not_not.mpr ⟨output, committed, committing⟩)
    rintro ⟨failed, same⟩
    dsimp only at failed same
    rw [same, (commitUpdate_ok committing).1] at failed
    cases failed

variable {successor : CoordinationOwnerIdentity}

/-- A takeover that the remote accepted has moved the owner, and is refused exactly when its
transaction does not commit. -/
theorem RemoteAccepts.takeoverAt (now : ℕ)
    (accepts : RemoteAccepts checksum remote repository ledger snapshot priorToken agentId timing
      successor) :
    remoteOwnerOf (takeoverAt checksum remote repository ledger snapshot priorToken agentId timing
        now).ledger snapshot.value priorToken = some successor ∧
      ((takeoverAt checksum remote repository ledger snapshot priorToken agentId timing now).Refused
          snapshot ↔
        ¬ ∃ outcome committed, commitUpdate checksum repository snapshot
          (takeoverUpdate checksum priorToken agentId timing now (some successor)) =
            .ok (outcome, committed)) := by
  obtain ⟨timed, opens, ⟨nonce, minted, named⟩, binding, predecessor, claim, bound, owner, listed,
    taken⟩ := accepts
  have remotely : takeoverRemotely checksum remote repository ledger snapshot priorToken agentId =
      .ok (some successor, ledger.insert claim.paths successor) := by
    simp [takeoverRemotely, opens, bound, takeBindingOver, owner, listed, require, remoteTakeover,
      minted, named, context, taken, pure, Except.pure, Except.mapError]
  unfold SyncStore.takeoverAt
  rw [timed, remotely]
  refine ⟨?_, withLockedUpdate_refused_iff⟩
  rw [remoteOwnerOf, listed, Option.bind_some, BTreeMap.get_insert, if_pos rfl]

/-- A takeover that commits passed the checks on the state it started from. -/
theorem takeoverUpdate_admits {now : ℕ} {remoteSuccessor : Option CoordinationOwnerIdentity}
    (committing : commitUpdate checksum repository snapshot
      (takeoverUpdate checksum priorToken agentId timing now remoteSuccessor) =
        .ok (outcome, committed)) :
    ∃ coordinator entry,
      TakeoverAdmits snapshot.value priorToken agentId now coordinator entry := by
  obtain ⟨-, coordinator, next, settled, rebuilt, applied, settledOk, -⟩ :=
    commitUpdate_ok committing
  have facts := settleUpdate_ok settledOk
  have consistent := (opened_of_coordinator rebuilt).consistent
  simp only [takeoverUpdate, claimLivenessReport, ok_iff, mapError_ok, not_not, not_le,
    Prod.mk.injEq] at applied
  obtain ⟨_, -, _, unambiguous, prior, -, entry, recorded, _, ⟨-, rfl⟩, eligible, records, depth,
    walked, lineage, _, -, _, -, ⟨superseded, released⟩, releasedOk, ⟨claim, after⟩, claimed, _, -,
    _, -, -, rfl⟩ := applied
  obtain ⟨childless, cases_⟩ := release_ok releasedOk
  have mid := (release_issues consistent releasedOk).1
  refine ⟨coordinator, entry, rebuilt, unambiguous, recorded, eligible, records,
    ⟨depth, lineage, walked⟩, ?_, childless, ?_⟩
  · obtain ⟨stored, rfl⟩ | ⟨absent, -⟩ := cases_
    · exact absurd claimed (no_claim_of_released_child consistent stored)
    · exact absent
  · have listed := claim_listed mid claimed
    rw [← facts.claims] at listed
    have fits := ((validateSyncSnapshot_ok facts.snapshotValid).2 claim listed).1
    obtain ⟨-, name, _, _, normal, -, -, -, rfl⟩ := claimInCoordinator_ok claimed
    exact ⟨name, normal, fits⟩

/-- A takeover that returns an error before its commit keeps the remote owner of the claim when each
transfer the remote accepts names the owner the scope had. On inputs that a check of the local
transaction refuses this is also necessary: the owner is moved first. -/
theorem takeoverAt_keeps_owner_iff (checksum : List Path → Except String String)
    (remote : RemoteCoordination) (repository : ρ) (ledger : RemoteLedger)
    (snapshot : StoredSnapshot ρ) (priorToken : ℕ) (agentId : String) (timing : Option ClaimTiming)
    (now : ℕ) :
    ((∀ successor, RemoteAccepts checksum remote repository ledger snapshot priorToken agentId
        timing successor → remoteOwnerOf ledger snapshot.value priorToken = some successor) →
      (takeoverAt checksum remote repository ledger snapshot priorToken agentId timing now).Refused
        snapshot →
      remoteOwnerOf (takeoverAt checksum remote repository ledger snapshot priorToken agentId timing
        now).ledger snapshot.value priorToken = remoteOwnerOf ledger snapshot.value priorToken) ∧
    ((∀ coordinator entry,
        ¬ TakeoverAdmits snapshot.value priorToken agentId now coordinator entry) →
      (((takeoverAt checksum remote repository ledger snapshot priorToken agentId timing
        now).Refused snapshot →
      remoteOwnerOf (takeoverAt checksum remote repository ledger snapshot priorToken agentId timing
        now).ledger snapshot.value priorToken = remoteOwnerOf ledger snapshot.value priorToken) ↔
      ∀ successor, RemoteAccepts checksum remote repository ledger snapshot priorToken agentId
        timing successor → remoteOwnerOf ledger snapshot.value priorToken = some successor)) := by
  have kept (same : ∀ successor, RemoteAccepts checksum remote repository ledger snapshot priorToken
      agentId timing successor → remoteOwnerOf ledger snapshot.value priorToken = some successor) :
      remoteOwnerOf (takeoverAt checksum remote repository ledger snapshot priorToken agentId timing
        now).ledger snapshot.value priorToken = remoteOwnerOf ledger snapshot.value priorToken := by
    by_cases accepted : ∃ successor, RemoteAccepts checksum remote repository ledger snapshot
        priorToken agentId timing successor
    · obtain ⟨successor, accepts⟩ := accepted
      rw [(accepts.takeoverAt now).1, same successor accepts]
    · rw [(takeoverAt_ledger now).resolve_right accepted]
  refine ⟨fun same _ => kept same, fun refused => ⟨?_, fun same _ => kept same⟩⟩
  intro keeps successor accepts
  obtain ⟨owner, refuses⟩ := accepts.takeoverAt now
  rw [← keeps (refuses.mpr ?_), owner]
  rintro ⟨outcome, committed, committing⟩
  obtain ⟨coordinator, entry, admits⟩ := takeoverUpdate_admits committing
  exact refused coordinator entry admits

/-- A remote that accepts everything and mints one nonce. -/
def openRemote : RemoteCoordination where
  mintActivationNonce := fun _ => .ok "nonce-b"
  takeover := fun _ _ _ _ => .ok ()
  release := fun _ _ => .ok ()

/-- The scope of the sample claim. -/
def boundScope : List Path := [[.normal "src"]]

/-- The remote owners behind the sample store. -/
def boundLedger : RemoteLedger :=
  (∅ : RemoteLedger).insert boundScope ⟨"run-a", "nonce-a"⟩

/-- A stored claim of `src` with a remote owner, made at time zero and marked for takeover or not.
-/
def boundSnapshot (eligibleSince : Option ℕ) : StoredSnapshot Unit where
  generation := 1
  token := 1
  value := {
    version := 1
    snapshotRevision := 1
    repository := ()
    nextToken := 2
    claims := [⟨1, "worker", boundScope⟩]
    subordinateBindings := []
    runOwners := []
    liveness := [{ freshLiveness 1 with takeoverEligibleSinceUnixSeconds := eligibleSince }]
    supersessions := []
    remoteOwners := [⟨1, "run-a", "nonce-a"⟩] }

/-- A remote that accepts no takeover. -/
def refusingRemote : RemoteCoordination :=
  { openRemote with takeover := fun _ _ _ _ => .error "owner changed" }

/-- A fresh claim, which the store refuses to hand over, keeps its owner when the remote refuses. -/
theorem takeoverAt_keeps_owner_iff_refused :
    (takeoverAt quietHost.checksum refusingRemote () boundLedger (boundSnapshot none) 1 "run-b" none
        10).Refused (boundSnapshot none) →
      remoteOwnerOf (takeoverAt quietHost.checksum refusingRemote () boundLedger
        (boundSnapshot none) 1 "run-b" none 10).ledger (boundSnapshot none).value 1 =
      remoteOwnerOf boundLedger (boundSnapshot none).value 1 := by
  refine ((takeoverAt_keeps_owner_iff quietHost.checksum refusingRemote () boundLedger
    (boundSnapshot none) 1 "run-b" none 10).2 ?_).mpr ?_
  · rintro coordinator entry admits
    obtain rfl : freshLiveness 1 = entry := Option.some.inj admits.recorded
    have fresh : (classifyLiveness (freshLiveness 1) 10).1 = .fresh := by decide +kernel
    cases fresh.symm.trans admits.eligible
  · rintro successor accepts
    obtain ⟨_, _, _, -, -, -, taken⟩ := accepts.accepted
    cases taken

/-- A fresh claim is refused with an error after the remote has given its scope away. -/
theorem takeoverAt_fresh_claim_moves_owner :
    (takeoverAt quietHost.checksum openRemote () boundLedger (boundSnapshot none) 1 "run-b" none
        10).Refused (boundSnapshot none) ∧
      remoteOwnerOf boundLedger (boundSnapshot none).value 1 = some ⟨"run-a", "nonce-a"⟩ ∧
      remoteOwnerOf (takeoverAt quietHost.checksum openRemote () boundLedger (boundSnapshot none) 1
        "run-b" none 10).ledger (boundSnapshot none).value 1 = some ⟨"run-b", "nonce-b"⟩ := by
  refine ⟨⟨?_, ?_⟩, ?_, ?_⟩ <;> decide +kernel

/-! ## Release -/

/-- The loop of `release_by_agent`: the bindings released through `remote.release_binding`, and
whether a release failed. -/
def releaseBindings (remote : RemoteCoordination) (remoteOwners : List ClaimRemoteOwner) :
    List PathClaim → List RemoteOwnerBinding × Except String Unit
  | [] => ([], .ok ())
  | claim :: rest =>
    match remoteBindingForToken remoteOwners claim.token with
    | none => releaseBindings remote remoteOwners rest
    | some binding =>
      match remote.release binding "sync-store-release-by-agent" with
      | .error refusal => ([], .error refusal)
      | .ok _ =>
        let (released, result) := releaseBindings remote remoteOwners rest
        (binding :: released, result)

/-- What a release of an agent's claims leaves: the bindings released at the remote, the durable
snapshot, and the result. -/
structure ReleaseEffect (ρ : Type) where
  bindings : List RemoteOwnerBinding
  snapshot : StoredSnapshot ρ
  result : Except String (List PathClaim)

/-- `release_by_agent` of a store with a remote. -/
def releaseByAgentAt (checksum : List Path → Except String String) (remote : RemoteCoordination)
    (repository : ρ) (snapshot : StoredSnapshot ρ) (agentId : String) : ReleaseEffect ρ :=
  match validateAuthenticatedStore checksum repository snapshot with
  | .error refusal => ⟨[], snapshot, .error refusal⟩
  | .ok _ =>
    match releaseBindings remote snapshot.value.remoteOwners
        (snapshot.value.claims.filter fun claim => claim.agentId == agentId) with
    | (bindings, .error refusal) => ⟨bindings, snapshot, .error refusal⟩
    | (bindings, .ok _) =>
      let (committed, result) := withLockedUpdate checksum repository snapshot
        (releaseByAgentUpdate agentId)
      ⟨bindings, committed, result⟩

variable {remoteOwners : List ClaimRemoteOwner}

/-- A loop that ran to its end released exactly the bindings of its claims. -/
theorem releaseBindings_ok (claims : List PathClaim)
    (finished : releaseBindings remote remoteOwners claims = (bindings, .ok ())) :
    binding ∈ bindings ↔
      ∃ claim ∈ claims, remoteBindingForToken remoteOwners claim.token = some binding := by
  induction claims generalizing bindings with
  | nil =>
    rw [releaseBindings, Prod.mk.injEq] at finished
    rw [← finished.1]
    simp
  | cons claim rest ih =>
    rw [releaseBindings] at finished
    split at finished
    case h_1 unbound =>
      rw [ih finished]
      simp [unbound]
    case h_2 own bound =>
      split at finished
      case h_1 => cases finished
      case h_2 =>
        rw [Prod.mk.injEq] at finished
        rw [← finished.1, mem_cons, ih (Prod.ext rfl finished.2)]
        simp [bound, eq_comm]

/-- The agent that holds the claim of a token. -/
def HeldBy (inner : Inner) (token : ℕ) (agent : String) : Prop :=
  (∃ child, inner.subordinateClaims[token]? = some child ∧ child.agentId = agent) ∨
    ∃ (key : Path) (entry : ClaimEntry), inner.claims[key]? = some entry ∧ entry.token = token ∧
      entry.agentId = agent

variable {inner : Inner} {token : ℕ} {agent : String}

variable {released : List PathClaim}

/-- A release returns the claims the agent held, and what stays active is what others held. -/
theorem releaseByAgent_held {next : Inner} (consistent : Consistent inner)
    (accepted : releaseByAgent inner agentId = .ok (released, next)) :
    ∃ agent, normalizeAgentId agentId = .ok agent ∧
      (∀ token, token ∈ released.map PathClaim.token ↔ HeldBy inner token agent) ∧
      ∀ token, token ∈ activeTokens next ↔ ∃ other, other ≠ agent ∧ HeldBy inner token other := by
  have returned := accepted
  obtain ⟨agent, normal, -, rfl⟩ := releaseByAgent_ok accepted
  have after : Consistent _ := (releaseByAgent_shrinks accepted).1 ▸
    step_consistent consistent (.releaseByAgent agentId)
  refine ⟨agent, normal, fun token => ?_, fun token => ?_⟩
  · simp only [releaseByAgent, ok_iff, Prod.mk.injEq, normal, Except.ok.injEq] at returned
    obtain ⟨_, rfl, -, rfl, -⟩ := returned
    have own (claim : PathClaim) (token : ℕ)
        (found : (inner.subordinateClaims[token]? <|> claimForToken inner.claims token) =
          some claim) : claim.token = token := by
      rw [Option.orElse_eq_some] at found
      obtain stored | ⟨-, grouped⟩ := found
      · exact consistent.childToken token claim stored
      · exact (claimForToken_some grouped).1
    simp only [mem_map, mem_filterMap, BTreeSet.mem_toList, BTreeSet.mem_ofList, mem_append,
      mem_filter, BTreeMap.mem_values, beq_iff_eq]
    constructor
    · rintro ⟨claim, ⟨_, listed, found⟩, rfl⟩
      rw [own claim _ found]
      obtain ⟨entry, ⟨⟨key, stored⟩, owned⟩, rfl⟩ | ⟨child, ⟨⟨key, stored⟩, owned⟩, rfl⟩ := listed
      · exact .inr ⟨key, entry, stored, rfl, owned⟩
      · exact .inl ⟨child, (consistent.childToken key child stored).symm ▸ stored, owned⟩
    · intro held
      obtain ⟨claim, found⟩ : ∃ claim,
          (inner.subordinateClaims[token]? <|> claimForToken inner.claims token) = some claim := by
        cases child : inner.subordinateClaims[token]? with
        | some claim => exact ⟨claim, rfl⟩
        | none =>
          obtain ⟨claim, stored, -⟩ | ⟨key, entry, stored, rfl, -⟩ := held
          · cases child.symm.trans stored
          · exact exists_claimForToken stored
      refine ⟨claim, ⟨token, ?_, found⟩, own claim token found⟩
      obtain ⟨child, stored, owned⟩ | ⟨key, entry, stored, same, owned⟩ := held
      · exact .inr ⟨child, ⟨⟨token, stored⟩, owned⟩, consistent.childToken token child stored⟩
      · exact .inl ⟨entry, ⟨⟨key, stored⟩, owned⟩, same⟩
  · rw [activeTokens, mem_tokens after]
    constructor
    · rintro (⟨child, stored⟩ | ⟨key, entry, found, same⟩)
      · obtain ⟨stored, other⟩ := BTreeMap.get_filter_some stored
        exact ⟨_, bne_iff_ne.mp other, .inl ⟨child, stored, rfl⟩⟩
      · obtain ⟨found, other⟩ := BTreeMap.get_filter_some found
        exact ⟨_, bne_iff_ne.mp other, .inr ⟨key, entry, found, same, rfl⟩⟩
    · rintro ⟨_, different, ⟨child, stored, rfl⟩ | ⟨key, entry, found, same, rfl⟩⟩
      · exact .inl ⟨child, by simp [stored, different]⟩
      · exact .inr ⟨key, entry, by simp [found, different], same⟩

omit [DecidableEq ρ] in
/-- The claims of an opened store are held by the normalized agents they are stored with, and each
is stored with an agent that has a normal form. -/
theorem coordinator_holders (rebuilt : coordinatorFromAuthenticated value = .ok coordinator) :
    (∀ token agent, HeldBy coordinator token agent ↔ ∃ claim ∈ value.claims, claim.token = token ∧
      normalizeAgentId claim.agentId = .ok agent) ∧
    ∀ claim ∈ value.claims, ∃ agent, normalizeAgentId claim.agentId = .ok agent := by
  have opened := opened_of_coordinator rebuilt
  obtain ⟨-, -, -, restored⟩ := coordinatorFromAuthenticated_ok.mp rebuilt
  simp only [fromSnapshotWithSubordinates, ok_iff] at restored
  obtain ⟨seen, checked, top, topRestored, full, folded, rfl⟩ := restored
  have recorded := checkBindings_sound checked
  have kept : full.claims = top.claims := (restoreChildren_sound folded).1
  have normalWorker : ∀ (token : ℕ) child, full.subordinateClaims[token]? = some child →
      normalizeAgentId child.agentId = .ok child.agentId := by
    intro token child stored
    obtain ⟨binding, listed, bound⟩ := opened.consistent.childBound token child stored
    rw [← bound.worker]
    exact (opened.consistent.bindings binding listed).worker
  obtain ⟨normals, holders⟩ := fromSnapshot_holders topRestored
  simp only [mem_filter, Bool.not_eq_true', decide_eq_false_iff_not, recorded.childTokens]
    at normals holders
  have child (claim : PathClaim) (listed : claim ∈ value.claims) (child : claim.token ∈
      value.subordinateBindings.map SubordinateClaimBinding.childToken) :
      full.subordinateClaims[claim.token]? = some claim :=
    (opened.children claim.token claim).mpr ⟨listed, rfl, child⟩
  constructor
  · intro token agent
    unfold HeldBy
    rw [kept, holders]
    constructor
    · rintro (⟨child, stored, rfl⟩ | ⟨claim, ⟨listed, -⟩, same, normal⟩)
      · obtain ⟨listed, same, -⟩ := (opened.children token child).mp stored
        exact ⟨child, listed, same, normalWorker token child stored⟩
      · exact ⟨claim, listed, same, normal⟩
    · rintro ⟨claim, listed, rfl, normal⟩
      by_cases isChild : claim.token ∈
          value.subordinateBindings.map SubordinateClaimBinding.childToken
      · have stored := child claim listed isChild
        have ownName := normalWorker _ claim stored
        rw [normal, Except.ok.injEq] at ownName
        exact .inl ⟨claim, stored, ownName.symm⟩
      · exact .inr ⟨claim, ⟨listed, isChild⟩, rfl, normal⟩
  · intro claim listed
    by_cases isChild : claim.token ∈
        value.subordinateBindings.map SubordinateClaimBinding.childToken
    · exact ⟨_, normalWorker _ claim (child claim listed isChild)⟩
    · exact normals claim ⟨listed, isChild⟩

/-- A claim and the remote binding it is stored with. -/
def Bound (value : ClaimsState ρ) (claim : PathClaim) (binding : RemoteOwnerBinding) : Prop :=
  remoteBindingForToken value.remoteOwners claim.token = some binding

/-- Every released claim with a remote binding had that binding released, and no claim that stays
active did. -/
structure ReleasesBindings (before : ClaimsState ρ) (released : List PathClaim)
    (effect : ReleaseEffect ρ) : Prop where
  released : ∀ claim ∈ released, ∀ binding, Bound before claim binding →
    binding ∈ effect.bindings
  kept : ∀ claim ∈ effect.snapshot.value.claims, ∀ binding, Bound before claim binding →
    binding ∉ effect.bindings

/-- What a release that succeeds has done, at the remote and in the store. -/
theorem releaseByAgentAt_ok
    (succeeded : (releaseByAgentAt checksum remote repository snapshot agentId).result =
      .ok released) :
    (∀ binding, binding ∈ (releaseByAgentAt checksum remote repository snapshot agentId).bindings ↔
      ∃ claim ∈ snapshot.value.claims, claim.agentId = agentId ∧
        Bound snapshot.value claim binding) ∧
    ∃ coordinator next, coordinatorFromAuthenticated snapshot.value = .ok coordinator ∧
      releaseByAgent coordinator agentId = .ok (released, next) ∧
      (releaseByAgentAt checksum remote repository snapshot agentId).snapshot.value.claims =
        allClaims next := by
  unfold releaseByAgentAt at succeeded ⊢
  split at succeeded
  case h_1 => cases succeeded
  case h_2 _ opens =>
    split at succeeded
    case h_1 => cases succeeded
    case h_2 bindings _ finished =>
      dsimp only at succeeded ⊢
      constructor
      · intro binding
        rw [releaseBindings_ok _ finished]
        simp only [mem_filter, beq_iff_eq, and_assoc]
        rfl
      · unfold withLockedUpdate at succeeded ⊢
        split at succeeded
        case h_1 => cases succeeded
        case h_2 output committed committing =>
          obtain ⟨_, -, rfl⟩ := map_ok.mp succeeded
          obtain ⟨-, coordinator, next, settled, rebuilt, applied, settledOk, outcome⟩ :=
            commitUpdate_ok committing
          have claims : committed.value.claims = allClaims next.coordinator := by
            have settledClaims := (settleUpdate_ok settledOk).claims
            rcases outcome with ⟨rfl, rfl⟩ | rfl
            · exact settledClaims
            · exact settledClaims
          obtain ⟨left, _, accepted, rfl⟩ := releaseByAgentUpdate_ok applied
          exact ⟨coordinator, left, rebuilt, accepted, claims⟩

/-- A release that succeeds releases the bindings of what it released, and no others, exactly when a
bound claim is stored under a name with the normal form of the given string just where its binding
is that of a claim stored under the very string. -/
theorem releaseByAgentAt_releases_iff (checksum : List Path → Except String String)
    (remote : RemoteCoordination) (repository : ρ) (snapshot : StoredSnapshot ρ) (agentId : String)
    (released : List PathClaim)
    (succeeded : (releaseByAgentAt checksum remote repository snapshot agentId).result =
      .ok released) :
    ReleasesBindings snapshot.value released
        (releaseByAgentAt checksum remote repository snapshot agentId) ↔
      ∀ claim ∈ snapshot.value.claims, ∀ binding, Bound snapshot.value claim binding →
        (normalizeAgentId claim.agentId = normalizeAgentId agentId ↔
          ∃ stored ∈ snapshot.value.claims, stored.agentId = agentId ∧
            Bound snapshot.value stored binding) := by
  obtain ⟨selected, coordinator, next, rebuilt, accepted, claims⟩ := releaseByAgentAt_ok succeeded
  obtain ⟨consistent, -, -⟩ := coordinator_tokens rebuilt
  obtain ⟨agent, normal, held, others⟩ := releaseByAgent_held consistent accepted
  obtain ⟨holders, normals⟩ := coordinator_holders rebuilt
  simp only [← selected]
  rw [normal]
  constructor
  · intro releases claim listed binding bound
    obtain ⟨own, ownNormal⟩ := normals claim listed
    have holds := (holders claim.token own).mpr ⟨claim, listed, rfl, ownNormal⟩
    rw [ownNormal, Except.ok.injEq]
    by_cases same : own = agent
    · obtain ⟨copy, member, token⟩ := mem_map.mp ((held claim.token).mpr (same ▸ holds))
      exact iff_of_true same
        (releases.released copy member binding (by rw [Bound, token]; exact bound))
    · have active := (others claim.token).mpr ⟨own, same, holds⟩
      rw [activeTokens, ← claims] at active
      obtain ⟨copy, member, token⟩ := mem_map.mp active
      exact iff_of_false same
        (releases.kept copy member binding (by rw [Bound, token]; exact bound))
  · intro selects
    constructor
    · intro copy member binding bound
      obtain ⟨claim, listed, token, ownNormal⟩ :=
        (holders copy.token agent).mp ((held copy.token).mp (mem_map_of_mem member))
      exact (selects claim listed binding (by rw [Bound, token]; exact bound)).mp ownNormal
    · intro copy member binding bound
      rw [claims] at member
      obtain ⟨other, different, holds⟩ := (others copy.token).mp (mem_map_of_mem member)
      obtain ⟨claim, listed, token, ownNormal⟩ := (holders copy.token other).mp holds
      intro done
      have same := (selects claim listed binding (by rw [Bound, token]; exact bound)).mpr done
      rw [ownNormal, Except.ok.injEq] at same
      exact different same

/-- A release under the stored id releases the binding of the claim. -/
theorem releaseByAgentAt_releases_iff_stored :
    (releaseByAgentAt quietHost.checksum openRemote () (boundSnapshot none) "worker").result =
        .ok [⟨1, "worker", boundScope⟩] ∧
      ReleasesBindings (boundSnapshot none).value [⟨1, "worker", boundScope⟩]
        (releaseByAgentAt quietHost.checksum openRemote () (boundSnapshot none) "worker") := by
  have succeeded : (releaseByAgentAt quietHost.checksum openRemote () (boundSnapshot none)
      "worker").result = .ok [⟨1, "worker", boundScope⟩] := by
    have known : (releaseByAgentAt quietHost.checksum openRemote () (boundSnapshot none)
        "worker").result.toOption.map id = some [⟨1, "worker", boundScope⟩] := by decide +kernel
    obtain ⟨_, answer, rfl⟩ := ok_of_toOption known
    exact answer
  refine ⟨succeeded, (releaseByAgentAt_releases_iff quietHost.checksum openRemote ()
    (boundSnapshot none) "worker" _ succeeded).mpr ?_⟩
  intro claim listed binding bound
  obtain rfl := mem_singleton.mp listed
  exact iff_of_true rfl ⟨_, listed, rfl, bound⟩

/-- A release under the id with a space around it releases the claim in the store, and nothing at
the remote. -/
theorem releaseByAgentAt_spaced_keeps_binding :
    (releaseByAgentAt quietHost.checksum openRemote () (boundSnapshot none) " worker").result =
        .ok [⟨1, "worker", boundScope⟩] ∧
      ¬ ReleasesBindings (boundSnapshot none).value [⟨1, "worker", boundScope⟩]
        (releaseByAgentAt quietHost.checksum openRemote () (boundSnapshot none) " worker") := by
  constructor
  · have known : (releaseByAgentAt quietHost.checksum openRemote () (boundSnapshot none)
        " worker").result.toOption.map id = some [⟨1, "worker", boundScope⟩] := by decide +kernel
    obtain ⟨_, answer, rfl⟩ := ok_of_toOption known
    exact answer
  · intro releases
    have done := releases.released _ (mem_singleton_self _) ⟨"run-a", "nonce-a"⟩ rfl
    have nothing : (releaseByAgentAt quietHost.checksum openRemote () (boundSnapshot none)
        " worker").bindings = [] := by decide +kernel
    rw [nothing] at done
    cases done

end Maco.SyncStore
