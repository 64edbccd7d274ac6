import Maco.Journal.Reducer

/-!
# What a transition can do

One rule for each kind of intent, with every guard the code checks and the authority it leaves.
The rules are exact: the transition function succeeds with a result exactly when a rule allows it.
A guard on the provider time is required only when a time is observed.
-/

namespace Maco.Journal

open Maco.Base BTreeMap Maco.Publication Maco.SyncStore

theorem refuseConflict_ok : refuseConflict conflict refusal = .ok done ↔ conflict = none := by
  cases conflict <;> simp [refuseConflict]

/-- There is no conflict exactly when every other active owner's scopes are clear. -/
theorem activeScopeConflict_eq_none :
    activeScopeConflict active scopes except = none ↔
      ∀ owner record, active[owner]? = some record → except ≠ some owner →
        scopesOverlap record.scopes scopes = false := by
  simp only [activeScopeConflict, Option.map_eq_none_iff, List.find?_eq_none, List.mem_filter,
    bne_iff_ne, Bool.not_eq_true, and_imp, Prod.forall, mem_toList]

/-- No reservation blocks an owner exactly when none is theirs. -/
theorem ownerHasBlockingReserve_eq_false :
    ownerHasBlockingReserve pending owner = false ↔
      ∀ (effectId : String) reserve,
        pending[effectId]? = some reserve → reserve.owner ≠ owner := by
  simp only [ownerHasBlockingReserve, List.any_eq_false, beq_iff_eq, mem_values]
  exact ⟨fun clear effectId reserve found => clear reserve ⟨effectId, found⟩,
    fun clear reserve ⟨effectId, found⟩ => clear effectId reserve found⟩

/-- The lease check of a takeover. -/
theorem requireLeaseRunOut_ok
    : requireLeaseRunOut record observedAt = .ok done ↔
      ∀ time, observedAt = some time → leaseRunOut record time = .ok true := by
  cases observedAt with
  | none => simp [requireLeaseRunOut, pure_ok]
  | some time =>
    simp only [requireLeaseRunOut, ok_iff, Bool.not_eq_false, Option.some.injEq, forall_eq',
      exists_eq_right]

/-- The lease check of a reservation. -/
theorem requireLeaseCurrent_ok
    : requireLeaseCurrent record observedAt = .ok done ↔
      ∀ time, observedAt = some time → leaseRunOut record time = .ok false := by
  cases observedAt with
  | none => simp [requireLeaseCurrent, pure_ok]
  | some time =>
    simp only [requireLeaseCurrent, ok_iff, Bool.not_eq_true, Option.some.injEq, forall_eq',
      exists_eq_right]

/-- A lease that agrees with the configured timing. -/
structure ClaimLeasePolicy.Configured (lease : ClaimLeasePolicy) (timing : ClaimTiming) : Prop where
  heartbeat : lease.heartbeatIntervalSeconds = timing.heartbeatIntervalSeconds
  stale : lease.staleAfterSeconds = timing.staleAfterSeconds

/-- The lease check passes exactly on the configured lease. -/
theorem ensureLeaseMatchesConfig_ok
    : ensureLeaseMatchesConfig lease timing = .ok done ↔
      lease.Configured timing := by
  simp only [ensureLeaseMatchesConfig, refuseIf_ok, not_or, not_not]
  constructor
  · rintro ⟨heartbeat, stale⟩
    exact ⟨heartbeat, stale⟩
  · intro configured
    exact ⟨configured.heartbeat, configured.stale⟩

section Rules

variable (external : External) (config : CoordinationJournalConfig)
  (verifier : EffectReconciliationVerifier) (intent : CoordinationIntent)
  (admission : ProposedIntentAdmission) (before : Authority)

/-- The transitions an intent may cause. -/
inductive Transition : Authority → Prop where
  | claim {scopes : List String} {lease : ClaimLeasePolicy}
      (action : intent.action = .claim scopes lease)
      (configured : lease.Configured config.timing)
      (fresh : before.activeOwners[intent.owner]? = none)
      (free : ∀ (owner : CoordinationOwnerIdentity) record,
        before.activeOwners[owner]? = some record → scopesOverlap record.scopes scopes = false) :
      Transition { before with
        activeOwners := before.activeOwners.insert intent.owner
          (activationRecord intent admission scopes lease) }
  | heartbeatDeferred {record : ActiveOwnerRecord} (action : intent.action = .heartbeat)
      (active : before.activeOwners[intent.owner]? = some record)
      (actor : admission.boundActor = record.boundClaimActor)
      (deferred : admission.observedAt = none) : Transition before
  | heartbeat {record : ActiveOwnerRecord} {time : ForgeTimestamp}
      (action : intent.action = .heartbeat)
      (active : before.activeOwners[intent.owner]? = some record)
      (actor : admission.boundActor = record.boundClaimActor)
      (observed : admission.observedAt = some time)
      (forward : ¬ time < record.lastHeartbeatAt) :
      Transition { before with
        activeOwners := before.activeOwners.insert intent.owner
          { record with lastHeartbeatAt := time } }
  | takeover {predecessor : CoordinationOwnerIdentity} {scopes : List String}
      {lease : ClaimLeasePolicy} {record : ActiveOwnerRecord}
      (action : intent.action = .takeover predecessor scopes lease)
      (configured : lease.Configured config.timing)
      (active : before.activeOwners[predecessor]? = some record)
      (exact : record.scopes = scopes)
      (unblocked : ∀ (effectId : String) reserve,
        before.pending[effectId]? = some reserve → reserve.owner ≠ predecessor)
      (ranOut : ∀ time, admission.observedAt = some time → leaseRunOut record time = .ok true)
      (free : ∀ (owner : CoordinationOwnerIdentity) other,
        before.activeOwners[owner]? = some other → predecessor ≠ owner →
          scopesOverlap other.scopes scopes = false)
      (fresh : (before.activeOwners.erase predecessor)[intent.owner]? = none) :
      Transition { before with
        activeOwners := (before.activeOwners.erase predecessor).insert intent.owner
          (activationRecord intent admission scopes lease) }
  | release {reason : String} {record : ActiveOwnerRecord}
      (action : intent.action = .release reason)
      (active : before.activeOwners[intent.owner]? = some record)
      (actor : admission.boundActor = record.boundClaimActor)
      (unblocked : ∀ (effectId : String) reserve,
        before.pending[effectId]? = some reserve → reserve.owner ≠ intent.owner) :
      Transition { before with activeOwners := before.activeOwners.erase intent.owner }
  | reserve {effectId : String} {publicationEffect : Option PublicationEffectDescriptor}
      {record : ActiveOwnerRecord}
      (action : intent.action = .effectReserve effectId publicationEffect)
      (active : before.activeOwners[intent.owner]? = some record)
      (actor : admission.boundActor = record.boundClaimActor)
      (fresh : before.pending[effectId]? = none)
      (current : ∀ time, admission.observedAt = some time → leaseRunOut record time = .ok false) :
      Transition { before with
        pending := before.pending.insert effectId
          (reservationRecord intent admission effectId publicationEffect) }
  | complete {effectId : String} {reconciliation : EffectReconciliationReceipt}
      {record : ActiveOwnerRecord} {reserve : PendingEffectReservation}
      (action : intent.action = .effectComplete effectId reconciliation)
      (active : before.activeOwners[intent.owner]? = some record)
      (actor : admission.boundActor = record.boundClaimActor)
      (reserved : before.pending[effectId]? = some reserve)
      (owned : reserve.owner = intent.owner)
      (verified : verifyCompletion external.sha256Hex verifier intent.owner effectId reserve
        reconciliation = .ok ()) :
      Transition { before with pending := before.pending.erase effectId }

end Rules

section Exactness

variable {external : External} {config : CoordinationJournalConfig}
  {verifier : EffectReconciliationVerifier} {intent : CoordinationIntent}
  {admission : ProposedIntentAdmission} {before next : Authority}

/-- A transition that succeeds follows one of the rules. -/
theorem applyIntentSemantics_transition
    (applied : applyIntentSemantics config intent admission before external.sha256Hex verifier =
      .ok next) : Transition external config verifier intent admission before next := by
  unfold applyIntentSemantics at applied
  split at applied
  · rename_i scopes lease action
    simp only [applyClaim, ok_iff, ensureLeaseMatchesConfig_ok, Bool.not_eq_true, not_contains_iff,
      refuseConflict_ok, activeScopeConflict_eq_none, ne_eq, reduceCtorEq, not_false_eq_true,
      true_implies] at applied
    obtain ⟨configured, fresh, free, rfl⟩ := applied
    exact .claim action configured fresh free
  · rename_i action
    simp only [applyHeartbeat, ok_iff, activeOwner, requireExactBoundActor, not_not] at applied
    obtain ⟨record, active, actor, recorded⟩ := applied
    cases time : admission.observedAt with
    | none =>
      simp only [time, recordHeartbeat, pure_ok] at recorded
      rw [← recorded]
      exact .heartbeatDeferred action active actor time
    | some observedAt =>
      simp only [time, recordHeartbeat, ok_iff] at recorded
      obtain ⟨forward, rfl⟩ := recorded
      exact .heartbeat action active actor time forward
  · rename_i predecessor scopes lease action
    simp only [applyTakeover, ok_iff, ensureLeaseMatchesConfig_ok, not_not, Bool.not_eq_true,
      ownerHasBlockingReserve_eq_false, requireLeaseRunOut_ok, refuseConflict_ok,
      activeScopeConflict_eq_none, not_contains_iff, ne_eq, Option.some.injEq] at applied
    obtain ⟨configured, record, active, exactScopes, unblocked, ranOut, free, fresh, rfl⟩ := applied
    exact .takeover action configured active exactScopes unblocked ranOut free fresh
  · rename_i reason action
    simp only [applyRelease, ok_iff, activeOwner, requireExactBoundActor, not_not, Bool.not_eq_true,
      ownerHasBlockingReserve_eq_false] at applied
    obtain ⟨record, active, actor, unblocked, rfl⟩ := applied
    exact .release action active actor unblocked
  · rename_i effectId publicationEffect action
    simp only [applyEffectReserve, ok_iff, activeOwner, requireExactBoundActor, not_not,
      Bool.not_eq_true, not_contains_iff, requireLeaseCurrent_ok] at applied
    obtain ⟨record, active, actor, fresh, current, rfl⟩ := applied
    exact .reserve action active actor fresh current
  · rename_i effectId reconciliation action
    simp only [applyEffectComplete, ok_iff, activeOwner, requireExactBoundActor, not_not] at applied
    obtain ⟨record, active, actor, reserve, reserved, owned, ⟨⟩, verified, rfl⟩ := applied
    exact .complete action active actor reserved owned verified

/-- Every rule is a transition the code makes. -/
theorem Transition.applied
    (rule : Transition external config verifier intent admission before next) :
    applyIntentSemantics config intent admission before external.sha256Hex verifier =
      .ok next := by
  cases rule with
  | claim action configured fresh free =>
    simp only [applyIntentSemantics, action, applyClaim, ok_iff, ensureLeaseMatchesConfig_ok,
      Bool.not_eq_true, not_contains_iff, refuseConflict_ok, activeScopeConflict_eq_none]
    exact ⟨configured, fresh, fun owner record found _ => free owner record found, trivial⟩
  | heartbeatDeferred action active actor deferred =>
    simp only [applyIntentSemantics, action, applyHeartbeat, ok_iff, activeOwner,
      requireExactBoundActor, not_not, deferred, recordHeartbeat]
    exact ⟨_, active, actor, trivial⟩
  | heartbeat action active actor observed forward =>
    simp only [applyIntentSemantics, action, applyHeartbeat, ok_iff, activeOwner,
      requireExactBoundActor, not_not, observed, recordHeartbeat]
    exact ⟨_, active, actor, forward, rfl⟩
  | takeover action configured active exactScopes unblocked ranOut free fresh =>
    simp only [applyIntentSemantics, action, applyTakeover, ok_iff, ensureLeaseMatchesConfig_ok,
      not_not, Bool.not_eq_true, ownerHasBlockingReserve_eq_false, requireLeaseRunOut_ok,
      refuseConflict_ok, activeScopeConflict_eq_none, not_contains_iff, ne_eq, Option.some.injEq]
    exact ⟨configured, _, active, exactScopes, unblocked, ranOut, free, fresh, trivial⟩
  | release action active actor unblocked =>
    simp only [applyIntentSemantics, action, applyRelease, ok_iff, activeOwner,
      requireExactBoundActor, not_not, Bool.not_eq_true, ownerHasBlockingReserve_eq_false]
    exact ⟨_, active, actor, unblocked, trivial⟩
  | reserve action active actor fresh current =>
    simp only [applyIntentSemantics, action, applyEffectReserve, ok_iff, activeOwner,
      requireExactBoundActor, not_not, Bool.not_eq_true, not_contains_iff, requireLeaseCurrent_ok]
    exact ⟨_, active, actor, fresh, current, trivial⟩
  | complete action active actor reserved owned verified =>
    simp only [applyIntentSemantics, action, applyEffectComplete, ok_iff, activeOwner,
      requireExactBoundActor, not_not]
    exact ⟨_, active, actor, _, reserved, owned, (), verified, trivial⟩

end Exactness

end Maco.Journal
