import Maco.Lease.State

/-!
# Fencing and mutual exclusion

In every accepted history of a lease, over any number of occurrences, grants are numbered one after
another and hold the lease one after another; a lease is taken over only once every expiry it was
granted has passed; after an effect start only the same proof can act, until it acknowledges; and
observed times do not go backward.
-/

namespace Maco.Lease

open Maco.Base List
open LeaseState (applyInPlace applyHeartbeat)

/-- A step of a lease: a journal event, or the opening of the next occurrence. -/
inductive LeaseStep where
  | event (event : LeaseEvent)
  | nextOccurrence
deriving DecidableEq, Repr

/-- One step. -/
def LeaseState.step (state : LeaseState) : LeaseStep → Except String LeaseState
  | .event event => state.apply event
  | .nextOccurrence => state.forNextOccurrence

/-- The state after a history of steps. -/
def LeaseState.replay (steps : List LeaseStep) : Except String LeaseState :=
  steps.foldlM LeaseState.step .initial

/-- What an accepted step does, with the checks it has passed. -/
inductive Moves : LeaseState → LeaseStep → LeaseState → Prop where
  | claim {lease : AvailableLease} {grant : LeaseGrant}
      (later : ∀ last ∈ lease.lastObservedAt, last < grant.observedAt)
      (generation : grant.proof.generation = lease.lastGeneration + 1)
      (live : grant.observedAt < grant.expiresAt) :
      Moves (.available lease) (.event (.claimed grant)) (.active
        ⟨grant.proof, grant.observedAt, grant.observedAt, grant.expiresAt, lease.lastReclaim⟩)
  | heartbeat {lease : ActiveLease} {beat : LeaseHeartbeat} (proof : beat.proof = lease.proof)
      (later : lease.lastHeartbeatAt < beat.observedAt) (longer : lease.expiresAt ≤ beat.expiresAt)
      (live : beat.observedAt < beat.expiresAt) :
      Moves (.active lease) (.event (.heartbeat beat)) (.active { lease with
        lastHeartbeatAt := beat.observedAt
        expiresAt := beat.expiresAt })
  | postEffectHeartbeat {fence : EffectFencedLease} {beat : LeaseHeartbeat}
      (proof : beat.proof = fence.active.proof)
      (later : fence.latestObservationAt < beat.observedAt)
      (longer : fence.liveExpiresAt ≤ beat.expiresAt) :
      Moves (.effectFenced fence) (.event (.heartbeat beat)) (.effectFenced { fence with
        postEffectHeartbeat := some beat })
  | release {lease : ActiveLease} {observation : LeaseBoundObservation}
      (proof : observation.proof = lease.proof)
      (later : lease.lastHeartbeatAt < observation.observedAt) :
      Moves (.active lease) (.event (.released observation))
        (.available ⟨lease.proof.generation, some observation.observedAt, lease.lastReclaim⟩)
  | reclaim {lease : ActiveLease} {reclaim : LeaseReclaim}
      (expired : lease.expiresAt ≤ reclaim.lineage.reclaimedAt)
      (generation : reclaim.lineage.successor.generation = lease.proof.generation + 1)
      (live : reclaim.lineage.reclaimedAt < reclaim.successorExpiresAt) :
      Moves (.active lease) (.event (.reclaimed reclaim)) (.active
        ⟨reclaim.lineage.successor, reclaim.lineage.reclaimedAt, reclaim.lineage.reclaimedAt,
          reclaim.successorExpiresAt, some reclaim.lineage⟩)
  | effectStart {lease : ActiveLease} {observation : LeaseBoundObservation}
      (proof : observation.proof = lease.proof)
      (later : lease.lastHeartbeatAt < observation.observedAt) :
      Moves (.active lease) (.event (.effectStarted observation))
        (.effectFenced ⟨lease, observation.observedAt, none⟩)
  | acknowledge {fence : EffectFencedLease} {observation : LeaseBoundObservation}
      (proof : observation.proof = fence.active.proof)
      (later : fence.latestObservationAt ≤ observation.observedAt) :
      Moves (.effectFenced fence) (.event (.acknowledged observation))
        (.acknowledged ⟨fence, observation.observedAt⟩)
  | reopen {lease : AcknowledgedLease} :
      Moves (.acknowledged lease) .nextOccurrence (.available
        ⟨lease.fence.active.proof.generation, some lease.acknowledgedAt,
          lease.fence.active.lastReclaim⟩)

variable {state next : LeaseState} {step : LeaseStep}

/-- An accepted step makes one of these moves. -/
theorem step_moves (accepted : state.step step = .ok next) : Moves state step next := by
  cases step with
  | nextOccurrence =>
    cases state with
    | acknowledged lease =>
      simp only [LeaseState.step, LeaseState.forNextOccurrence, ok_iff] at accepted
      obtain ⟨-, -, rfl⟩ := accepted
      exact .reopen
    | available | active | effectFenced => cases accepted
  | event event =>
    simp only [LeaseState.step, LeaseState.apply, ok_iff] at accepted
    obtain ⟨_, valid, _, applied, _, -, rfl⟩ := accepted
    cases event with
    | claimed grant =>
      cases state with
      | available lease =>
        simp only [applyInPlace, LeaseState.applyClaim, ok_iff, checkedAddU64_eq_some,
          not_not, whenSome_ok, requireStrictTimeAdvance, not_le] at applied
        simp only [LeaseEvent.validate, LeaseGrant.validate, ok_iff, not_le] at valid
        obtain ⟨later, _, ⟨-, rfl⟩, generation, rfl⟩ := applied
        obtain ⟨-, -, live⟩ := valid
        exact .claim later generation live
      | active | effectFenced | acknowledged => cases applied
    | heartbeat beat =>
      simp only [LeaseEvent.validate, LeaseHeartbeat.validate, ok_iff, not_le] at valid
      obtain ⟨-, -, live⟩ := valid
      cases state with
      | active lease =>
        simp only [applyInPlace, applyHeartbeat, requireExactProof,
          requireLiveObservation, requireStrictTimeAdvance, ok_iff, not_not, not_le,
          not_lt] at applied
        obtain ⟨proof, ⟨later, -⟩, longer, rfl⟩ := applied
        exact .heartbeat proof later longer live
      | effectFenced fence =>
        simp only [applyInPlace, applyHeartbeat, requireExactProof,
          requireStrictTimeAdvance, ok_iff, not_not, not_le, not_lt] at applied
        obtain ⟨proof, later, -, longer, -, rfl⟩ := applied
        exact .postEffectHeartbeat proof later longer
      | available | acknowledged => cases applied
    | released observation =>
      cases state with
      | active lease =>
        simp only [applyInPlace, LeaseState.applyRelease, requireExactProof,
          requireLiveObservation, requireStrictTimeAdvance, ok_iff, not_not, not_le] at applied
        obtain ⟨proof, ⟨later, -⟩, rfl⟩ := applied
        exact .release proof later
      | available | effectFenced | acknowledged => cases applied
    | reclaimed reclaim =>
      cases state with
      | active lease =>
        simp only [applyInPlace, LeaseState.applyReclaim, requireExactProof, ok_iff,
          checkedAddU64_eq_some, not_not, not_lt] at applied
        simp only [LeaseEvent.validate, LeaseReclaim.validate, ok_iff, not_le] at valid
        obtain ⟨-, -, expired, _, ⟨-, rfl⟩, generation, rfl⟩ := applied
        obtain ⟨-, -, live⟩ := valid
        exact .reclaim expired generation live
      | available | effectFenced | acknowledged => cases applied
    | effectStarted observation =>
      cases state with
      | active lease =>
        simp only [applyInPlace, LeaseState.applyEffectStart, requireExactProof,
          requireLiveObservation, requireStrictTimeAdvance, ok_iff, not_not, not_le] at applied
        obtain ⟨proof, ⟨later, -⟩, rfl⟩ := applied
        exact .effectStart proof later
      | available | effectFenced | acknowledged => cases applied
    | acknowledged observation =>
      cases state with
      | effectFenced fence =>
        simp only [applyInPlace, LeaseState.applyAcknowledgement, requireExactProof,
          ok_iff, not_not, not_lt] at applied
        obtain ⟨proof, later, rfl⟩ := applied
        exact .acknowledge proof later
      | available | active | acknowledged => cases applied

/-- The time for which a grant held the lease, with every expiry it was given, the latest first. -/
structure Holding where
  proof : LeaseProof
  issuedAt : ℕ
  expiries : List ℕ
  endedAt : Option ℕ
deriving DecidableEq, Repr

/-- End the latest holding. -/
def endLatest (time : ℕ) : List Holding → List Holding
  | [] => []
  | holding :: earlier => { holding with endedAt := some time } :: earlier

/-- Extend the latest holding. -/
def extendLatest (expiresAt : ℕ) : List Holding → List Holding
  | [] => []
  | holding :: earlier => { holding with expiries := expiresAt :: holding.expiries } :: earlier

/-- What a step does to the holdings, the latest first. -/
def recordHolding (holdings : List Holding) : LeaseStep → List Holding
  | .event (.claimed grant) => ⟨grant.proof, grant.observedAt, [grant.expiresAt], none⟩ :: holdings
  | .event (.heartbeat beat) => extendLatest beat.expiresAt holdings
  | .event (.released observation) => endLatest observation.observedAt holdings
  | .event (.reclaimed reclaim) =>
    ⟨reclaim.lineage.successor, reclaim.lineage.reclaimedAt, [reclaim.successorExpiresAt], none⟩ ::
      endLatest reclaim.lineage.reclaimedAt holdings
  | .event (.effectStarted _) => holdings
  | .event (.acknowledged observation) => endLatest observation.observedAt holdings
  | .nextOccurrence => holdings

/-- The holdings of a history, the latest first. -/
def holdingsOf (steps : List LeaseStep) : List Holding := steps.foldl recordHolding []

/-- The event of a step. -/
def LeaseStep.event? : LeaseStep → Option LeaseEvent
  | .event journaled => some journaled
  | .nextOccurrence => none

/-- The proof that an event grants. -/
def LeaseEvent.granted? : LeaseEvent → Option LeaseProof
  | .claimed grant => some grant.proof
  | .reclaimed reclaim => some reclaim.lineage.successor
  | _ => none

/-- The proofs granted in a history, in order. -/
def grantsOf (steps : List LeaseStep) : List LeaseProof :=
  steps.filterMap fun step => step.event?.bind LeaseEvent.granted?

/-- The times observed in a history, in order. -/
def observationsOf (steps : List LeaseStep) : List ℕ :=
  steps.filterMap fun step => step.event?.map LeaseEvent.observedAt

/-- An ended holding ended after it was issued, and no expiry of a holding shortened it. -/
structure Holding.Sound (holding : Holding) : Prop where
  ended : ∀ time ∈ holding.endedAt, holding.issuedAt ≤ time
  lengthening : holding.expiries.Pairwise (· ≥ ·)

/-- The earlier of two holdings ended before the later was issued. -/
def Apart (later earlier : Holding) : Prop :=
  ∃ time, earlier.endedAt = some time ∧ time ≤ later.issuedAt

/-- Holdings that follow one another: numbered from one, each sound, and apart. -/
structure Chain (holdings : List Holding) : Prop where
  numbered : holdings.map (fun holding => holding.proof.generation) =
    (List.range' 1 holdings.length).reverse
  sound : ∀ holding ∈ holdings, holding.Sound
  apart : holdings.Pairwise Apart

variable {holdings : List Holding} {expiresAt : ℕ}

/-- A grant after every holding has ended continues the chain. -/
theorem Chain.grant (chain : Chain holdings) {proof : LeaseProof}
    {issuedAt : ℕ} (next : proof.generation = holdings.length + 1)
    (ended : ∀ holding ∈ holdings, ∃ time, holding.endedAt = some time ∧ time ≤ issuedAt) :
    Chain (⟨proof, issuedAt, [expiresAt], none⟩ :: holdings) := by
  refine ⟨?_, ?_, ?_⟩
  · rw [map_cons, length_cons, range'_concat, reverse_append, chain.numbered]
    simp [next, Nat.add_comm]
  · intro holding listed
    rcases mem_cons.mp listed with rfl | earlier
    · exact ⟨nofun, pairwise_singleton _ _⟩
    · exact chain.sound holding earlier
  · exact pairwise_cons.mpr ⟨ended, chain.apart⟩

/-- Ending or extending the latest holding keeps the chain. -/
theorem Chain.change (chain : Chain (latest :: earlier)) (proof : changed.proof = latest.proof)
    (issuedAt : changed.issuedAt = latest.issuedAt) (sound : changed.Sound) :
    Chain (changed :: earlier) := by
  refine ⟨?_, ?_, ?_⟩
  · rw [map_cons, proof]
    exact chain.numbered
  · intro holding listed
    rcases mem_cons.mp listed with rfl | old
    · exact sound
    · exact chain.sound holding (mem_cons_of_mem _ old)
  · obtain ⟨first, rest⟩ := pairwise_cons.mp chain.apart
    refine pairwise_cons.mpr ⟨fun holding listed => ?_, rest⟩
    obtain ⟨time, ended, before⟩ := first holding listed
    exact ⟨time, ended, issuedAt ▸ before⟩

/-- The state has the latest holding open, under its proof and with its latest expiry. -/
structure Opened (holdings : List Holding) (lease : ActiveLease) (expiresAt : ℕ)
    (observedAt : ℕ) : Prop where
  length : holdings.length = lease.proof.generation
  issued : lease.issuedAt ≤ observedAt
  opened : ∃ latest earlier, holdings = latest :: earlier ∧ latest.proof = lease.proof ∧
    latest.issuedAt = lease.issuedAt ∧ latest.endedAt = none ∧
    latest.expiries.head? = some expiresAt

/-- Every holding has ended. -/
structure Closed (holdings : List Holding) (generation : ℕ) (observedAt : Option ℕ) : Prop where
  length : holdings.length = generation
  ended : ∀ holding ∈ holdings, ∃ time last, holding.endedAt = some time ∧
    observedAt = some last ∧ time ≤ last

/-- What a state says of the holdings so far. -/
def Knows (holdings : List Holding) : LeaseState → Prop
  | .available lease => Closed holdings lease.lastGeneration lease.lastObservedAt
  | .active lease => Opened holdings lease lease.expiresAt lease.lastHeartbeatAt ∧
      lease.lastHeartbeatAt < lease.expiresAt
  | .effectFenced fence =>
    Opened holdings fence.active fence.liveExpiresAt fence.latestObservationAt
  | .acknowledged lease =>
    Closed holdings lease.fence.active.proof.generation (some lease.acknowledgedAt)

/-- When the latest holding is ended, every holding has ended. -/
theorem Opened.close (opened : Opened holdings lease expiresAt observedAt) (chain : Chain holdings)
    (later : observedAt ≤ time) :
    Chain (endLatest time holdings) ∧
      Closed (endLatest time holdings) lease.proof.generation (some time) := by
  have issued := opened.issued
  obtain ⟨latest, earlier, rfl, proof, issuedAt, -, -⟩ := opened.opened
  refine ⟨chain.change rfl rfl ⟨fun ended same => ?_, ?_⟩, opened.length, ?_⟩
  · cases same
    change latest.issuedAt ≤ time
    omega
  · exact (chain.sound latest mem_cons_self).lengthening
  · intro holding listed
    rcases mem_cons.mp listed with rfl | old
    · exact ⟨time, time, rfl, rfl, le_refl time⟩
    · obtain ⟨ended, same, before⟩ := (pairwise_cons.mp chain.apart).1 holding old
      exact ⟨ended, time, same, rfl, by omega⟩

/-- A longer expiry extends the latest holding. -/
theorem Opened.extend (opened : Opened holdings lease expiresAt observedAt) (chain : Chain holdings)
    (lengthens : expiresAt ≤ longer) (advances : observedAt ≤ later) :
    Chain (extendLatest longer holdings) ∧
      Opened (extendLatest longer holdings) lease longer later := by
  have issued := opened.issued
  obtain ⟨latest, earlier, rfl, proof, issuedAt, running, head⟩ := opened.opened
  have sound := chain.sound latest mem_cons_self
  refine ⟨chain.change rfl rfl ⟨sound.ended, ?_⟩, opened.length, issued.trans advances, ?_⟩
  · refine pairwise_cons.mpr ⟨fun expiry listed => ?_, sound.lengthening⟩
    obtain ⟨rest, same⟩ := head?_eq_some_iff.mp head
    have sorted := sound.lengthening
    rw [same] at listed sorted
    rcases mem_cons.mp listed with rfl | old
    · exact lengthens
    · exact ((pairwise_cons.mp sorted).1 expiry old).trans lengthens
  · exact ⟨_, earlier, rfl, proof, issuedAt, running, rfl⟩

/-- A grant opens a holding after every other has ended. -/
theorem Closed.grant {generation : ℕ} {observedAt : Option ℕ}
    (closed : Closed holdings generation observedAt) (chain : Chain holdings) (lease : ActiveLease)
    (next : lease.proof.generation = generation + 1)
    (later : ∀ last ∈ observedAt, last ≤ lease.issuedAt)
    (observed : lease.issuedAt ≤ lease.lastHeartbeatAt) :
    Chain (⟨lease.proof, lease.issuedAt, [lease.expiresAt], none⟩ :: holdings) ∧
      Opened (⟨lease.proof, lease.issuedAt, [lease.expiresAt], none⟩ :: holdings) lease
        lease.expiresAt lease.lastHeartbeatAt := by
  have length := closed.length
  refine ⟨chain.grant (by omega) fun holding listed => ?_, ?_, observed, ?_⟩
  · obtain ⟨time, last, ended, known, before⟩ := closed.ended holding listed
    exact ⟨time, ended, before.trans (later last known)⟩
  · rw [length_cons]
    omega
  · exact ⟨_, holdings, rfl, rfl, rfl, rfl, rfl⟩

/-- Every step keeps the chain of holdings, and the state knows it. -/
theorem Moves.keeps
    (moves : Moves state step next) (chain : Chain holdings) (knows : Knows holdings state) :
    Chain (recordHolding holdings step) ∧ Knows (recordHolding holdings step) next := by
  cases moves with
  | @claim lease grant later generation live =>
    obtain ⟨granted, opened⟩ := Closed.grant knows chain
      ⟨grant.proof, grant.observedAt, grant.observedAt, grant.expiresAt, lease.lastReclaim⟩
      generation (fun last known => (later last known).le) (le_refl _)
    exact ⟨granted, opened, live⟩
  | heartbeat proof later longer live =>
    obtain ⟨extended, opened⟩ := knows.1.extend chain longer later.le
    exact ⟨extended, ⟨opened.length, opened.issued, opened.opened⟩, live⟩
  | postEffectHeartbeat proof later longer =>
    obtain ⟨extended, opened⟩ := Opened.extend knows chain longer later.le
    exact ⟨extended, opened.length, opened.issued, opened.opened⟩
  | release proof later => exact knows.1.close chain later.le
  | @reclaim lease reclaim expired generation live =>
    -- the predecessor ends when it is reclaimed, which is when the successor is issued
    have afterHeartbeat : lease.lastHeartbeatAt ≤ reclaim.lineage.reclaimedAt :=
      knows.2.le.trans expired
    obtain ⟨ended, closed⟩ := knows.1.close chain afterHeartbeat
    obtain ⟨granted, opened⟩ := closed.grant ended
      ⟨reclaim.lineage.successor, reclaim.lineage.reclaimedAt, reclaim.lineage.reclaimedAt,
        reclaim.successorExpiresAt, some reclaim.lineage⟩ generation
      (fun last known => by cases known; exact le_refl _) (le_refl _)
    exact ⟨granted, opened, live⟩
  | effectStart proof later =>
    have opened := knows.1
    exact ⟨chain, opened.length, opened.issued.trans later.le, opened.opened⟩
  | acknowledge proof later => exact Opened.close knows chain later
  | reopen => exact ⟨chain, knows⟩

theorem initial_keeps : Chain (holdingsOf []) ∧ Knows (holdingsOf []) .initial := by
  have closed : Closed [] 0 none := ⟨rfl, nofun⟩
  exact ⟨⟨rfl, nofun, .nil⟩, closed⟩

/-- The holdings of an accepted history are a chain, and its state knows it. -/
theorem replay_keeps (accepted : LeaseState.replay steps = .ok state) :
    Chain (holdingsOf steps) ∧ Knows (holdingsOf steps) state := by
  refine foldlM_invariant (fun done state => Chain (holdingsOf done) ∧
    Knows (holdingsOf done) state)
    (fun done step before after holds stepped => ?_) initial_keeps accepted
  have same : holdingsOf (done ++ [step]) = recordHolding (holdingsOf done) step :=
    foldl_concat ..
  rw [same]
  exact (step_moves stepped).keeps holds.1 holds.2

theorem endLatest_proofs (time : ℕ) (holdings : List Holding) :
    (endLatest time holdings).map Holding.proof = holdings.map Holding.proof := by
  cases holdings with
  | nil => rfl
  | cons holding earlier => rfl

theorem extendLatest_proofs (expiresAt : ℕ) (holdings : List Holding) :
    (extendLatest expiresAt holdings).map Holding.proof = holdings.map Holding.proof := by
  cases holdings with
  | nil => rfl
  | cons holding earlier => rfl

/-- There is one holding for each grant. -/
theorem holdingsOf_proofs (steps : List LeaseStep) :
    (holdingsOf steps).map Holding.proof = (grantsOf steps).reverse := by
  induction steps using List.reverseRecOn with
  | nil => rfl
  | append_singleton done step ih =>
    have same : holdingsOf (done ++ [step]) = recordHolding (holdingsOf done) step :=
      foldl_concat ..
    have split : grantsOf (done ++ [step]) = grantsOf done ++ grantsOf [step] :=
      filterMap_append ..
    rw [same, split, reverse_append, ← ih]
    cases step with
    | nextOccurrence => rfl
    | event journaled =>
      cases journaled with
      | claimed | effectStarted => rfl
      | heartbeat => exact extendLatest_proofs _ _
      | released | acknowledged => exact endLatest_proofs _ _
      | reclaimed => exact congrArg _ (endLatest_proofs _ _)

/-- The latest time a step observes, and that it is not before what was observed. -/
theorem Moves.observes (moves : Moves state step next) (knows : Knows holdings state) :
    match step with
    | .event event => next.lastObservedAt = some event.observedAt ∧
        ∀ last ∈ state.lastObservedAt, last ≤ event.observedAt
    | .nextOccurrence => next.lastObservedAt = state.lastObservedAt := by
  cases moves with
  | claim later => exact ⟨rfl, fun last known => (later last known).le⟩
  | heartbeat proof later | release proof later | effectStart proof later =>
    exact ⟨rfl, fun last known => by cases known; exact later.le⟩
  | postEffectHeartbeat proof later => exact ⟨rfl, fun last known => by cases known; exact later.le⟩
  | reclaim expired =>
    exact ⟨rfl, fun last known => by cases known; exact knows.2.le.trans expired⟩
  | acknowledge proof later => exact ⟨rfl, fun last known => by cases known; exact later⟩
  | reopen => rfl

/-- The observed times of an accepted history do not go backward. -/
theorem replay_times
    (accepted : LeaseState.replay steps = .ok state) : (observationsOf steps).Pairwise (· ≤ ·) := by
  have all : (Chain (holdingsOf steps) ∧ Knows (holdingsOf steps) state) ∧
      (observationsOf steps).Pairwise (· ≤ ·) ∧
      ∀ time ∈ observationsOf steps, ∃ last ∈ state.lastObservedAt, time ≤ last := by
    refine foldlM_invariant (fun done state => (Chain (holdingsOf done) ∧ Knows (holdingsOf done)
      state) ∧ (observationsOf done).Pairwise (· ≤ ·) ∧ ∀ time ∈ observationsOf done,
        ∃ last ∈ state.lastObservedAt, time ≤ last)
      (fun done step before after holds stepped => ?_)
      ⟨initial_keeps, .nil, nofun⟩ accepted
    obtain ⟨⟨chain, knows⟩, sorted, bounded⟩ := holds
    have moves := step_moves stepped
    have same : holdingsOf (done ++ [step]) = recordHolding (holdingsOf done) step :=
      foldl_concat ..
    rw [same]
    refine ⟨moves.keeps chain knows, ?_⟩
    have observes := moves.observes knows
    rw [observationsOf, filterMap_append, ← observationsOf]
    cases step with
    | nextOccurrence =>
      rw [observes]
      exact ⟨by simpa [LeaseStep.event?] using sorted, by simpa [LeaseStep.event?] using bounded⟩
    | event journaled =>
      obtain ⟨latest, advances⟩ := observes
      have earlier : ∀ time ∈ observationsOf done, time ≤ journaled.observedAt := by
        intro time listed
        obtain ⟨last, known, before⟩ := bounded time listed
        exact before.trans (advances last known)
      rw [latest]
      refine ⟨pairwise_append.mpr ⟨sorted, pairwise_singleton _ _, ?_⟩, ?_⟩
      · intro time listed last only
        rw [mem_singleton.mp only]
        exact earlier time listed
      · intro time listed
        refine ⟨_, rfl, ?_⟩
        rcases mem_append.mp listed with old | only
        · exact earlier time old
        · rw [mem_singleton.mp only]
  exact all.2.1

/-- After an effect start the lease is fenced under the proof of the effect until it is
acknowledged. -/
theorem fenced_until_acknowledged {observation : LeaseBoundObservation} {between : List LeaseStep}
    (start : ∃ fence, state = .effectFenced fence ∧ fence.active.proof = observation.proof)
    (unacknowledged : ∀ ack, LeaseStep.event (.acknowledged ack) ∉ between)
    (accepted : between.foldlM LeaseState.step state = .ok next) :
    ∃ fence, next = .effectFenced fence ∧ fence.active.proof = observation.proof := by
  induction between generalizing state with
  | nil =>
    cases accepted
    exact start
  | cons step rest ih =>
    rw [foldlM_cons, bind_ok] at accepted
    obtain ⟨middle, stepped, accepted⟩ := accepted
    obtain ⟨fence, rfl, proof⟩ := start
    have others : ∀ ack, LeaseStep.event (.acknowledged ack) ∉ rest :=
      fun ack listed => unacknowledged ack (mem_cons_of_mem _ listed)
    cases step_moves stepped with
    | postEffectHeartbeat =>
      refine ih ⟨_, rfl, ?_⟩ others accepted
      exact proof
    | acknowledge => exact absurd mem_cons_self (unacknowledged _)

/-- The safety of a lease's history. -/
structure Fenced (steps : List LeaseStep) : Prop where
  /-- Every grant carries the generation after the one of the previous grant, the first one. -/
  numbered : (grantsOf steps).map LeaseProof.generation = List.range' 1 (grantsOf steps).length
  grantedOnce : (grantsOf steps).Nodup
  /-- From an effect start to its acknowledgement only heartbeats and the acknowledgement are
  accepted, under the proof of the effect. -/
  fenced : ∀ before observation between step after,
    steps = before ++ .event (.effectStarted observation) :: (between ++ step :: after) →
    (∀ ack, LeaseStep.event (.acknowledged ack) ∉ between) →
    ∃ event, step = .event event ∧ event.resultingProof = observation.proof ∧
      ((∃ beat, event = .heartbeat beat) ∨ ∃ ack, event = .acknowledged ack)
  /-- There is a holding for each grant, and holdings are apart. -/
  held : (holdingsOf steps).map Holding.proof = (grantsOf steps).reverse
  apart : (holdingsOf steps).Pairwise Apart
  sound : ∀ holding ∈ holdingsOf steps, holding.Sound
  /-- A lease is reclaimed once every expiry it was granted has passed. -/
  reclaimed : ∀ before reclaim after, steps = before ++ .event (.reclaimed reclaim) :: after →
    ∃ holding earlier, holdingsOf before = holding :: earlier ∧
      ∀ expiry ∈ holding.expiries, expiry ≤ reclaim.lineage.reclaimedAt
  times : (observationsOf steps).Pairwise (· ≤ ·)

/-- Every accepted history of a lease, over any number of occurrences, is fenced. -/
theorem fenced_replay {steps : List LeaseStep} {state : LeaseState}
    (accepted : LeaseState.replay steps = .ok state) : Fenced steps := by
  obtain ⟨chain, -⟩ := replay_keeps accepted
  have held := holdingsOf_proofs steps
  have numbered : (grantsOf steps).map LeaseProof.generation =
      List.range' 1 (grantsOf steps).length := by
    have length : (holdingsOf steps).length = (grantsOf steps).length := by
      have lengths := congrArg List.length held
      rwa [length_map, length_reverse] at lengths
    have generations : ((holdingsOf steps).map Holding.proof).map LeaseProof.generation =
        (List.range' 1 (holdingsOf steps).length).reverse := by
      rw [map_map]
      exact chain.numbered
    rw [held, length, map_reverse, reverse_inj] at generations
    exact generations
  refine ⟨numbered, ?_, ?_, held, chain.apart, chain.sound, ?_, replay_times accepted⟩
  · have distinct : ((grantsOf steps).map LeaseProof.generation).Nodup := by
      rw [numbered]
      exact nodup_range'
    exact distinct.of_map
  · intro before observation between step after split unacknowledged
    rw [split, LeaseState.replay, foldlM_append, bind_ok] at accepted
    obtain ⟨state, -, accepted⟩ := accepted
    rw [foldlM_cons, bind_ok] at accepted
    obtain ⟨started, starts, accepted⟩ := accepted
    obtain ⟨last, next, reached, stepped⟩ := foldlM_split accepted
    have start : ∃ fence, started = .effectFenced fence ∧
        fence.active.proof = observation.proof := by
      cases step_moves starts with
      | effectStart proof => exact ⟨_, rfl, proof.symm⟩
    obtain ⟨fence, rfl, proof⟩ := fenced_until_acknowledged start unacknowledged reached
    cases step_moves stepped with
    | postEffectHeartbeat same => exact ⟨_, rfl, same.trans proof, .inl ⟨_, rfl⟩⟩
    | acknowledge same => exact ⟨_, rfl, same.trans proof, .inr ⟨_, rfl⟩⟩
  · intro before reclaim after split
    rw [split] at accepted
    obtain ⟨state, next, reached, stepped⟩ := foldlM_split accepted
    obtain ⟨chain, knows⟩ := replay_keeps reached
    cases step_moves stepped with
    | reclaim expired =>
      obtain ⟨latest, earlier, same, -, -, -, head⟩ := knows.1.opened
      obtain ⟨rest, expiries⟩ := head?_eq_some_iff.mp head
      have sorted := (chain.sound latest (same ▸ mem_cons_self)).lengthening
      refine ⟨latest, earlier, same, fun expiry listed => ?_⟩
      rw [expiries] at listed sorted
      rcases mem_cons.mp listed with rfl | old
      · exact expired
      · exact ((pairwise_cons.mp sorted).1 expiry old).trans expired

/-- Two workers: the first is reclaimed, the second takes effect, and the next occurrence is claimed
again. -/
def sampleSteps : List LeaseStep :=
  [.event (.claimed ⟨⟨"a", "one", 1⟩, 10, 20⟩), .event (.heartbeat ⟨⟨"a", "one", 1⟩, 15, 25⟩),
    .event (.reclaimed ⟨⟨⟨"a", "one", 1⟩, 25, 25, ⟨"b", "two", 2⟩⟩, 40⟩),
    .event (.effectStarted ⟨⟨"b", "two", 2⟩, 30⟩), .event (.heartbeat ⟨⟨"b", "two", 2⟩, 31, 60⟩),
    .event (.acknowledged ⟨⟨"b", "two", 2⟩, 70⟩), .nextOccurrence,
    .event (.claimed ⟨⟨"a", "three", 3⟩, 71, 80⟩)]

/-- The sample history is accepted, and fenced. -/
theorem fenced_replay_sample :
    Fenced sampleSteps ∧ (holdingsOf sampleSteps).map (fun holding =>
      (holding.issuedAt, holding.endedAt)) = [(71, none), (25, some 70), (10, some 25)] := by
  have accepted : (LeaseState.replay sampleSteps).toOption.map (fun _ => ()) = some () := by
    decide +kernel
  obtain ⟨state, replayed, -⟩ := ok_of_toOption accepted
  exact ⟨fenced_replay replayed, by decide⟩

/-- A lease reports its own history: the generation counts the grants, and the phase says whether
the latest of them is still held, under the proof it was granted with. -/
theorem replay_reports (accepted : LeaseState.replay steps = .ok state) :
    state.generation = (grantsOf steps).length ∧
      match state.phase with
      | .available | .acknowledged => ∀ holding ∈ holdingsOf steps, holding.endedAt.isSome = true
      | .active | .effectFenced => state.activeProof = (grantsOf steps).getLast? ∧
          (holdingsOf steps).head?.bind Holding.endedAt = none := by
  have held := holdingsOf_proofs steps
  have count : (holdingsOf steps).length = (grantsOf steps).length := by
    simpa using congrArg length held
  have latest : (grantsOf steps).getLast? = (holdingsOf steps).head?.map Holding.proof := by
    rw [← head?_reverse, ← held, head?_map]
  obtain ⟨-, knows⟩ := replay_keeps accepted
  have closed {generation : ℕ} {observedAt : Option ℕ}
      (ended : Closed (holdingsOf steps) generation observedAt) :
      ∀ holding ∈ holdingsOf steps, holding.endedAt.isSome = true := by
    intro holding listed
    obtain ⟨time, -, same, -⟩ := ended.ended holding listed
    rw [same, Option.isSome_some]
  have opened {lease : ActiveLease} {expiresAt observedAt : ℕ}
      (opened : Opened (holdingsOf steps) lease expiresAt observedAt) :
      some lease.proof = (grantsOf steps).getLast? ∧
        (holdingsOf steps).head?.bind Holding.endedAt = none := by
    obtain ⟨holding, earlier, same, proof, -, ended, -⟩ := opened.opened
    rw [latest, same, head?_cons, Option.map_some, proof]
    exact ⟨rfl, ended⟩
  rw [← count]
  cases state with
  | available lease => exact ⟨knows.length.symm, closed knows⟩
  | active lease => exact ⟨knows.1.length.symm, opened knows.1⟩
  | effectFenced fence => exact ⟨(Opened.length knows).symm, opened knows⟩
  | acknowledged lease => exact ⟨(Closed.length knows).symm, closed knows⟩

/-- The sample history made three grants. -/
theorem replay_reports_sample :
    ∃ state, LeaseState.replay sampleSteps = .ok state ∧ state.generation = 3 := by
  have accepted : (LeaseState.replay sampleSteps).toOption.map (fun _ => ()) = some () := by
    decide +kernel
  obtain ⟨state, replayed, -⟩ := ok_of_toOption accepted
  exact ⟨state, replayed, (replay_reports replayed).1⟩

end Maco.Lease
