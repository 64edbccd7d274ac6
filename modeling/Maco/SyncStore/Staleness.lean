import Maco.SyncStore.Lineage
import Maco.SyncStore.Reopen

/-!
# Staleness and takeover of claims

What every sequence of updates of a claims store guarantees about the life of a claim: it is taken
over only after a sweep found it stale, a claim that was marked takes no heartbeat, and a claim that
was superseded does not come back. The successor holds the same paths under a larger token.
-/

namespace Maco.SyncStore

open Maco.Base Maco.Sync Maco.Publication List

variable {ρ α : Type}

/-! ## Active tokens -/

/-- The tokens of the claims of a coordinator. -/
def activeTokens (inner : Inner) : List ℕ := (allClaims inner).map PathClaim.token

variable {inner : Inner} {token : ℕ}

/-- Active tokens have been issued. -/
theorem activeTokens_issued (consistent : Consistent inner)
    (active : token ∈ activeTokens inner) : token < inner.nextToken := by
  obtain ⟨child, stored⟩ | ⟨key, entry, found, rfl⟩ := (mem_tokens consistent).mp active
  · obtain ⟨binding, listed, bound⟩ := consistent.childBound token child stored
    rw [← consistent.childToken token child stored, ← bound.token]
    exact (consistent.bindings binding listed).childBelow
  · exact (consistent.entries key entry found).below

/-- A token that is active after an operation was active before, or is the next one. -/
structure Issues (before after : Inner) : Prop where
  later : before.nextToken ≤ after.nextToken
  active : ∀ token ∈ activeTokens after, token ∈ activeTokens before ∨ token = before.nextToken

variable {coordinator next : Inner} {agentId : String} {paths : List Path} {claim : PathClaim}

/-- Tokens are issued when every child and entry is an old one or carries the next token. -/
theorem Issues.of (consistent : Consistent inner) (after : Consistent next)
    (later : inner.nextToken ≤ next.nextToken)
    (children : ∀ (token : ℕ) child, next.subordinateClaims[token]? = some child →
      inner.subordinateClaims[token]? = some child ∨ token = inner.nextToken)
    (entries : ∀ (key : Path) entry, next.claims[key]? = some entry →
      inner.claims[key]? = some entry ∨ entry.token = inner.nextToken) : Issues inner next := by
  refine ⟨later, fun token active => ?_⟩
  rw [activeTokens, mem_tokens consistent]
  obtain ⟨child, stored⟩ | ⟨key, entry, found, rfl⟩ := (mem_tokens after).mp active
  · exact (children token child stored).imp_left fun old => .inl ⟨child, old⟩
  · exact (entries key entry found).imp_left fun old => .inr ⟨key, entry, old, rfl⟩

/-- A claim issues one token. -/
theorem claim_issues (consistent : Consistent coordinator)
    (accepted : claimInCoordinator coordinator agentId paths = .ok (claim, next)) :
    Consistent next ∧ Issues coordinator next := by
  obtain ⟨stepped, agent, scope, claims, -, -, inserted, same, -⟩ := claimInCoordinator_ok accepted
  have after : Consistent next := stepped ▸ step_consistent consistent (.claimPaths agentId paths)
  subst same
  refine ⟨after, .of consistent after (Nat.le_succ _) (fun _ _ => .inl) fun key entry found => ?_⟩
  rcases (insertClaim_entry inserted).mp found with ⟨-, rfl⟩ | old
  · exact .inr rfl
  · exact .inl old

/-- A claim is listed under the token it was given, with its paths in order. -/
theorem claim_listed (consistent : Consistent coordinator)
    (accepted : claimInCoordinator coordinator agentId paths = .ok (claim, next)) :
    claim ∈ allClaims next := by
  have after := (claim_issues consistent accepted).1
  obtain ⟨-, agent, scope, claims, -, scopeNormal, inserted, rfl, rfl⟩ :=
    claimInCoordinator_ok accepted
  have canonical := normalizeClaimPaths_canonical scopeNormal
  -- the entries under the new token are the claim's own
  have own : ∀ (key : Path) entry, claims[key]? = some entry ∧
      entry.token = coordinator.nextToken ↔
        key ∈ scope ∧ entry = ⟨coordinator.nextToken, agent⟩ := by
    intro key entry
    rw [insertClaim_entry inserted]
    constructor
    · rintro ⟨new | old, token⟩
      · exact new
      · exact absurd token (consistent.entries key entry old).below.ne
    · rintro ⟨inside, rfl⟩
      exact ⟨.inl ⟨inside, rfl⟩, rfl⟩
  obtain ⟨path, held⟩ := exists_mem_of_ne_nil _ canonical.nonempty
  obtain ⟨grouped, active⟩ := exists_claimForToken ((own path _).mpr ⟨held, rfl⟩).1
  obtain ⟨token, -, sorted, members, key, entry, carried, carries, sameAgent⟩ :=
    claimForToken_some active
  have samePaths : grouped.paths = scope := by
    refine eq_of_sorted_of_mem (fun a b => lt_asymm) sorted canonical.sorted fun key => ?_
    simp only [members, own, exists_and_left, exists_eq, and_true]
  obtain ⟨-, rfl⟩ := (own key entry).mp ⟨carried, carries⟩
  have same : grouped = ⟨coordinator.nextToken, agent, scope⟩ := by
    obtain ⟨groupedToken, groupedAgent, groupedPaths⟩ := grouped
    dsimp only at token samePaths sameAgent
    rw [token, samePaths, ← sameAgent]
  rw [mem_allClaims after, ← same, token]
  exact .inr active

/-- A release issues no token. -/
theorem release_issues (consistent : Consistent inner)
    (accepted : release inner token = .ok (released, next)) :
    Consistent next ∧ next.nextToken = inner.nextToken ∧
      ∀ other ∈ activeTokens next, other ∈ activeTokens inner := by
  obtain ⟨stepped, shrinks⟩ := release_shrinks accepted
  have after : Consistent next := stepped ▸ step_consistent consistent (.release token)
  refine ⟨after, ?_, ?_⟩
  · obtain ⟨-, ⟨-, rfl⟩ | ⟨-, -, rfl⟩⟩ := release_ok accepted <;> rfl
  · intro other active
    rw [activeTokens, mem_tokens consistent]
    obtain ⟨child, stored⟩ | ⟨key, entry, found, carries⟩ := (mem_tokens after).mp active
    · exact .inl ⟨child, shrinks.fewer other child stored⟩
    · refine .inr ⟨key, entry, ?_, carries⟩
      obtain ⟨-, ⟨-, rfl⟩ | ⟨-, -, rfl⟩⟩ := release_ok accepted
      · exact found
      · exact (BTreeMap.get_filter_some found).1

/-- Releasing an agent's claims issues no token. -/
theorem releaseByAgent_issues (consistent : Consistent inner)
    (accepted : releaseByAgent inner agentId = .ok (released, next)) : Issues inner next := by
  obtain ⟨stepped, shrinks⟩ := releaseByAgent_shrinks accepted
  have after : Consistent next := stepped ▸ step_consistent consistent (.releaseByAgent agentId)
  obtain ⟨agent, -, -, rfl⟩ := releaseByAgent_ok accepted
  refine .of consistent after (le_refl _)
    (fun token child stored => .inl (shrinks.fewer token child stored)) fun key entry found => ?_
  exact .inl (BTreeMap.get_filter_some found).1

/-- A subordinate claim issues one token. -/
theorem claimSubordinate_issues (consistent : Consistent inner)
    (accepted : claimSubordinatePaths inner parent workerId paths sourceDigest =
      .ok (claim, next)) : Issues inner next ∧ claim.token = inner.nextToken := by
  have after : Consistent next := by
    have kept := step_consistent consistent
      (.claimSubordinatePaths parent workerId paths sourceDigest)
    rw [step, accepted] at kept
    exact kept
  obtain ⟨-, -, -, -, -, rfl, rfl⟩ := claimSubordinatePaths_ok accepted
  refine ⟨.of consistent after (Nat.le_succ _) (fun token child stored => ?_)
    fun _ _ => .inl, rfl⟩
  rcases BTreeMap.get_insert_cases stored with ⟨same, -⟩ | ⟨-, old⟩
  · exact .inr same
  · exact .inl old

/-! ## Liveness records -/

section Replace

variable {key : α → ℕ} {item other : α} {items : List α} {sought : ℕ}

/-- An item with another key stays when the first item with a key is replaced. -/
theorem mem_replaceFirst_of_ne (member : other ∈ items) (different : key other ≠ sought) :
    other ∈ replaceFirst (fun entry => key entry == sought) item items := by
  induction items with
  | nil => cases member
  | cons first rest ih =>
    rw [replaceFirst]
    split
    case isTrue same =>
      obtain rfl | later := mem_cons.mp member
      · exact absurd (beq_iff_eq.mp same) different
      · exact mem_cons_of_mem _ later
    case isFalse =>
      obtain rfl | later := mem_cons.mp member
      · exact mem_cons_self
      · exact mem_cons_of_mem _ (ih later)

/-- What is listed after the item of a key was replaced. -/
theorem replaceFirst_cases (distinct : (items.map key).Nodup)
    (member : other ∈ replaceFirst (fun entry => key entry == sought) item items) :
    other = item ∨ (other ∈ items ∧ key other ≠ sought) := by
  induction items with
  | nil => cases member
  | cons first rest ih =>
    rw [map_cons, nodup_cons] at distinct
    rw [replaceFirst] at member
    split at member
    case isTrue same =>
      obtain rfl | later := mem_cons.mp member
      · exact .inl rfl
      · refine .inr ⟨mem_cons_of_mem _ later, ?_⟩
        intro equal
        refine distinct.1 (mem_map.mpr ⟨other, later, ?_⟩)
        rw [equal, beq_iff_eq.mp same]
    case isFalse away =>
      obtain rfl | later := mem_cons.mp member
      · exact .inr ⟨mem_cons_self, fun equal => away (beq_iff_eq.mpr equal)⟩
      · obtain same | ⟨listed, different⟩ := ih distinct.2 later
        · exact .inl same
        · exact .inr ⟨mem_cons_of_mem _ listed, different⟩

end Replace

/-- The claim and the time of a heartbeat. -/
def Update.heartbeat? : Update → Option (ℕ × ℕ)
  | .heartbeat token _ _ now => some (token, now)
  | _ => none

/-- Where a liveness record after an update comes from. -/
inductive EntryFrom (working : Working) (update : Update) (entry : ClaimLiveness) : Prop where
  | kept (listed : entry ∈ working.liveness)
      (quiet : ∀ now, update.heartbeat? ≠ some (entry.token, now))
  | opened (token : entry.token = working.coordinator.nextToken)
      (beat : entry.heartbeatUnixSeconds = entry.createdUnixSeconds)
      (unmarked : entry.takeoverEligibleSinceUnixSeconds = none)
      (quiet : update.heartbeat? = none)
  | beaten (now : ℕ) (beats : update.heartbeat? = some (entry.token, now))
      (beat : entry.heartbeatUnixSeconds = now)
      (unmarked : entry.takeoverEligibleSinceUnixSeconds = none)
  | marked (old : ClaimLiveness) (now : ℕ) (listed : old ∈ working.liveness)
      (sweeps : update = .sweep now)
      (stale : old.heartbeatUnixSeconds + old.staleAfterSeconds ≤ now)
      (same : entry = { old with takeoverEligibleSinceUnixSeconds := some now })

/-- What an update does to the liveness records and the supersessions. -/
structure LivenessMoves (working : Working) (update : Update) (next : Working) : Prop where
  source : ∀ entry ∈ next.liveness, EntryFrom working update entry
  marks : ∀ entry ∈ working.liveness, entry.takeoverEligibleSinceUnixSeconds ≠ none →
    entry ∈ next.liveness ∧ ∀ now, update.heartbeat? ≠ some (entry.token, now)
  beats : ∀ token now, update.heartbeat? = some (token, now) →
    token ∈ activeTokens working.coordinator
  supersedes : ∀ entry ∈ working.supersessions, entry ∈ next.supersessions

variable {now : ℕ} {entry : ClaimLiveness}

/-- A new record is for the claim, beats when it was created and is not marked. -/
theorem newClaimLiveness_ok {timing : ClaimTiming}
    (made : newClaimLiveness claim timing now supersedes = .ok entry) :
    entry.token = claim.token ∧ entry.heartbeatUnixSeconds = now ∧
      entry.createdUnixSeconds = now ∧ entry.takeoverEligibleSinceUnixSeconds = none ∧
        entry.claimId = canonicalClaimId claim.token := by
  simp only [newClaimLiveness, ok_iff] at made
  obtain ⟨_, -, -, rfl⟩ := made
  exact ⟨rfl, rfl, rfl, rfl, rfl⟩

variable {working : Working} {update : Update}

variable {next : Working}

/-- Adding at most new records for the next token moves the liveness records. -/
theorem LivenessMoves.push
    (liveness : next.liveness = working.liveness ++ added) (quiet : update.heartbeat? = none)
    (fresh : ∀ entry ∈ added, entry.token = working.coordinator.nextToken ∧
      entry.heartbeatUnixSeconds = entry.createdUnixSeconds ∧
        entry.takeoverEligibleSinceUnixSeconds = none)
    (supersedes : ∀ entry ∈ working.supersessions, entry ∈ next.supersessions) :
    LivenessMoves working update next := by
  refine ⟨?_, ?_, ?_, supersedes⟩
  · intro other member
    rw [liveness] at member
    obtain old | new := mem_append.mp member
    · exact .kept old (by simp [quiet])
    · obtain ⟨token, beat, unmarked⟩ := fresh other new
      exact .opened token beat unmarked quiet
  · intro other member _
    rw [liveness]
    exact ⟨mem_append_left _ member, by simp [quiet]⟩
  · intro token now beats
    rw [quiet] at beats
    cases beats

variable {timing : Option ClaimTiming}

/-- The record of a claim after a heartbeat. -/
theorem heartbeatEntry_ok {next : ClaimLiveness}
    (beaten : heartbeatEntry timing now entry = .ok next) :
    entry.takeoverEligibleSinceUnixSeconds = none ∧ next.token = entry.token ∧
      next.heartbeatUnixSeconds = now ∧ next.takeoverEligibleSinceUnixSeconds = none := by
  simp only [heartbeatEntry, ok_iff, Bool.not_eq_true, Option.isSome_eq_false_iff,
    Option.isNone_iff_eq_none] at beaten
  obtain ⟨unmarked, -, rfl⟩ := beaten
  cases timing with
  | none => exact ⟨unmarked, rfl, rfl, unmarked⟩
  | some timing => exact ⟨unmarked, rfl, rfl, unmarked⟩

/-- A heartbeat replaces the record of its claim, or adds the first one. -/
theorem heartbeat_moves (distinct : (working.liveness.map ClaimLiveness.token).Nodup)
    (accepted : heartbeatUpdate token agentId timing now working = .ok (report, next)) :
    LivenessMoves working (.heartbeat token agentId timing now) next ∧
      next.coordinator = working.coordinator := by
  simp only [heartbeatUpdate, ok_iff, Prod.mk.injEq, not_not] at accepted
  obtain ⟨_, -, _, -, claim, found, -, liveness, beaten, _, -, _, -, rfl, rfl⟩ := accepted
  have claimToken : claim.token = token := by simpa using find?_some found
  subst claimToken
  have active : claim.token ∈ activeTokens working.coordinator :=
    mem_map_of_mem (mem_of_find?_eq_some found)
  have only : ∀ other moment, (Update.heartbeat claim.token agentId timing now).heartbeat? =
      some (other, moment) → claim.token = other ∧ now = moment := by
    intro other moment beats
    simpa [Update.heartbeat?] using beats
  refine ⟨⟨?_, ?_, ?_, fun _ member => member⟩, rfl⟩
  · intro entry member
    unfold heartbeatLiveness at beaten
    split at beaten
    case h_1 old looked =>
      simp only [ok_iff] at beaten
      obtain ⟨renewed, made, rfl⟩ := beaten
      obtain ⟨-, sameToken, beat, unmarked⟩ := heartbeatEntry_ok made
      have oldToken : old.token = claim.token := by simpa using find?_some looked
      obtain rfl | ⟨listed, different⟩ := replaceFirst_cases distinct member
      · refine .beaten now ?_ beat unmarked
        rw [sameToken, oldToken]
        rfl
      · exact .kept listed fun moment beats => different (only _ _ beats).1.symm
    case h_2 missing =>
      simp only [ok_iff] at beaten
      obtain ⟨added, made, rfl⟩ := beaten
      obtain ⟨sameToken, beat, -, unmarked, -⟩ := newClaimLiveness_ok made
      obtain listed | new := mem_append.mp member
      · refine .kept listed fun moment beats => ?_
        have away := find?_eq_none.mp missing entry listed
        rw [(only _ _ beats).1] at away
        simp at away
      · rw [mem_singleton.mp new]
        refine .beaten now ?_ beat unmarked
        rw [sameToken]
        rfl
  · intro entry member marked
    have different : entry.token ≠ claim.token := by
      intro same
      unfold heartbeatLiveness at beaten
      rw [← same, find?_key_eq_some distinct member] at beaten
      simp only [bind_ok] at beaten
      obtain ⟨_, made, -⟩ := beaten
      exact marked (heartbeatEntry_ok made).1
    refine ⟨?_, fun moment beats => different (only _ _ beats).1.symm⟩
    unfold heartbeatLiveness at beaten
    split at beaten
    case h_1 =>
      simp only [ok_iff] at beaten
      obtain ⟨renewed, -, rfl⟩ := beaten
      exact mem_replaceFirst_of_ne member different
    case h_2 =>
      simp only [ok_iff] at beaten
      obtain ⟨added, -, rfl⟩ := beaten
      exact mem_append_left _ member
  · intro other moment beats
    rw [← (only other moment beats).1]
    exact active

/-- A time at which the liveness of every claim is unambiguous is not before any heartbeat. -/
theorem heartbeat_le_of_unambiguous (distinct : (liveness.map ClaimLiveness.token).Nodup)
    (active : ∀ entry ∈ liveness, entry.token ∈ claims.map PathClaim.token)
    (unambiguous : ensureUnambiguousLiveness claims liveness supersessions now = .ok done)
    (member : entry ∈ liveness) : entry.heartbeatUnixSeconds ≤ now := by
  simp only [ensureUnambiguousLiveness, ok_iff, forM_ok] at unambiguous
  obtain ⟨_, -, checked⟩ := unambiguous
  obtain ⟨claim, listed, sameToken⟩ := mem_map.mp (active entry member)
  obtain ⟨report, reported, known⟩ := checked claim listed
  have found : (livenessByToken liveness)[claim.token]? = some entry := by
    rw [livenessByToken, BTreeMap.get_ofList (by rw [map_map]; exact distinct), sameToken]
    exact mem_map_of_mem member
  rw [found] at reported
  simp only [claimLivenessReport, ok_iff] at reported
  obtain ⟨-, rfl⟩ := reported
  by_contra before
  refine known ?_
  rw [classifyLiveness, if_pos (Nat.lt_of_not_le before)]

/-- A sweep marks the records that are stale, and leaves the others. -/
theorem sweep_moves (distinct : (working.liveness.map ClaimLiveness.token).Nodup)
    (active : ∀ entry ∈ working.liveness, entry.token ∈ activeTokens working.coordinator)
    (accepted : sweepUpdate now working = .ok (report, next)) :
    LivenessMoves working (.sweep now) next ∧ next.coordinator = working.coordinator := by
  simp only [sweepUpdate, ok_iff, Prod.mk.injEq] at accepted
  obtain ⟨_, unambiguous, _, -, -, rfl⟩ := accepted
  refine ⟨⟨?_, ?_, ?_, fun _ member => member⟩, rfl⟩
  · intro entry member
    obtain ⟨old, listed, same⟩ := mem_map.mp member
    have beat := heartbeat_le_of_unambiguous distinct active unambiguous listed
    split at same
    case isTrue marks =>
      refine .marked old now listed rfl ?_ same.symm
      have stale : old.staleAfterSeconds ≤ now - old.heartbeatUnixSeconds := by
        rw [sweepMarks, Bool.and_eq_true, decide_eq_true_eq] at marks
        exact marks.1
      omega
    case isFalse =>
      rw [← same]
      exact .kept listed (by simp [Update.heartbeat?])
  · intro entry member marked
    refine ⟨mem_map.mpr ⟨entry, member, ?_⟩, by simp [Update.heartbeat?]⟩
    have unmarkable : sweepMarks now entry = false := by
      rw [sweepMarks, Bool.and_eq_false_iff, Option.isNone_eq_false_iff, Option.isSome_iff_ne_none]
      exact .inr marked
    rw [unmarkable]
    rfl
  · intro token moment beats
    cases beats

/-- What a takeover has done: a marked claim is gone, and its successor holds its paths under the
next token and is recorded as such. -/
structure TakesOver (working : Working) (priorToken : ℕ) (next : Working) : Prop where
  marked : ∃ entry ∈ working.liveness, entry.token = priorToken ∧
    entry.takeoverEligibleSinceUnixSeconds ≠ none
  transfers : ∃ prior ∈ allClaims working.coordinator, ∃ successor ∈ allClaims next.coordinator,
    prior.token = priorToken ∧ successor.token = working.coordinator.nextToken ∧
      successor.paths = prior.paths ∧
        ∃ record ∈ next.supersessions, record.priorToken = priorToken ∧
          record.successorToken = successor.token

variable {checksum : List Path → Except String String}

/-- A takeover moves the records and the tokens, and takes the claim over. -/
theorem takeover_moves (consistent : Consistent working.coordinator)
    (accepted : takeoverUpdate checksum priorToken agentId timing now remoteSuccessor working =
      .ok (outcome, next)) :
    LivenessMoves working (.takeover priorToken agentId timing now remoteSuccessor) next ∧
      Issues working.coordinator next.coordinator ∧ TakesOver working priorToken next := by
  simp only [takeoverUpdate, ok_iff, mapError_ok, not_not, Prod.mk.injEq] at accepted
  obtain ⟨_, -, _, -, prior, found, priorLiveness, looked, report, reported, eligible, -, _, -, -,
    _, -, pathsChecksum, -, ⟨superseded, released⟩, releasedOk, ⟨claim, coordinator⟩, claimed, entry,
    made, _, -, rfl, rfl⟩ := accepted
  obtain ⟨mid, sameNext, fewer⟩ := release_issues consistent releasedOk
  obtain ⟨-, issues⟩ := claim_issues mid claimed
  have listed := claim_listed mid claimed
  obtain ⟨-, agent, scope, claims, -, scopeNormal, -, -, sameClaim⟩ := claimInCoordinator_ok claimed
  have claimToken : claim.token = working.coordinator.nextToken := by
    rw [sameClaim, ← sameNext]
  obtain ⟨entryToken, beat, created, unmarked, -⟩ := newClaimLiveness_ok made
  have priorMember := mem_of_find?_eq_some found
  have priorSame : prior.token = priorToken := by simpa using find?_some found
  -- the released claim is the top-level claim that was found
  obtain ⟨-, ⟨stored, rfl⟩ | ⟨absent, grouped, -⟩⟩ := release_ok releasedOk
  · exact absurd claimed (no_claim_of_released_child consistent stored)
  have same : superseded = prior := by
    obtain child | top := (mem_allClaims consistent).mp priorMember
    · rw [priorSame, absent] at child
      cases child
    · rw [priorSame, grouped] at top
      exact Option.some.inj top
  have canonical : CanonicalScope superseded.paths := (consistent.claim grouped).2.2.2.1
  have samePaths : claim.paths = prior.paths := by
    rw [normalizeClaimPaths_eq_self canonical, Except.ok.injEq] at scopeNormal
    rw [sameClaim, ← scopeNormal, same]
  have marked : priorLiveness.takeoverEligibleSinceUnixSeconds ≠ none := by
    intro unmarked
    simp only [claimLivenessReport, ok_iff] at reported
    obtain ⟨-, rfl⟩ := reported
    rw [classifyLiveness, unmarked] at eligible
    dsimp only at eligible
    split at eligible
    · cases eligible
    · split at eligible
      · cases eligible
      · split at eligible <;> cases eligible
  refine ⟨?_, ⟨?_, ?_⟩, ⟨priorLiveness, mem_of_find?_eq_some looked,
    by simpa using find?_some looked, marked⟩, ?_⟩
  · exact .push rfl rfl (forall_mem_singleton.mpr
      ⟨entryToken.trans claimToken, beat.trans created.symm, unmarked⟩)
      fun other member => mem_append_left _ member
  · rw [← sameNext]
    exact issues.later
  · intro token active
    obtain old | new := issues.active token active
    · exact .inl (fewer token old)
    · exact .inr (new.trans sameNext)
  · exact ⟨prior, priorMember, claim, listed, priorSame, claimToken, samePaths, _,
      mem_append_right _ (mem_singleton_self _), rfl, rfl⟩

/-- What every update does to the records and the tokens. -/
theorem Update.apply_moves (host : Host) (update : Update)
    (consistent : Consistent working.coordinator)
    (distinct : (working.liveness.map ClaimLiveness.token).Nodup)
    (active : ∀ entry ∈ working.liveness, entry.token ∈ activeTokens working.coordinator)
    (applied : update.apply host working = .ok next) :
    LivenessMoves working update next ∧ Issues working.coordinator next.coordinator := by
  cases update with
  | claim agentId paths timing now runOwner =>
    obtain ⟨⟨claim, left⟩, accepted, rfl⟩ := map_ok.mp applied
    simp only [claimUpdate, ok_iff, Prod.mk.injEq] at accepted
    obtain ⟨_, -, _, -, ⟨made, coordinator⟩, claimed, entry, opened, -, rfl⟩ := accepted
    obtain ⟨-, _, _, _, -, -, -, -, sameClaim⟩ := claimInCoordinator_ok claimed
    obtain ⟨entryToken, beat, created, unmarked, -⟩ := newClaimLiveness_ok opened
    refine ⟨.push rfl rfl (forall_mem_singleton.mpr ⟨?_, beat.trans created.symm, unmarked⟩)
      fun _ member => member, (claim_issues consistent claimed).2⟩
    rw [entryToken, sameClaim]
  | claimSubordinate process run parent workerId paths sourceDigest now =>
    obtain ⟨⟨claim, left⟩, accepted, rfl⟩ := map_ok.mp applied
    simp only [claimSubordinateUpdate, ok_iff, mapError_ok, Prod.mk.injEq] at accepted
    obtain ⟨_, -, _, -, -, -, -, -, -, ⟨made, coordinator⟩, claimed, entry, opened, -, rfl⟩ :=
      accepted
    obtain ⟨issues, sameToken⟩ := claimSubordinate_issues consistent claimed
    obtain ⟨entryToken, beat, created, unmarked, -⟩ := newClaimLiveness_ok opened
    exact ⟨.push rfl rfl (forall_mem_singleton.mpr
      ⟨entryToken.trans sameToken, beat.trans created.symm, unmarked⟩)
      fun _ member => member, issues⟩
  | release token =>
    obtain ⟨⟨released, left⟩, accepted, rfl⟩ := map_ok.mp applied
    obtain ⟨coordinator, _, freed, rfl⟩ := releaseUpdate_ok accepted
    obtain ⟨-, sameNext, fewer⟩ := release_issues consistent freed
    exact ⟨.push (append_nil _).symm rfl (by simp) fun _ member => member, sameNext.ge,
      fun other member => .inl (fewer other member)⟩
  | releaseByAgent agentId =>
    obtain ⟨⟨released, left⟩, accepted, rfl⟩ := map_ok.mp applied
    obtain ⟨coordinator, _, freed, rfl⟩ := releaseByAgentUpdate_ok accepted
    exact ⟨.push (append_nil _).symm rfl (by simp) fun _ member => member,
      releaseByAgent_issues consistent freed⟩
  | heartbeat token agentId timing now =>
    obtain ⟨⟨report, left⟩, accepted, rfl⟩ := map_ok.mp applied
    obtain ⟨moves, same⟩ := heartbeat_moves distinct accepted
    exact ⟨moves, same.symm ▸ ⟨le_refl _, fun _ member => .inl member⟩⟩
  | sweep now =>
    obtain ⟨⟨report, left⟩, accepted, rfl⟩ := map_ok.mp applied
    obtain ⟨moves, same⟩ := sweep_moves distinct active accepted
    exact ⟨moves, same.symm ▸ ⟨le_refl _, fun _ member => .inl member⟩⟩
  | takeover priorToken agentId timing now remoteSuccessor =>
    obtain ⟨⟨outcome, left⟩, accepted, rfl⟩ := map_ok.mp applied
    obtain ⟨moves, issues, -⟩ := takeover_moves consistent accepted
    exact ⟨moves, issues⟩

/-! ## Applied updates -/

variable {host : Host}

/-- The metadata a settled update commits. -/
theorem settleUpdate_metadata (accepted : settleUpdate checksum value working = .ok settled) :
    (∀ entry, entry ∈ settled.liveness ↔ entry ∈ working.liveness ∧
        entry.token ∈ activeTokens working.coordinator) ∧
      ∀ entry, entry ∈ settled.supersessions ↔ entry ∈ working.supersessions := by
  simp only [settleUpdate, ok_iff] at accepted
  obtain ⟨_, -, _, -, _, -, _, -, rfl⟩ := accepted
  refine ⟨fun entry => ?_, fun entry => ?_⟩
  · dsimp only
    rw [mem_sortBy, mem_filter, decide_eq_true_eq, BTreeSet.mem_ofList]
    rfl
  · dsimp only
    rw [mem_sortBy]

/-- A state that opens: its records are of active claims, and its tokens are the coordinator's. -/
theorem coordinator_tokens (rebuilt : coordinatorFromAuthenticated value = .ok coordinator) :
    Consistent coordinator ∧ coordinator.nextToken = value.nextToken ∧
      ∀ token, token ∈ activeTokens coordinator ↔ token ∈ value.claims.map PathClaim.token := by
  obtain ⟨valid, -, -, restored⟩ := coordinatorFromAuthenticated_ok.mp rebuilt
  obtain ⟨positive, claims⟩ := validateSyncSnapshot_ok valid
  have facts := fromSnapshotWithSubordinates_restored restored positive
    fun claim listed => (claims claim listed).2.2
  exact ⟨facts.consistent, facts.nextToken, fun token =>
    fromSnapshotWithSubordinates_tokens restored positive
      fun claim listed => (claims claim listed).2.2⟩

/-- What an update that passed the store's checks has done. -/
structure Applied (host : Host) (before : ClaimsState ρ) (update : Update)
    (after : ClaimsState ρ) : Prop where
  work : ∃ coordinator next, coordinatorFromAuthenticated before = .ok coordinator ∧
    update.apply host (before.working coordinator) = .ok next ∧
      after.nextToken = next.coordinator.nextToken ∧ after.claims = allClaims next.coordinator ∧
        (∀ entry, entry ∈ after.liveness ↔ entry ∈ next.liveness ∧
          entry.token ∈ activeTokens next.coordinator) ∧
        ∀ entry, entry ∈ after.supersessions ↔ entry ∈ next.supersessions
  valid : validateClaimLiveness host.checksum after.nextToken after.claims after.liveness
    after.supersessions = .ok ()

/-- The liveness records and the supersessions of a state are valid. -/
abbrev ClaimsState.Lively (value : ClaimsState ρ) : Prop :=
  LivenessValid value.nextToken value.claims value.liveness value.supersessions

variable {before : ClaimsState ρ}

/-- What an update does to the records of a valid state that opens. -/
theorem ClaimsState.Lively.moves (valid : before.Lively)
    (rebuilt : coordinatorFromAuthenticated before = .ok coordinator)
    (applied : update.apply host (before.working coordinator) = .ok next) :
    LivenessMoves (before.working coordinator) update next ∧
      Issues coordinator next.coordinator := by
  obtain ⟨consistent, -, tokens⟩ := coordinator_tokens rebuilt
  have active : ∀ entry ∈ before.liveness, entry.token ∈ activeTokens coordinator :=
    fun entry member => (tokens entry.token).mpr (valid.active entry member)
  exact update.apply_moves host consistent valid.distinct active applied

/-! ## Heartbeats and sweeps -/

/-- The time of the last heartbeat of a claim that succeeded. -/
def lastHeartbeat (accepted : List Update) (token : ℕ) : Option ℕ :=
  ((accepted.filterMap Update.heartbeat?).filter fun beat => beat.1 == token).getLast?.map Prod.snd

variable {accepted : List Update}

theorem lastHeartbeat_beat (beats : update.heartbeat? = some (token, now)) :
    lastHeartbeat (accepted ++ [update]) token = some now := by
  simp [lastHeartbeat, filterMap_append, filter_append, beats]

/-- Any other update leaves the last heartbeat of a claim. -/
theorem lastHeartbeat_quiet (quiet : ∀ now, update.heartbeat? ≠ some (token, now)) :
    lastHeartbeat (accepted ++ [update]) token = lastHeartbeat accepted token := by
  unfold lastHeartbeat
  rw [filterMap_append, filter_append]
  have silent : ([update].filterMap Update.heartbeat?).filter (fun beat => beat.1 == token) =
    [] := by
    cases beat : update.heartbeat? with
    | none => simp [beat]
    | some pair =>
      have different : pair.1 ≠ token := by
        rintro rfl
        exact quiet pair.2 beat
      simp [beat, different]
  rw [silent, append_nil]

/-- A claim without a heartbeat. -/
theorem lastHeartbeat_none
    (quiet : ∀ update ∈ accepted, ∀ now, update.heartbeat? ≠ some (token, now)) :
    lastHeartbeat accepted token = none := by
  rw [lastHeartbeat, Option.map_eq_none_iff, getLast?_eq_none_iff, filter_eq_nil_iff]
  intro beat member
  obtain ⟨update, listed, found⟩ := mem_filterMap.mp member
  intro same
  refine quiet update listed beat.2 ?_
  rw [found, ← beq_iff_eq.mp same]

/-- A sweep at a time succeeded, and no heartbeat of the claim since. -/
def SweptAt (accepted : List Update) (token now : ℕ) : Prop :=
  ∃ before later, accepted = before ++ Update.sweep now :: later ∧
    ∀ update ∈ later, ∀ moment, update.heartbeat? ≠ some (token, moment)

/-- How the records of a store reflect the updates that succeeded. -/
structure Tracked (value : ClaimsState ρ) (accepted : List Update) : Prop where
  issued : ∀ update ∈ accepted, ∀ token now, update.heartbeat? = some (token, now) →
    token < value.nextToken
  beat : ∀ entry ∈ value.liveness,
    (lastHeartbeat accepted entry.token).getD entry.createdUnixSeconds = entry.heartbeatUnixSeconds
  swept : ∀ entry ∈ value.liveness, ∀ since,
    entry.takeoverEligibleSinceUnixSeconds = some since → SweptAt accepted entry.token since ∧
      entry.heartbeatUnixSeconds + entry.staleAfterSeconds ≤ since

/-- An applied update that succeeds is tracked. -/
theorem Tracked.step {after : ClaimsState ρ} (tracked : Tracked before accepted)
    (valid : before.Lively) (effect : Applied host before update after) :
    Tracked after (accepted ++ [update]) := by
  obtain ⟨coordinator, next, rebuilt, applied, nextToken, -, liveness, -⟩ := effect.work
  obtain ⟨moves, issues⟩ := valid.moves rebuilt applied
  obtain ⟨consistent, sameNext, -⟩ := coordinator_tokens rebuilt
  have later : before.nextToken ≤ after.nextToken := by
    rw [nextToken, ← sameNext]
    exact issues.later
  refine ⟨?_, ?_, ?_⟩
  · intro other member token now beats
    obtain old | new := mem_append.mp member
    · exact (tracked.issued other old token now beats).trans_le later
    · rw [mem_singleton.mp new] at beats
      have active := moves.beats token now beats
      refine lt_of_lt_of_le ?_ later
      rw [← sameNext]
      exact activeTokens_issued consistent active
  · intro entry member
    cases moves.source entry ((liveness entry).mp member).1 with
    | kept listed quiet =>
      rw [lastHeartbeat_quiet quiet]
      exact tracked.beat entry listed
    | opened token beat unmarked quiet =>
      have fresh : lastHeartbeat (accepted ++ [update]) entry.token = none := by
        rw [lastHeartbeat_quiet (by simp [quiet])]
        refine lastHeartbeat_none fun other listed now beats => ?_
        have below := tracked.issued other listed _ now beats
        have same : entry.token = before.nextToken := token.trans sameNext
        omega
      rw [fresh]
      exact beat.symm
    | beaten now beats beat unmarked =>
      rw [lastHeartbeat_beat beats]
      exact beat.symm
    | marked old now listed sweeps stale same =>
      rw [same, lastHeartbeat_quiet (by simp [sweeps, Update.heartbeat?])]
      exact tracked.beat old listed
  · intro entry member since marked
    cases moves.source entry ((liveness entry).mp member).1 with
    | kept listed quiet =>
      obtain ⟨⟨first, rest, split, silent⟩, stale⟩ := tracked.swept entry listed since marked
      refine ⟨⟨first, rest ++ [update], by simp [split], ?_⟩, stale⟩
      exact forall_mem_append.mpr ⟨silent, forall_mem_singleton.mpr quiet⟩
    | opened _ _ unmarked _ | beaten _ _ _ unmarked =>
      rw [unmarked] at marked
      cases marked
    | marked old now listed sweeps stale same =>
      subst same
      have since_eq : now = since := by simpa using marked
      subst since_eq
      exact ⟨⟨accepted, [], by rw [sweeps], by simp⟩, stale⟩

/-- A claim that was marked is gone, or its record still is. -/
structure StaysMarked (value : ClaimsState ρ) (token : ℕ) : Prop where
  issued : token < value.nextToken
  marked : token ∈ value.claims.map PathClaim.token → ∃ entry ∈ value.liveness,
    entry.token = token ∧ entry.takeoverEligibleSinceUnixSeconds ≠ none

/-- An applied update is no heartbeat of a marked claim, and leaves it marked. -/
theorem StaysMarked.step {after : ClaimsState ρ} (stays : StaysMarked before token)
    (valid : before.Lively) (effect : Applied host before update after) :
    StaysMarked after token ∧ ∀ now, update.heartbeat? ≠ some (token, now) := by
  obtain ⟨coordinator, next, rebuilt, applied, nextToken, claims, liveness, -⟩ := effect.work
  obtain ⟨moves, issues⟩ := valid.moves rebuilt applied
  obtain ⟨-, sameNext, tokens⟩ := coordinator_tokens rebuilt
  refine ⟨⟨?_, ?_⟩, ?_⟩
  · rw [nextToken]
    refine stays.issued.trans_le ?_
    rw [← sameNext]
    exact issues.later
  · intro active
    rw [claims] at active
    have earlier : token ∈ activeTokens coordinator := by
      obtain old | new := issues.active token active
      · exact old
      · have below := stays.issued
        omega
    obtain ⟨entry, listed, same, marked⟩ := stays.marked ((tokens token).mp earlier)
    refine ⟨entry, (liveness entry).mpr ⟨(moves.marks entry listed marked).1, ?_⟩, same, marked⟩
    rw [same]
    exact active
  · intro now beats
    obtain ⟨entry, listed, same, marked⟩ :=
      stays.marked ((tokens token).mp (moves.beats token now beats))
    rw [← same] at beats
    exact (moves.marks entry listed marked).2 now beats

/-! ## Runs of a store -/

/-- The first snapshot of a store: what was adopted from before, with no metadata. -/
def adopted (repository : ρ) (start : SyncSnapshot) : StoredSnapshot ρ where
  generation := 1
  token := 1
  value := {
    version := 1
    snapshotRevision := 1
    repository
    nextToken := start.nextToken
    claims := start.claims
    subordinateBindings := []
    runOwners := []
    liveness := []
    supersessions := []
    remoteOwners := [] }

/-- A store, and the updates that succeeded so far. -/
structure StoreRun (ρ : Type) where
  snapshot : StoredSnapshot ρ
  accepted : List Update

namespace StoreRun

variable [DecidableEq ρ] {repository : ρ}

/-- One update of the store. -/
def perform (host : Host) (repository : ρ) (run : StoreRun ρ) (update : Update) : StoreRun ρ :=
  let (snapshot, result) :=
    withLockedUpdate host.checksum repository run.snapshot (update.operation host)
  ⟨snapshot, if result.isOk then run.accepted ++ [update] else run.accepted⟩

/-- A store after a sequence of updates. -/
def after (host : Host) (repository : ρ) (start : SyncSnapshot) (updates : List Update) :
    StoreRun ρ :=
  updates.foldl (perform host repository) ⟨adopted repository start, []⟩

/-- An update leaves a run as it was, or is applied to a store that opens; a success is recorded,
and after a failure of the last check the store does not open. -/
inductive Performs (host : Host) (repository : ρ) (before : StoreRun ρ) (update : Update) :
    StoreRun ρ → Prop where
  | refused : Performs host repository before update before
  | applied (snapshot : StoredSnapshot ρ) (accepted : List Update)
      (opens : validateAuthenticatedStore host.checksum repository before.snapshot = .ok ())
      (effect : Applied host before.snapshot.value update snapshot.value)
      (outcome : accepted = before.accepted ++ [update] ∨ (accepted = before.accepted ∧
        validateAuthenticatedStore host.checksum repository snapshot ≠ .ok ())) :
      Performs host repository before update ⟨snapshot, accepted⟩

/-- An update that commits was applied to a store that opens. -/
theorem commitUpdate_applied {snapshot committed : StoredSnapshot ρ} {output : Unit}
    (committing : commitUpdate host.checksum repository snapshot (update.operation host) =
      .ok (output, committed)) :
    validateAuthenticatedStore host.checksum repository snapshot = .ok () ∧
      Applied host snapshot.value update committed.value := by
  obtain ⟨opens, coordinator, next, settled, rebuilt, applied, settledOk, outcome⟩ :=
    commitUpdate_ok committing
  obtain ⟨left, performed, same⟩ := map_ok.mp applied
  obtain rfl : left = next := congrArg Prod.snd same
  have facts := settleUpdate_ok settledOk
  obtain ⟨liveness, supersessions⟩ := settleUpdate_metadata settledOk
  have effect : Applied host snapshot.value update settled :=
    ⟨⟨coordinator, left, rebuilt, performed, facts.nextToken, facts.claims, liveness,
      supersessions⟩, facts.livenessValid⟩
  refine ⟨opens, ?_⟩
  rcases outcome with ⟨rfl, rfl⟩ | rfl
  · exact effect
  · exact ⟨effect.work, effect.valid⟩

/-- An update that succeeds commits. -/
theorem withLockedUpdate_committed
    {snapshot committed : StoredSnapshot ρ} {operation : Working → Except String (α × Working)}
    {result : α}
    (succeeded : withLockedUpdate checksum repository snapshot operation =
      (committed, .ok result)) :
    ∃ output, commitUpdate checksum repository snapshot operation = .ok (output, committed) := by
  unfold withLockedUpdate at succeeded
  split at succeeded
  case h_1 => cases succeeded
  case h_2 output left committing =>
    rw [Prod.mk.injEq] at succeeded
    exact ⟨output, succeeded.1 ▸ committing⟩

/-- Every update performs one of these steps. -/
theorem perform_performs (host : Host) (repository : ρ) (run : StoreRun ρ) (update : Update) :
    Performs host repository run update (run.perform host repository update) := by
  unfold perform withLockedUpdate
  cases committing : commitUpdate host.checksum repository run.snapshot (update.operation host) with
  | error refusal => exact .refused
  | ok result =>
    obtain ⟨output, committed⟩ := result
    obtain ⟨opens, effect⟩ := commitUpdate_applied committing
    refine .applied committed _ opens effect ?_
    cases reopened : validateAuthenticatedStore host.checksum repository committed with
    | ok done => exact .inl rfl
    | error refusal => exact .inr ⟨rfl, by simp⟩

variable (start : SyncSnapshot)

/-- A longer run performs one more update. -/
theorem after_append (updates : List Update) (update : Update) :
    after host repository start (updates ++ [update]) =
      (after host repository start updates).perform host repository update := by
  simp [after]

/-- What every applied update keeps from some point of a run on holds at every later point. -/
theorem after_rec {motive : StoreRun ρ → Prop} (updates : List Update)
    (first : motive (after host repository start updates))
    (step : ∀ {before : StoreRun ρ} {update snapshot accepted}, motive before →
      validateAuthenticatedStore host.checksum repository before.snapshot = .ok () →
      before.snapshot.value.Lively →
      Applied host before.snapshot.value update snapshot.value →
      (accepted = before.accepted ++ [update] ∨ (accepted = before.accepted ∧
        validateAuthenticatedStore host.checksum repository snapshot ≠ .ok ())) →
      motive ⟨snapshot, accepted⟩) (later : List Update) :
    motive (after host repository start (updates ++ later)) := by
  induction later using List.reverseRecOn with
  | nil => simpa using first
  | append_singleton later update ih =>
    have performs :=
      perform_performs host repository (after host repository start (updates ++ later)) update
    rw [← append_assoc, after_append]
    generalize StoreRun.perform host repository _ update = next at performs ⊢
    cases performs with
    | refused => exact ih
    | applied snapshot accepted opens effect outcome =>
      exact step ih opens
        (validateClaimLiveness_valid (validateAuthenticatedStore_ok.mp opens).2.2.2.2)
        effect outcome

/-- Every committed state passes the liveness validator. -/
theorem after_valid (host : Host) (repository : ρ) (start : SyncSnapshot) (updates : List Update) :
    let value := (after host repository start updates).snapshot.value
    validateClaimLiveness host.checksum value.nextToken value.claims value.liveness
      value.supersessions = .ok () :=
  after_rec (motive := fun run => validateClaimLiveness host.checksum
      run.snapshot.value.nextToken run.snapshot.value.claims run.snapshot.value.liveness
      run.snapshot.value.supersessions = .ok ())
    start [] rfl (fun _ _ _ effect _ => effect.valid) updates

/-- What every committed state guarantees of its records. -/
theorem after_livenessValid (host : Host) (repository : ρ) (start : SyncSnapshot)
    (updates : List Update) : (after host repository start updates).snapshot.value.Lively :=
  validateClaimLiveness_valid (after_valid host repository start updates)

/-- While a store opens, its records reflect the updates that succeeded. -/
theorem after_tracked (updates : List Update)
    (opens : validateAuthenticatedStore host.checksum repository
      (after host repository start updates).snapshot = .ok ()) :
    Tracked (after host repository start updates).snapshot.value
      (after host repository start updates).accepted := by
  revert opens
  refine after_rec (motive := fun run => validateAuthenticatedStore host.checksum repository
    run.snapshot = .ok () → Tracked run.snapshot.value run.accepted) start [] ?_ ?_ updates
  · exact fun _ => ⟨by simp [after], by simp [after, adopted], by simp [after, adopted]⟩
  · intro before update snapshot accepted tracked opened valid effect outcome opens
    obtain rfl | ⟨-, closed⟩ := outcome
    · exact (tracked opened).step valid effect
    · exact absurd opens closed

/-- After a claim was marked, no heartbeat of it succeeds. -/
theorem after_staysMarked {updates : List Update}
    (stays : StaysMarked (after host repository start updates).snapshot.value token)
    (later : List Update) :
    StaysMarked (after host repository start (updates ++ later)).snapshot.value token ∧
      ∃ more, (after host repository start (updates ++ later)).accepted =
        (after host repository start updates).accepted ++ more ∧
          ∀ update ∈ more, ∀ now, update.heartbeat? ≠ some (token, now) := by
  refine after_rec (motive := fun run => StaysMarked run.snapshot.value token ∧ ∃ more,
    run.accepted = (after host repository start updates).accepted ++ more ∧
      ∀ update ∈ more, ∀ now, update.heartbeat? ≠ some (token, now)) start updates
    ⟨stays, [], by simp, by simp⟩ ?_ later
  rintro before update snapshot accepted ⟨still, more, split, quiet⟩ - valid effect outcome
  obtain ⟨kept, silent⟩ := still.step valid effect
  refine ⟨kept, ?_⟩
  obtain rfl | ⟨rfl, -⟩ := outcome
  · refine ⟨more ++ [update], by simp [split], ?_⟩
    exact forall_mem_append.mpr ⟨quiet, forall_mem_singleton.mpr silent⟩
  · exact ⟨more, split, quiet⟩

/-- A store that does not open takes no update any more. -/
theorem after_closed (closed : validateAuthenticatedStore host.checksum repository
      (after host repository start updates).snapshot ≠ .ok ()) (later : List Update) :
    after host repository start (updates ++ later) = after host repository start updates := by
  refine after_rec (motive := fun run => run = after host repository start updates) start updates
    rfl ?_ later
  rintro _ _ _ _ rfl opens
  exact absurd opens closed

/-- A supersession stays recorded. -/
theorem after_supersessions (updates later : List Update) {entry : ClaimSupersession}
    (member : entry ∈ (after host repository start updates).snapshot.value.supersessions) :
    entry ∈ (after host repository start (updates ++ later)).snapshot.value.supersessions := by
  refine after_rec (motive := fun run => entry ∈ run.snapshot.value.supersessions) start updates
    member ?_ later
  intro before update snapshot accepted listed _ valid effect outcome
  obtain ⟨coordinator, left, rebuilt, applied, -, -, -, supersessions⟩ := effect.work
  obtain ⟨moves, -⟩ := valid.moves rebuilt applied
  exact (supersessions entry).mpr (moves.supersedes entry listed)

/-- Tokens are never given out twice: a claim that is active later in a run was active before, or
its token has been issued since. -/
theorem after_tokens_fresh (host : Host) (repository : ρ) (start : SyncSnapshot)
    (updates later : List Update) :
    let before := (after host repository start updates).snapshot.value
    let value := (after host repository start (updates ++ later)).snapshot.value
    before.nextToken ≤ value.nextToken ∧ ∀ token ∈ value.claims.map PathClaim.token,
      token ∈ before.claims.map PathClaim.token ∨ before.nextToken ≤ token := by
  intro before value
  refine after_rec (motive := fun run => before.nextToken ≤ run.snapshot.value.nextToken ∧
      ∀ token ∈ run.snapshot.value.claims.map PathClaim.token,
        token ∈ before.claims.map PathClaim.token ∨ before.nextToken ≤ token)
    start updates ⟨le_refl _, fun _ => .inl⟩ ?_ later
  rintro run update snapshot accepted ⟨grown, old⟩ - valid effect -
  obtain ⟨coordinator, left, rebuilt, applied, next, claims, -⟩ := effect.work
  obtain ⟨-, same, tokens⟩ := coordinator_tokens rebuilt
  obtain ⟨-, issues⟩ := valid.moves rebuilt applied
  rw [← same] at grown
  refine ⟨next ▸ grown.trans issues.later, fun token active => ?_⟩
  rw [claims] at active
  obtain kept | rfl := issues.active token active
  · exact old token ((tokens token).mp kept)
  · exact .inr grown

/-- For every sequence of updates of a store, at any observed times: every committed state passes
the liveness validator; chains of supersessions go forward in tokens and in time and are no longer
than the depth bound; a claim is superseded at most once and not active afterwards; when a sweep
computes the ages, no heartbeat is later than its time; after a claim was marked no heartbeat of it
succeeds; and a takeover succeeds only on a claim, not superseded before, that an earlier sweep
found stale since its last heartbeat, and gives its paths to a successor with a larger token. -/
theorem claim_staleness_laws (host : Host) (repository : ρ) (start : SyncSnapshot)
    (updates : List Update) :
    let run := after host repository start updates
    let value := run.snapshot.value
    validateClaimLiveness host.checksum value.nextToken value.claims value.liveness
        value.supersessions = .ok () ∧
      (∀ chain, Lineage value.supersessions chain → chain.length ≤ maxSupersessionLineageDepth ∧
        chain.Pairwise fun entry earlier => earlier.successorToken < entry.successorToken ∧
          earlier.supersededAtUnixSeconds ≤ entry.supersededAtUnixSeconds) ∧
      (∀ entry ∈ value.supersessions,
        (∀ other ∈ value.supersessions, other.priorToken = entry.priorToken → other = entry) ∧
          ∀ later : List Update,
            let final := (after host repository start (updates ++ later)).snapshot.value
            entry ∈ final.supersessions ∧ entry.priorToken ∉ final.claims.map PathClaim.token) ∧
      (∀ coordinator now, coordinatorFromAuthenticated value = .ok coordinator →
        ensureUnambiguousLiveness (allClaims coordinator) value.liveness value.supersessions now =
          .ok () → ∀ entry ∈ value.liveness, entry.heartbeatUnixSeconds ≤ now) ∧
      (∀ entry ∈ value.liveness, entry.takeoverEligibleSinceUnixSeconds ≠ none →
        ∀ later : List Update, ∃ more, (after host repository start (updates ++ later)).accepted =
          run.accepted ++ more ∧
            ∀ update ∈ more, ∀ now, update.heartbeat? ≠ some (entry.token, now)) ∧
      ∀ priorToken agentId timing now remoteSuccessor committed,
        withLockedUpdate host.checksum repository run.snapshot ((Update.takeover priorToken agentId
          timing now remoteSuccessor).operation host) = (committed, .ok ()) →
        (∃ entry ∈ value.liveness, entry.token = priorToken ∧
          (lastHeartbeat run.accepted priorToken).getD entry.createdUnixSeconds =
            entry.heartbeatUnixSeconds ∧
          ∃ since, SweptAt run.accepted priorToken since ∧
            entry.heartbeatUnixSeconds + entry.staleAfterSeconds ≤ since) ∧
        (∀ entry ∈ value.supersessions, entry.priorToken ≠ priorToken) ∧
        ∃ coordinator, coordinatorFromAuthenticated value = .ok coordinator ∧
          ∃ prior ∈ allClaims coordinator, ∃ successor ∈ committed.value.claims,
            prior.token = priorToken ∧ priorToken < successor.token ∧
              successor.paths = prior.paths ∧
                ∃ record ∈ committed.value.supersessions, record.priorToken = priorToken ∧
                  record.successorToken = successor.token := by
  intro run value
  have valid : value.Lively := after_livenessValid host repository start updates
  refine ⟨after_valid host repository start updates, fun chain lineage => valid.lineage lineage, ?_,
    ?_, ?_, ?_⟩
  · intro entry member
    refine ⟨?_, ?_⟩
    · intro other listed same
      exact inj_on_of_nodup_map valid.priors listed member same
    · intro later
      have kept := after_supersessions start updates later member
      have final := after_livenessValid host repository start (updates ++ later)
      exact ⟨kept, (final.records entry kept).inactive⟩
  · intro coordinator now rebuilt unambiguous entry member
    obtain ⟨-, -, tokens⟩ := coordinator_tokens rebuilt
    exact heartbeat_le_of_unambiguous valid.distinct
      (fun entry member => (tokens _).mpr (valid.active entry member)) unambiguous member
  · intro entry member marked later
    by_cases opens : validateAuthenticatedStore host.checksum repository run.snapshot = .ok ()
    · have stays : StaysMarked value entry.token := by
        obtain ⟨-, ⟨coordinator, rebuilt⟩, -⟩ := validateAuthenticatedStore_ok.mp opens
        obtain ⟨consistent, sameNext, tokens⟩ := coordinator_tokens rebuilt
        refine ⟨?_, fun _ => ⟨entry, member, rfl, marked⟩⟩
        have issued := activeTokens_issued consistent
          ((tokens _).mpr (valid.active entry member))
        rw [sameNext] at issued
        exact issued
      exact (after_staysMarked start stays later).2
    · refine ⟨[], ?_, by simp⟩
      rw [after_closed start opens later, append_nil]
  · intro priorToken agentId timing now remoteSuccessor committed succeeded
    obtain ⟨output, committing⟩ := withLockedUpdate_committed succeeded
    obtain ⟨opens, effect⟩ := commitUpdate_applied committing
    have tracked := after_tracked start updates opens
    obtain ⟨coordinator, next, rebuilt, applied, -, claims, -, supersessions⟩ := effect.work
    obtain ⟨consistent, -, tokens⟩ := coordinator_tokens rebuilt
    obtain ⟨⟨outcome, left⟩, accepted, rfl⟩ := map_ok.mp applied
    obtain ⟨-, -, takes⟩ := takeover_moves consistent accepted
    obtain ⟨entry, listed, entryToken, marked⟩ := takes.marked
    obtain ⟨prior, priorListed, successor, successorListed, priorSame, successorSame, paths, record,
      recorded, recordPrior, recordSuccessor⟩ := takes.transfers
    have active : priorToken ∈ activeTokens coordinator :=
      priorSame ▸ mem_map_of_mem priorListed
    refine ⟨?_, ?_, ?_⟩
    · obtain ⟨since, eligible⟩ := Option.ne_none_iff_exists'.mp marked
      obtain ⟨swept, stale⟩ := tracked.swept entry listed since eligible
      rw [entryToken] at swept
      refine ⟨entry, listed, entryToken, ?_, since, swept, stale⟩
      rw [← entryToken]
      exact tracked.beat entry listed
    · intro other member same
      refine (valid.records other member).inactive ?_
      rw [same]
      exact (tokens priorToken).mp active
    · refine ⟨coordinator, rebuilt, prior, priorListed, successor, claims ▸ successorListed,
        priorSame, ?_, paths, record, (supersessions record).mpr recorded, recordPrior,
        recordSuccessor⟩
      rw [successorSame]
      exact activeTokens_issued consistent active

/-- A claim that gets no heartbeat for a day is swept and taken over. -/
def sampleUpdates : List Update :=
  [.claim "first" [[.normal "src"]] ClaimTiming.default 0 none, .sweep 90000]

theorem claim_staleness_laws_sample :
    ∃ committed, withLockedUpdate quietHost.checksum ()
        (after quietHost () ⟨1, []⟩ sampleUpdates).snapshot
        ((Update.takeover 1 "second" none 90001 none).operation quietHost) = (committed, .ok ()) ∧
      ∃ since, SweptAt (after quietHost () ⟨1, []⟩ sampleUpdates).accepted 1 since := by
  have laws := claim_staleness_laws quietHost () ⟨1, []⟩ sampleUpdates
  have result : (withLockedUpdate quietHost.checksum ()
      (after quietHost () ⟨1, []⟩ sampleUpdates).snapshot
      ((Update.takeover 1 "second" none 90001 none).operation quietHost)).2.toOption.map id =
        some () := by decide +kernel
  obtain ⟨_, succeeded, -⟩ := ok_of_toOption result
  obtain ⟨⟨_, -, -, -, since, swept, -⟩, -⟩ :=
    laws.2.2.2.2.2 1 "second" none 90001 none _ (Prod.ext rfl succeeded)
  exact ⟨_, Prod.ext rfl succeeded, since, swept⟩

end StoreRun

end Maco.SyncStore
