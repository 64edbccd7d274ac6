import Maco.SyncStore.Liveness

/-!
# What the liveness validator guarantees

The facts a stored state has once `validate_claim_liveness` accepts it: one liveness record for an
active claim, a claim superseded at most once and inactive since, and chains of supersessions that
run forward in tokens and time and are no longer than the depth bound.
-/

namespace Maco.SyncStore

open Maco.Base Maco.Sync Maco.Publication List
open ClaimSupersession (priorToken successorToken)

/-- Claims with different tokens have different ids. -/
theorem canonicalClaimId_inj
    (same : canonicalClaimId left = canonicalClaimId right) : left = right := by
  have texts := congrArg String.toList same
  simp only [canonicalClaimId, String.toList_append, append_cancel_left_eq] at texts
  have values := congrArg (fun text => Nat.ofDigitChars 10 text 0) texts
  simpa only [zeroPadded_value] using values

/-- What the validator guarantees of one supersession. -/
structure SupersessionValid (nextToken : ℕ) (claims : List PathClaim) (entry : ClaimSupersession) :
    Prop where
  forward : entry.priorToken < entry.successorToken
  issued : entry.successorToken < nextToken
  inactive : entry.priorToken ∉ claims.map PathClaim.token
  prior : entry.priorClaimId = canonicalClaimId entry.priorToken
  successor : entry.successorClaimId = canonicalClaimId entry.successorToken

/-- What the validator guarantees of the liveness records and the supersessions. -/
structure LivenessValid (nextToken : ℕ) (claims : List PathClaim) (liveness : List ClaimLiveness)
    (supersessions : List ClaimSupersession) : Prop where
  distinct : (liveness.map ClaimLiveness.token).Nodup
  active : ∀ entry ∈ liveness, entry.token ∈ claims.map PathClaim.token
  canonical : ∀ entry ∈ liveness, entry.claimId = canonicalClaimId entry.token
  records : ∀ entry ∈ supersessions, SupersessionValid nextToken claims entry
  priors : (supersessions.map priorToken).Nodup
  successors : (supersessions.map successorToken).Nodup
  later : ∀ entry ∈ supersessions, ∀ previous ∈ supersessions,
    previous.successorToken = entry.priorToken →
      previous.supersededAtUnixSeconds ≤ entry.supersededAtUnixSeconds
  depth : ∀ entry ∈ supersessions, ∃ depth,
    supersessionLineageDepth entry.successorClaimId supersessions = .ok depth

/-- What the pass over the liveness records has checked. -/
structure EntriesChecked (claims : List PathClaim) (read : List ClaimLiveness)
    (activeLiveness : BTreeMap ℕ ClaimLiveness) : Prop where
  distinct : (read.map ClaimLiveness.token).Nodup
  active : ∀ entry ∈ read, entry.token ∈ claims.map PathClaim.token
  canonical : ∀ entry ∈ read, entry.claimId = canonicalClaimId entry.token
  recorded : ∀ token : ℕ, activeLiveness.contains token = true ↔
    token ∈ read.map ClaimLiveness.token

variable {claims : List PathClaim}

/-- A token is a key of the active claims exactly when some claim has it. -/
theorem contains_ofClaims :
    (BTreeMap.ofList (claims.map fun claim => (claim.token, claim))).contains token = true ↔
      token ∈ claims.map PathClaim.token := by
  rw [BTreeMap.ofList, Std.ExtTreeMap.contains_ofList, map_map, contains_iff_mem]
  rfl

variable {liveness : List ClaimLiveness}

/-- The pass over the liveness records. -/
theorem checkLivenessEntries_ok (checked : liveness.foldlM
      (checkLivenessEntry (BTreeMap.ofList (claims.map fun claim => (claim.token, claim)))) ∅ =
        .ok activeLiveness) : EntriesChecked claims liveness activeLiveness := by
  refine foldlM_invariant (EntriesChecked claims) ?_ ⟨by simp, by simp, by simp, by simp⟩ checked
  intro read entry sofar next earlier stepped
  simp only [checkLivenessEntry, ok_iff, not_not, Bool.not_eq_false] at stepped
  obtain ⟨active, fresh, _, -, canonical, _, -, -, _, -, _, -, rfl⟩ := stepped
  rw [contains_ofClaims] at active
  rw [earlier.recorded] at fresh
  refine ⟨nodup_map_concat earlier.distinct fresh, forall_mem_concat earlier.active active,
    forall_mem_concat earlier.canonical canonical, fun token => ?_⟩
  rw [map_append, map_singleton, mem_append, mem_singleton,
    ← earlier.recorded, BTreeMap.contains_insert, or_comm, @eq_comm ℕ token]

/-- What the pass over the supersessions has checked. -/
structure RecordsChecked (nextToken : ℕ) (claims : List PathClaim) (read : List ClaimSupersession)
    (maps : SupersessionMaps) : Prop where
  records : ∀ entry ∈ read, SupersessionValid nextToken claims entry
  priors : (read.map priorToken).Nodup
  successors : (read.map successorToken).Nodup
  byPrior : ∀ token : ℕ, maps.byPrior.contains token = true ↔
    token ∈ read.map priorToken
  bySuccessor : ∀ (token : ℕ) entry, maps.bySuccessor[token]? = some entry ↔
    entry ∈ read ∧ entry.successorToken = token

variable {nextToken : ℕ} {supersessions : List ClaimSupersession}

/-- The pass over the supersessions. -/
theorem checkSupersessions_ok (checked : supersessions.foldlM (checkSupersession nextToken
      (BTreeMap.ofList (claims.map fun claim => (claim.token, claim)))) ⟨∅, ∅⟩ = .ok maps) :
    RecordsChecked nextToken claims supersessions maps := by
  refine foldlM_invariant (RecordsChecked nextToken claims) ?_ ⟨by simp, by simp, by simp, by simp,
    by simp⟩ checked
  intro read entry sofar next earlier stepped
  simp only [checkSupersession, ok_iff, not_or, not_not, not_le, Bool.not_eq_true] at stepped
  obtain ⟨-, forward, ⟨-, issued⟩, inactive, _, -, _, -, ⟨prior, successor⟩, _, -, _, -, -, -, once,
    single, rfl⟩ := stepped
  rw [← Bool.not_eq_true, contains_ofClaims] at inactive
  rw [← Bool.not_eq_true, earlier.byPrior] at once
  rw [BTreeMap.not_contains_iff] at single
  have fresh : entry.successorToken ∉ read.map successorToken := by
    intro listed
    obtain ⟨other, member, same⟩ := mem_map.mp listed
    have found := (earlier.bySuccessor _ other).mpr ⟨member, same⟩
    rw [single] at found
    cases found
  refine ⟨forall_mem_concat earlier.records ⟨forward, issued, inactive, prior, successor⟩,
    nodup_map_concat earlier.priors once, nodup_map_concat earlier.successors fresh,
    fun token => ?_, BTreeMap.get_insert_concat earlier.bySuccessor single⟩
  rw [map_append, map_singleton, mem_append, mem_singleton,
    ← earlier.byPrior, BTreeMap.contains_insert, or_comm, @eq_comm ℕ token]

/-- What acceptance by the validator guarantees. -/
theorem validateClaimLiveness_valid {checksum : List Path → Except String String}
    (accepted : validateClaimLiveness checksum nextToken claims liveness supersessions = .ok done) :
    LivenessValid nextToken claims liveness supersessions := by
  simp only [validateClaimLiveness, ok_iff, forM_ok] at accepted
  obtain ⟨-, -, activeLiveness, first, maps, second, third, -⟩ := accepted
  have entries := checkLivenessEntries_ok first
  have records := checkSupersessions_ok second
  refine ⟨entries.distinct, entries.active, entries.canonical, records.records, records.priors,
    records.successors, ?_, ?_⟩
  · intro entry member previous listed linked
    have checked := third entry member
    rw [checkLineage, (records.bySuccessor _ previous).mpr ⟨listed, linked⟩] at checked
    simp only [checkContinuation, ok_iff, not_lt] at checked
    exact checked.1.1
  · intro entry member
    have checked := third entry member
    simp only [checkLineage, bind_ok] at checked
    obtain ⟨_, -, depth, walked, -⟩ := checked
    exact ⟨depth, walked⟩

/-! ## Chains of supersessions -/

/-- A chain of supersessions, the latest first: each superseded the successor of the next. -/
structure Lineage (supersessions chain : List ClaimSupersession) : Prop where
  listed : ∀ entry ∈ chain, entry ∈ supersessions
  linked : chain.IsChain fun entry previous => previous.successorToken = entry.priorToken

/-- The walk back along a chain spends one unit of its budget for each link. -/
theorem lineageWalk_length {bySuccessor : BTreeMap String ClaimSupersession}
    {chain : List ClaimSupersession}
    (found : ∀ entry ∈ chain, bySuccessor[entry.successorClaimId]? = some entry)
    (linked : chain.IsChain fun entry previous => previous.successorClaimId = entry.priorClaimId)
    {budget depth total : ℕ} {seen : BTreeSet String} {current : String}
    (starts : ∀ first ∈ chain.head?, first.successorClaimId = current)
    (walked : lineageWalk bySuccessor budget seen current depth = .ok total) :
    chain.length ≤ budget := by
  induction chain generalizing budget seen current depth with
  | nil => exact Nat.zero_le _
  | cons entry rest ih =>
    have present := found entry mem_cons_self
    rw [starts entry rfl] at present
    unfold lineageWalk at walked
    rw [present] at walked
    split at walked
    case h_1 => contradiction
    case h_2 looked =>
      split at walked
      case isTrue => cases walked
      case isFalse =>
        cases budget with
        | zero => cases walked
        | succ budget =>
          have same := Option.some.inj looked
          subst same
          have shorter : rest.length ≤ budget := by
            refine ih (fun other member => found other (mem_cons_of_mem _ member))
              (isChain_cons.mp linked).2 ?_ walked
            exact (isChain_cons.mp linked).1
          rw [length_cons]
          omega

/-- The supersessions of an accepted state are found by the ids of their successors. -/
theorem LivenessValid.found (valid : LivenessValid nextToken claims liveness supersessions)
    (member : entry ∈ supersessions) :
    (BTreeMap.ofList (supersessions.map fun entry =>
      (entry.successorClaimId, entry)))[entry.successorClaimId]? = some entry := by
  have distinct : ((supersessions.map fun entry => (entry.successorClaimId, entry)).map
      Prod.fst).Nodup := by
    rw [map_map]
    refine (nodup_map_iff_inj_on valid.successors.of_map).mpr ?_
    intro left leftListed right rightListed same
    dsimp only [Function.comp_apply] at same
    rw [(valid.records left leftListed).successor, (valid.records right rightListed).successor]
      at same
    exact inj_on_of_nodup_map valid.successors leftListed rightListed
      (canonicalClaimId_inj same)
  rw [BTreeMap.get_ofList distinct]
  exact mem_map_of_mem member

/-- In an accepted state a chain of supersessions goes back in tokens and in time, and is no longer
than the depth bound. -/
theorem LivenessValid.lineage
    (valid : LivenessValid nextToken claims liveness supersessions) {chain : List ClaimSupersession}
    (lineage : Lineage supersessions chain) :
    chain.length ≤ maxSupersessionLineageDepth ∧
      (chain.Pairwise fun entry earlier => earlier.successorToken < entry.successorToken ∧
        earlier.supersededAtUnixSeconds ≤ entry.supersededAtUnixSeconds) := by
  refine ⟨?_, ?_⟩
  · cases chain with
    | nil => exact Nat.zero_le _
    | cons first rest =>
      obtain ⟨depth, walked⟩ := valid.depth first (lineage.listed first mem_cons_self)
      refine lineageWalk_length (fun entry member => valid.found (lineage.listed entry member)) ?_
        ?_ walked
      · refine lineage.linked.imp_of_mem_imp ?_
        intro entry previous member listed linked
        rw [(valid.records previous (lineage.listed previous listed)).successor,
          (valid.records entry (lineage.listed entry member)).prior, linked]
      · rintro other ⟨⟩
        rfl
  · have stepped : chain.IsChain fun entry earlier =>
        earlier.successorToken < entry.successorToken ∧
          earlier.supersededAtUnixSeconds ≤ entry.supersededAtUnixSeconds := by
      refine lineage.linked.imp_of_mem_imp ?_
      intro entry previous member listed linked
      refine ⟨?_, valid.later entry (lineage.listed entry member) previous
        (lineage.listed previous listed) linked⟩
      rw [linked]
      exact (valid.records entry (lineage.listed entry member)).forward
    have transitive : IsTrans ClaimSupersession fun entry earlier =>
        earlier.successorToken < entry.successorToken ∧
          earlier.supersededAtUnixSeconds ≤ entry.supersededAtUnixSeconds :=
      ⟨fun _ _ _ first second => ⟨second.1.trans first.1, second.2.trans first.2⟩⟩
    exact stepped.pairwise

end Maco.SyncStore
