import Maco.Forge.ClaimReducer

/-!
# What a record can do to the claims

A heartbeat or a release changes one active claim. An activation begins one claim that is not there
yet, and an accepted one may end its predecessor. Every second of the reduction is a run of such
steps, so what the steps keep holds of every reduction.
-/

namespace Maco.Forge

open Maco.Base Maco.Base.BTreeMap Maco.Publication List

/-- A heartbeat or a release. -/
inductive Mutates (claims : Claims) : Claims → Prop where
  | heard {claimId : String} {claim : ForgeClaimState} (provenance : RecordProvenance)
      (present : claims[claimId]? = some claim) (active : claim.status = .active) :
      Mutates claims (claims.insert claimId { claim with lastHeartbeat := provenance })
  | released {claimId : String} {claim : ForgeClaimState} (provenance : RecordProvenance)
      (present : claims[claimId]? = some claim) (active : claim.status = .active) :
      Mutates claims (claims.insert claimId
        { claim with status := .released, terminal := some provenance })

/-- The activation that wins a claim, and the claim's definition. -/
structure Winner (model : ClaimModel) (claimId : String) (definition : ClaimDefinition)
    (observed : ObservedRecord) : Prop where
  defined : model.definitions[claimId]? = some definition
  activated : model.activations[toLex (claimId, definition.winningNonce)]? = some observed

variable {claimId : String} {observed : ObservedRecord}

variable {model : ClaimModel}

/-- One activation wins a claim. -/
theorem Winner.unique {definition other : ClaimDefinition}
    (winner : Winner model claimId definition observed)
    (known : Winner model claimId other activation) : observed = activation := by
  have defined := known.defined
  rw [winner.defined, Option.some.injEq] at defined
  have activated := known.activated
  rwa [← defined, winner.activated, Option.some.injEq] at activated

/-- Every active claim is clear of the scopes. -/
def Free (claims : Claims) (scopes : List String) : Prop :=
  ∀ (id : String) claim, claims[id]? = some claim → claim.status = .active →
    scopesOverlap claim.scopes scopes = false

/-- At a time, the claim's owner was last heard at least the claim's threshold ago. -/
def ForgeClaimState.StaleBy (claim : ForgeClaimState) (time : ForgeTimestamp) : Prop :=
  ∃ heard now, timestampSeconds claim.lastHeartbeat.createdAt = .ok heard ∧
    timestampSeconds time = .ok now ∧ heard + claim.staleAfterSeconds ≤ now

section

variable (claims : Claims) (claimId : String) (definition : ClaimDefinition)
  (observed : ObservedRecord)

/-- A claim begins: refused, without a predecessor, after one that was released, or by taking over
a stale one. -/
inductive Begins : Claims → Prop where
  | refused {status : ClaimStatus} (conflict : Option String)
      (refusal : status.accepted = false) :
      Begins (claims.insert claimId (definition.begin claimId observed status conflict))
  | opened (alone : definition.supersedes = none) (free : Free claims definition.scopes) :
      Begins (claims.insert claimId (definition.begin claimId observed .active none))
  | succeeded {predecessorId : String} {predecessor : ForgeClaimState}
      (named : definition.supersedes = some predecessorId)
      (present : claims[predecessorId]? = some predecessor)
      (unsucceeded : predecessor.supersededBy = none) (ended : predecessor.status = .released)
      (free : Free claims definition.scopes) :
      Begins ((claims.insert predecessorId (predecessor.succeededBy false claimId observed)).insert
          claimId (definition.begin claimId observed .active none))
  | tookOver {predecessorId : String} {predecessor : ForgeClaimState}
      (named : definition.supersedes = some predecessorId)
      (present : claims[predecessorId]? = some predecessor)
      (sameScopes : predecessor.scopes = definition.scopes)
      (unsucceeded : predecessor.supersededBy = none) (active : predecessor.status = .active)
      (stale : predecessor.StaleBy observed.provenance.createdAt) :
      Begins ((claims.insert predecessorId (predecessor.succeededBy true claimId observed)).insert
          claimId (definition.begin claimId observed .active none))

end

/-- One step of the reduction; only a claim that is not there yet begins. -/
inductive ClaimStep (model : ClaimModel) (claims next : Claims) : Prop where
  | mutates (mutation : Mutates claims next)
  | begins {claimId : String} {definition : ClaimDefinition} {observed : ObservedRecord}
      (winner : Winner model claimId definition observed) (fresh : claims[claimId]? = none)
      (beginning : Begins claims claimId definition observed next)

/-! ## The code takes these steps -/

variable {state : SecondState} {claim : ForgeClaimState}

/-- A mutation of the claim it names. -/
theorem SecondState.mutate_claims (present : state.claims[claimId]? = some claim) :
    (state.mutate observed claim claimId release).claims = state.claims ∨
      Mutates state.claims (state.mutate observed claim claimId release).claims := by
  unfold mutate
  by_cases active : claim.status = .active
  · rw [if_neg (not_not.mpr active)]
    cases release with
    | true => exact .inr (.released observed.provenance present active)
    | false => exact .inr (.heard observed.provenance present active)
  · rw [if_pos active]
    exact .inl rfl

/-- A heartbeat or a release leaves the claims alone or mutates one. -/
theorem applyReference_claims {next : SecondState}
    (applied : applyReference model state observed = .ok next) :
    next.claims = state.claims ∨ Mutates state.claims next.claims := by
  have winner {reference : ClaimReference} {release : Bool}
      (applied : applyMutation model state observed reference release = .ok next) :
      next.claims = state.claims ∨ Mutates state.claims next.claims := by
    rw [applyMutation, bind_ok] at applied
    obtain ⟨definition, -, applied⟩ := applied
    split at applied
    · simp only [mutateWinner, ok_iff] at applied
      obtain ⟨activation, -, -, claim, present, -, rfl⟩ := applied
      exact SecondState.mutate_claims present
    · rw [pure_ok] at applied
      exact .inl (applied ▸ rfl)
  unfold applyReference at applied
  split at applied
  · exact winner applied
  · exact winner applied
  all_goals
    rw [pure_ok] at applied
    exact .inl (applied ▸ rfl)

variable {claims : Claims}

variable {scopes : List String}

/-- There is no conflict exactly when every other active claim is clear of the scopes. -/
theorem activeConflict_eq_none (keyed : ∀ (id : String) claim, claims[id]? = some claim →
      claim.claimId = id)
    (fresh : claims[claimId]? = none) (clear : activeConflict claims scopes (some claimId) = none) :
    Free claims scopes := by
  intro id claim present active
  simp only [activeConflict, Option.map_eq_none_iff, find?_eq_none, mem_filter,
    mem_values, bne_iff_ne, beq_iff_eq, Bool.not_eq_true, and_imp,
    forall_exists_index] at clear
  refine clear claim id present active fun same => ?_
  rw [Option.some.injEq, keyed id claim present] at same
  rw [same, present] at fresh
  cases fresh

variable {id : String}

/-- A conflict is the id of an active claim. -/
theorem activeConflict_active (keyed : ∀ (id : String) claim, claims[id]? = some claim →
      claim.claimId = id) (conflict : activeConflict claims scopes except = some id) :
    ∃ claim, claims[id]? = some claim ∧ claim.status = .active := by
  rw [activeConflict, Option.map_eq_some_iff] at conflict
  obtain ⟨claim, found, rfl⟩ := conflict
  have member := mem_of_find?_eq_some found
  simp only [mem_filter, mem_values, beq_iff_eq] at member
  obtain ⟨⟨⟨id, present⟩, active⟩, -⟩ := member
  exact ⟨claim, (keyed id claim present).symm ▸ present, active⟩

variable {now : ℕ}

/-- A claim that is not active is not stale. -/
theorem ForgeClaimState.staleAt_eq_true
    (stale : claim.staleAt now = .ok true) : claim.status = .active ∧
      ∃ heard, timestampSeconds claim.lastHeartbeat.createdAt = .ok heard ∧
        heard + claim.staleAfterSeconds ≤ now := by
  unfold staleAt at stale
  by_cases active : claim.status = .active
  · rw [if_pos active, bind_ok] at stale
    obtain ⟨heard, seconds, elapsed⟩ := stale
    exact ⟨active, heard, seconds, elapsedAtLeast_eq_true.mp elapsed⟩
  · rw [if_neg active, pure_ok] at stale
    cases stale

section Activation

variable {model : ClaimModel} {claims next : Claims} {timestamp : ForgeTimestamp} {now : ℕ}
  {claimId : String} {observed : ObservedRecord} {definition : ClaimDefinition}

section

variable (keyed : ∀ (id : String) claim, claims[id]? = some claim → claim.claimId = id)

include keyed

/-- The verdict on a beginning claim is one of the ways a claim begins. -/
theorem judge_begins (fresh : claims[claimId]? = none)
    (seconds : timestampSeconds observed.provenance.createdAt = .ok now)
    (judged : judge claims now claimId observed definition = .ok verdict) :
    Begins claims claimId definition observed (verdict.claims.insert claimId
      (definition.begin claimId observed verdict.status verdict.conflict)) := by
  unfold judge at judged
  split at judged
  · rename_i alone
    rw [pure_ok] at judged
    subst judged
    cases conflicting : activeConflict claims definition.scopes (some claimId) with
    | some active => exact .refused (some active) rfl
    | none => exact .opened alone (activeConflict_eq_none keyed fresh conflicting)
  · rename_i predecessorId named
    split at judged
    · rw [pure_ok] at judged
      subst judged
      exact .refused _ rfl
    · rename_i predecessor lineage
      rw [Option.filter_eq_some_iff, beq_iff_eq] at lineage
      obtain ⟨present, sameScopes⟩ := lineage
      rw [judgeTakeover, bind_ok] at judged
      obtain ⟨stale, staleness, judged⟩ := judged
      rw [pure_ok] at judged
      subst judged
      by_cases succeeded : predecessor.supersededBy.isSome
      · rw [if_pos succeeded]
        exact .refused _ rfl
      rw [if_neg succeeded]
      have unsucceeded : predecessor.supersededBy = none := by simpa using succeeded
      by_cases done : stale = true ∨ predecessor.status = .released
      · rw [if_neg (not_not.mpr done)]
        by_cases conflict : (activeConflict claims definition.scopes (some claimId)).any
            (· != predecessorId)
        · rw [if_pos conflict]
          exact .refused _ rfl
        rw [if_neg conflict]
        cases stale with
        | true =>
          obtain ⟨active, heard, last, elapsed⟩ := ForgeClaimState.staleAt_eq_true staleness
          exact .tookOver named present sameScopes unsucceeded active
            ⟨heard, now, last, seconds, elapsed⟩
        | false =>
          have ended : predecessor.status = .released := by simpa using done
          refine .succeeded named present unsucceeded ended ?_
          -- The only conflict allowed is the predecessor, which is no longer active.
          cases conflicting : activeConflict claims definition.scopes (some claimId) with
          | none => exact activeConflict_eq_none keyed fresh conflicting
          | some id =>
            obtain ⟨claim, found, active⟩ := activeConflict_active keyed conflicting
            have same : id = predecessorId := by simpa [conflicting] using conflict
            rw [same, present, Option.some.injEq] at found
            rw [← found, ended] at active
            cases active
      · rw [if_pos done]
        exact .refused _ rfl

/-- An activation begins its claim. -/
theorem applyActivation_begins
    (fresh : claims[claimId]? = none) (defined : model.definitions[claimId]? = some definition)
    (seconds : timestampSeconds observed.provenance.createdAt = .ok now)
    (applied : applyActivation model now explicitlyReleased claims (claimId, observed) =
      .ok next) : Begins claims claimId definition observed next := by
  simp only [applyActivation, ok_iff] at applied
  obtain ⟨found, present, -, verdict, judged, rfl⟩ := applied
  rw [defined, Option.some.injEq] at present
  subst present
  exact judge_begins keyed fresh seconds judged

end

end Activation

/-! ## How a claim evolves -/

/-- What may become of a claim: its identity and lineage are fixed, an active claim may end, and
one that is not active keeps its status and the record that ended it. -/
structure ForgeClaimState.Evolves (claim later : ForgeClaimState) : Prop where
  claimId : later.claimId = claim.claimId
  agentId : later.agentId = claim.agentId
  activationNonce : later.activationNonce = claim.activationNonce
  scopes : later.scopes = claim.scopes
  activation : later.activation = claim.activation
  status : later.status = claim.status ∨
    (claim.status = .active ∧ (later.status = .released ∨ later.status = .superseded))
  terminal : claim.status ≠ .active → later.terminal = claim.terminal

theorem ForgeClaimState.Evolves.refl (claim : ForgeClaimState) : claim.Evolves claim :=
  ⟨rfl, rfl, rfl, rfl, rfl, .inl rfl, fun _ => rfl⟩

/-- What becomes of a claim later is what may become of it. -/
theorem ForgeClaimState.Evolves.trans {first second third : ForgeClaimState}
    (early : first.Evolves second) (late : second.Evolves third) : first.Evolves third where
  claimId := late.claimId.trans early.claimId
  agentId := late.agentId.trans early.agentId
  activationNonce := late.activationNonce.trans early.activationNonce
  scopes := late.scopes.trans early.scopes
  activation := late.activation.trans early.activation
  status := by
    rcases early.status with same | ⟨active, ended⟩
    · rw [← same]
      exact late.status
    · rcases late.status with kept | ⟨still, -⟩
      · exact .inr ⟨active, kept ▸ ended⟩
      · rcases ended with released | superseded <;> simp_all
  terminal := by
    intro ended
    have kept : second.status = first.status := by
      rcases early.status with same | ⟨active, -⟩
      · exact same
      · exact absurd active ended
    rw [late.terminal (kept ▸ ended), early.terminal ended]

/-- Every claim is still there, evolved. -/
def Extends (claims next : Claims) : Prop :=
  ∀ (id : String) claim, claims[id]? = some claim →
    ∃ later, next[id]? = some later ∧ claim.Evolves later

theorem Extends.refl (claims : Claims) : Extends claims claims :=
  fun _ claim present => ⟨claim, present, .refl claim⟩

/-- One thing happened after another. -/
theorem Extends.trans {first second third : Claims} (early : Extends first second)
    (late : Extends second third) : Extends first third := by
  intro id claim present
  obtain ⟨middle, found, evolved⟩ := early id claim present
  obtain ⟨later, last, further⟩ := late id middle found
  exact ⟨later, last, evolved.trans further⟩

variable {next : Claims}

variable {later : ForgeClaimState}

theorem Extends.evolved (extended : Extends claims next) (before : claims[id]? = some claim)
    (after : next[id]? = some later) : claim.Evolves later := by
  obtain ⟨found, same, evolved⟩ := extended id claim before
  rw [after, Option.some.injEq] at same
  rwa [same]

/-- One claim evolved. -/
theorem Extends.rewrite (present : claims[id]? = some claim) (evolved : claim.Evolves later) :
    Extends claims (claims.insert id later) := by
  intro other old found
  by_cases here : id = other
  · subst here
    rw [present, Option.some.injEq] at found
    subst found
    exact ⟨later, get_insert_self _ _ _, evolved⟩
  · exact ⟨old, by rw [get_insert_of_ne _ _ here, found], .refl old⟩

theorem Extends.insert (fresh : claims[id]? = none)
    (claim : ForgeClaimState) : Extends claims (claims.insert id claim) := by
  intro other old found
  exact ⟨old, (get_insert_fresh fresh).mpr (.inl found), .refl old⟩

/-- A predecessor evolves when it is succeeded. -/
theorem ForgeClaimState.succeededBy_evolves {predecessor : ForgeClaimState} {stale : Bool}
    (ends : stale = true → predecessor.status = .active) (claimId : String)
    (observed : ObservedRecord) :
    predecessor.Evolves (predecessor.succeededBy stale claimId observed) := by
  cases stale with
  | true =>
    exact ⟨rfl, rfl, rfl, rfl, rfl, .inr ⟨ends rfl, .inr rfl⟩, fun ended => absurd (ends rfl) ended⟩
  | false => exact ⟨rfl, rfl, rfl, rfl, rfl, .inl rfl, fun _ => rfl⟩

/-- A mutation only evolves claims. -/
theorem Mutates.evolves (mutation : Mutates claims next) : Extends claims next := by
  cases mutation with
  | heard provenance present active =>
    exact .rewrite present ⟨rfl, rfl, rfl, rfl, rfl, .inl rfl, fun _ => rfl⟩
  | released provenance present active =>
    exact .rewrite present
      ⟨rfl, rfl, rfl, rfl, rfl, .inr ⟨active, .inl rfl⟩, fun ended => absurd active ended⟩

/-- A mutation begins no claim. -/
theorem Mutates.origin (mutation : Mutates claims next)
    (absent : claims[id]? = none) : next[id]? = none := by
  cases mutation with
  | heard provenance present active =>
    rw [get_insert_of_ne _ _ (ne_of_fresh absent present).symm, absent]
  | released provenance present active =>
    rw [get_insert_of_ne _ _ (ne_of_fresh absent present).symm, absent]

section Beginning

variable {claims next : Claims} {claimId : String} {definition : ClaimDefinition}
  {observed : ObservedRecord}

section

variable (beginning : Begins claims claimId definition observed next)

include beginning

/-- The beginning claim is there, with its definition. -/
theorem Begins.begun :
    ∃ status conflict, next[claimId]? =
      some (definition.begin claimId observed status conflict) := by
  cases beginning with
  | refused conflict refusal => exact ⟨_, _, get_insert_self _ _ _⟩
  | opened alone free => exact ⟨_, _, get_insert_self _ _ _⟩
  | succeeded named present unsucceeded ended free => exact ⟨_, _, get_insert_self _ _ _⟩
  | tookOver named present sameScopes unsucceeded active stale =>
    exact ⟨_, _, get_insert_self _ _ _⟩

/-- A beginning claim only evolves the others. -/
theorem Begins.evolves (fresh : claims[claimId]? = none) : Extends claims next := by
  -- The predecessor is another claim, since it is already there.
  have marked {predecessorId : String} {predecessor : ForgeClaimState}
      (present : claims[predecessorId]? = some predecessor) (marking : ForgeClaimState) :
      (claims.insert predecessorId marking)[claimId]? = none := by
    rw [get_insert_of_ne _ _ (ne_of_fresh fresh present).symm, fresh]
  cases beginning with
  | refused conflict refusal => exact .insert fresh _
  | opened alone free => exact .insert fresh _
  | succeeded named present unsucceeded ended free =>
    exact (Extends.rewrite present (ForgeClaimState.succeededBy_evolves (by simp) _ _)).trans
      (.insert (marked present _) _)
  | tookOver named present sameScopes unsucceeded active stale =>
    exact (Extends.rewrite present
      (ForgeClaimState.succeededBy_evolves (fun _ => active) _ _)).trans
      (.insert (marked present _) _)

/-- No other claim begins. -/
theorem Begins.origin (absent : claims[id]? = none) (other : claimId ≠ id) : next[id]? = none := by
  cases beginning with
  | refused conflict refusal => rw [get_insert_of_ne _ _ other, absent]
  | opened alone free => rw [get_insert_of_ne _ _ other, absent]
  | succeeded named present | tookOver named present =>
    rw [get_insert_of_ne _ _ other, get_insert_of_ne _ _ (ne_of_fresh absent present).symm, absent]

end

end Beginning

section Steps

variable {model : ClaimModel} {claims next : Claims}

theorem ClaimStep.evolves (step : ClaimStep model claims next) : Extends claims next := by
  cases step with
  | mutates mutation => exact mutation.evolves
  | begins winner fresh beginning => exact beginning.evolves fresh

/-- Every claim is stored under its id and began with the activation that wins it. -/
structure Placed (model : ClaimModel) (claims : Claims) : Prop where
  keyed : ∀ (id : String) claim, claims[id]? = some claim → claim.claimId = id
  settled : ∀ (id : String) claim, claims[id]? = some claim →
    ∃ definition observed, Winner model id definition observed ∧
      claim.activation = observed.provenance

theorem Placed.empty (model : ClaimModel) : Placed model ∅ :=
  ⟨fun id claim present => by simp at present, fun id claim present => by simp at present⟩

/-- A step keeps the claims in their place. -/
theorem Placed.step (placed : Placed model claims) (step : ClaimStep model claims next) :
    Placed model next := by
  have each (id : String) (later : ForgeClaimState) (present : next[id]? = some later) :
      later.claimId = id ∧ ∃ definition observed, Winner model id definition observed ∧
        later.activation = observed.provenance := by
    cases before : claims[id]? with
    | some claim =>
      have evolved := step.evolves.evolved before present
      rw [evolved.claimId, evolved.activation]
      exact ⟨placed.keyed id claim before, placed.settled id claim before⟩
    | none =>
      cases step with
      | mutates mutation =>
        rw [mutation.origin before] at present
        cases present
      | @begins claimId definition observed winner fresh beginning =>
        by_cases here : claimId = id
        · subst here
          obtain ⟨status, conflict, begun⟩ := beginning.begun
          rw [present, Option.some.injEq] at begun
          subst begun
          exact ⟨rfl, definition, observed, winner, rfl⟩
        · rw [beginning.origin before here] at present
          cases present
  exact ⟨fun id later present => (each id later present).1,
    fun id later present => (each id later present).2⟩

/-! ## Seconds are runs of steps -/

/-- A run of steps. -/
abbrev Run (model : ClaimModel) : Claims → Claims → Prop := Relation.ReflTransGen (ClaimStep model)

theorem Run.evolves (run : Run model claims next) : Extends claims next := by
  induction run with
  | refl => exact .refl claims
  | tail _ step ih => exact ih.trans step.evolves

theorem Placed.run (placed : Placed model claims) (run : Run model claims next) :
    Placed model next := by
  induction run with
  | refl => exact placed
  | tail _ step ih => exact ih.step step

/-- Every claim began in one of the seconds. -/
def Begun (seconds : List ForgeTimestamp) (claims : Claims) : Prop :=
  ∀ (id : String) claim, claims[id]? = some claim →
    claim.activation.createdAt ∈ seconds

variable {timestamp : ForgeTimestamp}

/-- The activations of a second are the winning ones that were written in it. -/
theorem mem_activationsAt
    : (claimId, observed) ∈ activationsAt model timestamp ↔
      ∃ definition, Winner model claimId definition observed ∧
        observed.provenance.createdAt = timestamp := by
  rw [activationsAt, mem_sortBy, mem_map]
  simp only [mem_filter, Bool.and_eq_true, beq_iff_eq, Option.any_eq_true, Prod.exists,
    mem_toList, Prod.mk.injEq]
  constructor
  · rintro ⟨key, _, ⟨activated, written, definition, defined, winning⟩, rfl, rfl⟩
    have stored : toLex ((ofLex key).1, definition.winningNonce) = key := by rw [winning]; rfl
    exact ⟨definition, ⟨defined, stored.symm ▸ activated⟩, written⟩
  · rintro ⟨definition, ⟨defined, activated⟩, written⟩
    exact ⟨_, observed, ⟨activated, written, definition, defined, rfl⟩, rfl, rfl⟩

/-- No claim begins twice in a second. -/
theorem nodup_activationsAt (timestamp : ForgeTimestamp) :
    ((activationsAt model timestamp).map Prod.fst).Nodup := by
  rw [activationsAt, ((sortBy_perm _ _).map Prod.fst).nodup_iff, map_map]
  refine List.Nodup.map_on ?_ (List.Nodup.filter _ (nodup_toList _))
  rintro ⟨key, observed⟩ first ⟨other, repeated⟩ second same
  simp only [mem_filter, Bool.and_eq_true, Option.any_eq_true, beq_iff_eq,
    mem_toList, Function.comp_apply] at first second same
  obtain ⟨stored, -, definition, defined, winning⟩ := first
  obtain ⟨storedOther, -, definitionOther, definedOther, winningOther⟩ := second
  rw [same, definedOther, Option.some.injEq] at defined
  have keys : key = other := by
    have both : ofLex key = ofLex other :=
      Prod.ext same (by rw [← winning, ← winningOther, defined])
    exact ofLex_inj.mp both
  subst keys
  rw [stored, Option.some.injEq] at storedOther
  rw [storedOther]

/-- The heartbeats and releases of a second are a run. -/
theorem applyReferences_run {finish : SecondState} {references : List ObservedRecord}
    (applied : references.foldlM (applyReference model) state = .ok finish) :
    Run model state.claims finish.claims ∧
      ∀ id : String, state.claims[id]? = none → finish.claims[id]? = none := by
  refine foldlM_invariant (fun (_ : List ObservedRecord) (reached : SecondState) =>
    Run model state.claims reached.claims ∧
      ∀ id : String, state.claims[id]? = none → reached.claims[id]? = none) ?_
    ⟨.refl, fun _ absent => absent⟩ applied
  rintro _ observed reached next ⟨run, origin⟩ stepped
  rcases applyReference_claims stepped with same | mutation
  · rw [same]
    exact ⟨run, origin⟩
  · exact ⟨run.tail (.mutates mutation), fun id absent => mutation.origin (origin id absent)⟩

/-- The activations of a second are a run, and only they begin claims. -/
theorem applyActivations_run
    {explicitlyReleased : BTreeSet String} {entries : List (String × ObservedRecord)}
    {finish : Claims} (placed : Placed model claims)
    (seconds : timestampSeconds timestamp = .ok now)
    (unbegun : ∀ (id : String) claim, claims[id]? = some claim →
      claim.activation.createdAt ≠ timestamp)
    (winners : ∀ entry ∈ entries, ∃ definition, Winner model entry.1 definition entry.2 ∧
      entry.2.provenance.createdAt = timestamp) (distinct : (entries.map Prod.fst).Nodup)
    (applied : entries.foldlM (applyActivation model now explicitlyReleased) claims =
      .ok finish) :
    Run model claims finish ∧ ∀ id : String, claims[id]? = none → id ∉ entries.map Prod.fst →
      finish[id]? = none := by
  have result := foldlM_invariant
    (fun (done : List (String × ObservedRecord)) (reached : Claims) =>
      (∀ entry ∈ done, ∃ definition, Winner model entry.1 definition entry.2 ∧
        entry.2.provenance.createdAt = timestamp) → (done.map Prod.fst).Nodup →
      Run model claims reached ∧ ∀ id : String, claims[id]? = none → id ∉ done.map Prod.fst →
        reached[id]? = none) ?_ (fun _ _ => ⟨.refl, fun _ absent _ => absent⟩) applied
  · exact result winners distinct
  rintro done ⟨claimId, observed⟩ reached next holds stepped winners distinct
  rw [map_append, nodup_append] at distinct
  obtain ⟨earlier, -, apart⟩ := distinct
  obtain ⟨run, origin⟩ := holds (fun entry member => winners entry (by simp [member])) earlier
  obtain ⟨definition, winner, written⟩ := winners (claimId, observed) (by simp)
  have unlisted : claimId ∉ done.map Prod.fst :=
    fun member => apart claimId member claimId (by simp) rfl
  -- A claim already there began with its winning activation, which is this one, in this second.
  have fresh : reached[claimId]? = none := by
    cases before : claims[claimId]? with
    | none => exact origin claimId before unlisted
    | some claim =>
      obtain ⟨other, activation, known, began⟩ := placed.settled claimId claim before
      rw [← winner.unique known] at began
      exact absurd (began ▸ written) (unbegun claimId claim before)
  have beginning := applyActivation_begins (placed.run run).keyed fresh winner.defined
    (written ▸ seconds) stepped
  refine ⟨run.tail (.begins winner fresh beginning), fun id absent later => ?_⟩
  simp only [map_append, map_cons, map_nil, mem_append, mem_singleton, not_or] at later
  exact beginning.origin (origin id absent later.1) (Ne.symm later.2)

variable {records : List ObservedRecord} {seconds : List ForgeTimestamp}

/-- One second is a run, and every claim that begins in it has its time. -/
theorem reduceSecond_run {dispositions : List RecordDisposition}
    (placed : Placed model claims) (begun : Begun seconds claims) (later : timestamp ∉ seconds)
    (reduced : reduceSecond records model claims timestamp = .ok (next, dispositions)) :
    Run model claims next ∧ Begun (seconds ++ [timestamp]) next := by
  simp only [reduceSecond, ok_iff, Prod.mk.injEq] at reduced
  obtain ⟨now, elapsed, ⟨references, replays⟩, -, state, mutated, result, activated, rfl, -⟩ :=
    reduced
  obtain ⟨mutations, untouched⟩ := applyReferences_run mutated
  have unbegun : ∀ (id : String) claim, state.claims[id]? = some claim →
      claim.activation.createdAt ≠ timestamp := by
    intro id claim present
    cases before : claims[id]? with
    | none =>
      rw [untouched id before] at present
      cases present
    | some old =>
      rw [(mutations.evolves.evolved before present).activation]
      exact fun written => later (written ▸ begun id old before)
  have winners : ∀ entry ∈ activationsAt model timestamp, ∃ definition,
      Winner model entry.1 definition entry.2 ∧ entry.2.provenance.createdAt = timestamp :=
    fun entry member => mem_activationsAt.mp member
  obtain ⟨activations, origin⟩ :=
    applyActivations_run (placed.run mutations) elapsed unbegun winners
    (nodup_activationsAt timestamp) activated
  have run : Run model claims result := mutations.trans activations
  refine ⟨run, fun id claim present => ?_⟩
  rw [mem_append, mem_singleton]
  cases before : claims[id]? with
  | some old =>
    have evolved := run.evolves.evolved before present
    exact .inl (evolved.activation ▸ begun id old before)
  | none =>
    have listed : id ∈ (activationsAt model timestamp).map Prod.fst := by
      by_contra unlisted
      rw [origin id (untouched id before) unlisted] at present
      cases present
    obtain ⟨⟨_, observed⟩, member, rfl⟩ := mem_map.mp listed
    obtain ⟨definition, winner, written⟩ := winners _ member
    obtain ⟨other, activation, known, began⟩ := (placed.run run).settled _ claim present
    rw [began, ← winner.unique known]
    exact .inr written

/-- The reduction of several seconds is a run. -/
theorem reduceTimestamps_run (placed : Placed model start.1)
    (begun : Begun done start.1) (distinct : (done ++ seconds).Nodup)
    (reduced : seconds.foldlM (reduceTimestamp records model) start = .ok finish) :
    Run model start.1 finish.1 ∧ Begun (done ++ seconds) finish.1 := by
  have result := foldlM_invariant
    (fun (read : List ForgeTimestamp) (reached : Claims × List RecordDisposition) =>
      (done ++ read).Nodup → Run model start.1 reached.1 ∧ Begun (done ++ read) reached.1) ?_
    (fun _ => ⟨.refl, by simpa using begun⟩) reduced
  · exact result distinct
  intro read timestamp reached next holds stepped distinct
  rw [← append_assoc] at distinct ⊢
  rw [nodup_append] at distinct
  obtain ⟨earlier, -, apart⟩ := distinct
  obtain ⟨run, began⟩ := holds earlier
  simp only [reduceTimestamp, ok_iff] at stepped
  obtain ⟨⟨after, dispositions⟩, second, rfl⟩ := stepped
  have later : timestamp ∉ done ++ read :=
    fun member => apart timestamp member timestamp (by simp) rfl
  obtain ⟨further, beganToo⟩ := reduceSecond_run (placed.run run) began later second
  exact ⟨run.trans further, beganToo⟩

end Steps

end Maco.Forge
