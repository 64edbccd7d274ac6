import Maco.Forge.Linear

/-!
# Later comments never rewrite a claim

A thread that only grows by later comments keeps every claim it had: the agent, the scopes, the
nonce and the activation of a claim are fixed, an active claim may end, and one that has ended stays
as it ended. The reduction starts over with tables computed from all records, so the argument shows
that the tables of the longer thread agree with those of the shorter one on everything early, that
every early second is therefore reduced alike, and that the later seconds only evolve the claims.
-/

namespace Maco.Forge

open Maco.Base BTreeMap Maco.Publication Earliest List
open ObservedRecord (rank orderKey)

/-! ## What the claim tables hold -/

/-- The definitions the records propose. -/
def definitionEntries (records : List ObservedRecord) : List (String × ClaimDefinition) :=
  records.filterMap fun observed =>
    match observed.record.action with
    | .claim fields => some (fields.claimId, fields.candidate observed.provenance.createdAt)
    | .heartbeat _ | .release _ _ | .agentState _ => none

/-- The activations among the records. -/
def activationEntries (records : List ObservedRecord) : List (LineageKey × ObservedRecord) :=
  records.filterMap fun observed =>
    match observed.record.action with
    | .claim fields => some (toLex (fields.claimId, fields.activationNonce), observed)
    | .heartbeat _ | .release _ _ | .agentState _ => none

variable {records : List ObservedRecord}

/-- A proposed definition comes from a claim record. -/
theorem mem_definitionEntries
    : (claimId, definition) ∈ definitionEntries records ↔
      ∃ observed ∈ records, ∃ fields, observed.record.action = .claim fields ∧
        fields.claimId = claimId ∧
        fields.candidate observed.provenance.createdAt = definition := by
  simp only [definitionEntries, mem_filterMap]
  refine exists_congr fun observed => and_congr_right fun _ => ?_
  cases observed.record.action <;> simp

/-- An activation is a claim record. -/
theorem mem_activationEntries
    : (key, activation) ∈ activationEntries records ↔
      activation ∈ records ∧ ∃ fields, activation.record.action = .claim fields ∧
        toLex (fields.claimId, fields.activationNonce) = key := by
  simp only [activationEntries, mem_filterMap]
  constructor
  · rintro ⟨observed, member, found⟩
    cases action : observed.record.action <;> rw [action] at found <;> cases found
    exact ⟨member, _, action, rfl⟩
  · rintro ⟨member, fields, action, rfl⟩
    exact ⟨activation, member, by rw [action]⟩

/-- Two definitions are the same when they have one content. -/
theorem requireSameDefinition_ok (current candidate : ClaimDefinition) :
    requireSameDefinition current candidate = .ok () ↔
      (current.agentId, current.scopes, current.staleAfterSeconds, current.supersedes) =
        (candidate.agentId, candidate.scopes, candidate.staleAfterSeconds,
          candidate.supersedes) := by
  simp only [requireSameDefinition, refuseIf_ok, not_or, not_not, Prod.mk.injEq]

/-- Defining a claim keeps the earliest of its definitions. -/
theorem defineClaim_keep {kept : Earliest String ClaimDefinition} {claimId : String}
    {candidate : ClaimDefinition} {next : BTreeMap String ClaimDefinition}
    (defined : defineClaim kept.table claimId candidate = .ok next) :
    ∃ keeps, kept.keep ClaimDefinition.rank requireSameDefinition claimId candidate = .ok keeps ∧
      keeps.table = next := by
  unfold defineClaim at defined
  unfold keep
  cases present : kept.table[claimId]? with
  | none =>
    rw [present] at defined
    exact ⟨_, rfl, by simpa [pure, Except.pure] using defined⟩
  | some current =>
    rw [present] at defined
    simp only [ok_iff] at defined ⊢
    obtain ⟨⟨⟩, same, rfl⟩ := defined
    refine ⟨_, ⟨(), same, rfl⟩, ?_⟩
    by_cases below : candidate.rank < current.rank
    · -- The definitions agree in all that is not replaced.
      have content := (requireSameDefinition_ok current candidate).mp same
      simp only [Prod.mk.injEq] at content
      obtain ⟨agent, scopes, stale, supersedes⟩ := content
      rw [if_pos below, if_pos below]
      obtain ⟨_, _, _, _, _, _⟩ := candidate
      cases agent
      cases scopes
      cases stale
      cases supersedes
      rfl
    · rw [if_neg below, if_neg below]

/-- The refusal of an activation whose nonce was used for something else. -/
def ambiguousActivation : String := "one claim activation nonce has ambiguous records"

/-- Reading one more record. -/
theorem readClaims_keep {tables : ClaimTables}
    (read : records.foldlM readClaim ⟨∅, .empty⟩ = .ok tables) :
    (∃ kept, keepAll ClaimDefinition.rank requireSameDefinition
        (definitionEntries records) = .ok kept ∧ kept.table = tables.definitions) ∧
      keepAll rank (requireSameAction ambiguousActivation)
        (activationEntries records) = .ok tables.activations := by
  refine foldlM_invariant (fun (done : List ObservedRecord) (tables : ClaimTables) =>
    (∃ kept, keepAll ClaimDefinition.rank requireSameDefinition
        (definitionEntries done) = .ok kept ∧ kept.table = tables.definitions) ∧
      keepAll rank (requireSameAction ambiguousActivation)
        (activationEntries done) = .ok tables.activations) ?_ ⟨⟨.empty, rfl, rfl⟩, rfl⟩ read
  rintro done observed tables next ⟨⟨kept, definitions, same⟩, activations⟩ stepped
  unfold readClaim at stepped
  rw [definitionEntries, activationEntries, filterMap_append, filterMap_append,
    keepAll, keepAll, foldlM_append, foldlM_append]
  rw [definitionEntries, keepAll] at definitions
  rw [activationEntries, keepAll] at activations
  rw [definitions, activations, ok_bind, ok_bind]
  cases action : observed.record.action with
  | claim fields =>
    rw [action] at stepped
    simp only [ok_iff] at stepped
    obtain ⟨defined, defines, activated, activates, rfl⟩ := stepped
    rw [← same] at defines
    obtain ⟨keeps, reads, table⟩ := defineClaim_keep defines
    simp only [filterMap_cons, filterMap_nil, action, foldlM_cons, foldlM_nil, reads, ok_bind]
    refine ⟨⟨keeps, rfl, table⟩, ?_⟩
    rw [show tables.activations.keep rank (requireSameAction ambiguousActivation)
      (toLex (fields.claimId, fields.activationNonce)) observed = .ok activated from activates]
    rfl
  | heartbeat reference | release reference reason | agentState fields =>
    rw [action, pure_ok] at stepped
    subst stepped
    simp only [filterMap_cons, filterMap_nil, action, foldlM_nil]
    exact ⟨⟨kept, rfl, same⟩, rfl⟩

/-- The claim model of the records: the earliest definition of each claim, on whose content all
agree, and the earliest activation of each lineage; every reference has both. -/
structure ModelOf (records : List ObservedRecord) (model : ClaimModel) : Prop where
  definitions : EarliestOf ClaimDefinition.rank (definitionEntries records) model.definitions
  agree : Agree (fun definition : ClaimDefinition => (definition.agentId, definition.scopes,
    definition.staleAfterSeconds, definition.supersedes)) (definitionEntries records)
  activations : EarliestOf rank (activationEntries records) model.activations
  referenced : ∀ observed ∈ records, ∀ reference,
    observed.record.action.reference = some reference →
      (∃ definition, model.definitions[reference.claimId]? = some definition) ∧
      ∃ activation,
        model.activations[toLex (reference.claimId, reference.activationNonce)]? = some activation

/-- The code builds the claim model of its records. -/
theorem ClaimModel.new_modelOf {model : ClaimModel}
    (built : ClaimModel.new records = .ok model) : ModelOf records model := by
  simp only [ClaimModel.new, ok_iff, forM_ok] at built
  obtain ⟨tables, read, checked, rfl⟩ := built
  obtain ⟨⟨kept, definitions, same⟩, activations⟩ := readClaims_keep read
  refine ⟨same ▸ (keepAll_earliest definitions).1,
    keepAll_agree requireSameDefinition_ok definitions,
    (keepAll_earliest activations).1, fun observed member reference refers => ?_⟩
  have passes := checked reference (mem_filterMap.mpr ⟨observed, member, refers⟩)
  simp only [ClaimTables.checkReference, ok_iff, Bool.not_eq_false, BTreeMap.contains_iff] at passes
  obtain ⟨definition, defined, -, activated⟩ := passes
  exact ⟨⟨definition, defined⟩, activated⟩

/-! ## Early seconds are reduced alike -/

section Early

variable {early : ForgeTimestamp → Bool} {records : List ObservedRecord}
  {model extended : ClaimModel}

/-- The records written early. -/
def earlyRecords (early : ForgeTimestamp → Bool) (records : List ObservedRecord) :
    List ObservedRecord :=
  records.filter fun observed => early observed.provenance.createdAt

variable {observed : ObservedRecord}

theorem mem_earlyRecords : observed ∈ earlyRecords early records ↔
    observed ∈ records ∧ early observed.provenance.createdAt = true := by
  rw [earlyRecords, mem_filter]

section

variable (downward : ∀ s t, early t = true → s ≤ t → early s = true)

include downward

theorem lt_of_early (first : early s = true) (second : early t ≠ true) : s < t := by
  by_contra behind
  exact second (downward t s first (le_of_not_gt behind))

theorem rank_lt_of_early
    (left right : ObservedRecord) (first : early left.provenance.createdAt = true)
    (second : early right.provenance.createdAt ≠ true) : left.rank < right.rank :=
  Prod.Lex.toLex_lt_toLex.mpr (.inl (lt_of_early downward first second))

/-- The tables of the longer thread agree with those of the shorter one on everything early. -/
structure AgreesEarly (early : ForgeTimestamp → Bool) (model extended : ClaimModel) : Prop where
  definitions : ∀ (claimId : String) definition,
    model.definitions[claimId]? = some definition →
      extended.definitions[claimId]? = some definition
  activations : ∀ (key : LineageKey) activation,
    model.activations[key]? = some activation → extended.activations[key]? = some activation
  back : ∀ (key : LineageKey) activation,
    extended.activations[key]? = some activation →
      early activation.provenance.createdAt = true →
        model.activations[key]? = some activation ∧
          ∃ definition, model.definitions[(ofLex key).1]? = some definition

/-- The claim models of a thread and of its early records agree. -/
theorem ModelOf.agreesEarly
    (distinct : ∀ left ∈ records, ∀ right ∈ records, left.rank = right.rank → left = right)
    (short : ModelOf (earlyRecords early records) model) (long : ModelOf records extended) :
    AgreesEarly early model extended := by
  have activations (key : LineageKey) (activation : ObservedRecord)
      (present : model.activations[key]? = some activation) :
      extended.activations[key]? = some activation := by
    refine short.activations.extend (fun observed => early observed.provenance.createdAt = true)
      long.activations ?_ ?_ (rank_lt_of_early downward) present
    · intro k v w inLeft inRight
      exact distinct v (mem_earlyRecords.mp (mem_activationEntries.mp inLeft).1).1 w
        (mem_earlyRecords.mp (mem_activationEntries.mp inRight).1).1
    · intro k v
      rw [mem_activationEntries, mem_activationEntries, mem_earlyRecords, and_right_comm]
  refine ⟨?_, activations, ?_⟩
  · intro claimId definition present
    refine short.definitions.extend (fun definition => early definition.winningTimestamp = true)
      long.definitions ?_ ?_ ?_ present
    · intro k v w inLeft inRight same
      have content := short.agree k v w inLeft inRight
      simp only [Prod.mk.injEq] at content
      have ranks : (v.winningTimestamp, v.winningNonce) = (w.winningTimestamp, w.winningNonce) :=
        same
      rw [Prod.mk.injEq] at ranks
      obtain ⟨_, _, _, _, _, _⟩ := v
      obtain ⟨_, _, _, _, _, _⟩ := w
      simp_all
    · intro k v
      simp only [mem_definitionEntries, mem_earlyRecords]
      constructor
      · rintro ⟨observed, ⟨listed, still⟩, fields, claims, id, rfl⟩
        exact ⟨⟨observed, listed, fields, claims, id, rfl⟩, still⟩
      · rintro ⟨⟨observed, listed, fields, claims, id, rfl⟩, still⟩
        exact ⟨observed, ⟨listed, still⟩, fields, claims, id, rfl⟩
    · intro v w first second
      exact Prod.Lex.toLex_lt_toLex.mpr (.inl (lt_of_early downward first second))
  · intro key activation present still
    obtain ⟨listed, fields, claims, rfl⟩ :=
      mem_activationEntries.mp (long.activations.least key activation present).1
    have member := mem_earlyRecords.mpr ⟨listed, still⟩
    obtain ⟨found, stored⟩ := short.activations.found _ activation
      (mem_activationEntries.mpr ⟨member, fields, claims, rfl⟩)
    have same := activations _ found stored
    rw [present, Option.some.injEq] at same
    exact ⟨same ▸ stored, short.definitions.found fields.claimId _
      (mem_definitionEntries.mpr ⟨activation, member, fields, claims, rfl, rfl⟩)⟩

end

variable {timestamp : ForgeTimestamp}

/-- The mutations of a second are records of the second. -/
theorem canonicalClaimReferences_mem
    (read : canonicalClaimReferences records timestamp = .ok (references, replays))
    (member : observed ∈ references) : observed ∈ records := by
  simp only [canonicalClaimReferences, ok_iff, Prod.mk.injEq] at read
  obtain ⟨tables, filled, -, rfl, -⟩ := read
  obtain ⟨key, stored⟩ := mem_values.mp member
  have listed := foldlM_invariant
    (fun (done : List ObservedRecord) (tables : ReferenceTables) =>
      ∀ (key : Lex (ℕ × LineageKey)) observed,
        tables.byReference.table[key]? = some observed → observed ∈ done) ?_
    (fun key observed present => by simp [empty] at present) filled
  · exact (mem_filter.mp (listed key observed stored)).1
  intro done next tables after known stepped key observed present
  have kept {kind : ℕ} {reference : ClaimReference}
      (reads : tables.readReference next kind reference = .ok after) :
        observed ∈ done ++ [next] := by
    simp only [ReferenceTables.readReference, ok_iff] at reads
    obtain ⟨byReference, keeps, rfl⟩ := reads
    rw [mem_append, mem_singleton]
    cases keep_keeps keeps with
    | fresh absent | replaces stored agrees below =>
      rcases get_insert_cases present with ⟨-, rfl⟩ | ⟨-, old⟩
      · exact .inr rfl
      · exact .inl (known key observed old)
    | repeats stored agrees above => exact .inl (known key observed present)
  unfold readMutation at stepped
  split at stepped
  · exact kept stepped
  · exact kept stepped
  all_goals
    rw [pure_ok] at stepped
    subst stepped
    exact mem_append_left _ (known key observed present)

section

variable (agrees : AgreesEarly early model extended)

include agrees

/-- A mutation of an early record is applied alike. -/
theorem AgreesEarly.applyReference (short : ModelOf (earlyRecords early records) model)
    (member : observed ∈ earlyRecords early records) (state : SecondState) :
    applyReference model state observed = Forge.applyReference extended state observed := by
  have mutation {reference : ClaimReference} (release : Bool)
      (refers : observed.record.action.reference = some reference) :
      applyMutation model state observed reference release =
        applyMutation extended state observed reference release := by
    obtain ⟨⟨definition, defined⟩, activation, activated⟩ :=
      short.referenced observed member reference refers
    simp only [applyMutation, mutateWinner, defined, activated,
      agrees.definitions _ _ defined, agrees.activations _ _ activated]
  unfold Forge.applyReference
  cases action : observed.record.action with
  | heartbeat reference => exact mutation false (by rw [action]; rfl)
  | release reference reason => exact mutation true (by rw [action]; rfl)
  | claim fields | agentState fields => rfl

/-- The claims that begin in an early second are the same. -/
theorem AgreesEarly.activationsAt (inTime : early timestamp = true) :
    activationsAt model timestamp = Forge.activationsAt extended timestamp := by
  unfold Forge.activationsAt
  congr 2
  refine eq_of_sorted_of_mem (fun a b => lt_asymm) ((sorted_toList _).filter _)
    ((sorted_toList _).filter _) ?_
  rintro ⟨key, activation⟩
  simp only [mem_filter, mem_toList, Bool.and_eq_true, beq_iff_eq, Option.any_eq_true]
  constructor
  · rintro ⟨present, rfl, definition, defined, winning⟩
    exact ⟨agrees.activations _ _ present, rfl, definition, agrees.definitions _ _ defined, winning⟩
  · rintro ⟨present, rfl, definition, defined, winning⟩
    obtain ⟨stored, known, knows⟩ := agrees.back key activation present inTime
    have same := agrees.definitions _ _ knows
    rw [defined, Option.some.injEq] at same
    exact ⟨stored, rfl, known, knows, same ▸ winning⟩

/-- An early second is reduced alike. -/
theorem AgreesEarly.reduceSecond (short : ModelOf (earlyRecords early records) model)
    (inTime : early timestamp = true) (claims : Claims) :
    reduceSecond (earlyRecords early records) model claims timestamp =
      Forge.reduceSecond records extended claims timestamp := by
  have same : canonicalClaimReferences (earlyRecords early records) timestamp =
      canonicalClaimReferences records timestamp := by
    have written : (earlyRecords early records).filter
        (fun observed => observed.provenance.createdAt == timestamp) =
        records.filter fun observed => observed.provenance.createdAt == timestamp := by
      rw [earlyRecords, filter_filter]
      apply filter_congr
      intro observed _
      by_cases here : observed.provenance.createdAt = timestamp
      · simp [here, inTime]
      · simp [here]
    rw [canonicalClaimReferences, canonicalClaimReferences, written]
  unfold Forge.reduceSecond
  rw [← same, ← agrees.activationsAt inTime]
  cases timestampSeconds timestamp with
  | error refusal => rfl
  | ok now =>
    rw [ok_bind, ok_bind]
    cases read : canonicalClaimReferences (earlyRecords early records) timestamp with
    | error refusal => rfl
    | ok found =>
      obtain ⟨references, replays⟩ := found
      rw [ok_bind, ok_bind]
      have mutations : (sortBy orderKey references).foldlM
          (Forge.applyReference model) ⟨claims, ∅, replays⟩ =
          (sortBy orderKey references).foldlM
            (Forge.applyReference extended) ⟨claims, ∅, replays⟩ := by
        refine foldlM_congr (fun observed member state => ?_) _
        exact agrees.applyReference short (canonicalClaimReferences_mem read
          (mem_sortBy.mp member)) state
      have activations (released : BTreeSet String) (start : Claims) :
          (Forge.activationsAt model timestamp).foldlM (applyActivation model now released) start =
          (Forge.activationsAt model timestamp).foldlM
            (applyActivation extended now released) start := by
        refine foldlM_congr (fun entry member state => ?_) _
        obtain ⟨definition, winner, -⟩ := mem_activationsAt.mp member
        simp only [applyActivation, winner.defined, agrees.definitions _ _ winner.defined]
      simp only [mutations, activations]

end

/-- The seconds of the longer thread are the early ones and then others. -/
theorem claimTimestamps_early (downward : ∀ s t, early t = true → s ≤ t → early s = true) :
    claimTimestamps records = claimTimestamps (earlyRecords early records) ++
      (claimTimestamps records).filter (fun timestamp => ! early timestamp) := by
  have listed (records : List ObservedRecord) (timestamp : ForgeTimestamp) :
      timestamp ∈ claimTimestamps records ↔ ∃ observed ∈ records,
        observed.record.action.concernsClaims = true ∧
          observed.provenance.createdAt = timestamp := by
    simp only [claimTimestamps, BTreeSet.mem_toList, BTreeSet.mem_ofList, mem_map,
      mem_filter, and_assoc]
  have sorted (records : List ObservedRecord) : (claimTimestamps records).Pairwise (· < ·) :=
    BTreeSet.sorted_toList _
  refine eq_of_sorted_of_mem (fun a b => lt_asymm) (sorted records) ?_ fun timestamp => ?_
  · rw [pairwise_append]
    refine ⟨sorted _, (sorted records).filter _, fun first inFirst second inSecond => ?_⟩
    obtain ⟨observed, member, -, rfl⟩ := (listed _ first).mp inFirst
    have late : early second ≠ true := by simpa using (mem_filter.mp inSecond).2
    exact lt_of_early downward (mem_earlyRecords.mp member).2 late
  · rw [mem_append, mem_filter, listed, listed]
    constructor
    · rintro ⟨observed, member, concerns, rfl⟩
      by_cases still : early observed.provenance.createdAt = true
      · exact .inl ⟨observed, mem_earlyRecords.mpr ⟨member, still⟩, concerns, rfl⟩
      · exact .inr ⟨⟨observed, member, concerns, rfl⟩, by simpa using still⟩
    · rintro (⟨observed, member, concerns, rfl⟩ | ⟨found, -⟩)
      · exact ⟨observed, (mem_earlyRecords.mp member).1, concerns, rfl⟩
      · exact found

/-- The claims of the early records are still there, evolved, in the claims of all records. -/
theorem reduceClaims_early (downward : ∀ s t, early t = true → s ≤ t → early s = true)
    (distinct : ∀ left ∈ records, ∀ right ∈ records, left.rank = right.rank → left = right)
    (short : ClaimModel.new (earlyRecords early records) = .ok model)
    (long : ClaimModel.new records = .ok extended) {claims after : Claims}
    {dispositions more : List RecordDisposition}
    (first : reduceClaims (earlyRecords early records) model = .ok (claims, dispositions))
    (second : reduceClaims records extended = .ok (after, more)) : Extends claims after := by
  have shortOf := ClaimModel.new_modelOf short
  have agrees := shortOf.agreesEarly downward distinct (ClaimModel.new_modelOf long)
  rw [reduceClaims, bind_ok] at first second
  obtain ⟨losing, -, first⟩ := first
  obtain ⟨losingToo, -, second⟩ := second
  have distinctSeconds := nodup_claimTimestamps records
  rw [claimTimestamps_early downward] at second distinctSeconds
  rw [foldlM_append, bind_ok] at second
  obtain ⟨middle, reached, rest⟩ := second
  -- Both reductions come to the same claims at the end of the early seconds.
  have same : claims = middle.1 := by
    refine foldlM_related (fun (state state' : Claims × List RecordDisposition) =>
      state.1 = state'.1) ?_ (Eq.refl (∅ : Claims)) first reached
    intro timestamp member state state' next next' equal stepped stepped'
    have inTime : early timestamp = true := by
      simp only [claimTimestamps, BTreeSet.mem_toList, BTreeSet.mem_ofList, mem_map] at member
      obtain ⟨observed, listed, rfl⟩ := member
      exact (mem_earlyRecords.mp (mem_filter.mp listed).1).2
    simp only [reduceTimestamp, ok_iff] at stepped stepped'
    obtain ⟨⟨one, _⟩, oneReduced, rfl⟩ := stepped
    obtain ⟨other, otherReduced, rfl⟩ := stepped'
    rw [agrees.reduceSecond shortOf inTime, equal, otherReduced, Except.ok.injEq] at oneReduced
    rw [oneReduced]
  have begun : Begun [] (∅ : Claims) := fun id claim present => by simp at present
  have whole := distinctSeconds
  rw [nodup_append] at distinctSeconds
  obtain ⟨run, beganEarly⟩ :=
    reduceTimestamps_run (.empty extended) begun distinctSeconds.1 reached
  obtain ⟨later, -⟩ :=
    reduceTimestamps_run ((Placed.empty extended).run run) beganEarly whole rest
  rw [same]
  exact later.evolves

end Early

/-! ## Growing threads -/

section Growing

variable {recordFromStr : RecordReader} {engine : ForgeCoordinationEngine}

/-- No later than some comment. -/
def noLaterThan (comments : List ForgeComment) (time : ForgeTimestamp) : Bool :=
  comments.any fun comment => decide (time ≤ comment.createdAt)

/-- Whatever comes before a time that is no later is no later. -/
theorem noLaterThan_downward (comments : List ForgeComment) (s t : ForgeTimestamp)
    (inTime : noLaterThan comments t = true) (before : s ≤ t) : noLaterThan comments s = true := by
  simp only [noLaterThan, any_eq_true, decide_eq_true_eq] at inTime ⊢
  obtain ⟨comment, member, bound⟩ := inTime
  exact ⟨comment, member, le_trans before bound⟩

/-- What is early in the longer thread is carried by the shorter one. -/
theorem mem_carried_early (grows : longer.Perm (comments ++ added))
    (newer : ∀ comment ∈ added, ∀ old ∈ comments, old.createdAt < comment.createdAt)
    {observed : ObservedRecord} : observed ∈ carried recordFromStr engine item comments ↔
      observed ∈ carried recordFromStr engine item longer ∧
        noLaterThan comments observed.provenance.createdAt = true := by
  simp only [mem_carried, noLaterThan, any_eq_true, decide_eq_true_eq]
  constructor
  · rintro ⟨comment, member, read⟩
    refine ⟨⟨comment, grows.mem_iff.mpr (mem_append_left _ member), read⟩, comment, member, ?_⟩
    rw [readComment_some read]
    exact le_refl _
  · rintro ⟨⟨comment, member, read⟩, old, listed, bound⟩
    rw [readComment_some read] at bound
    rcases mem_append.mp (grows.mem_iff.mp member) with before | after
    · exact ⟨comment, before, read⟩
    · exact absurd (newer comment after old listed) (not_lt_of_ge bound)

/-- The records of the shorter thread are the early ones of the longer one. -/
theorem records_early (distinct : (longer.map ForgeComment.providerCommentId).Nodup)
    (grows : longer.Perm (comments ++ added))
    (newer : ∀ comment ∈ added, ∀ old ∈ comments, old.createdAt < comment.createdAt)
    (shortKeeps : keepAll rank requireSameRecord
      (byEventId (carried recordFromStr engine item comments)) = .ok short)
    (longKeeps : keepAll rank requireSameRecord
      (byEventId (carried recordFromStr engine item longer)) = .ok long) :
    short.table.values = earlyRecords (noLaterThan comments) long.table.values := by
  have inside {observed : ObservedRecord} : observed ∈ carried recordFromStr engine item comments ↔
      observed ∈ carried recordFromStr engine item longer ∧
        noLaterThan comments observed.provenance.createdAt = true := mem_carried_early grows newer
  have shortOf := (keepAll_earliest shortKeeps).1
  have longOf := (keepAll_earliest longKeeps).1
  have keyed {carries : List ObservedRecord} {table : BTreeMap String ObservedRecord}
      (holds : EarliestOf rank (byEventId carries) table) (key : String)
      (observed : ObservedRecord) (present : table[key]? = some observed) :
      observed.record.eventId = key := (mem_byEventId.mp (holds.least key observed present).1).2
  have kept {key : String} {observed : ObservedRecord}
      (present : short.table[key]? = some observed) : long.table[key]? = some observed := by
    refine shortOf.extend
      (fun observed => noLaterThan comments observed.provenance.createdAt = true) longOf ?_ ?_
      (rank_lt_of_early (noLaterThan_downward comments)) present
    · intro k v w inLeft inRight same
      have ids : v.provenance.providerCommentId = w.provenance.providerCommentId :=
        congrArg (fun key => (ofLex key).2) same
      exact carried_rank_injective distinct (inside.mp (mem_byEventId.mp inLeft).1).1
        (inside.mp (mem_byEventId.mp inRight).1).1 ids
    · intro k v
      rw [mem_byEventId, mem_byEventId, inside, and_right_comm]
  refine eq_of_sorted_of_mem (fun a b => lt_asymm) (sorted_values (keyed shortOf))
    ((sorted_values (keyed longOf)).filter _) fun observed => ?_
  rw [mem_earlyRecords, mem_values, mem_values]
  constructor
  · rintro ⟨key, present⟩
    have listed := (mem_byEventId.mp (shortOf.least key observed present).1).1
    exact ⟨⟨key, kept present⟩, (inside.mp listed).2⟩
  · rintro ⟨⟨key, present⟩, still⟩
    obtain ⟨listed, event⟩ := mem_byEventId.mp (longOf.least key observed present).1
    obtain ⟨found, stored⟩ := shortOf.found key observed
      (mem_byEventId.mpr ⟨inside.mpr ⟨listed, still⟩, event⟩)
    have same := kept stored
    rw [present, Option.some.injEq] at same
    exact ⟨key, same ▸ stored⟩

/-- A marked claim has evolved as the claim did. -/
theorem ForgeClaimState.Evolves.marked {claim later : ForgeClaimState}
    (evolves : claim.Evolves later) (stale staleToo : Bool) :
    ForgeClaimState.Evolves { claim with staleAtObservation := stale }
      { later with staleAtObservation := staleToo } :=
  { evolves with }

end Growing

/-- When a thread grows by comments written strictly later than all it had, every claim it was
reconstructed to is still there with its agent, scopes, nonce and activation; its status changed
only if it was active, to released or superseded; and a claim that was not active has the status
and the terminal record it had. -/
theorem reconstruct_monotone (recordFromStr : RecordReader) (engine : ForgeCoordinationEngine)
    (shorter longer : ItemThreadObservation) (added : List ForgeComment)
    (item : longer.item = shorter.item) (grows : longer.comments.Perm (shorter.comments ++ added))
    (newer : ∀ comment ∈ added, ∀ old ∈ shorter.comments, old.createdAt < comment.createdAt)
    (before after : CoordinationSnapshot)
    (first : reconstruct recordFromStr engine shorter = .ok before)
    (second : reconstruct recordFromStr engine longer = .ok after) :
    ∀ claim ∈ before.claims, ∃ later ∈ after.claims,
      later.claimId = claim.claimId ∧ later.agentId = claim.agentId ∧
      later.scopes = claim.scopes ∧ later.activationNonce = claim.activationNonce ∧
      later.activation = claim.activation ∧
      (later.status = claim.status ∨ (claim.status = .active ∧
        (later.status = .released ∨ later.status = .superseded))) ∧
      (claim.status ≠ .active → later.terminal = claim.terminal) := by
  obtain ⟨records, _, model, claims, _, _, marked, parsed, built, reduced, marks, shown⟩ :=
    reconstruct_claims first
  obtain ⟨recordsToo, _, modelToo, claimsToo, _, _, markedToo, parsedToo, builtToo, reducedToo,
    marksToo, shownToo⟩ := reconstruct_claims second
  obtain ⟨-, -, kept, keeps, rfl, -⟩ := parseRecords_ok.mp parsed
  obtain ⟨-, -, keptToo, keepsToo, rfl, -⟩ := parseRecords_ok.mp parsedToo
  rw [item] at keepsToo
  have early := records_early longer.nodup_ids grows newer keeps keepsToo
  rw [early] at built reduced
  have distinct : ∀ left ∈ BTreeMap.values keptToo.table, ∀ right ∈ BTreeMap.values keptToo.table,
      left.rank = right.rank → left = right := by
    have carries {observed : ObservedRecord} (member : observed ∈ BTreeMap.values keptToo.table) :
        observed ∈ carried recordFromStr engine shorter.item longer.comments := by
      obtain ⟨key, present⟩ := mem_values.mp member
      exact (mem_byEventId.mp
        ((keepAll_earliest keepsToo).1.least key observed present).1).1
    intro left inLeft right inRight same
    have ids : left.provenance.providerCommentId = right.provenance.providerCommentId :=
      congrArg (fun key => (ofLex key).2) same
    exact carried_rank_injective longer.nodup_ids (carries inLeft) (carries inRight) ids
  have evolved := reduceClaims_early (noLaterThan_downward shorter.comments) distinct built
    builtToo reduced reducedToo
  intro claim listed
  rw [shown] at listed
  rw [shownToo]
  obtain ⟨id, stored⟩ := mem_values.mp listed
  cases old : claims[id]? with
  | none =>
    rw [(markStale_marks marks).2 id old] at stored
    cases stored
  | some was =>
    obtain ⟨stale, now⟩ := (markStale_marks marks).1 id was old
    rw [stored, Option.some.injEq] at now
    obtain ⟨became, found, evolves⟩ := evolved id was old
    obtain ⟨staleToo, nowToo⟩ := (markStale_marks marksToo).1 id became found
    have result := evolves.marked stale staleToo
    rw [← now] at result
    exact ⟨_, mem_values.mpr ⟨id, nowToo⟩, result.claimId, result.agentId, result.scopes,
      result.activationNonce, result.activation, result.status, result.terminal⟩

/-- The sample thread before the takeover. -/
def firstThread : ItemThreadObservation where
  item := sampleItem
  observedAt := sampleStart
  comments := [sampleFirstComment]
  valid := by
    simp only [validateThread, foldlM_cons, foldlM_nil, checkThreadComment,
      sampleComments_valid.1, ok_bind]
    simp only [threadJson, Json.size, List.map, ForgeComment.toJson, sampleComment, Json.chars,
      Json.memberChars, Json.itemChars, quotedChars, commaSeparated, toList_wrap]
    decide +kernel

/-- Before the takeover the first claim is active. -/
theorem reconstruct_firstThread : ∃ snapshot,
    reconstruct sampleReader sampleEngine firstThread = .ok snapshot ∧
      snapshot.claims.map (fun claim => (claim.claimId, claim.status)) = [("c1", .active)] := by
  have computed : ((snapshotOfCarried sampleStart
      [⟨sampleFirst, .fromComment sampleFirstComment⟩]).toOption.map fun snapshot =>
      snapshot.claims.map fun claim => (claim.claimId, claim.status)) =
        some [("c1", .active)] := by decide +kernel
  obtain ⟨snapshot, shown, claims⟩ := ok_of_toOption computed
  exact ⟨snapshot, reconstruct_of_records shown rfl
    (congrArg₂ cons readComment_samples.1 rfl) (by decide), claims⟩

/-- In the sample the active claim is superseded and keeps its agent. -/
theorem reconstruct_monotone_sample : ∃ before after,
    reconstruct sampleReader sampleEngine firstThread = .ok before ∧
    reconstruct sampleReader sampleEngine sampleThread = .ok after ∧
    before.claims.map (fun claim => (claim.claimId, claim.status)) = [("c1", .active)] ∧
    after.claims.map (fun claim => (claim.claimId, claim.status)) =
      [("c1", .superseded), ("c2", .active)] ∧
    ∀ claim ∈ before.claims, ∃ later ∈ after.claims, later.agentId = claim.agentId := by
  obtain ⟨before, first, claims⟩ := reconstruct_firstThread
  obtain ⟨after, second, claimsToo⟩ := reconstruct_sampleThread
  have kept := reconstruct_monotone _ _ firstThread sampleThread [sampleSecondComment] rfl
    (List.Perm.refl _) (fun comment member old listed => by
      rw [mem_singleton.mp member, mem_singleton.mp listed]
      decide +kernel) before after first second
  refine ⟨before, after, first, second, claims, claimsToo, fun claim listed => ?_⟩
  obtain ⟨later, member, -, agent, -⟩ := kept claim listed
  exact ⟨later, member, agent⟩

end Maco.Forge
