import Maco.Journal.Authority

/-!
# Preflight agrees with the reducer

A proposed intent is checked against the authority rebuilt from the lists of a snapshot. The
snapshot loses nothing a transition reads, so with the provider time known the preflight accepts
exactly the entries the reducer accepts on top of the history. Without it the preflight checks
less: whatever it refuses is refused at every provider time.
-/

namespace Maco.Journal

open Maco.Base Maco.Publication

/-- The same entry, commented at another provider time. -/
def VerifiedJournalEntry.observedAt (entry : VerifiedJournalEntry) (time : ForgeTimestamp) :
    VerifiedJournalEntry :=
  { entry with comment := { entry.comment with createdAt := time } }

variable {external : External} {config : CoordinationJournalConfig}
  {verifier : EffectReconciliationVerifier} {intent : CoordinationIntent}

/-- The authority rebuilt from a sound snapshot is the one it was taken of. -/
theorem Reduction.Sound.snapshot_authority {state : Reduction} (sound : state.Sound config) :
    state.snapshot.authority = state.authority := by
  have owners := BTreeMap.ofList_values sound.wellFormed.keyed
  have pending := BTreeMap.ofList_values sound.wellFormed.pendingKeyed
  simp only [AuthoritySnapshot.authority, Reduction.snapshot, owners, pending]

/-- The preflight accepts exactly the intents that target the anchor item, build on the head and
have a transition. -/
theorem preflight_ok :
    preflightProposedJournalTransition external config verifier snapshot intent admission =
        .ok done ↔
      intent.requireTarget config.anchorItem = .ok () ∧
      intent.expectedParentOid = snapshot.journalHeadOid ∧
      ∃ next, Transition external config verifier intent admission snapshot.authority next := by
  simp only [preflightProposedJournalTransition, ok_iff, not_not]
  constructor
  · rintro ⟨⟨⟩, target, parent, next, applied, -⟩
    exact ⟨target, parent, next, applyIntentSemantics_transition applied⟩
  · rintro ⟨target, parent, next, rule⟩
    exact ⟨(), target, parent, next, rule.applied, trivial⟩

/-- A transition at an observed time is also one with the time deferred. -/
theorem Transition.deferred
    (rule : Transition external config verifier intent ⟨actor, some time⟩ before next) :
    ∃ later, Transition external config verifier intent ⟨actor, none⟩ before later := by
  cases rule with
  | claim action configured fresh free => exact ⟨_, .claim action configured fresh free⟩
  | heartbeatDeferred action active actor deferred => cases deferred
  | heartbeat action active actor observed forward =>
    exact ⟨_, .heartbeatDeferred action active actor rfl⟩
  | takeover action configured active exactScopes unblocked ranOut free fresh =>
    exact ⟨_, .takeover action configured active exactScopes unblocked
      (fun time observed => by cases observed) free fresh⟩
  | release action active actor unblocked => exact ⟨_, .release action active actor unblocked⟩
  | reserve action active actor fresh current =>
    exact ⟨_, .reserve action active actor fresh (fun time observed => by cases observed)⟩
  | complete action active actor reserved owned verified =>
    exact ⟨_, .complete action active actor reserved owned verified⟩

/-- The contract of an entry does not read its provider time. -/
theorem EntryContract.observedAt
    (contract : EntryContract external config entry head intent) (time : ForgeTimestamp) :
    EntryContract external config (entry.observedAt time) head intent :=
  { contract with }

theorem EntryContract.unique (first : EntryContract external config entry head intent)
    (second : EntryContract external config entry head other) : other = intent := by
  have parsed := second.parsed
  rw [first.parsed] at parsed
  cases parsed
  rfl

/-- On top of a reduced history, the reducer accepts an entry with a fresh nonce that carries an
intent exactly when the intent has a transition. -/
theorem reduce_append_iff {history extended : TrustedFiniteJournalHistory} {state : Reduction}
    {entry : VerifiedJournalEntry}
    (folded : history.entries.foldlM (reduceEntry external config verifier) (.initial config) =
      .ok state) (contract : EntryContract external config entry state.priorHead intent)
    (fresh : entry.pointer.eventNonce ∉ state.seenNonces)
    (grown : extended.entries = history.entries ++ [entry]) :
    (∃ next, reduceTrustedJournalHistory external config verifier extended = .ok next) ↔
      ∃ authority, Transition external config verifier intent entry.admission state.authority
        authority := by
  have last : extended.entries.foldlM (reduceEntry external config verifier) (.initial config) =
      reduceEntry external config verifier state entry := by
    rw [grown, List.foldlM_append, folded, ok_bind]
    simp
  constructor
  · rintro ⟨next, reduced⟩
    obtain ⟨final, stepped, -⟩ := map_ok.mp reduced
    rw [last] at stepped
    obtain ⟨-, other, authority, held, rule, -⟩ := reduceEntry_ok.mp stepped
    rw [contract.unique held] at rule
    exact ⟨authority, rule⟩
  · rintro ⟨authority, rule⟩
    have stepped := reduceEntry_ok.mpr ⟨fresh, intent, authority, contract, rule, rfl⟩
    exact ⟨_, map_ok.mpr ⟨_, last.trans stepped, rfl⟩⟩

/-- Preflight agrees with the reducer on top of every history that reduces, for every entry with a
fresh nonce that carries the intent: with the provider time known it accepts exactly when the
extended history reduces, and what it refuses with the time deferred is refused at every time. -/
theorem preflight_agrees_with_reducer (external : External) (config : CoordinationJournalConfig)
    (verifier : EffectReconciliationVerifier) (history : TrustedFiniteJournalHistory)
    (snapshot : AuthoritySnapshot) (intent : CoordinationIntent) (entry : VerifiedJournalEntry)
    (reduced : reduceTrustedJournalHistory external config verifier history = .ok snapshot)
    (carried : verifyJournalEntryContract external config entry snapshot.journalHeadOid =
      .ok intent)
    (fresh : ∀ event ∈ snapshot.committedEvents, event.eventNonce ≠ entry.pointer.eventNonce) :
    (∀ extended : TrustedFiniteJournalHistory, extended.entries = history.entries ++ [entry] →
      (preflightProposedJournalTransition external config verifier snapshot intent
          ⟨entry.comment.author, some entry.comment.createdAt⟩ = .ok () ↔
        ∃ next, reduceTrustedJournalHistory external config verifier extended = .ok next)) ∧
    ((∃ refusal, preflightProposedJournalTransition external config verifier snapshot intent
          ⟨entry.comment.author, none⟩ = .error refusal) →
      ∀ (time : ForgeTimestamp) (extended : TrustedFiniteJournalHistory),
        extended.entries = history.entries ++ [entry.observedAt time] →
        ∃ refusal, reduceTrustedJournalHistory external config verifier extended =
          .error refusal) := by
  obtain ⟨state, folded, rfl⟩ := map_ok.mp reduced
  have sound := reduction_sound folded
  have contract := verifyJournalEntryContract_ok.mp carried
  have parent : intent.expectedParentOid = state.priorHead :=
    contract.intentParent.trans contract.pointerParent
  have unseen : entry.pointer.eventNonce ∉ state.seenNonces := by
    rw [sound.seen, List.mem_map]
    rintro ⟨event, listed, same⟩
    exact fresh event listed same
  have accepts (admission : ProposedIntentAdmission) :
      preflightProposedJournalTransition external config verifier state.snapshot intent admission =
          .ok () ↔
        ∃ next, Transition external config verifier intent admission state.authority next := by
    rw [preflight_ok, sound.snapshot_authority]
    exact ⟨fun ⟨_, _, rule⟩ => rule, fun rule => ⟨contract.target, parent, rule⟩⟩
  constructor
  · intro extended grown
    rw [accepts, reduce_append_iff folded contract unseen grown]
    rfl
  · rintro ⟨refusal, refused⟩ time extended grown
    obtain ⟨next, success⟩ | failure :=
      ok_or_error (reduceTrustedJournalHistory external config verifier extended)
    · obtain ⟨authority, rule⟩ := (reduce_append_iff folded (contract.observedAt time) unseen
        grown).mp ⟨next, success⟩
      have accepted := (accepts ⟨entry.comment.author, none⟩).mpr rule.deferred
      rw [refused] at accepted
      cases accepted
    · exact failure

/-- On top of the sample's claim, the reservation passes its preflight because the history with it
reduces. -/
theorem preflight_agrees_with_reducer_sample : ∃ snapshot,
    reduceTrustedJournalHistory sampleExternal sampleConfig none (sampleHistory 1) = .ok snapshot ∧
    preflightProposedJournalTransition sampleExternal sampleConfig none snapshot sampleReserve
      ⟨sampleActor, some placeholderAt⟩ = .ok () := by
  obtain ⟨snapshot, reduced, shown⟩ := sampleHistory_reduces 1
    (fun snapshot => (snapshot.journalHeadOid, snapshot.committedEvents.map (·.eventNonce)))
    (by decide +kernel : _ = some (sampleOid 'b', ["e1"]))
  obtain ⟨_, extended, -⟩ :=
    sampleHistory_reduces 2 (fun _ => ()) (by decide +kernel : _ = some ())
  obtain ⟨head, committed⟩ := Prod.mk.inj shown
  have contract : EntryContract sampleExternal sampleConfig
      (sampleEntry 'c' sampleReserve placeholderAt) (sampleOid 'b') sampleReserve :=
    sampleSteps_contract _ (.tail _ (.head _))
  have fresh : ∀ event ∈ snapshot.committedEvents,
      event.eventNonce ≠ (sampleEntry 'c' sampleReserve placeholderAt).pointer.eventNonce := by
    intro event listed same
    have named : event.eventNonce ∈ snapshot.committedEvents.map (·.eventNonce) :=
      List.mem_map_of_mem listed
    rw [committed, same] at named
    revert named
    decide
  have agrees := preflight_agrees_with_reducer sampleExternal sampleConfig none (sampleHistory 1)
    snapshot sampleReserve (sampleEntry 'c' sampleReserve placeholderAt) reduced
    (head ▸ verifyJournalEntryContract_ok.mpr contract) fresh
  exact ⟨snapshot, reduced, (agrees.1 (sampleHistory 2) rfl).mpr ⟨_, extended⟩⟩

end Maco.Journal
