import Maco.Base.Exclusion
import Maco.Journal.Transition

/-!
# Authority stays exclusive

Active owners hold disjoint scopes, and a reserved effect belongs to an owner that is still active:
the transitions that remove an owner are refused while one of its reservations is pending. Each
rule keeps this, so it holds of every authority a history reduces to. Beside it the reducer keeps
the committed nonces distinct and the chain of commits unbroken from the anchor to the head.
-/

namespace Maco.Journal

open Maco.Base Maco.Base.BTreeMap Maco.Publication

/-- Two owner records claim overlapping scopes. -/
def OwnerClash (_ : CoordinationOwnerIdentity) (a : ActiveOwnerRecord)
    (_ : CoordinationOwnerIdentity) (b : ActiveOwnerRecord) : Prop :=
  scopesOverlap a.scopes b.scopes = true

theorem ownerClash_symm (a : CoordinationOwnerIdentity) (x : ActiveOwnerRecord)
    (b : CoordinationOwnerIdentity) (y : ActiveOwnerRecord) (clash : OwnerClash a x b y) :
    OwnerClash b y a x :=
  scopesOverlap_comm clash

/-- What every reachable authority satisfies. -/
structure Authority.WellFormed (authority : Authority) : Prop where
  keyed : ∀ (owner : CoordinationOwnerIdentity) record,
    authority.activeOwners[owner]? = some record → record.owner = owner
  exclusive : Exclusive OwnerClash authority.activeOwners
  pendingKeyed : ∀ (effectId : String) reserve,
    authority.pending[effectId]? = some reserve → reserve.effectId = effectId
  ownersActive : ∀ (effectId : String) reserve,
    authority.pending[effectId]? = some reserve →
      ∃ record, authority.activeOwners[reserve.owner]? = some record

namespace Authority.WellFormed

variable {authority : Authority}

theorem empty : Authority.WellFormed ⟨∅, ∅⟩ where
  keyed owner record found := by simp at found
  exclusive := Exclusive.empty
  pendingKeyed effectId reserve found := by simp at found
  ownersActive effectId reserve found := by simp at found

section

variable (wellFormed : authority.WellFormed)

include wellFormed

/-- An owner may be entered whose scopes clash with no other active owner's. -/
theorem insertOwner (record : ActiveOwnerRecord)
    (free : ∀ (owner : CoordinationOwnerIdentity) other,
      authority.activeOwners[owner]? = some other → record.owner ≠ owner →
        scopesOverlap other.scopes record.scopes = false) :
    Authority.WellFormed { authority with
      activeOwners := authority.activeOwners.insert record.owner record } where
  keyed owner other found := by
    rcases get_insert_cases found with ⟨rfl, rfl⟩ | ⟨-, old⟩
    · rfl
    · exact wellFormed.keyed owner other old
  exclusive := by
    apply wellFormed.exclusive.insert ownerClash_symm
    intro owner other found different clash
    have clear := free owner other found different
    have overlap : scopesOverlap other.scopes record.scopes = true := scopesOverlap_comm clash
    simp [clear] at overlap
  pendingKeyed := wellFormed.pendingKeyed
  ownersActive effectId reserve found := by
    obtain ⟨held, active⟩ := wellFormed.ownersActive effectId reserve found
    by_cases same : record.owner = reserve.owner
    · exact ⟨record, by rw [get_insert, if_pos same]⟩
    · exact ⟨held, by rw [get_insert, if_neg same, active]⟩

/-- An owner without a pending reservation may be removed. -/
theorem eraseOwner (unblocked : ∀ (effectId : String) reserve,
      authority.pending[effectId]? = some reserve → reserve.owner ≠ owner) :
    Authority.WellFormed { authority with activeOwners := authority.activeOwners.erase owner } where
  keyed other record found := wellFormed.keyed other record (get_erase_some found).2
  exclusive := wellFormed.exclusive.erase owner
  pendingKeyed := wellFormed.pendingKeyed
  ownersActive effectId reserve found := by
    obtain ⟨held, active⟩ := wellFormed.ownersActive effectId reserve found
    have different : owner ≠ reserve.owner := (unblocked effectId reserve found).symm
    exact ⟨held, by rw [get_erase, if_neg different, active]⟩

/-- An active owner may reserve an effect. -/
theorem insertReserve (reserve : PendingEffectReservation)
    (active : ∃ record, authority.activeOwners[reserve.owner]? = some record) :
    Authority.WellFormed { authority with
      pending := authority.pending.insert reserve.effectId reserve } where
  keyed := wellFormed.keyed
  exclusive := wellFormed.exclusive
  pendingKeyed effectId other found := by
    rcases get_insert_cases found with ⟨rfl, rfl⟩ | ⟨-, old⟩
    · rfl
    · exact wellFormed.pendingKeyed effectId other old
  ownersActive effectId other found := by
    rcases get_insert_cases found with ⟨-, rfl⟩ | ⟨-, old⟩
    · exact active
    · exact wellFormed.ownersActive effectId other old

/-- A reservation may be dropped. -/
theorem eraseReserve (effectId : String) :
    Authority.WellFormed { authority with pending := authority.pending.erase effectId } := by
  have kept : ∀ (other : String) reserve,
      (authority.pending.erase effectId)[other]? = some reserve →
        authority.pending[other]? = some reserve := fun _ _ found => (get_erase_some found).2
  exact ⟨wellFormed.keyed, wellFormed.exclusive,
    fun other reserve found => wellFormed.pendingKeyed other reserve (kept other reserve found),
    fun other reserve found => wellFormed.ownersActive other reserve (kept other reserve found)⟩

/-- Every transition keeps the authority well formed. -/
theorem transition {external : External} {config : CoordinationJournalConfig}
    {verifier : EffectReconciliationVerifier} {next : Authority}
    (rule : Transition external config verifier intent admission authority next) :
    next.WellFormed := by
  cases rule with
  | @claim scopes lease action configured fresh free =>
    exact wellFormed.insertOwner (activationRecord intent admission scopes lease)
      fun owner record found _ => free owner record found
  | heartbeatDeferred => exact wellFormed
  | @heartbeat record time action active actor observed forward =>
    -- A heartbeat keeps the owner's scopes, so whatever was clear of them stays clear.
    have own : record.owner = intent.owner := wellFormed.keyed _ _ active
    rw [← own] at active ⊢
    apply wellFormed.insertOwner { record with lastHeartbeatAt := time }
    intro owner other found different
    have apart := wellFormed.exclusive _ _ _ _ found active (Ne.symm different)
    simpa [OwnerClash] using apart
  | @takeover predecessor scopes lease record action configured active exactScopes unblocked
      ranOut free fresh =>
    refine (wellFormed.eraseOwner unblocked).insertOwner
      (activationRecord intent admission scopes lease) fun owner other found _ => ?_
    obtain ⟨different, found⟩ := get_erase_some found
    exact free owner other found different
  | release action active actor unblocked => exact wellFormed.eraseOwner unblocked
  | @reserve effectId publicationEffect record action active =>
    exact wellFormed.insertReserve
      (reservationRecord intent admission effectId publicationEffect) ⟨record, active⟩
  | complete => exact wellFormed.eraseReserve _

end

end Authority.WellFormed

/-! ## The reducer -/

/-- Each committed event's parent is the commit before it, from one commit to another. -/
def ChainedTo : String → List CommittedEventIndex → String → Prop
  | anchor, [], head => anchor = head
  | anchor, event :: events, head =>
    event.parentOid = anchor ∧ ChainedTo event.commitOid events head

variable {head : String}

/-- A chain grows by an event on top of its head. -/
theorem ChainedTo.append (chained : ChainedTo anchor events head) (event : CommittedEventIndex)
    (parent : event.parentOid = head) : ChainedTo anchor (events ++ [event]) event.commitOid := by
  induction events generalizing anchor with
  | nil =>
    have start : anchor = head := chained
    exact ⟨by rw [parent, start], rfl⟩
  | cons first events ih => exact ⟨chained.1, ih chained.2⟩

/-- What every loop state of the reducer satisfies. -/
structure Reduction.Sound (config : CoordinationJournalConfig) (state : Reduction) : Prop where
  wellFormed : state.authority.WellFormed
  seen : ∀ nonce, nonce ∈ state.seenNonces ↔ nonce ∈ state.committed.map (·.eventNonce)
  distinct : (state.committed.map (·.eventNonce)).Nodup
  chained : ChainedTo config.anchorCommitOid state.committed state.priorHead

section Reduce

variable {external : External} {config : CoordinationJournalConfig}
  {verifier : EffectReconciliationVerifier}

/-- What the contract of an entry establishes. -/
structure EntryContract (external : External) (config : CoordinationJournalConfig)
    (entry : VerifiedJournalEntry) (head : String) (intent : CoordinationIntent) : Prop where
  parent : entry.parentOid = head
  pointerParent : entry.pointer.expectedParentOid = head
  trusted : config.isTrustedActor entry.comment.author = true
  item : entry.comment.item = config.anchorItem
  commentId : entry.comment.providerCommentId = entry.pointer.providerCommentId
  parsed : external.parse entry.comment.body = .ok (some intent)
  target : intent.requireTarget config.anchorItem = .ok ()
  nonce : intent.eventNonce = entry.pointer.eventNonce
  intentParent : intent.expectedParentOid = entry.pointer.expectedParentOid
  digest : external.sha256Hex entry.comment.body = entry.pointer.bodySha256

variable {entry : VerifiedJournalEntry}

/-- The contract check succeeds exactly when the contract holds. -/
theorem verifyJournalEntryContract_ok :
    verifyJournalEntryContract external config entry head = .ok intent ↔
      EntryContract external config entry head intent := by
  simp only [verifyJournalEntryContract, ok_iff, not_not, Bool.not_eq_false]
  constructor
  · rintro ⟨parent, pointerParent, trusted, item, commentId, parsed, read, found, rfl, ⟨⟩, target,
      nonce, intentParent, digest, rfl⟩
    exact ⟨parent, pointerParent, trusted, item, commentId, read, target, nonce, intentParent,
      digest⟩
  · intro holds
    exact ⟨holds.parent, holds.pointerParent, holds.trusted, holds.item, holds.commentId, _,
      holds.parsed, _, rfl, (), holds.target, holds.nonce, holds.intentParent, holds.digest, rfl⟩

variable {state next : Reduction}

/-- One turn of the loop: a fresh nonce, the entry's contract, and the transition it causes. -/
theorem reduceEntry_ok :
    reduceEntry external config verifier state entry = .ok next ↔
      entry.pointer.eventNonce ∉ state.seenNonces ∧
      ∃ intent authority, EntryContract external config entry state.priorHead intent ∧
        Transition external config verifier intent entry.admission state.authority authority ∧
        next = {
          priorHead := entry.commitOid
          seenNonces := state.seenNonces.insert entry.pointer.eventNonce
          authority
          committed := state.committed ++
            [⟨intent.eventNonce, entry.commitOid, entry.parentOid, intent.owner⟩] } := by
  simp only [reduceEntry, commitIntent, ok_iff, verifyJournalEntryContract_ok,
    Std.ExtTreeSet.contains_iff_mem]
  constructor
  · rintro ⟨fresh, intent, contract, authority, applied, rfl⟩
    exact ⟨fresh, intent, authority, contract, applyIntentSemantics_transition applied, rfl⟩
  · rintro ⟨fresh, intent, authority, contract, rule, rfl⟩
    exact ⟨fresh, intent, contract, authority, rule.applied, rfl⟩

/-- A loop state stays sound. -/
theorem Reduction.Sound.step (sound : state.Sound config)
    (stepped : reduceEntry external config verifier state entry = .ok next) :
    next.Sound config := by
  obtain ⟨fresh, intent, authority, contract, rule, rfl⟩ := reduceEntry_ok.mp stepped
  have unlisted : intent.eventNonce ∉ state.committed.map (·.eventNonce) := by
    rw [← sound.seen, contract.nonce]
    exact fresh
  refine { wellFormed := sound.wellFormed.transition rule, seen := ?_, distinct := ?_,
           chained := sound.chained.append _ contract.parent }
  · intro nonce
    rw [BTreeSet.mem_insert, sound.seen, List.map_append, List.mem_append, List.map_singleton,
      List.mem_singleton, contract.nonce, or_comm, eq_comm]
  · exact nodup_map_concat sound.distinct unlisted

/-- Every state the reducer reaches is sound. -/
theorem reduction_sound {entries : List VerifiedJournalEntry}
    (reduced : entries.foldlM (reduceEntry external config verifier) (.initial config) =
      .ok state) : state.Sound config := by
  have initial : (Reduction.initial config).Sound config :=
    ⟨.empty, by simp [Reduction.initial], by simp [Reduction.initial], rfl⟩
  exact foldlM_invariant (fun _ state => state.Sound config)
    (fun _ _ _ _ sound stepped => sound.step stepped) initial reduced

/-- In the snapshot of every history that reduces, distinct active owners hold scopes that do not
overlap, no owner is listed twice, every reserved effect belongs to an active owner, no event nonce
is committed twice, and the committed events chain from the configured anchor to the head. -/
theorem reduce_authority_safe (external : External) (config : CoordinationJournalConfig)
    (verifier : EffectReconciliationVerifier) (history : TrustedFiniteJournalHistory)
    (snapshot : AuthoritySnapshot)
    (reduced : reduceTrustedJournalHistory external config verifier history = .ok snapshot) :
    (snapshot.activeOwners.Pairwise fun a b =>
      ∀ left ∈ a.scopes, ∀ right ∈ b.scopes, scopeKeysOverlap left right = false) ∧
    (snapshot.activeOwners.map (·.owner)).Nodup ∧
    (∀ reserve ∈ snapshot.pendingReservations,
      ∃ record ∈ snapshot.activeOwners, record.owner = reserve.owner) ∧
    (snapshot.committedEvents.map (·.eventNonce)).Nodup ∧
    ChainedTo config.anchorCommitOid snapshot.committedEvents snapshot.journalHeadOid := by
  obtain ⟨state, folded, rfl⟩ := map_ok.mp reduced
  have sound := reduction_sound folded
  refine ⟨?_, ?_, ?_, sound.distinct, sound.chained⟩
  · apply pairwise_values
    intro a x b y first second different left inLeft right inRight
    have apart := sound.wellFormed.exclusive a x b y first second different
    by_contra overlap
    exact apart (scopesOverlap_iff.mpr ⟨left, inLeft, right, inRight, by simpa using overlap⟩)
  · exact nodup_key_values sound.wellFormed.keyed
  · intro reserve listed
    obtain ⟨effectId, found⟩ := mem_values.mp listed
    obtain ⟨record, active⟩ := sound.wellFormed.ownersActive effectId reserve found
    exact ⟨record, mem_values.mpr ⟨_, active⟩, sound.wellFormed.keyed _ _ active⟩

/-- On entries of fresh nonces whose contracts hold, the reducer applies their intents. -/
theorem foldlM_reduceEntry {steps : List (VerifiedJournalEntry × CoordinationIntent)}
    (contracts : ∀ step ∈ steps, EntryContract external config step.1 step.1.parentOid step.2)
    (linear : LinearFrom state.priorHead (steps.map Prod.fst))
    (apart : steps.Pairwise fun a b => a.1.pointer.eventNonce ≠ b.1.pointer.eventNonce)
    (unseen : ∀ step ∈ steps, step.1.pointer.eventNonce ∉ state.seenNonces) :
    (steps.map Prod.fst).foldlM (reduceEntry external config verifier) state =
      steps.foldlM (fun state step => commitIntent external config verifier state step.1 step.2)
        state := by
  induction steps generalizing state with
  | nil => rfl
  | cons step steps ih =>
    obtain ⟨parent, linear⟩ := linear
    obtain ⟨others, apart⟩ := List.pairwise_cons.mp apart
    obtain ⟨contract, contracts⟩ := List.forall_mem_cons.mp contracts
    obtain ⟨fresh, unseen⟩ := List.forall_mem_cons.mp unseen
    have verified := verifyJournalEntryContract_ok.mpr (parent ▸ contract)
    have committed : reduceEntry external config verifier state step.1 =
        commitIntent external config verifier state step.1 step.2 := by
      simp only [reduceEntry, Std.ExtTreeSet.contains_iff_mem, refuseIf, if_neg fresh, verified,
        ok_bind]
    rw [List.map_cons, List.foldlM_cons, List.foldlM_cons, committed]
    cases applied : commitIntent external config verifier state step.1 step.2 with
    | error refusal => rfl
    | ok next =>
      simp only [commitIntent, ok_iff] at applied
      obtain ⟨authority, -, rfl⟩ := applied
      refine ih contracts linear apart fun later listed => ?_
      rw [BTreeSet.mem_insert, not_or]
      exact ⟨others later listed, unseen later listed⟩

end Reduce

/-! ## A sample history

One owner claims a scope and reserves an effect. Another claims a second scope, which a third takes
over two days later. The reader of payloads knows these four intents, and every digest is the same
text.
-/

/-- A commit id of one repeated digit. -/
def sampleOid (digit : Char) : String := String.ofList (List.replicate 40 digit)

/-- The configuration of the sample. -/
def sampleConfig : CoordinationJournalConfig where
  anchorItem := sampleItem
  anchorCommitOid := sampleOid 'a'
  trustedActors := .ofList [(sampleActor.providerActorId, sampleActor)]
  timing := .default

/-- An intent of an owner of the sample. -/
def sampleIntent (nonce : String) (parent : Char) (activation : String)
    (action : CoordinationIntentAction) : CoordinationIntent where
  schema := journalFormat.schema
  version := 1
  repositoryId := sampleItem.repository.providerRepositoryId
  itemId := sampleItem.providerItemId
  eventNonce := nonce
  expectedParentOid := sampleOid parent
  owner := ⟨"run", activation⟩
  action

/-- The owner claims a scope. -/
def sampleClaim : CoordinationIntent :=
  sampleIntent "e1" 'a' "n1" (.claim ["path:src"] ⟨43200, 86400⟩)

/-- The owner reserves an effect. -/
def sampleReserve : CoordinationIntent := sampleIntent "e2" 'b' "n1" (.effectReserve "push" none)

/-- A second owner claims another scope. -/
def sampleSecond : CoordinationIntent :=
  sampleIntent "e3" 'c' "n2" (.claim ["path:docs"] ⟨43200, 86400⟩)

/-- A third owner takes over from the second. -/
def sampleTakeover : CoordinationIntent :=
  sampleIntent "e4" 'd' "n3" (.takeover ⟨"run", "n2"⟩ ["path:docs"] ⟨43200, 86400⟩)

/-- The digest of every text of the sample. -/
def sampleDigest : String := String.ofList (List.replicate 64 'a')

/-- An outside that reads some intents. -/
def External.reading (known : List CoordinationIntent) : External where
  sha256Hex _ := sampleDigest
  intentFromStr := readAmong CoordinationIntent.toJson known

/-- The entry that commits an intent at a time. -/
def sampleEntry (commit : Char) (intent : CoordinationIntent) (createdAt : ForgeTimestamp) :
    VerifiedJournalEntry where
  pointer := ⟨intent.eventNonce, ⟨"github", .comment, intent.eventNonce⟩,
    sampleDigest, intent.expectedParentOid⟩
  commitOid := sampleOid commit
  parentOid := intent.expectedParentOid
  comment := ⟨sampleItem, ⟨"github", .comment, intent.eventNonce⟩, sampleActor, createdAt,
    journalFormat.wrap intent.toJson.text⟩

/-- An intent of the sample that is valid, short and read back meets the entry contract. -/
theorem sampleEntry_contract {known : List CoordinationIntent} {createdAt : ForgeTimestamp}
    (valid : intent.validate (fun _ => sampleDigest) = .ok ())
    (short : String.utf8Len intent.toJson.chars ≤ 16000)
    (reads : readAmong CoordinationIntent.toJson known intent.toJson.text = some intent)
    (repository : intent.repositoryId = sampleItem.repository.providerRepositoryId)
    (item : intent.itemId = sampleItem.providerItemId) :
    EntryContract (.reading known) sampleConfig (sampleEntry commit intent createdAt)
      intent.expectedParentOid intent := by
  have rendered : intent.render (External.reading known).sha256Hex =
      .ok (journalFormat.wrap intent.toJson.text) :=
    RecordKind.render_of_short valid (show byteLength journalFormat.marker +
      byteLength journalFormat.endMarker ≤ 98 by decide) short
  have trusted : sampleConfig.isTrustedActor sampleActor = true := by decide
  have ids : (intentKind (External.reading known).sha256Hex).validateIds intent = .ok () := by
    simp only [intentKind, repository, item]
    decide +kernel
  have target : intent.requireTarget sampleConfig.anchorItem = .ok () := by
    simp [CoordinationIntent.requireTarget, refuseIf, repository, item, sampleConfig]
  exact ⟨rfl, rfl, trusted, rfl, rfl, RecordKind.parse_render rendered reads ids, target, rfl, rfl,
    rfl⟩

/-- The entries of the sample, with their intents. -/
def sampleSteps : List (VerifiedJournalEntry × CoordinationIntent) :=
  [(sampleEntry 'b' sampleClaim placeholderAt, sampleClaim),
    (sampleEntry 'c' sampleReserve placeholderAt, sampleReserve),
    (sampleEntry 'd' sampleSecond placeholderAt, sampleSecond),
    (sampleEntry 'e' sampleTakeover ⟨"1970-01-03T00:00:00Z", by rfl⟩, sampleTakeover)]

/-- The outside of the sample. -/
abbrev sampleExternal : External := .reading (sampleSteps.map Prod.snd)

/-- The intents of the sample are read. -/
theorem sampleSteps_read (listed : intent ∈ sampleSteps.map Prod.snd) :
    readAmong CoordinationIntent.toJson (sampleSteps.map Prod.snd) intent.toJson.text =
      some intent := by
  have apart : (sampleSteps.map Prod.snd).Pairwise
      fun a b => a.toJson.chars ≠ b.toJson.chars := by decide +kernel
  exact readAmong_text apart listed

/-- Every entry of the sample meets its contract. -/
theorem sampleSteps_contract : ∀ step ∈ sampleSteps,
    EntryContract sampleExternal sampleConfig step.1 step.1.parentOid step.2 := by
  intro step listed
  simp only [sampleSteps, List.mem_cons, List.not_mem_nil, or_false] at listed
  rcases listed with rfl | rfl | rfl | rfl <;>
    exact sampleEntry_contract (by decide +kernel) (by decide +kernel)
      (sampleSteps_read (by decide)) rfl rfl

/-- The first entries of the sample are chained. -/
theorem sampleSteps_linear (count : Fin 5) :
    LinearFrom (sampleOid 'a') ((sampleSteps.take count).map Prod.fst) := by
  revert count
  decide

/-- The history of the first entries of the sample. -/
def sampleHistory (count : Fin 5) : TrustedFiniteJournalHistory where
  anchorCommitOid := sampleOid 'a'
  entries := (sampleSteps.take count).map Prod.fst
  bounded := by
    revert count
    decide
  linear := sampleSteps_linear count

/-- The sample is reduced by applying its intents. -/
theorem sampleHistory_reduces {β : Type} {result : β} (count : Fin 5)
    (view : AuthoritySnapshot → β)
    (computed : (((sampleSteps.take count).foldlM (fun state step =>
      commitIntent sampleExternal sampleConfig none state step.1 step.2)
      (.initial sampleConfig)).map Reduction.snapshot).toOption.map view = some result) :
    ∃ snapshot, reduceTrustedJournalHistory sampleExternal sampleConfig none (sampleHistory count) =
      .ok snapshot ∧ view snapshot = result := by
  have apart : sampleSteps.Pairwise fun a b =>
      a.1.pointer.eventNonce ≠ b.1.pointer.eventNonce := by decide
  rw [reduceTrustedJournalHistory, sampleHistory, foldlM_reduceEntry
    (fun step listed => sampleSteps_contract step (List.mem_of_mem_take listed))
    (sampleSteps_linear count) (apart.sublist (List.take_sublist _ _))
    fun step _ => by simp [Reduction.initial]]
  exact ok_of_toOption computed

/-- The sample's snapshot is safe: its reservation belongs to the first owner, and the third has
taken the place of the second. -/
theorem reduce_authority_safe_sample : ∃ snapshot,
    reduceTrustedJournalHistory sampleExternal sampleConfig none (sampleHistory 4) = .ok snapshot ∧
    (snapshot.activeOwners.map fun record => (record.owner.activationNonce, record.scopes)) =
      [("n1", ["path:src"]), ("n3", ["path:docs"])] ∧
    snapshot.pendingReservations.length = 1 ∧
    (snapshot.activeOwners.Pairwise fun a b =>
      ∀ left ∈ a.scopes, ∀ right ∈ b.scopes, scopeKeysOverlap left right = false) ∧
    (snapshot.activeOwners.map (·.owner)).Nodup ∧
    (∀ reserve ∈ snapshot.pendingReservations,
      ∃ record ∈ snapshot.activeOwners, record.owner = reserve.owner) ∧
    (snapshot.committedEvents.map (·.eventNonce)).Nodup ∧
    ChainedTo sampleConfig.anchorCommitOid snapshot.committedEvents snapshot.journalHeadOid := by
  obtain ⟨snapshot, reduced, shown⟩ := sampleHistory_reduces 4 (fun snapshot =>
    (snapshot.activeOwners.map fun record => (record.owner.activationNonce, record.scopes),
      snapshot.pendingReservations.length))
    (by decide +kernel : _ = some ([("n1", ["path:src"]), ("n3", ["path:docs"])], 1))
  obtain ⟨owners, pending⟩ := Prod.mk.inj shown
  exact ⟨snapshot, reduced, owners, pending,
    reduce_authority_safe sampleExternal sampleConfig none (sampleHistory 4) snapshot reduced⟩

end Maco.Journal
