import Maco.Base.Sequence
import Maco.Journal.Authority

/-!
# Reserved effects are neither abandoned nor stolen

What the entries of a reducible history say about each other. The authority remembers, for every
active owner, the entry that activated it and its last sign of life, and, for every reservation not
completed since, the owner that made it. A transition writes one of these down or leaves it alone,
so the memory is exact after every prefix, and the guards of the next transition turn it into
statements about pairs of entries.
-/

namespace Maco.Journal

open Maco.Base BTreeMap Maco.Publication CoordinationIntent

/-! ## What an intent does -/

section

variable (owner : CoordinationOwnerIdentity) (intent : CoordinationIntent)

namespace CoordinationIntent

/-- The intent is a claim or a takeover by the owner. -/
def activates : Bool :=
  match intent.action with
  | .claim _ _ | .takeover _ _ _ => intent.owner == owner
  | _ => false

/-- The intent is a heartbeat of the owner. -/
def beats : Bool :=
  match intent.action with
  | .heartbeat => intent.owner == owner
  | _ => false

/-- The intent is a takeover of the owner. -/
def takesOver : Bool :=
  match intent.action with
  | .takeover predecessor _ _ => predecessor == owner
  | _ => false

/-- The intent is a release by the owner. -/
def releases : Bool :=
  match intent.action with
  | .release _ => intent.owner == owner
  | _ => false

/-- The intent reserves the effect. -/
def reserves (effectId : String) (intent : CoordinationIntent) : Bool :=
  match intent.action with
  | .effectReserve reserved _ => reserved == effectId
  | _ => false

/-- The intent completes the effect. -/
def completes (effectId : String) (intent : CoordinationIntent) : Bool :=
  match intent.action with
  | .effectComplete completed _ => completed == effectId
  | _ => false

/-- The intent is a heartbeat, a reservation, a completion or a release by the owner. -/
def actsAs : Bool :=
  match intent.action with
  | .heartbeat | .effectReserve _ _ | .effectComplete _ _ | .release _ => intent.owner == owner
  | _ => false

end CoordinationIntent

end

/-- The entry carries an intent of the kind. -/
def Says (external : External) (kind : CoordinationIntent → Bool)
    (entry : VerifiedJournalEntry) : Prop :=
  ∃ intent, external.parse entry.comment.body = .ok (some intent) ∧ kind intent = true

variable {entry : VerifiedJournalEntry} {intent : CoordinationIntent}

/-- An entry of known intent says what its intent does. -/
theorem says_iff {external : External} {kind : CoordinationIntent → Bool}
    (parsed : external.parse entry.comment.body = .ok (some intent)) :
    Says external kind entry ↔ kind intent = true := by
  constructor
  · rintro ⟨other, read, holds⟩
    rw [parsed] at read
    cases read
    exact holds
  · exact fun holds => ⟨intent, parsed, holds⟩

/-! ## What a transition remembers -/

variable {owner : CoordinationOwnerIdentity} {effectId : String}
  {reserve : PendingEffectReservation}

section Steps

variable {external : External} {config : CoordinationJournalConfig}
  {verifier : EffectReconciliationVerifier} {intent : CoordinationIntent}
  {actor : ForgeActor} {time : ForgeTimestamp} {before next : Authority}

/-- The intent changes who holds the owner's activation. -/
def CoordinationIntent.turnsOver (owner : CoordinationOwnerIdentity)
    (intent : CoordinationIntent) : Bool :=
  intent.activates owner || intent.takesOver owner || intent.releases owner

section

variable (rule : Transition external config verifier intent ⟨actor, some time⟩ before next)

include rule

/-- An owner active after a transition was just activated, was just heard of, or is as before and
the intent did not concern it. -/
theorem Transition.owner_cases (active : next.activeOwners[owner]? = some record) :
    (intent.activates owner = true ∧ record.lease.Configured config.timing ∧
      record.boundClaimActor = actor ∧ record.lastHeartbeatAt = time) ∨
    (intent.beats owner = true ∧ intent.turnsOver owner = false ∧
      ∃ old, before.activeOwners[owner]? = some old ∧
        record = { old with lastHeartbeatAt := time }) ∨
    (intent.beats owner = false ∧ intent.turnsOver owner = false ∧
      before.activeOwners[owner]? = some record) := by
  cases rule with
  | claim action configured fresh free =>
    rcases get_insert_cases active with ⟨rfl, rfl⟩ | ⟨different, active⟩
    · exact .inl ⟨by simp [activates, action], configured, rfl, rfl⟩
    · exact .inr (.inr ⟨by simp [beats, action],
        by simp [turnsOver, activates, takesOver, releases, action, different], active⟩)
  | heartbeatDeferred action held bound deferred => cases deferred
  | heartbeat action held bound observed forward =>
    cases observed
    have quiet : intent.turnsOver owner = false := by
      simp [turnsOver, activates, takesOver, releases, action]
    rcases get_insert_cases active with ⟨rfl, rfl⟩ | ⟨different, active⟩
    · exact .inr (.inl ⟨by simp [beats, action], quiet, _, held, rfl⟩)
    · exact .inr (.inr ⟨by simp [beats, action, different], quiet, active⟩)
  | takeover action configured held exactScopes unblocked ranOut free fresh =>
    rcases get_insert_cases active with ⟨rfl, rfl⟩ | ⟨different, active⟩
    · exact .inl ⟨by simp [activates, action], configured, rfl, rfl⟩
    · obtain ⟨other, active⟩ := get_erase_some active
      exact .inr (.inr ⟨by simp [beats, action],
        by simp [turnsOver, activates, takesOver, releases, action, different, other], active⟩)
  | release action held bound unblocked =>
    obtain ⟨different, active⟩ := get_erase_some active
    exact .inr (.inr ⟨by simp [beats, action],
      by simp [turnsOver, activates, takesOver, releases, action, different], active⟩)
  | reserve action =>
    exact .inr (.inr ⟨by simp [beats, action],
      by simp [turnsOver, activates, takesOver, releases, action], active⟩)
  | complete action =>
    exact .inr (.inr ⟨by simp [beats, action],
      by simp [turnsOver, activates, takesOver, releases, action], active⟩)

/-- A reservation stays pending until its effect is completed. -/
theorem Transition.pending_kept (pending : before.pending[effectId]? = some reserve)
    (unfinished : intent.completes effectId = false) : next.pending[effectId]? = some reserve := by
  cases rule with
  | claim | heartbeatDeferred | heartbeat | takeover | release => exact pending
  | @reserve other _ _ action active bound fresh =>
    exact (get_insert_fresh fresh).mpr (.inl pending)
  | @complete other _ _ _ action =>
    have different : other ≠ effectId := by simpa [completes, action] using unfinished
    rw [get_erase, if_neg different, pending]

/-- A reservation is pending for the owner that made it. -/
theorem Transition.pending_new (reserved : intent.reserves effectId = true) :
    ∃ reserve, next.pending[effectId]? = some reserve ∧ reserve.owner = intent.owner := by
  cases rule with
  | @reserve other publicationEffect _ action =>
    have same : other = effectId := by simpa [reserves, action] using reserved
    exact ⟨_, by rw [get_insert, if_pos same], rfl⟩
  | claim action | heartbeatDeferred action | heartbeat action | takeover action | release action
  | complete action => simp [reserves, action] at reserved

end

end Steps

/-! ## What the authority remembers -/

section Memory

variable (external : External) (config : CoordinationJournalConfig)

/-- The last activation of the owner, by the actor. -/
def ActivatedBy (owner : CoordinationOwnerIdentity) (actor : ForgeActor) :
    List VerifiedJournalEntry → Prop :=
  LastBefore (fun entry => Says external (·.activates owner) entry ∧ entry.comment.author = actor)
    (Says external (·.turnsOver owner))

/-- The last sign of life of the owner, at the time. -/
def LastHeard (owner : CoordinationOwnerIdentity) (time : ForgeTimestamp) :
    List VerifiedJournalEntry → Prop :=
  LastBefore (fun entry =>
      Says external (fun intent => intent.activates owner || intent.beats owner) entry ∧
        entry.comment.createdAt = time)
    (Says external fun intent => intent.turnsOver owner || intent.beats owner)

/-- What the authority remembers of the entries read so far. -/
structure Remembers (read : List VerifiedJournalEntry) (authority : Authority) : Prop where
  lease : ∀ (owner : CoordinationOwnerIdentity) record,
    authority.activeOwners[owner]? = some record → record.lease.Configured config.timing
  activated : ∀ (owner : CoordinationOwnerIdentity) record,
    authority.activeOwners[owner]? = some record →
      ActivatedBy external owner record.boundClaimActor read
  heard : ∀ (owner : CoordinationOwnerIdentity) record,
    authority.activeOwners[owner]? = some record →
      LastHeard external owner record.lastHeartbeatAt read
  reserved : ∀ earlier entry later intent effectId, read = earlier ++ entry :: later →
    external.parse entry.comment.body = .ok (some intent) → intent.reserves effectId = true →
    (∀ other ∈ later, ¬ Says external (·.completes effectId) other) →
      ∃ reserve, authority.pending[effectId]? = some reserve ∧ reserve.owner = intent.owner

variable {external config} {verifier : EffectReconciliationVerifier}

variable {before next : Authority}

/-- Each entry read updates the memory. -/
theorem Remembers.step {read : List VerifiedJournalEntry}
    (memory : Remembers external config read before)
    (parsed : external.parse entry.comment.body = .ok (some intent))
    (rule : Transition external config verifier intent entry.admission before next) :
    Remembers external config (read ++ [entry]) next where
  lease owner record active := by
    rcases rule.owner_cases active with ⟨-, configured, -, -⟩ | ⟨-, -, old, held, rfl⟩ |
      ⟨-, -, held⟩
    · exact configured
    · exact memory.lease owner old held
    · exact memory.lease owner record held
  activated owner record active := by
    rcases rule.owner_cases active with ⟨activates, -, actor, -⟩ | ⟨-, quiet, old, held, rfl⟩ |
      ⟨-, quiet, held⟩
    · exact .now read ⟨(says_iff parsed).mpr activates, actor.symm⟩
    · exact (memory.activated owner old held).keep (by simp [says_iff parsed, quiet])
    · exact (memory.activated owner record held).keep (by simp [says_iff parsed, quiet])
  heard owner record active := by
    rcases rule.owner_cases active with ⟨activates, -, -, time⟩ | ⟨beats, -, old, -, rfl⟩ |
      ⟨silent, quiet, held⟩
    · exact .now read ⟨(says_iff parsed).mpr (by simp [activates]), time.symm⟩
    · exact .now read ⟨(says_iff parsed).mpr (by simp [beats]), rfl⟩
    · exact (memory.heard owner record held).keep (by simp [says_iff parsed, quiet, silent])
  reserved earlier item later reserving effectId split read reserves pending := by
    rcases append_singleton_split split with ⟨rfl, rfl, rfl⟩ | ⟨rest, rfl, grown⟩
    · rw [parsed] at read
      cases read
      exact rule.pending_new reserves
    · obtain ⟨reserve, found, owner⟩ := memory.reserved earlier item rest reserving effectId grown
        read reserves fun other member => pending other (List.mem_append_left _ member)
      have unfinished : intent.completes effectId = false := by
        simpa [says_iff parsed] using pending entry (by simp)
      exact ⟨reserve, rule.pending_kept found unfinished, owner⟩

/-- The authority of every prefix remembers it. -/
theorem reduction_remembers {entries : List VerifiedJournalEntry} {state : Reduction}
    (reduced : entries.foldlM (reduceEntry external config verifier) (.initial config) =
      .ok state) : Remembers external config entries state.authority := by
  refine foldlM_invariant (fun read state => Remembers external config read state.authority)
    ?_ ?_ reduced
  · intro read entry state next memory stepped
    obtain ⟨-, intent, authority, contract, rule, rfl⟩ := reduceEntry_ok.mp stepped
    exact memory.step contract.parsed rule
  · exact ⟨by simp [Reduction.initial], by simp [Reduction.initial], by simp [Reduction.initial],
      by simp⟩

/-- Each entry of a reducible history is a transition from an authority that remembers the entries
before it. -/
theorem reduce_entry_transition {before after : List VerifiedJournalEntry}
    (reduced : reduceTrustedJournalHistory external config verifier history = .ok snapshot)
    (split : history.entries = before ++ entry :: after) :
    ∃ intent authority next, external.parse entry.comment.body = .ok (some intent) ∧
      Remembers external config before authority ∧
      Transition external config verifier intent entry.admission authority next := by
  obtain ⟨final, folded, -⟩ := map_ok.mp reduced
  rw [split] at folded
  obtain ⟨state, next, reached, stepped⟩ := foldlM_split folded
  obtain ⟨-, intent, authority, contract, rule, -⟩ := reduceEntry_ok.mp stepped
  exact ⟨intent, state.authority, authority, contract.parsed, reduction_remembers reached, rule⟩

variable {admission : ProposedIntentAdmission}

/-- An owner that acts is active and acts through the actor bound to it. -/
theorem Transition.acting_owner
    (rule : Transition external config verifier intent admission before next)
    (acts : intent.actsAs owner = true) :
    ∃ record, before.activeOwners[owner]? = some record ∧
      record.boundClaimActor = admission.boundActor := by
  cases rule with
  | claim action | takeover action => simp [actsAs, action] at acts
  | heartbeatDeferred action active actor | heartbeat action active actor
  | release action active actor | reserve action active actor | complete action active actor =>
    have same : intent.owner = owner := by simpa [actsAs, action] using acts
    exact ⟨_, same ▸ active, actor.symm⟩

/-- An owner taken over was active, and its lease had run out. -/
theorem Transition.taken_owner {actor : ForgeActor} {time : ForgeTimestamp}
    (rule : Transition external config verifier intent ⟨actor, some time⟩ before next)
    (taken : intent.takesOver owner = true) :
    ∃ record, before.activeOwners[owner]? = some record ∧ leaseRunOut record time = .ok true := by
  cases rule with
  | @takeover predecessor _ _ record action configured active exactScopes unblocked ranOut =>
    have same : predecessor = owner := by simpa [takesOver, action] using taken
    exact ⟨record, same ▸ active, ranOut time rfl⟩
  | claim action | heartbeatDeferred action | heartbeat action | release action | reserve action
  | complete action => simp [takesOver, action] at taken

/-- A pending reservation keeps its owner from being removed and its effect from being reserved
again. -/
theorem Transition.blocked (rule : Transition external config verifier intent admission before next)
    (pending : before.pending[effectId]? = some reserve) :
    intent.takesOver reserve.owner = false ∧ intent.releases reserve.owner = false ∧
      intent.reserves effectId = false := by
  cases rule with
  | takeover action configured active exactScopes unblocked =>
    have other := (unblocked effectId reserve pending).symm
    simp [takesOver, releases, reserves, action, other]
  | release action active actor unblocked =>
    have other := (unblocked effectId reserve pending).symm
    simp [takesOver, releases, reserves, action, other]
  | @reserve reserved _ _ action active actor fresh =>
    have other := ne_of_fresh fresh pending
    simp [takesOver, releases, reserves, action, other]
  | claim action | heartbeatDeferred action | heartbeat action | complete action =>
    simp [takesOver, releases, reserves, action]

end Memory

/-- In every history that reduces:
* after an entry that reserves an effect, up to the entry that completes it, no entry takes over
  the reserving owner, none is a release by it, and none reserves the effect again;
* every heartbeat, reservation, completion and release of an owner is authored by the very actor
  that authored the owner's last activation, and nothing removed or activated the owner since;
* an owner is taken over only when the takeover's provider time lies more than the stale threshold
  after the owner's last heartbeat or activation. -/
theorem reduce_effect_safe (external : External) (config : CoordinationJournalConfig)
    (verifier : EffectReconciliationVerifier) (history : TrustedFiniteJournalHistory)
    (snapshot : AuthoritySnapshot)
    (reduced : reduceTrustedJournalHistory external config verifier history = .ok snapshot) :
    (∀ before entry between later after intent effectId,
      history.entries = before ++ entry :: (between ++ later :: after) →
      external.parse entry.comment.body = .ok (some intent) → intent.reserves effectId = true →
      (∀ other ∈ between, ¬ Says external (·.completes effectId) other) →
        ¬ Says external (·.takesOver intent.owner) later ∧
        ¬ Says external (·.releases intent.owner) later ∧
        ¬ Says external (·.reserves effectId) later) ∧
    (∀ before entry after owner, history.entries = before ++ entry :: after →
      Says external (·.actsAs owner) entry →
        LastBefore
          (fun activation => Says external (·.activates owner) activation ∧
            activation.comment.author = entry.comment.author) (Says external fun intent =>
            intent.activates owner || intent.takesOver owner || intent.releases owner)
          before) ∧
    (∀ before entry after owner, history.entries = before ++ entry :: after →
      Says external (·.takesOver owner) entry →
        LastBefore
          (fun sign => Says external (fun intent => intent.activates owner || intent.beats owner)
              sign ∧
            ∃ heard taken, timestampSeconds sign.comment.createdAt = .ok heard ∧
              timestampSeconds entry.comment.createdAt = .ok taken ∧
              heard + config.timing.staleAfterSeconds < taken)
          (Says external fun intent => intent.activates owner || intent.takesOver owner ||
            intent.releases owner || intent.beats owner)
          before) := by
  refine ⟨?_, ?_, ?_⟩
  · intro before entry between later after reserving effectId split read reserves unfinished
    have regrouped : history.entries = (before ++ entry :: between) ++ later :: after := by
      simpa using split
    obtain ⟨intent, authority, next, parsed, memory, rule⟩ :=
      reduce_entry_transition reduced regrouped
    obtain ⟨reserve, pending, owner⟩ :=
      memory.reserved before entry between reserving effectId rfl read reserves unfinished
    have blocked := rule.blocked pending
    rw [owner] at blocked
    simpa [says_iff parsed] using blocked
  · intro before entry after owner split acts
    obtain ⟨intent, authority, next, parsed, memory, rule⟩ := reduce_entry_transition reduced split
    obtain ⟨record, active, actor⟩ := rule.acting_owner ((says_iff parsed).mp acts)
    have activated := memory.activated owner record active
    rw [actor] at activated
    exact activated
  · intro before entry after owner split taken
    obtain ⟨intent, authority, next, parsed, memory, rule⟩ := reduce_entry_transition reduced split
    obtain ⟨record, active, ranOut⟩ := rule.taken_owner ((says_iff parsed).mp taken)
    simp only [leaseRunOut, bind_ok, elapsedStrictlyAfter_eq_true,
      (memory.lease owner record active).stale] at ranOut
    obtain ⟨now, observed, heard, beat, past⟩ := ranOut
    refine (memory.heard owner record active).imp fun sign ⟨alive, created⟩ => ?_
    exact ⟨alive, heard, now, created ▸ beat, observed, past⟩

/-- In the sample, the reservation is authored by the actor of the claim before it, the owner that
reserved is not the one taken over, and the one taken over had not been heard of for a day. -/
theorem reduce_effect_safe_sample : ∃ claim reserve second takeover,
    (sampleHistory 4).entries = [claim, reserve, second, takeover] ∧
    ¬ Says sampleExternal (·.takesOver sampleClaim.owner) takeover ∧
    LastBefore
      (fun activation => Says sampleExternal (·.activates sampleClaim.owner) activation ∧
        activation.comment.author = reserve.comment.author)
      (Says sampleExternal fun intent => intent.activates sampleClaim.owner ||
        intent.takesOver sampleClaim.owner || intent.releases sampleClaim.owner)
      [claim] ∧
    LastBefore
      (fun sign => Says sampleExternal (fun intent => intent.activates sampleSecond.owner ||
          intent.beats sampleSecond.owner) sign ∧
        ∃ heard taken, timestampSeconds sign.comment.createdAt = .ok heard ∧
          timestampSeconds takeover.comment.createdAt = .ok taken ∧ heard + 86400 < taken)
      (Says sampleExternal fun intent => intent.activates sampleSecond.owner ||
        intent.takesOver sampleSecond.owner || intent.releases sampleSecond.owner ||
        intent.beats sampleSecond.owner)
      [claim, reserve, second] := by
  obtain ⟨snapshot, reduced, -⟩ :=
    sampleHistory_reduces 4 (fun _ => ()) (by decide +kernel : _ = some ())
  obtain ⟨blocks, acts, takes⟩ :=
    reduce_effect_safe sampleExternal sampleConfig none (sampleHistory 4) snapshot reduced
  have parsed (step : VerifiedJournalEntry × CoordinationIntent) (listed : step ∈ sampleSteps) :=
    (sampleSteps_contract step listed).parsed
  refine ⟨_, _, _, _, rfl, ?_, ?_, ?_⟩
  · exact (blocks [_] _ [_] _ [] _ "push" rfl (parsed _ (.tail _ (.head _))) (by decide)
      (by
        simp only [List.forall_mem_singleton, says_iff (parsed _ (.tail _ (.tail _ (.head _))))]
        decide)).1
  · exact acts [_] _ _ sampleClaim.owner rfl ⟨_, parsed _ (.tail _ (.head _)), by decide⟩
  · exact takes [_, _, _] _ [] sampleSecond.owner rfl
      ⟨_, parsed _ (.tail _ (.tail _ (.tail _ (.head _)))), by decide⟩

end Maco.Journal
