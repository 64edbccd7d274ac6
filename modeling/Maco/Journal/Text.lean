import Maco.Journal.Authority

/-!
# Intents as text

An intent that a constructor built is read back from its text, and a text that is read is the text
of its intent. What the reader accepts passes the checks of the constructors but for one: the run
identity of an owner is checked when the owner is made and not when it is read.
-/

namespace Maco.Journal

open Maco.Base Maco.Publication

/-- `CoordinationIntent::new`, to which every public constructor hands its action. -/
def CoordinationIntent.new (sha256Hex : String → String) (item : ForgeItem)
    (eventNonce expectedParentOid : String) (owner : CoordinationOwnerIdentity)
    (action : CoordinationIntentAction) : Except String CoordinationIntent := do
  let value : CoordinationIntent :=
    { schema := journalFormat.schema
      version := 1
      repositoryId := item.repository.providerRepositoryId
      itemId := item.providerItemId
      eventNonce
      expectedParentOid
      owner
      action }
  value.validate sha256Hex
  pure value

/-- The owners an intent names. -/
def CoordinationIntent.owners (intent : CoordinationIntent) : List CoordinationOwnerIdentity :=
  match intent.action with
  | .takeover predecessor _ _ => [intent.owner, predecessor]
  | _ => [intent.owner]

variable {external : External} {intent : CoordinationIntent} {body : String}

/-- What the reader checks of an intent. -/
theorem External.parse_ok (accepted : external.parse body = .ok (some intent)) :
    (intent.repositoryId.validate = .ok () ∧ intent.itemId.validate = .ok ()) ∧
      intent.validate external.sha256Hex = .ok () ∧
      intent.render external.sha256Hex = .ok body := by
  rw [External.parse, RecordKind.parse] at accepted
  split at accepted
  · rw [map_ok] at accepted
    obtain ⟨_, marked, same⟩ := accepted
    cases same
    simp only [RecordKind.parseMarked, RecordKind.decode, intentKind, ok_iff, context_ok,
      not_not] at marked
    obtain ⟨-, json, -, -, _, ⟨_, -, ⟨⟩, ⟨⟨⟩, repository, item⟩, rfl⟩, ⟨⟩, valid, _, renders, rfl,
      rfl⟩ := marked
    exact ⟨⟨repository, item⟩, valid, renders⟩
  · cases accepted

/-- A valid intent is the one its fields make for its item. -/
theorem CoordinationIntent.new_eq {sha256Hex : String → String}
    (valid : intent.validate sha256Hex = .ok ()) (target : intent.requireTarget item = .ok ()) :
    CoordinationIntent.new sha256Hex item intent.eventNonce intent.expectedParentOid intent.owner
      intent.action = .ok intent := by
  have kept := valid
  simp only [CoordinationIntent.validate, CoordinationIntent.requireTarget, ok_iff, not_or,
    not_not] at valid target
  obtain ⟨⟨schema, version⟩, -⟩ := valid
  simp only [CoordinationIntent.new, ← schema, ← version, ← target.1, ← target.2, kept, ok_bind]
  rfl

/-- The owners of a valid intent are valid. -/
theorem CoordinationIntent.owners_valid {sha256Hex : String → String}
    (valid : intent.validate sha256Hex = .ok ()) :
    ∀ owner ∈ intent.owners, owner.validate = .ok () := by
  simp only [CoordinationIntent.validate, ok_iff] at valid
  obtain ⟨-, -, ⟨⟩, -, ⟨⟩, -, ⟨⟩, own, action⟩ := valid
  rw [CoordinationIntent.validateAction] at action
  rw [CoordinationIntent.owners]
  cases kind : intent.action with
  | takeover predecessor scopes lease =>
    simp only [kind, ok_iff] at action
    obtain ⟨⟨⟩, prior, -⟩ := action
    simp [own, prior]
  | claim | heartbeat | release | effectReserve | effectComplete => simp [own]

/-- The check on an owner that its constructor adds. -/
theorem CoordinationOwnerIdentity.new_ok_iff (valid : owner.validate = .ok ()) :
    CoordinationOwnerIdentity.new owner.runIdentity owner.activationNonce = .ok owner ↔
      byteLength owner.runIdentity ≤ maxRunIdentityBytes ∧
        ∃ run, runIdNew owner.runIdentity = .ok run := by
  simp only [CoordinationOwnerIdentity.new, ok_iff, context_ok, not_lt, valid, and_true]

/-- Intents and their texts: what a constructor built is read back from its text, as soon as the
JSON reader reads back the payload the writer wrote; and a text that is read is the text of its
intent, whose fields the constructor accepts, and whose owners their constructor accepts exactly
when it accepts their run identities. -/
theorem parse_inverts_render (external : External) :
    (∀ item nonce parent owner action intent body, item.validate = .ok () →
      CoordinationIntent.new external.sha256Hex item nonce parent owner action = .ok intent →
      intent.render external.sha256Hex = .ok body →
      external.intentFromStr intent.toJson.text = some intent →
        external.parse body = .ok (some intent)) ∧
    ∀ body intent, external.parse body = .ok (some intent) →
      intent.render external.sha256Hex = .ok body ∧
      (intent.repositoryId.validate = .ok () ∧ intent.itemId.validate = .ok ()) ∧
      (∀ item, intent.requireTarget item = .ok () →
        CoordinationIntent.new external.sha256Hex item intent.eventNonce intent.expectedParentOid
          intent.owner intent.action = .ok intent) ∧
      ∀ owner ∈ intent.owners,
        CoordinationOwnerIdentity.new owner.runIdentity owner.activationNonce = .ok owner ↔
          byteLength owner.runIdentity ≤ maxRunIdentityBytes ∧
            ∃ run, runIdNew owner.runIdentity = .ok run := by
  constructor
  · intro item nonce parent owner action intent body known made rendered reads
    simp only [CoordinationIntent.new, ForgeItem.validate, ForgeRepository.validate,
      requireObjectId, ok_iff] at made known
    obtain ⟨⟨⟩, -, rfl⟩ := made
    obtain ⟨⟨⟨⟩, -, ⟨⟩, -, ⟨⟩, repository, -⟩, -, ⟨⟨⟩, stable, -⟩, -⟩ := known
    exact RecordKind.parse_render rendered reads (bind_ok.mpr ⟨(), repository, stable⟩)
  · intro body intent accepted
    obtain ⟨ids, valid, renders⟩ := External.parse_ok accepted
    refine ⟨renders, ids, fun item target => CoordinationIntent.new_eq valid target, ?_⟩
    intro owner named
    exact CoordinationOwnerIdentity.new_ok_iff (CoordinationIntent.owners_valid valid owner named)

/-- The claim of the sample is built, rendered and read back, and its owner is accepted. -/
theorem parse_inverts_render_sample :
    sampleExternal.parse (journalFormat.wrap sampleClaim.toJson.text) = .ok (some sampleClaim) ∧
      CoordinationOwnerIdentity.new "run" "n1" = .ok ⟨"run", "n1"⟩ := by
  have contract : EntryContract sampleExternal sampleConfig
      (sampleEntry 'b' sampleClaim placeholderAt) (sampleOid 'a') sampleClaim :=
    sampleSteps_contract _ (.head _)
  obtain ⟨reads, accepts⟩ := parse_inverts_render sampleExternal
  obtain ⟨renders, -, made, owners⟩ := accepts _ _ contract.parsed
  have built := made sampleItem (by decide +kernel)
  have known := sampleSteps_read (by decide : sampleClaim ∈ sampleSteps.map Prod.snd)
  refine ⟨reads _ _ _ _ _ _ _ (by decide +kernel) built renders ?_, ?_⟩
  · simpa only [External.reading] using known
  · exact (owners ⟨"run", "n1"⟩ (by decide)).mpr ⟨by decide, "run", by decide +kernel⟩

/-- A heartbeat of a run identity with a space in it. -/
def spacedHeartbeat : CoordinationIntent :=
  { sampleIntent "e1" 'a' "n1" .heartbeat with owner := ⟨"a b", "n1"⟩ }

/-- The heartbeat is read, but its owner could not have been made. -/
theorem parse_accepts_spaced_run :
    (External.reading [spacedHeartbeat]).parse
      (journalFormat.wrap spacedHeartbeat.toJson.text) = .ok (some spacedHeartbeat) ∧
    CoordinationOwnerIdentity.new "a b" "n1" =
      .error "coordination run identity is invalid" := by
  have contract : EntryContract (.reading [spacedHeartbeat]) sampleConfig
      (sampleEntry 'b' spacedHeartbeat placeholderAt) (sampleOid 'a') spacedHeartbeat :=
    sampleEntry_contract (by decide +kernel) (by decide +kernel)
      (readAmong_text (List.pairwise_singleton _ _) List.mem_cons_self) rfl rfl
  exact ⟨contract.parsed, by decide +kernel⟩

end Maco.Journal
