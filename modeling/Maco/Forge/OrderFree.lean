import Maco.Forge.Reading

/-!
# Reconstruction reads a set of trusted comments

What a thread is reconstructed to depends neither on the order of its comments nor on anything an
untrusted actor writes. The order could show in which of several equal records is kept, which is
settled by their rank, and in the order of the reported replays, which is settled by sorting.
-/

namespace Maco.Forge

open Maco.Base Maco.Publication List

variable {observedAt : ForgeTimestamp}

/-- Replays that the report order tells apart may be listed in any order. -/
theorem snapshotOf_perm (perm : left.Perm right)
    (apart : ∀ x ∈ left, ∀ y ∈ left, reportKey x.provenance x.eventId =
      reportKey y.provenance y.eventId → x = y) :
    snapshotOf observedAt records left = snapshotOf observedAt records right := by
  have sorted (rest : List RecordDisposition) :
      sortBy (fun disposition => reportKey disposition.provenance disposition.eventId)
        (left ++ rest) =
      sortBy (fun disposition => reportKey disposition.provenance disposition.eventId)
        (right ++ rest) := sortBy_append_perm perm apart rest
  simp only [snapshotOf, append_assoc, sorted]

section Engine

variable {recordFromStr : RecordReader} {engine : ForgeCoordinationEngine}

variable {item : ForgeItem} {comments : List ForgeComment}

/-- The replays of a thread are told apart by their comments. -/
theorem replay_reportKey_injective (distinct : (comments.map ForgeComment.providerCommentId).Nodup)
    (keeps : Earliest.keepAll ObservedRecord.rank requireSameRecord
      (byEventId (carried recordFromStr engine item comments)) = .ok kept)
    (inLeft : x ∈ kept.displaced.map (·.disposition .replay))
    (inRight : y ∈ kept.displaced.map (·.disposition .replay))
    (same : reportKey x.provenance x.eventId = reportKey y.provenance y.eventId) : x = y := by
  obtain ⟨left, displacedLeft, rfl⟩ := mem_map.mp inLeft
  obtain ⟨right, displacedRight, rfl⟩ := mem_map.mp inRight
  have listed := (Earliest.keepAll_earliest keeps).2
  have read {observed : ObservedRecord} (displaced : observed ∈ kept.displaced) :
      observed ∈ carried recordFromStr engine item comments := by
    have member := listed.subset (mem_append_left _ displaced)
    simpa [byEventId] using member
  have keys : left.provenance.key = right.provenance.key :=
    congrArg (fun key => (ofLex key).1) same
  have ids : left.provenance.providerCommentId = right.provenance.providerCommentId :=
    congrArg (fun key => (ofLex key).2) keys
  rw [carried_rank_injective distinct (read displacedLeft) (read displacedRight) ids]

variable {snapshot : CoordinationSnapshot}

/-- Records carried in another order have the same snapshot. -/
theorem snapshotOfCarried_perm (distinct : (comments.map ForgeComment.providerCommentId).Nodup)
    (perm : (carried recordFromStr engine item comments).Perm others)
    (shown : snapshotOfCarried observedAt (carried recordFromStr engine item comments) =
      .ok snapshot) : snapshotOfCarried observedAt others = .ok snapshot := by
  rw [snapshotOfCarried, bind_ok] at shown
  obtain ⟨kept, keeps, shown⟩ := shown
  have ranks : ∀ eventId left right,
      (eventId, left) ∈ byEventId (carried recordFromStr engine item comments) →
      (eventId, right) ∈ byEventId (carried recordFromStr engine item comments) →
      left.rank = right.rank → left = right := by
    intro eventId left right inLeft inRight same
    have ids : left.provenance.providerCommentId = right.provenance.providerCommentId :=
      congrArg (fun key => (ofLex key).2) same
    exact carried_rank_injective distinct (mem_byEventId.mp inLeft).1
      (mem_byEventId.mp inRight).1 ids
  have entries : (byEventId (carried recordFromStr engine item comments)).Perm
      (byEventId others) := perm.map _
  obtain ⟨other, reads, table, displaced⟩ :=
    Earliest.keepAll_perm requireSameRecord_ok ranks entries keeps
  have replays := displaced.map (ObservedRecord.disposition .replay)
  have same : snapshotOf observedAt kept.table.values _ =
      snapshotOf observedAt kept.table.values _ := snapshotOf_perm replays
    fun x inLeft y inRight => replay_reportKey_injective distinct keeps inLeft inRight
  rw [snapshotOfCarried, reads, ok_bind, table, ← same]
  exact shown

/-- A comment by an untrusted actor is read as discussion. -/
theorem readComment_untrusted (untrusted : engine.isTrustedActor comment.author = false) :
    readComment recordFromStr engine item comment = .ok none := by
  rw [readComment, untrusted]
  rfl

/-- A reconstruction carries over to a thread with the same trusted comments. -/
theorem reconstruct_transfer {left right : ItemThreadObservation} {snapshot : CoordinationSnapshot}
    (item : left.item = right.item) (time : left.observedAt = right.observedAt)
    (trusted : (left.comments.filter (engine.isTrustedActor ·.author)).Perm
      (right.comments.filter (engine.isTrustedActor ·.author)))
    (success : reconstruct recordFromStr engine left = .ok snapshot) :
    reconstruct recordFromStr engine right = .ok snapshot := by
  obtain ⟨provider, reads, bounded, shown⟩ := reconstruct_ok.mp success
  rw [item] at provider reads bounded shown
  have perm : (carried recordFromStr engine right.item left.comments).Perm
      (carried recordFromStr engine right.item right.comments) := by
    rw [← carried_trusted, ← carried_trusted right.item right.comments]
    exact trusted.filterMap _
  have readsToo : ∀ comment ∈ right.comments,
      ∃ found, readComment recordFromStr engine right.item comment = .ok found := by
    intro comment member
    cases known : engine.isTrustedActor comment.author with
    | false => exact ⟨none, readComment_untrusted known⟩
    | true =>
      have listed := trusted.mem_iff.mpr (mem_filter.mpr ⟨member, known⟩)
      exact reads comment (mem_filter.mp listed).1
  have shownToo := snapshotOfCarried_perm left.nodup_ids perm shown
  exact reconstruct_ok.mpr ⟨provider, readsToo, perm.length_eq ▸ bounded, time ▸ shownToo⟩

end Engine

/-- Two threads of one item, observed at one time, whose trusted comments are the same up to order
reconstruct to the same snapshot, or both fail; the untrusted comments may differ. -/
theorem reconstruct_trusted_set (recordFromStr : RecordReader) (engine : ForgeCoordinationEngine)
    (left right : ItemThreadObservation) (item : left.item = right.item)
    (time : left.observedAt = right.observedAt)
    (trusted : (left.comments.filter (engine.isTrustedActor ·.author)).Perm
      (right.comments.filter (engine.isTrustedActor ·.author))) :
    (reconstruct recordFromStr engine left).toOption =
      (reconstruct recordFromStr engine right).toOption := by
  have forth (snapshot : CoordinationSnapshot) :
      reconstruct recordFromStr engine left = .ok snapshot →
        reconstruct recordFromStr engine right = .ok snapshot :=
    reconstruct_transfer item time trusted
  have back (snapshot : CoordinationSnapshot) :
      reconstruct recordFromStr engine right = .ok snapshot →
        reconstruct recordFromStr engine left = .ok snapshot :=
    reconstruct_transfer item.symm time.symm trusted.symm
  cases first : reconstruct recordFromStr engine left with
  | ok snapshot => rw [forth snapshot first]
  | error refusal =>
    cases second : reconstruct recordFromStr engine right with
    | ok snapshot =>
      have found := back snapshot second
      rw [first] at found
      cases found
    | error refusalToo => rfl

/-- An untrusted actor. -/
def sampleStranger : ForgeActor := ⟨"github", ⟨"github", .actor, "A2"⟩, "stranger", .human⟩

/-- What the untrusted actor writes. -/
def sampleRemark : ForgeComment where
  providerCommentId := ⟨"github", .comment, "3"⟩
  author := sampleStranger
  body := "<!-- maco:forge-coordination:v1 -->"
  url := "https://github.com/acme/repo"
  createdAt := sampleStart

/-- The sample thread in another order, with an untrusted remark that imitates a record. -/
def shuffledThread : ItemThreadObservation where
  item := sampleItem
  observedAt := sampleTakeover
  comments := [sampleSecondComment, sampleRemark, sampleFirstComment]
  valid := by
    have remark : sampleRemark.validate = .ok () := by decide +kernel
    simp only [validateThread, foldlM_cons, foldlM_nil, checkThreadComment,
      sampleComments_valid.1, sampleComments_valid.2, remark, ok_bind]
    simp only [threadJson, Json.size, map, ForgeComment.toJson, sampleComment, Json.chars,
      Json.memberChars, Json.itemChars, quotedChars, commaSeparated, toList_wrap]
    decide +kernel

/-- The shuffled thread reconstructs as the sample thread does. -/
theorem reconstruct_trusted_set_sample :
    (reconstruct sampleReader sampleEngine sampleThread).toOption =
      (reconstruct sampleReader sampleEngine shuffledThread).toOption := by
  have trusted : sampleEngine.isTrustedActor sampleActor = true := by decide
  have untrusted : sampleEngine.isTrustedActor sampleStranger = false := by decide
  have shuffled (first second remark : ForgeComment) (byFirst : first.author = sampleActor)
      (bySecond : second.author = sampleActor) (byRemark : remark.author = sampleStranger) :
      ([first, second].filter (sampleEngine.isTrustedActor ·.author)).Perm
        ([second, remark, first].filter (sampleEngine.isTrustedActor ·.author)) := by
    simp only [filter_cons, byFirst, bySecond, byRemark, trusted, untrusted, if_true]
    exact List.Perm.swap _ _ _
  exact reconstruct_trusted_set _ _ sampleThread shuffledThread rfl rfl
    (shuffled sampleFirstComment sampleSecondComment sampleRemark rfl rfl rfl)

end Maco.Forge
