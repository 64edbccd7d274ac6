import Maco.Forge.Reconstruct

/-!
# What the engine reads

The records of a thread are the earliest ones of each event among those its trusted comments carry.
Since every comment has its own id, the time and the id of its comment tell each record apart.
-/

namespace Maco.Forge

open Maco.Base Maco.Publication List

/-- The records as entries of the table of events. -/
def byEventId (observed : List ObservedRecord) : List (String × ObservedRecord) :=
  observed.map fun record => (record.record.eventId, record)

/-- Membership among the entries. -/
theorem mem_byEventId {observed : List ObservedRecord} {record : ObservedRecord} :
    (eventId, record) ∈ byEventId observed ↔ record ∈ observed ∧
      record.record.eventId = eventId := by
  simp only [byEventId, mem_map, Prod.mk.injEq]
  constructor
  · rintro ⟨_, member, rfl, rfl⟩
    exact ⟨member, rfl⟩
  · rintro ⟨member, rfl⟩
    exact ⟨record, member, rfl, rfl⟩

/-- Two records of an event are the same when their content is. -/
theorem requireSameRecord_ok (current observed : ObservedRecord) :
    requireSameRecord current observed = .ok () ↔
      (current.record, current.provenance.actor) =
        (observed.record, observed.provenance.actor) := by
  rw [requireSameRecord, refuseIf_ok, not_or, not_not, not_not, Prod.mk.injEq]

/-- Reading records counts them and keeps the earliest of each event. -/
theorem foldlM_read_ok {observed : List ObservedRecord} (room : start.markerCount ≤ 512) :
    observed.foldlM ReadRecords.read start = .ok finish ↔
      finish.markerCount = start.markerCount + observed.length ∧ finish.markerCount ≤ 512 ∧
      (byEventId observed).foldlM (fun kept entry =>
        kept.keep ObservedRecord.rank requireSameRecord entry.1 entry.2) start.byEvent =
          .ok finish.byEvent := by
  induction observed generalizing start with
  | nil =>
    obtain ⟨kept, count⟩ := start
    obtain ⟨keptToo, countToo⟩ := finish
    simp only [foldlM_nil, pure_ok, byEventId, map_nil, ReadRecords.mk.injEq,
      length_nil, Nat.add_zero]
    constructor
    · rintro ⟨same, rfl⟩
      exact ⟨rfl, room, same⟩
    · rintro ⟨rfl, -, same⟩
      exact ⟨same, rfl⟩
  | cons record observed ih =>
    simp only [foldlM_cons, ReadRecords.read, ok_iff, not_lt, byEventId, map_cons, length_cons]
    constructor
    · rintro ⟨_, ⟨more, kept, keeps, rfl⟩, rest⟩
      obtain ⟨count, bounded, reads⟩ := (ih more).mp rest
      refine ⟨?_, bounded, kept, keeps, reads⟩
      dsimp only at count
      omega
    · rintro ⟨count, bounded, kept, keeps, reads⟩
      have more : start.markerCount + 1 ≤ 512 := by omega
      refine ⟨⟨kept, start.markerCount + 1⟩, ⟨more, kept, keeps, rfl⟩,
        (ih more).mpr ⟨?_, bounded, reads⟩⟩
      dsimp only
      omega

section Engine

variable {recordFromStr : RecordReader} {engine : ForgeCoordinationEngine}

/-- What a thread's comments carry, in the order of the comments. -/
def carried (recordFromStr : RecordReader) (engine : ForgeCoordinationEngine) (item : ForgeItem)
    (comments : List ForgeComment) : List ObservedRecord :=
  valuesRead (readComment recordFromStr engine item) comments

variable {observation : ItemThreadObservation}

/-- A thread is read exactly when each of its comments is and their records, at most
`MAX_COORDINATION_RECORDS`, agree on each event; the earliest of each event are kept. -/
theorem parseRecords_ok :
    parseRecords recordFromStr engine observation = .ok (records, replays) ↔
      (∀ comment ∈ observation.comments,
        ∃ found, readComment recordFromStr engine observation.item comment = .ok found) ∧
      (carried recordFromStr engine observation.item observation.comments).length ≤ 512 ∧
      ∃ kept, Earliest.keepAll ObservedRecord.rank requireSameRecord
          (byEventId (carried recordFromStr engine observation.item observation.comments)) =
            .ok kept ∧
        records = BTreeMap.values kept.table ∧
        replays = kept.displaced.map (·.disposition .replay) := by
  have room : (⟨.empty, 0⟩ : ReadRecords).markerCount ≤ 512 := Nat.zero_le 512
  simp only [parseRecords, ok_iff, foldlM_onRead_ok, Prod.mk.injEq, carried, foldlM_read_ok room,
    Nat.zero_add]
  constructor
  · rintro ⟨state, ⟨reads, count, bounded, keeps⟩, rfl, rfl⟩
    exact ⟨reads, count ▸ bounded, state.byEvent, keeps, rfl, rfl⟩
  · rintro ⟨reads, bounded, kept, keeps, rfl, rfl⟩
    exact ⟨⟨kept, _⟩, ⟨reads, rfl, bounded, keeps⟩, rfl, rfl⟩

variable {observed : ObservedRecord} {item : ForgeItem} {comment : ForgeComment}

/-- The record a comment carries has the provenance of the comment. -/
theorem readComment_some
    (read : readComment recordFromStr engine item comment = .ok (some observed)) :
    observed.provenance = .fromComment comment := by
  unfold readComment at read
  split at read
  · rw [readBody, bind_ok] at read
    obtain ⟨found, -, read⟩ := read
    cases found with
    | none =>
      rw [pure_ok] at read
      cases read
    | some record =>
      simp only [ok_iff, Option.some.injEq] at read
      obtain ⟨-, -, rfl⟩ := read
      rfl
  · rw [pure_ok] at read
    cases read

variable {comments : List ForgeComment}

/-- A carried record is the one of some comment. -/
theorem mem_carried
    : observed ∈ carried recordFromStr engine item comments ↔
      ∃ comment ∈ comments,
        readComment recordFromStr engine item comment = .ok (some observed) := by
  simp only [carried, valuesRead, mem_filterMap, Option.join_eq_some_iff]
  refine exists_congr fun comment => and_congr_right fun _ => ?_
  cases readComment recordFromStr engine item comment <;> simp [Except.toOption]

/-- Only the trusted comments carry records. -/
theorem carried_trusted (item : ForgeItem) (comments : List ForgeComment) :
    carried recordFromStr engine item (comments.filter (engine.isTrustedActor ·.author)) =
      carried recordFromStr engine item comments := by
  rw [carried, carried, valuesRead, valuesRead, filterMap_filter]
  apply filterMap_congr
  intro comment _
  cases trusted : engine.isTrustedActor comment.author with
  | true => simp
  | false => simp [readComment, trusted, pure, Except.pure, Except.toOption]

/-- The comment's time and id tell the records of a thread apart. -/
theorem carried_rank_injective (distinct : (comments.map ForgeComment.providerCommentId).Nodup)
    (inLeft : left ∈ carried recordFromStr engine item comments)
    (inRight : right ∈ carried recordFromStr engine item comments)
    (same : left.provenance.providerCommentId = right.provenance.providerCommentId) :
    left = right := by
  obtain ⟨comment, member, read⟩ := mem_carried.mp inLeft
  obtain ⟨other, memberToo, readToo⟩ := mem_carried.mp inRight
  rw [readComment_some read, readComment_some readToo] at same
  have one : comment = other := inj_on_of_nodup_map distinct member memberToo same
  rw [← one, read, Except.ok.injEq, Option.some.injEq] at readToo
  exact readToo

/-- The snapshot of the records a thread carries. -/
def snapshotOfCarried (observedAt : ForgeTimestamp) (observed : List ObservedRecord) :
    Except String CoordinationSnapshot := do
  let kept ← Earliest.keepAll ObservedRecord.rank requireSameRecord (byEventId observed)
  snapshotOf observedAt kept.table.values (kept.displaced.map (·.disposition .replay))

/-- A reconstruction succeeds exactly when the comments are read and the records they carry have a
snapshot. -/
theorem reconstruct_ok :
    reconstruct recordFromStr engine observation = .ok snapshot ↔
      observation.item.repository.providerId = engine.providerId ∧
      (∀ comment ∈ observation.comments,
        ∃ found, readComment recordFromStr engine observation.item comment = .ok found) ∧
      (carried recordFromStr engine observation.item observation.comments).length ≤ 512 ∧
      snapshotOfCarried observation.observedAt
        (carried recordFromStr engine observation.item observation.comments) = .ok snapshot := by
  simp only [reconstruct, ok_iff, not_not, Prod.exists, parseRecords_ok, snapshotOfCarried]
  constructor
  · rintro ⟨provider, _, _, ⟨reads, bounded, kept, keeps, rfl, rfl⟩, shown⟩
    exact ⟨provider, reads, bounded, kept, keeps, shown⟩
  · rintro ⟨provider, reads, bounded, kept, keeps, shown⟩
    exact ⟨provider, _, _, ⟨reads, bounded, kept, keeps, rfl, rfl⟩, shown⟩

/-- A thread whose comments all carry records is reconstructed from them. -/
theorem reconstruct_of_records
    (shown : snapshotOfCarried observation.observedAt records = .ok snapshot)
    (provider : observation.item.repository.providerId = engine.providerId)
    (reads : observation.comments.map (readComment recordFromStr engine observation.item) =
      records.map fun observed => .ok (some observed)) (few : records.length ≤ 512) :
    reconstruct recordFromStr engine observation = .ok snapshot := by
  have same : carried recordFromStr engine observation.item observation.comments = records := by
    have values := congrArg (filterMap fun read => read.toOption.join) reads
    simpa [filterMap_map, Function.comp_def, Except.toOption, carried, valuesRead] using values
  refine reconstruct_ok.mpr ⟨provider, fun comment listed => ?_, same ▸ few, same ▸ shown⟩
  have read := mem_map_of_mem (f := readComment recordFromStr engine observation.item) listed
  rw [reads] at read
  obtain ⟨observed, -, found⟩ := mem_map.mp read
  exact ⟨_, found.symm⟩

end Engine

/-! ## A sample thread

One agent claims a scope and another takes it over a minute later. The reader of payloads knows
these two records.
-/

/-- The engine that trusts the actor. -/
def sampleEngine : ForgeCoordinationEngine :=
  ⟨"github", .ofList [(sampleActor.providerActorId, sampleActor)]⟩

/-- The time of the first claim. -/
def sampleStart : ForgeTimestamp := ⟨"2026-08-16T00:00:00Z", by decide +kernel⟩

/-- The time of the takeover. -/
def sampleTakeover : ForgeTimestamp := ⟨"2026-08-16T00:01:00Z", by decide +kernel⟩

/-- A claim of the sample. -/
def sampleClaim (eventId claimId : String) (supersedes : Option String) : CoordinationRecord where
  schema := threadFormat.schema
  version := 1
  repositoryId := sampleItem.repository.providerRepositoryId
  itemId := sampleItem.providerItemId
  eventId
  action := .claim ⟨claimId, "agent", claimId, ["src"], 60, supersedes⟩

/-- The comment that carries a record. -/
def sampleComment (id : String) (createdAt : ForgeTimestamp) (record : CoordinationRecord) :
    ForgeComment where
  providerCommentId := ⟨"github", .comment, id⟩
  author := sampleActor
  body := threadFormat.wrap record.toJson.text
  url := "https://github.com/acme/repo"
  createdAt

/-- The characters of a rendered record. -/
theorem toList_wrap (record : CoordinationRecord) :
    (threadFormat.wrap record.toJson.text).toList = threadFormat.marker.toList ++
      '\n' :: (record.toJson.chars ++ '\n' :: threadFormat.endMarker.toList) := by
  simp [RecordFormat.wrap, Json.text, String.toList_append, String.toList_ofList]

variable {id : String} {createdAt : ForgeTimestamp} {record : CoordinationRecord}

/-- The comment of a short record with no control characters is valid. -/
theorem sampleComment_valid (short : String.utf8Len record.toJson.chars ≤ 16000)
    (plain : record.toJson.chars.any isAsciiControl = false)
    (known : requireObjectId ⟨"github", .comment, id⟩ "github" .comment "comment provider id" =
      .ok ()) : (sampleComment id createdAt record).validate = .ok () := by
  have frame : byteLength threadFormat.marker + byteLength threadFormat.endMarker ≤ 98 := by decide
  have size : ¬ 65536 < byteLength (threadFormat.wrap record.toJson.text) := by
    rw [RecordFormat.byteLength_wrap]
    omega
  have clean : anyChar (fun c => isAsciiControl c && c != '\n' && c != '\t')
      (threadFormat.wrap record.toJson.text) = false := by
    have marker : threadFormat.marker.toList.any isAsciiControl = false := by decide +kernel
    have endMarker : threadFormat.endMarker.toList.any isAsciiControl = false := by
      decide +kernel
    rw [any_eq_false] at plain marker endMarker
    rw [anyChar, toList_wrap, any_eq_false]
    intro c member
    simp only [mem_append, mem_cons] at member
    rcases member with inMarker | rfl | inPayload | rfl | inEnd
    · simp [marker c inMarker]
    · decide
    · simp [plain c inPayload]
    · decide
    · simp [endMarker c inEnd]
  have text : validateBodyText (threadFormat.wrap record.toJson.text) "forge comment body" 65536
      true = .ok () := by
    rw [validateBodyText, refuseIf_ok, clean]
    simp only [reduceCtorEq, false_and, Bool.false_eq_true, or_false, false_or]
    exact size
  have author : sampleActor.validate = .ok () := by decide +kernel
  have url : validateHttpsUrl "https://github.com/acme/repo" = .ok () := by decide +kernel
  simp only [ForgeComment.validate, bind_ok]
  exact ⟨(), author, (), known, (), text, url⟩

/-- The first claim. -/
abbrev sampleFirst : CoordinationRecord := sampleClaim "e1" "c1" none

/-- The takeover. -/
abbrev sampleSecond : CoordinationRecord := sampleClaim "e2" "c2" (some "c1")

/-- The comment of the first claim. -/
abbrev sampleFirstComment : ForgeComment := sampleComment "1" sampleStart sampleFirst

/-- The comment of the takeover. -/
abbrev sampleSecondComment : ForgeComment := sampleComment "2" sampleTakeover sampleSecond

theorem sampleComments_valid :
    sampleFirstComment.validate = .ok () ∧ sampleSecondComment.validate = .ok () := by
  constructor <;> exact sampleComment_valid (by decide +kernel) (by decide +kernel)
    (by decide +kernel)

/-- The reader of the sample. -/
def sampleReader : RecordReader := readAmong CoordinationRecord.toJson [sampleFirst, sampleSecond]

/-- A record the reader knows is read from its comment. -/
theorem readComment_sample (valid : record.validate = .ok ())
    (short : String.utf8Len record.toJson.chars ≤ 16000)
    (reads : reader record.toJson.text = some record)
    (repository : record.repositoryId = sampleItem.repository.providerRepositoryId)
    (item : record.itemId = sampleItem.providerItemId) :
    readComment reader sampleEngine sampleItem (sampleComment id createdAt record) =
      .ok (some ⟨record, .fromComment (sampleComment id createdAt record)⟩) := by
  have rendered : record.render = .ok (threadFormat.wrap record.toJson.text) :=
    RecordKind.render_of_short valid (by decide) short
  have ids : recordKind.validateIds record = .ok () := by
    simp only [recordKind, repository, item]
    decide +kernel
  have parsed : parseRecord reader _ = _ := RecordKind.parse_render rendered reads ids
  have target : record.requireTarget sampleItem = .ok () := by
    simp [CoordinationRecord.requireTarget, refuseIf, repository, item]
  have trusted : sampleEngine.isTrustedActor sampleActor = true := by decide
  simp only [readComment, sampleComment, if_pos trusted, readBody, parsed, ok_bind, target]
  rfl

/-- The comments of the sample are read. -/
theorem readComment_samples :
    readComment sampleReader sampleEngine sampleItem sampleFirstComment =
        .ok (some ⟨sampleFirst, .fromComment sampleFirstComment⟩) ∧
      readComment sampleReader sampleEngine sampleItem sampleSecondComment =
        .ok (some ⟨sampleSecond, .fromComment sampleSecondComment⟩) := by
  have apart : [sampleFirst, sampleSecond].Pairwise
      fun a b => a.toJson.chars ≠ b.toJson.chars := by decide +kernel
  exact ⟨readComment_sample (by decide +kernel) (by decide +kernel)
      (readAmong_text apart (.head _)) rfl rfl,
    readComment_sample (by decide +kernel) (by decide +kernel)
      (readAmong_text apart (.tail _ (.head _))) rfl rfl⟩

/-- The sample thread. -/
def sampleThread : ItemThreadObservation where
  item := sampleItem
  observedAt := sampleTakeover
  comments := [sampleFirstComment, sampleSecondComment]
  valid := by
    simp only [validateThread, foldlM_cons, foldlM_nil, checkThreadComment,
      sampleComments_valid.1, sampleComments_valid.2, ok_bind]
    simp only [threadJson, Json.size, map, ForgeComment.toJson, sampleComment, Json.chars,
      Json.memberChars, Json.itemChars, quotedChars, commaSeparated, toList_wrap]
    decide +kernel

/-- The sample thread is reconstructed: the first claim is superseded by the second. -/
theorem reconstruct_sampleThread : ∃ snapshot,
    reconstruct sampleReader sampleEngine sampleThread = .ok snapshot ∧
      snapshot.claims.map (fun claim => (claim.claimId, claim.status)) =
        [("c1", .superseded), ("c2", .active)] := by
  have computed : ((snapshotOfCarried sampleTakeover
      [⟨sampleFirst, .fromComment sampleFirstComment⟩,
        ⟨sampleSecond, .fromComment sampleSecondComment⟩]).toOption.map fun snapshot =>
      snapshot.claims.map fun claim => (claim.claimId, claim.status)) =
        some [("c1", .superseded), ("c2", .active)] := by decide +kernel
  obtain ⟨snapshot, shown, claims⟩ := ok_of_toOption computed
  exact ⟨snapshot, reconstruct_of_records shown rfl
    (congrArg₂ cons readComment_samples.1 (congrArg₂ cons readComment_samples.2 rfl))
    (by decide), claims⟩

end Maco.Forge
