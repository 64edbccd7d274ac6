import Maco.Base.Json
import Maco.Base.Map
import Maco.Publication.Timestamp

/-!
# Forge objects

The provider-neutral objects a forge transport reports: stable object ids, repositories, items,
actors and comments, and the complete thread of one item at one time. Each comes with the validator
its constructor runs and with the JSON value it serializes to, by which observations are measured.
-/

namespace Maco.Publication

open Maco.Base

/-- `ProviderObjectKind`, in its declared order. -/
inductive ProviderObjectKind where
  | repository
  | item
  | actor
  | comment
  | review
  | reviewThread
  | check
  | merge
deriving DecidableEq, Repr

/-- The place of a kind in the declared order. -/
def ProviderObjectKind.code : ProviderObjectKind → ℕ
  | .repository => 0
  | .item => 1
  | .actor => 2
  | .comment => 3
  | .review => 4
  | .reviewThread => 5
  | .check => 6
  | .merge => 7

/-- The serialized name of a kind. -/
def ProviderObjectKind.name : ProviderObjectKind → String
  | .repository => "repository"
  | .item => "item"
  | .actor => "actor"
  | .comment => "comment"
  | .review => "review"
  | .reviewThread => "review_thread"
  | .check => "check"
  | .merge => "merge"

structure ProviderObjectId where
  providerId : String
  kind : ProviderObjectKind
  stableId : String
deriving DecidableEq, Repr

/-- The fields of an id in the order they are compared. -/
def ProviderObjectId.sortKey (id : ProviderObjectId) : Lex (String × Lex (ℕ × String)) :=
  toLex (id.providerId, toLex (id.kind.code, id.stableId))

theorem ProviderObjectKind.code_injective : Function.Injective ProviderObjectKind.code := by
  intro left right same
  cases left <;> cases right <;> first | rfl | cases same

/-- An id is determined by its compared fields. -/
theorem ProviderObjectId.sortKey_injective : Function.Injective ProviderObjectId.sortKey := by
  rintro ⟨provider, kind, stable⟩ ⟨provider', kind', stable'⟩ same
  simp only [sortKey, EmbeddingLike.apply_eq_iff_eq, Prod.mk.injEq] at same
  obtain ⟨rfl, code, rfl⟩ := same
  rw [ProviderObjectKind.code_injective code]

instance : LinearOrder ProviderObjectId :=
  LinearOrder.lift' ProviderObjectId.sortKey ProviderObjectId.sortKey_injective

/-- The characters of a bounded stable provider id. -/
def isStableIdChar (c : Char) : Bool :=
  isAsciiAlphanumeric c || c == '-' || c == '_' || c == '.' || c == ':'

/-- `validate_provider_id`. -/
def validateProviderId (value : String) : Except String Unit :=
  refuseIf (value = "" ∨ 64 < byteLength value ∨ allChars (fun c =>
    isAsciiLowercase c || isAsciiDigit c || c == '-' || c == '.') value = false)
    "forge provider id is not canonical and bounded"

/-- `validate_stable_id`. -/
def validateStableId (value label : String) : Except String Unit :=
  refuseIf (value = "" ∨ 256 < byteLength value ∨ allChars isStableIdChar value = false)
    (label ++ " is not a bounded stable provider id")

/-- `ProviderObjectId::validate`. -/
def ProviderObjectId.validate (id : ProviderObjectId) : Except String Unit := do
  validateProviderId id.providerId
  validateStableId id.stableId "provider object id"

/-- `require_object_id`. -/
def requireObjectId (id : ProviderObjectId) (providerId : String) (kind : ProviderObjectKind)
    (label : String) : Except String Unit := do
  id.validate
  refuseIf (id.providerId ≠ providerId ∨ id.kind ≠ kind)
    (label ++ " is not bound to the expected provider and object kind")

structure ForgeRepository where
  providerId : String
  canonicalLocator : String
  providerRepositoryId : ProviderObjectId
deriving DecidableEq, Repr

/-- `validate_repository_locator`. -/
def validateRepositoryLocator (value : String) : Except String Unit := do
  refuseIf (value = "" ∨ 512 < byteLength value ∨ startsWith value "/" ∨ endsWith value "/" ∨
    containsText value "//" ∨
    anyChar (fun c => isAsciiControl c || isAsciiWhitespace c || isAsciiUppercase c) value)
    "forge repository locator is not canonical and bounded"
  let components := splitParts value '/'
  refuseIf (components.length < 3 ∨ ∃ component ∈ components, component = "" ∨ component = "." ∨
    component = ".." ∨ allChars (fun c =>
      isAsciiLowercase c || isAsciiDigit c || c == '-' || c == '_' || c == '.') component = false)
    "forge repository locator must be a canonical host/path locator"

/-- `ForgeRepository::validate`. -/
def ForgeRepository.validate (repository : ForgeRepository) : Except String Unit := do
  validateProviderId repository.providerId
  validateRepositoryLocator repository.canonicalLocator
  requireObjectId repository.providerRepositoryId repository.providerId .repository
    "repository provider id"

inductive ForgeItemKind where
  | issue
  | pullRequest
deriving DecidableEq, Repr

structure ForgeItem where
  repository : ForgeRepository
  kind : ForgeItemKind
  number : ℕ
  providerItemId : ProviderObjectId
  revision : String
  headOid : Option String
  baseOid : Option String
deriving DecidableEq, Repr

/-- `validate_revision`. -/
def validateRevision (value : String) : Except String Unit :=
  refuseIf (value = "" ∨ 128 < byteLength value ∨ allChars isStableIdChar value = false)
    "forge item revision is not a bounded stable id"

/-- `validate_git_oid` of the transport. -/
def validateItemOid (value label : String) : Except String Unit :=
  refuseIf ((byteLength value ≠ 40 ∧ byteLength value ≠ 64) ∨
    allChars isLowerHexDigit value = false)
    (label ++ " must be an exact lowercase 40- or 64-hex OID")

section

variable (item : ForgeItem)

/-- The object ids an item of its kind carries. -/
def ForgeItem.validateOids : Except String Unit :=
  match item.kind with
  | .issue => refuseIf (item.headOid.isSome ∨ item.baseOid.isSome)
      "forge issue items must not carry Git OIDs"
  | .pullRequest => do
      let head ← require item.headOid "forge pull request omitted its exact head OID"
      let base ← require item.baseOid "forge pull request omitted its exact base OID"
      validateItemOid head "pull-request head OID"
      validateItemOid base "pull-request base OID"
      refuseIf (byteLength head ≠ byteLength base)
        "pull-request head and base OIDs use different hash widths"

/-- `ForgeItem::validate`. -/
def ForgeItem.validate : Except String Unit := do
  item.repository.validate
  refuseIf (item.number = 0) "forge item number must be positive"
  requireObjectId item.providerItemId item.repository.providerId .item "item provider id"
  validateRevision item.revision
  item.validateOids

inductive ReportedActorKind where
  | human
  | bot
  | organization
  | unknown
deriving DecidableEq, Repr

structure ForgeActor where
  providerId : String
  providerActorId : ProviderObjectId
  canonicalHandle : String
  reportedKind : ReportedActorKind
deriving DecidableEq, Repr

/-- `validate_canonical_handle`. -/
def validateCanonicalHandle (value : String) : Except String Unit :=
  refuseIf (value = "" ∨ 128 < byteLength value ∨ startsWith value "@" ∨ allChars (fun c =>
    isAsciiLowercase c || isAsciiDigit c || c == '-' || c == '_' || c == '.') value = false)
    "forge actor handle is not canonical and bounded"

/-- `ForgeActor::validate`. -/
def ForgeActor.validate (actor : ForgeActor) : Except String Unit := do
  validateProviderId actor.providerId
  requireObjectId actor.providerActorId actor.providerId .actor "actor provider id"
  validateCanonicalHandle actor.canonicalHandle

structure ForgeComment where
  providerCommentId : ProviderObjectId
  author : ForgeActor
  body : String
  url : String
  createdAt : ForgeTimestamp
deriving DecidableEq

/-- `validate_bounded_text` of the transport. -/
def validateBodyText (value label : String) (limit : ℕ) (allowEmpty : Bool) : Except String Unit :=
  refuseIf ((allowEmpty = false ∧ value = "") ∨ limit < byteLength value ∨
    anyChar (fun c => isAsciiControl c && c != '\n' && c != '\t') value)
    (label ++ " is empty, malformed, or exceeds its " ++ toString limit ++ "-byte bound")

/-- `validate_https_url`. -/
def validateHttpsUrl (value : String) : Except String Unit :=
  refuseIf (2048 < byteLength value ∨ startsWith value "https://" = false ∨
    byteLength value = 8 ∨ anyChar (fun c => c == '\\' || c == '@') value ∨
    anyChar (fun c => isAsciiControl c || isAsciiWhitespace c) value)
    "forge URL is not a bounded canonical HTTPS URL"

/-- `ForgeComment::validate`. -/
def ForgeComment.validate (comment : ForgeComment) : Except String Unit := do
  comment.author.validate
  requireObjectId comment.providerCommentId comment.author.providerId .comment
    "comment provider id"
  validateBodyText comment.body "forge comment body" 65536 true
  validateHttpsUrl comment.url

/-- The JSON value of an object id. -/
def ProviderObjectId.toJson (id : ProviderObjectId) : Json :=
  .object [("provider_id", .string id.providerId), ("kind", .string id.kind.name),
    ("stable_id", .string id.stableId)]

/-- The JSON value of a repository. -/
def ForgeRepository.toJson (repository : ForgeRepository) : Json :=
  .object [("provider_id", .string repository.providerId),
    ("canonical_locator", .string repository.canonicalLocator),
    ("provider_repository_id", repository.providerRepositoryId.toJson)]

/-- The serialized name of an item kind. -/
def ForgeItemKind.name : ForgeItemKind → String
  | .issue => "issue"
  | .pullRequest => "pull_request"

/-- The JSON value of an item. -/
def ForgeItem.toJson : Json :=
  .object [("repository", item.repository.toJson), ("kind", .string item.kind.name),
    ("number", .number item.number), ("provider_item_id", item.providerItemId.toJson),
    ("revision", .string item.revision), ("head_oid", .nullable item.headOid),
    ("base_oid", .nullable item.baseOid)]

/-- The serialized name of an actor kind. -/
def ReportedActorKind.name : ReportedActorKind → String
  | .human => "human"
  | .bot => "bot"
  | .organization => "organization"
  | .unknown => "unknown"

/-- The JSON value of an actor. -/
def ForgeActor.toJson (actor : ForgeActor) : Json :=
  .object [("provider_id", .string actor.providerId),
    ("provider_actor_id", actor.providerActorId.toJson),
    ("canonical_handle", .string actor.canonicalHandle),
    ("reported_kind", .string actor.reportedKind.name)]

/-- The JSON value of a comment. -/
def ForgeComment.toJson (comment : ForgeComment) : Json :=
  .object [("provider_comment_id", comment.providerCommentId.toJson),
    ("author", comment.author.toJson), ("body", .string comment.body),
    ("url", .string comment.url), ("created_at", .string comment.createdAt.text)]

/-! ## Item threads -/

variable (observedAt : ForgeTimestamp)

/-- One comment of a thread: valid, of the item's provider, not from the future and not listed
before. -/
def checkThreadComment (ids : BTreeSet ProviderObjectId) (comment : ForgeComment) :
    Except String (BTreeSet ProviderObjectId) := do
  comment.validate
  refuseIf (comment.author.providerId ≠ item.repository.providerId ∨
    observedAt < comment.createdAt ∨ ids.contains comment.providerCommentId)
    "forge item thread contains an invalid, future, or duplicate comment"
  pure (ids.insert comment.providerCommentId)

/-- The actors seen so far, by id and by handle. -/
structure SeenActors where
  byId : BTreeMap ProviderObjectId ForgeActor
  byHandle : BTreeMap (Lex (String × String)) ProviderObjectId

/-- One actor agrees with what was seen of its id and of its handle. -/
def checkActorIdentity (seen : SeenActors) (actor : ForgeActor) : Except String SeenActors := do
  actor.validate
  refuseIf (seen.byId[actor.providerActorId]?.any (· != actor))
    "forge actors conflict for one stable provider actor id"
  let handle := toLex (actor.providerId, actor.canonicalHandle)
  refuseIf (seen.byHandle[handle]?.any (· != actor.providerActorId))
    "forge actor handle is ambiguous across stable provider ids"
  pure ⟨seen.byId.insert actor.providerActorId actor,
    seen.byHandle.insert handle actor.providerActorId⟩

/-- The JSON value of an item thread. -/
def threadJson (comments : List ForgeComment) : Json :=
  .object [("item", item.toJson), ("observed_at", .string observedAt.text),
    ("comments", .array (comments.map ForgeComment.toJson))]

/-- `ItemThreadObservation::validate`. -/
def validateThread (comments : List ForgeComment) : Except String Unit := do
  item.validate
  refuseIf (1024 < comments.length) "forge item thread exceeds its comment count limit"
  let _ ← comments.foldlM (checkThreadComment item observedAt) ∅
  let _ ← (comments.map ForgeComment.author).foldlM checkActorIdentity ⟨∅, ∅⟩
  refuseIf (512 * 1024 < (threadJson item observedAt comments).size)
    "forge item-thread observation exceeds its 524288-byte serialized limit"

end

/-- `ItemThreadObservation`: a thread its validation accepts. -/
structure ItemThreadObservation where
  item : ForgeItem
  observedAt : ForgeTimestamp
  comments : List ForgeComment
  valid : validateThread item observedAt comments = .ok ()

/-- No two comments of a thread share an id. -/
theorem ItemThreadObservation.nodup_ids (observation : ItemThreadObservation) :
    (observation.comments.map ForgeComment.providerCommentId).Nodup := by
  have valid := observation.valid
  simp only [validateThread, bind_ok] at valid
  obtain ⟨-, -, -, -, ids, checked, -⟩ := valid
  have listed : (observation.comments.map ForgeComment.providerCommentId).Nodup ∧
      ∀ id, id ∈ ids ↔ id ∈ observation.comments.map ForgeComment.providerCommentId := by
    refine foldlM_invariant (fun (read : List ForgeComment) (ids : BTreeSet ProviderObjectId) =>
      (read.map ForgeComment.providerCommentId).Nodup ∧
        ∀ id, id ∈ ids ↔ id ∈ read.map ForgeComment.providerCommentId) ?_ (by simp) checked
    intro read comment ids next known stepped
    simp only [checkThreadComment, ok_iff, not_or, Std.ExtTreeSet.contains_iff_mem] at stepped
    obtain ⟨-, -, ⟨-, -, fresh⟩, rfl⟩ := stepped
    exact BTreeSet.insert_collects known fresh
  exact listed.1

/-! ## Samples

An item, an actor that is trusted to comment on it, and a reader of payloads that knows some
records.
-/

/-- The item of the samples. -/
def sampleItem : ForgeItem where
  repository := ⟨"github", "github.com/acme/repo", ⟨"github", .repository, "R1"⟩⟩
  kind := .issue
  number := 1
  providerItemId := ⟨"github", .item, "I1"⟩
  revision := "1"
  headOid := none
  baseOid := none

/-- The trusted actor of the samples. -/
def sampleActor : ForgeActor := ⟨"github", ⟨"github", .actor, "A1"⟩, "maco", .bot⟩

/-- A reader that knows some records by the characters of their payloads. -/
def readAmong {α : Type} (toJson : α → Json) (known : List α) (text : String) : Option α :=
  known.find? fun record => text.toList == (toJson record).chars

/-- The reader reads a record it knows from its payload, if no two payloads are the same. -/
theorem readAmong_text {α : Type} {toJson : α → Json} {known : List α} {record : α}
    (apart : known.Pairwise fun a b => (toJson a).chars ≠ (toJson b).chars)
    (listed : record ∈ known) : readAmong toJson known (toJson record).text = some record := by
  induction known with
  | nil => cases listed
  | cons first rest ih =>
    obtain ⟨others, later⟩ := List.pairwise_cons.mp apart
    simp only [readAmong, Json.text, String.toList_ofList, List.find?_cons] at ih ⊢
    rcases List.mem_cons.mp listed with rfl | member
    · simp
    · simp only [beq_eq_false_iff_ne.mpr (others record member).symm]
      exact ih later member

end Maco.Publication
