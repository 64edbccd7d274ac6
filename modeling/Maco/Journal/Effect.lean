import Maco.Base.Json
import Maco.Base.Result
import Maco.Base.Text

/-!
# Publication effects bound into the journal

A reservation may carry a descriptor of the publication effect it reserves, and a completion the
material its parent observed. Both are sealed: every digest they carry is recomputed from their
fields, so a completion can be replayed from the journal alone. SHA-256 is a parameter.
-/

namespace Maco.Journal

open Maco.Base

/-- `PublicationGitNetworkLocatorV1`. -/
structure GitNetworkLocator where
  schema : String
  version : ℕ
  remoteUrl : String
deriving DecidableEq, Repr

/-- `GitPushPublicationEffectFieldsV1`. -/
structure GitPushFields where
  networkLocator : GitNetworkLocator
  remoteName : String
  lookupRef : String
  baseBranch : String
  expectedBaseOid : String
  expectedHeadOid : String
  remoteBindingDigest : String
deriving DecidableEq, Repr

/-- `GithubPullRequestPublicationEffectFieldsV1`. -/
structure GithubPullRequestFields where
  repositoryOwner : String
  repositoryName : String
  lookupHeadBranch : String
  baseBranch : String
  expectedBaseOid : String
  expectedHeadOid : String
  draft : Bool
  expectedAuthor : String
  marker : String
deriving DecidableEq, Repr

/-- `PublicationEffectOperationV1`. -/
inductive PublicationEffectOperation where
  | gitPush (fields : GitPushFields)
  | githubPullRequest (fields : GithubPullRequestFields)
deriving DecidableEq, Repr

/-- `PublicationEffectDescriptorV1`. -/
structure PublicationEffectDescriptor where
  schema : String
  version : ℕ
  effectId : String
  transportProvider : String
  repositorySelector : String
  repositoryIdentity : String
  sourceProvenanceDigest : Option String
  targetDigest : String
  payloadDigest : String
  operation : PublicationEffectOperation
deriving DecidableEq, Repr

/-- `GitPushParentObservationV1`. -/
structure GitPushObservation where
  lookupRef : String
  observedHeadOid : String
deriving DecidableEq, Repr

/-- `GithubPullRequestParentObservationV1`. -/
structure GithubPullRequestObservation where
  number : ℕ
  url : String
  headOid : String
  baseOid : String
  baseRefName : String
  headRefName : String
  author : String
  isDraft : Bool
  state : String
deriving DecidableEq, Repr

/-- `ParentObservedPublicationObservationV1`. -/
inductive ParentObservation where
  | gitPush (observed : GitPushObservation)
  | githubPullRequest (observed : GithubPullRequestObservation)
deriving DecidableEq, Repr

/-- `ParentObservedPublicationMaterialV1`. -/
structure ParentObservedMaterial where
  schema : String
  version : ℕ
  reserveEventNonce : String
  descriptor : PublicationEffectDescriptor
  observation : ParentObservation
  canonicalMaterialDigest : String
deriving DecidableEq, Repr

def descriptorSchema : String := "maco.coordination-publication-effect-descriptor"
def materialSchema : String := "maco.parent-observed-publication-material"
def gitNetworkLocatorSchema : String := "maco.coordination-publication-git-network-locator"

/-! ## JSON values -/

/-- The JSON value of a network locator. -/
def GitNetworkLocator.toJson (locator : GitNetworkLocator) : Json :=
  .object [("schema", .string locator.schema), ("version", .number locator.version),
    ("remote_url", .string locator.remoteUrl)]

/-- The JSON value of an operation, tagged with its kind. -/
def PublicationEffectOperation.toJson : PublicationEffectOperation → Json
  | .gitPush fields => .object [("kind", .string "git_push"),
      ("network_locator", fields.networkLocator.toJson),
      ("remote_name", .string fields.remoteName), ("lookup_ref", .string fields.lookupRef),
      ("base_branch", .string fields.baseBranch),
      ("expected_base_oid", .string fields.expectedBaseOid),
      ("expected_head_oid", .string fields.expectedHeadOid),
      ("remote_binding_digest", .string fields.remoteBindingDigest)]
  | .githubPullRequest fields => .object [("kind", .string "github_pull_request"),
      ("repository_owner", .string fields.repositoryOwner),
      ("repository_name", .string fields.repositoryName),
      ("lookup_head_branch", .string fields.lookupHeadBranch),
      ("base_branch", .string fields.baseBranch),
      ("expected_base_oid", .string fields.expectedBaseOid),
      ("expected_head_oid", .string fields.expectedHeadOid), ("draft", .bool fields.draft),
      ("expected_author", .string fields.expectedAuthor), ("marker", .string fields.marker)]

/-- The JSON value of a descriptor; an absent source provenance is left out. -/
def PublicationEffectDescriptor.toJson (descriptor : PublicationEffectDescriptor) : Json :=
  .object ([("schema", .string descriptor.schema), ("version", .number descriptor.version),
    ("effect_id", .string descriptor.effectId),
    ("transport_provider", .string descriptor.transportProvider),
    ("repository_selector", .string descriptor.repositorySelector),
    ("repository_identity", .string descriptor.repositoryIdentity)] ++
    (descriptor.sourceProvenanceDigest.toList.map fun digest =>
      ("source_provenance_digest", .string digest)) ++
    [("target_digest", .string descriptor.targetDigest),
      ("payload_digest", .string descriptor.payloadDigest),
      ("operation", descriptor.operation.toJson)])

/-- The JSON value of an observation, tagged with its kind. -/
def ParentObservation.toJson : ParentObservation → Json
  | .gitPush observed => .object [("kind", .string "git_push"),
      ("lookup_ref", .string observed.lookupRef),
      ("observed_head_oid", .string observed.observedHeadOid)]
  | .githubPullRequest observed => .object [("kind", .string "github_pull_request"),
      ("number", .number observed.number), ("url", .string observed.url),
      ("head_oid", .string observed.headOid), ("base_oid", .string observed.baseOid),
      ("base_ref_name", .string observed.baseRefName),
      ("head_ref_name", .string observed.headRefName), ("author", .string observed.author),
      ("is_draft", .bool observed.isDraft), ("state", .string observed.state)]

/-- The JSON value of parent-observed material. -/
def ParentObservedMaterial.toJson (material : ParentObservedMaterial) : Json :=
  .object [("schema", .string material.schema), ("version", .number material.version),
    ("reserve_event_nonce", .string material.reserveEventNonce),
    ("descriptor", material.descriptor.toJson), ("observation", material.observation.toJson),
    ("canonical_material_digest", .string material.canonicalMaterialDigest)]

/-! ## Field checks -/

/-- `validate_bounded_text`. -/
def validateBoundedText (value label : String) (limit : ℕ) : Except String Unit := do
  refuseIf (value = "") (label ++ " must not be empty")
  refuseIf (limit < byteLength value ∨ anyChar (·.toNat == 0) value)
    (label ++ " exceeds its byte limit or is not canonical text")

/-- `validate_sha256_hex` of the effect descriptors. -/
def validateEffectSha256 (value label : String) : Except String Unit :=
  refuseIf (byteLength value ≠ 64 ∨ allChars isLowerHexDigit value = false)
    (label ++ " is not canonical lowercase SHA-256 hexadecimal")

/-- `validate_git_oid` of the effect descriptors. -/
def validateEffectOid (value label : String) : Except String Unit :=
  refuseIf ((byteLength value ≠ 40 ∧ byteLength value ≠ 64) ∨
    allChars isLowerHexDigit value = false) (label ++ " is not a canonical lowercase Git OID")

def maxEffectIdBytes : ℕ := 128

/-- `validate_effect_id`. -/
def validateEffectId (value : String) : Except String Unit := do
  validateEffectSha256 value "effect id"
  refuseIf (maxEffectIdBytes < byteLength value) "effect id exceeds its byte limit"

/-- `validate_event_nonce`. -/
def validateEventNonce (value : String) : Except String Unit :=
  validateBoundedText value "event nonce" maxEffectIdBytes

/-- `validate_publication_ref`. -/
def validatePublicationRef (value label : String) : Except String Unit := do
  validateBoundedText value label 1024
  refuseIf (startsWith value "refs/" = false) (label ++ " must be a fully qualified git ref")

/-- `validate_effect_marker`. -/
def validateEffectMarker (marker : String) : Except String Unit := do
  let effectId ← require ((stripStart marker "<!-- maco-external-effect:v2:").bind
    (stripEnd · " -->")) "external effect marker was malformed"
  validateEffectId effectId

/-- The port of an HTTPS host, in canonical decimal. -/
def parseHttpsPort : Option String → Except String (Option ℕ)
  | none => pure none
  | some port => do
      let parsed ← require ((parseUnsigned 65535 port).filter (· ≠ 0))
        "publication HTTPS port is invalid"
      refuseIf (port ≠ toString parsed) "publication HTTPS port was not canonical"
      pure (some parsed)

/-- The host with the port it keeps. -/
def hostWithPort (hostname : String) (port : Option ℕ) : Except String String :=
  if hostname = "github.com" then do
    refuseIf (port.any (· ≠ 443)) "github.com publication permits only the canonical HTTPS port"
    pure hostname
  else pure (match port with
    | some port => hostname ++ ":" ++ toString port
    | none => hostname)

/-- `normalize_publication_github_host`. -/
def normalizePublicationGithubHost (host : String) : Except String String := do
  let split := rsplitOnce host ':'
  let hostname := (split.map Prod.fst).getD host
  refuseIf (hostname = "" ∨ 253 < byteLength hostname ∨ anyChar (· == ':') hostname ∨
    startsWith host "." ∨ endsWith host "." ∨ containsText host ".." ∨
    allChars (fun c => isAsciiAlphanumeric c || c == '.' || c == '-' || c == ':') host = false)
    "publication HTTPS host is invalid"
  refuseIf (∃ label ∈ splitParts hostname '.', label = "" ∨ 63 < byteLength label ∨
    startsWith label "-" ∨ endsWith label "-") "publication HTTPS DNS label is invalid"
  let port ← parseHttpsPort (split.map Prod.snd)
  hostWithPort (toAsciiLowercase hostname) port

/-- `validate_publication_https_remote_url`. -/
def validatePublicationHttpsRemoteUrl (remoteUrl : String) : Except String Unit := do
  refuseIf (remoteUrl = "" ∨ 8192 < byteLength remoteUrl ∨ anyChar isAsciiControl remoteUrl)
    "publication remote URL is empty or contains control bytes"
  refuseIf (anyChar (fun c => c == '?' || c == '#') remoteUrl)
    "publication remote URLs may not contain a query or fragment"
  refuseIf (anyChar (fun c => c == '%' || c == '\\' || c == '@') remoteUrl)
    "publication remote URLs may not contain escapes, backslashes, or userinfo"
  refuseIf (startsWith remoteUrl "file://" ∨ startsWith remoteUrl "/")
    ("local/file publication remotes cannot be encoded as a network git locator; " ++
      "use canonical HTTPS")
  let remainder ← require (stripStart remoteUrl "https://")
    ("publication supports only canonical HTTPS remotes; SSH, HTTP, git, helpers, " ++
      "and SCP syntax are refused")
  let (authority, path) ← require (splitOnce remainder '/')
    "HTTPS publication remote omitted a repository path"
  refuseIf (anyChar (· == '@') authority) "HTTPS publication remote may not contain userinfo"
  let host ← normalizePublicationGithubHost authority
  refuseIf (¬ (host = authority ∨ (host = "github.com" ∧ authority = "github.com:443")) ∨
    path = "" ∨ 2048 < byteLength path ∨ 32 < (splitParts path '/').length ∨
    startsWith path "/" ∨ endsWith path "/") "HTTPS publication remote is not canonical"
  refuseIf (∃ component ∈ splitParts path '/', component = "" ∨ component = "." ∨
    component = ".." ∨ allChars (fun c =>
      isAsciiAlphanumeric c || c == '.' || c == '_' || c == '-' || c == '~') component = false)
    "HTTPS publication repository path is malformed"

/-- `PublicationGitNetworkLocatorV1::validate`. -/
def GitNetworkLocator.validate (locator : GitNetworkLocator) : Except String Unit := do
  refuseIf (locator.schema ≠ gitNetworkLocatorSchema ∨ locator.version ≠ 1)
    "git network locator has an unsupported schema or version"
  validatePublicationHttpsRemoteUrl locator.remoteUrl

/-- `GithubPullRequestPublicationEffectFieldsV1::validate`. -/
def GithubPullRequestFields.validate (fields : GithubPullRequestFields) : Except String Unit := do
  validateBoundedText fields.repositoryOwner "repository owner" 100
  validateBoundedText fields.repositoryName "repository name" 100
  validateBoundedText fields.lookupHeadBranch "lookup head branch" 256
  validateBoundedText fields.baseBranch "base branch" 256
  validateEffectOid fields.expectedBaseOid "expected base oid"
  validateEffectOid fields.expectedHeadOid "expected head oid"
  validateBoundedText fields.expectedAuthor "expected author" 256
  validateBoundedText fields.marker "effect marker" 512

/-- `GitPushParentObservationV1::validate_against`. -/
def GitPushObservation.validateAgainst (observed : GitPushObservation) (fields : GitPushFields) :
    Except String Unit := do
  validatePublicationRef observed.lookupRef "git observation lookup ref"
  validateEffectOid observed.observedHeadOid "observed head oid"
  refuseIf (observed.lookupRef ≠ fields.lookupRef)
    "git push observation lookup ref does not match descriptor"
  refuseIf (observed.observedHeadOid ≠ fields.expectedHeadOid)
    "git push observation head oid does not match descriptor expected head"

/-- `GithubPullRequestParentObservationV1::validate_against`. -/
def GithubPullRequestObservation.validateAgainst (observed : GithubPullRequestObservation)
    (fields : GithubPullRequestFields) : Except String Unit := do
  refuseIf (observed.number = 0) "github pull request observation number is invalid"
  validateBoundedText observed.url "github pull request url" 8192
  validateEffectOid observed.headOid "observed pr head oid"
  validateEffectOid observed.baseOid "observed pr base oid"
  validateBoundedText observed.baseRefName "base ref name" 256
  validateBoundedText observed.headRefName "head ref name" 256
  validateBoundedText observed.author "pr author" 256
  validateBoundedText observed.state "pr state" 256
  refuseIf (observed.headOid ≠ fields.expectedHeadOid)
    "github pull request observation head oid does not match descriptor"
  refuseIf (observed.baseOid ≠ fields.expectedBaseOid)
    "github pull request observation base oid does not match descriptor"
  refuseIf (observed.baseRefName ≠ fields.baseBranch)
    "github pull request observation base ref does not match descriptor"
  refuseIf (observed.headRefName ≠ fields.lookupHeadBranch)
    "github pull request observation head ref does not match descriptor branch"
  refuseIf (observed.author ≠ fields.expectedAuthor)
    "github pull request observation author does not match descriptor"
  refuseIf (observed.isDraft ≠ fields.draft)
    "github pull request observation draft state does not match descriptor"
  refuseIf (observed.state ≠ "OPEN") "github pull request observation state is not OPEN"

/-- `ParentObservedPublicationObservationV1::validate_against_descriptor`. -/
def ParentObservation.validateAgainstDescriptor (observation : ParentObservation)
    (descriptor : PublicationEffectDescriptor) : Except String Unit :=
  match observation, descriptor.operation with
  | .gitPush observed, .gitPush fields => observed.validateAgainst fields
  | .githubPullRequest observed, .githubPullRequest fields => observed.validateAgainst fields
  | _, _ => .error "parent observation operation does not match its descriptor"

/-! ## Digests -/

section Digests

variable (sha256Hex : String → String)

/-- `stable_json_digest`. -/
def stableJsonDigest (value : Json) : String := sha256Hex value.text

/-- `git_push_remote_binding_digest`. -/
def gitPushRemoteBindingDigest (remoteName : String) (locator : GitNetworkLocator) :
    Except String String := do
  validateBoundedText remoteName "git remote name" 256
  locator.validate
  pure (stableJsonDigest sha256Hex (.array [.string "maco_publication_remote_binding_v1",
    .string remoteName, .string locator.remoteUrl]))

/-- `git_push_external_effect_payload_digest`. -/
def gitPushPayloadDigest (expectedOid : String) : Except String String := do
  validateEffectOid expectedOid "expected oid"
  pure (stableJsonDigest sha256Hex (.object [("expected_oid", .string expectedOid),
    ("version", .number 1)]))

/-- `github_pull_request_external_effect_target_digest`. -/
def githubPullRequestTargetDigest (repositorySelector expectedOid expectedBaseOid
    baseBranch : String) : Except String String := do
  validateBoundedText repositorySelector "repository selector" 2048
  validateEffectOid expectedOid "expected oid"
  validateEffectOid expectedBaseOid "expected base oid"
  validateBoundedText baseBranch "base branch" 256
  pure (stableJsonDigest sha256Hex (.object [("base", .string baseBranch),
    ("expected_base_oid", .string expectedBaseOid), ("expected_oid", .string expectedOid),
    ("repository", .string repositorySelector), ("version", .number 1)]))

/-- `git_push_external_effect_target_digest`. -/
def gitPushTargetDigest (repositorySelector remoteName : String) (locator : GitNetworkLocator)
    (baseBranch expectedBaseOid : String) : Except String String := do
  validateBoundedText repositorySelector "repository selector" 2048
  validateBoundedText remoteName "git remote name" 256
  validateBoundedText baseBranch "git base branch" 256
  validateEffectOid expectedBaseOid "expected base oid"
  locator.validate
  pure (stableJsonDigest sha256Hex (.object [("base", .string baseBranch),
    ("expected_base_oid", .string expectedBaseOid), ("remote_name", .string remoteName),
    ("remote_url", .string locator.remoteUrl), ("repository", .string repositorySelector),
    ("version", .number 1)]))

/-- `external_effect_operation_digest_label`. -/
def PublicationEffectOperation.digestLabel : PublicationEffectOperation → String
  | .gitPush _ => "git_push"
  | .githubPullRequest _ => "github_pull_request"

variable (descriptor : PublicationEffectDescriptor)

/-- `expected_publication_effect_id_without_source`. -/
def expectedEffectIdWithoutSource : String :=
  let operation := Json.string descriptor.operation.digestLabel
  let logicalBinding := stableJsonDigest sha256Hex (.array [
    .string "maco_external_effect_logical_v2", .string descriptor.transportProvider,
    .string descriptor.repositorySelector, .string descriptor.repositoryIdentity, operation,
    .string descriptor.targetDigest, .string descriptor.payloadDigest])
  stableJsonDigest sha256Hex (.array [.string "maco_external_effect_id_v2",
    .string logicalBinding, operation, .string descriptor.targetDigest,
    .string descriptor.payloadDigest])

/-- `GitPushPublicationEffectFieldsV1::validate`. -/
def GitPushFields.validate (fields : GitPushFields) : Except String Unit := do
  fields.networkLocator.validate
  validateBoundedText fields.remoteName "git remote name" 256
  validatePublicationRef fields.lookupRef "git lookup ref"
  validateBoundedText fields.baseBranch "git base branch" 256
  validateEffectOid fields.expectedBaseOid "expected base oid"
  validateEffectOid fields.expectedHeadOid "expected head oid"
  validateEffectSha256 fields.remoteBindingDigest "remote binding digest"
  let expectedBinding ← gitPushRemoteBindingDigest sha256Hex fields.remoteName fields.networkLocator
  refuseIf (fields.remoteBindingDigest ≠ expectedBinding)
    "git push remote binding digest does not match locator and remote name"

/-- The bindings of a descriptor's operation to its digests and transport. -/
def PublicationEffectDescriptor.validateOperation : Except String Unit :=
  match descriptor.operation with
  | .gitPush fields => do
      fields.validate sha256Hex
      refuseIf (descriptor.transportProvider ≠ "git")
        "git push descriptor used a non-git transport provider"
      let expectedTarget ← gitPushTargetDigest sha256Hex descriptor.repositorySelector
        fields.remoteName fields.networkLocator fields.baseBranch fields.expectedBaseOid
      refuseIf (descriptor.targetDigest ≠ expectedTarget)
        "git push descriptor target digest does not match its fields"
      let expectedPayload ← gitPushPayloadDigest sha256Hex fields.expectedHeadOid
      refuseIf (descriptor.payloadDigest ≠ expectedPayload)
        "git push descriptor payload digest does not match expected head oid"
  | .githubPullRequest fields => do
      fields.validate
      refuseIf (descriptor.transportProvider ≠ "github")
        "github pull request descriptor used a non-github transport provider"
      validateEffectMarker fields.marker
      refuseIf (fields.marker ≠ "<!-- maco-external-effect:v2:" ++ descriptor.effectId ++ " -->")
        "effect marker does not match descriptor effect id"
      let expectedTarget ← githubPullRequestTargetDigest sha256Hex descriptor.repositorySelector
        fields.expectedHeadOid fields.expectedBaseOid fields.baseBranch
      refuseIf (descriptor.targetDigest ≠ expectedTarget)
        "github pull request descriptor target digest does not match its fields"

/-- `PublicationEffectDescriptorV1::validate`. An effect guarded by a source grant carries an id
derived from fields the descriptor does not store, so only the other ids are recomputed. -/
def PublicationEffectDescriptor.validate : Except String Unit := do
  refuseIf (descriptor.schema ≠ descriptorSchema ∨ descriptor.version ≠ 1)
    "publication effect descriptor has an unsupported schema or version"
  validateEffectId descriptor.effectId
  validateBoundedText descriptor.transportProvider "transport provider" 2048
  validateBoundedText descriptor.repositorySelector "repository selector" 2048
  validateBoundedText descriptor.repositoryIdentity "repository identity" 2048
  descriptor.sourceProvenanceDigest.toList.forM
    (validateEffectSha256 · "source provenance digest")
  validateEffectSha256 descriptor.targetDigest "target digest"
  validateEffectSha256 descriptor.payloadDigest "payload digest"
  descriptor.validateOperation sha256Hex
  refuseIf (descriptor.sourceProvenanceDigest = none ∧
    descriptor.effectId ≠ expectedEffectIdWithoutSource sha256Hex descriptor)
    "descriptor effect id does not match canonical external-effect binding"

/-- `canonical_parent_observed_digest`. -/
def canonicalParentObservedDigest (reserveEventNonce : String)
    (descriptor : PublicationEffectDescriptor) (observation : ParentObservation) : String :=
  stableJsonDigest sha256Hex (.array [.string materialSchema, .number 1,
    .string reserveEventNonce, descriptor.toJson, observation.toJson])

/-- `ParentObservedPublicationMaterialV1::validate`. -/
def ParentObservedMaterial.validate (material : ParentObservedMaterial) : Except String Unit := do
  refuseIf (material.schema ≠ materialSchema ∨ material.version ≠ 1)
    "parent observed publication material has an unsupported schema or version"
  validateEventNonce material.reserveEventNonce
  material.descriptor.validate sha256Hex
  material.observation.validateAgainstDescriptor material.descriptor
  refuseIf (material.canonicalMaterialDigest ≠ canonicalParentObservedDigest sha256Hex
    material.reserveEventNonce material.descriptor material.observation)
    "parent observed publication material digest is not canonical"

end Digests

end Maco.Journal
