import Maco.Base.Json
import Maco.Base.Result
import Maco.Base.Text

/-!
# Scope keys and record envelopes

Two kinds of coordination record are kept in forge comments, one in the journal and one in plain
item threads. They share the shape of their envelope, the check on free text, which may not imitate
the envelope, and the opaque resource keys they claim: keys overlap when one is the other or lies
below it.
-/

namespace Maco.Publication

open Maco.Base

/-- The markers around the JSON payload of one kind of record. -/
structure RecordFormat where
  marker : String
  endMarker : String
  markerStart : String
  endMarkerStart : String
  markerToken : String
  schema : String
  marked : startsWith marker markerStart = true

def maxRecordBodyBytes : ℕ := 16 * 1024
def maxScopeCount : ℕ := 64
def maxScopeBytes : ℕ := 256
def maxReleaseReasonBytes : ℕ := 512

variable (format : RecordFormat)

/-- A payload between its markers. -/
def RecordFormat.wrap (json : String) : String :=
  format.marker ++ "\n" ++ json ++ "\n" ++ format.endMarker

/-- The payload between the markers of a body. -/
def RecordFormat.unwrap (body : String) : Option String := do
  let rest ← stripStart body format.marker
  let rest ← stripStart rest "\n"
  let rest ← stripEnd rest format.endMarker
  stripEnd rest "\n"

/-- The body begins like a record, well formed or not. -/
def RecordFormat.looksLike (body : String) : Bool :=
  startsWith body format.markerStart || startsWith body format.endMarkerStart

/-- `validate_text`. -/
def validateText (value label : String) (limit : ℕ) (allowEmpty : Bool) : Except String Unit :=
  refuseIf ((allowEmpty = false ∧ value = "") ∨ limit < byteLength value ∨
    containsText value "-->" ∨ containsText value format.markerToken ∨
    containsText value format.schema ∨
    anyChar (fun c => isAsciiControl c && c != '\n' && c != '\t') value)
    (label ++ " is malformed or exceeds its byte limit")

/-- `scope_keys_overlap`. -/
def scopeKeysOverlap (left right : String) : Bool :=
  left == right || (stripStart left right).any (startsWith · "/") ||
    (stripStart right left).any (startsWith · "/")

/-- `scopes_overlap`. -/
def scopesOverlap (left right : List String) : Bool :=
  left.any fun leftScope => right.any fun rightScope => scopeKeysOverlap leftScope rightScope

/-- One scope key, checked against the ones before it. -/
def validateScope (earlier : List String) (scope : String) : Except String Unit := do
  validateText format scope "claim scope" maxScopeBytes false
  refuseIf (startsWith scope "/" ∨ endsWith scope "/" ∨ containsText scope "//" ∨
    anyChar (· == '\\') scope ∨ (∃ part ∈ splitParts scope '/', part = "." ∨ part = "..") ∨
    anyChar isAsciiWhitespace scope) "claim scope is not a canonical opaque resource key"
  refuseIf (earlier.getLast?.any fun previous => decide (scope ≤ previous))
    "claim scopes must be strictly sorted and unique"
  refuseIf (earlier.any fun previous => scopeKeysOverlap previous scope)
    "claim scopes cannot contain redundant ancestor and descendant keys"

/-- `validate_scopes`. -/
def validateScopes (scopes : List String) : Except String Unit := do
  refuseIf (scopes = [] ∨ maxScopeCount < scopes.length)
    "claim scopes must be a bounded non-empty collection"
  let _ ← scopes.foldlM (fun earlier scope => do
    validateScope format earlier scope
    pure (earlier ++ [scope])) []
  pure ()

/-- One kind of record: its envelope, what refusals call a record and its text, its checks, those of
its object ids apart, and its payload. -/
structure RecordKind (α : Type) where
  format : RecordFormat
  noun : String
  subject : String
  validate : α → Except String Unit
  validateIds : α → Except String Unit
  toJson : α → Json
  object : ∀ record, ∃ members, toJson record = .object members

section Kind

variable (kind : RecordKind α)

/-- The text of a record. -/
def RecordKind.render (record : α) : Except String String := do
  kind.validate record
  let body := kind.format.wrap (kind.toJson record).text
  refuseIf (maxRecordBodyBytes < byteLength body) (kind.noun ++ " exceeds its body byte limit")
  pure body

variable (fromStr : String → Option α)

/-- Reading the payload; the object ids are checked as they are read. -/
def RecordKind.decode (json : String) : Except String α := do
  let wire ← require (fromStr json) (kind.subject ++ " payload is not strict valid JSON")
  context (kind.validateIds wire) (kind.subject ++ " payload is not strict valid JSON")
  pure wire

/-- Reading a body that looks like a record. -/
def RecordKind.parseMarked (body : String) : Except String α := do
  refuseIf (maxRecordBodyBytes < byteLength body) (kind.subject ++ " body exceeds its byte limit")
  let json ← require (kind.format.unwrap body) (kind.subject ++ " envelope is not canonical")
  refuseIf (json = "" ∨ anyChar (· == '\n') json ∨ anyChar (·.toNat == 0) json)
    (kind.subject ++ " payload is empty or non-canonical")
  let record ← kind.decode fromStr json
  kind.validate record
  let rendered ← kind.render record
  refuseIf (rendered ≠ body) (kind.subject ++ " JSON is not in canonical form")
  pure record

/-- Reading a body; one without the markers is no record. -/
def RecordKind.parse (body : String) : Except String (Option α) :=
  if kind.format.looksLike body then (kind.parseMarked fromStr body).map some else pure none

end Kind

/-- Unwrapping gives back the wrapped payload. -/
theorem RecordFormat.unwrap_wrap (format : RecordFormat) (json : String) :
    format.unwrap (format.wrap json) = some json := by
  have grouped : format.wrap json =
      format.marker ++ ("\n" ++ (json ++ "\n" ++ format.endMarker)) := by
    simp only [wrap, String.append_assoc]
  simp only [unwrap, grouped, stripStart_append, stripEnd_append, Option.bind_eq_bind,
    Option.bind_some]

/-- The text of an object is a payload the records accept: it is not empty and has no line break
and no zero character. -/
theorem payload_canonical {value : Json} (object : ∃ members, value = .object members) :
    ¬ (value.text = "" ∨ anyChar (· == '\n') value.text = true ∨
      anyChar (·.toNat == 0) value.text = true) := by
  have chars : value.text.toList = value.chars := String.toList_ofList
  have plain (c : Char) (control : c.toNat < 0x20) : c ∉ value.text.toList := by
    intro member
    rw [chars] at member
    have visible := value.chars_visible c member
    omega
  rintro (empty | newline | zero)
  · obtain ⟨members, rfl⟩ := object
    rw [empty, Json.chars] at chars
    cases chars
  · rw [anyChar, List.any_eq_true] at newline
    obtain ⟨c, member, same⟩ := newline
    rw [beq_iff_eq] at same
    exact plain '\n' (by decide) (same ▸ member)
  · rw [anyChar, List.any_eq_true] at zero
    obtain ⟨c, member, same⟩ := zero
    rw [beq_iff_eq] at same
    exact plain c (by omega) member

/-- A wrapped payload looks like a record. -/
theorem RecordFormat.looksLike_wrap {format : RecordFormat} (json : String) :
    format.looksLike (format.wrap json) = true := by
  have starts := startsWith_append ("\n" ++ json ++ "\n" ++ format.endMarker) format.marked
  simp only [looksLike, wrap, String.append_assoc, Bool.or_eq_true] at starts ⊢
  exact .inl starts

/-- The size of a wrapped payload. -/
theorem RecordFormat.byteLength_wrap {format : RecordFormat} {value : Json} :
    byteLength (format.wrap value.text) = byteLength format.marker +
      byteLength format.endMarker + 2 + String.utf8Len value.chars := by
  have newline : "\n".utf8ByteSize = 1 := by decide
  simp only [wrap, byteLength, String.utf8ByteSize_append, Json.text, String.utf8ByteSize_ofList,
    newline]
  omega

section Kind

variable {kind : RecordKind α} {fromStr : String → Option α} {record : α}

/-- A valid record of a short payload is rendered. -/
theorem RecordKind.render_of_short (valid : kind.validate record = .ok ())
    (frame : byteLength kind.format.marker + byteLength kind.format.endMarker ≤ 98)
    (short : String.utf8Len (kind.toJson record).chars ≤ 16000) :
    kind.render record = .ok (kind.format.wrap (kind.toJson record).text) := by
  have size : ¬ maxRecordBodyBytes < byteLength (kind.format.wrap (kind.toJson record).text) := by
    rw [RecordFormat.byteLength_wrap, maxRecordBodyBytes]
    omega
  simp only [render, valid, ok_bind, refuseIf, if_neg size]
  rfl

/-- A record that renders is read back from its text, as soon as the JSON reader reads back the
payload the writer wrote and the object ids are well formed. -/
theorem RecordKind.parse_render (rendered : kind.render record = .ok body)
    (reads : fromStr (kind.toJson record).text = some record)
    (ids : kind.validateIds record = .ok ()) : kind.parse fromStr body = .ok (some record) := by
  have whole := rendered
  simp only [render, ok_iff] at rendered
  obtain ⟨⟨⟩, valid, short, rfl⟩ := rendered
  have decoded : kind.decode fromStr (kind.toJson record).text = .ok record := by
    simp only [decode, reads, require, ok_bind, ids, context, Except.mapError]
    rfl
  rw [parse, if_pos (RecordFormat.looksLike_wrap _)]
  simp only [parseMarked, refuseIf, if_neg short, RecordFormat.unwrap_wrap, require, ok_bind,
    if_neg (payload_canonical (kind.object record)), decoded, valid, whole, ne_eq,
    not_true_eq_false, if_false, Except.map, pure, Except.pure]

end Kind

/-- Overlap of keys is symmetric. -/
theorem scopeKeysOverlap_comm (left right : String) :
    scopeKeysOverlap left right = scopeKeysOverlap right left := by
  have same : (left == right) = (right == left) := by
    by_cases equal : left = right <;> simp [equal, eq_comm]
  unfold scopeKeysOverlap
  rw [same, Bool.or_assoc, Bool.or_assoc, Bool.or_comm ((stripStart left right).any _)]

theorem scopesOverlap_iff :
    scopesOverlap left right = true ↔
      ∃ a ∈ left, ∃ b ∈ right, scopeKeysOverlap a b = true := by
  simp [scopesOverlap]

theorem scopesOverlap_comm (overlap : scopesOverlap left right = true) :
    scopesOverlap right left = true := by
  obtain ⟨a, inLeft, b, inRight, keys⟩ := scopesOverlap_iff.mp overlap
  rw [scopeKeysOverlap_comm] at keys
  exact scopesOverlap_iff.mpr ⟨b, inRight, a, inLeft, keys⟩

end Maco.Publication
