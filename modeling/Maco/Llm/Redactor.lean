import Maco.Base.Json
import Maco.Base.Map
import Maco.Base.Number
import Maco.Base.Result
import Maco.Base.Sequence
import Maco.Base.Text

/-!
# Redaction

Text that leaves the process is redacted in passes. A line that assigns to a key which names a
secret loses what it assigns; then every private value the redactor knows is replaced by a marker,
the longest value first. A later pass must not bring back a value that an earlier one removed.
-/

namespace Maco.Llm

open Maco.Base List

structure RedactionSummary where
  totalReplacements : ℕ
  byLabel : BTreeMap String ℕ

/-- `RedactionSummary::record`. -/
def RedactionSummary.record (summary : RedactionSummary) (label : String) (count : ℕ) :
    RedactionSummary :=
  if count = 0 then summary
  else
    { totalReplacements := saturatingAddU64 summary.totalReplacements count
      byLabel := summary.byLabel.insert label
        ((summary.byLabel[label]?.map (saturatingAddU64 · count)).getD count) }

structure RedactedText where
  text : String
  summary : RedactionSummary

/-- `RedactionRule`; a redactor keeps no rule for the empty value. -/
structure RedactionRule where
  label : String
  value : String
  nonempty : value ≠ ""
deriving DecidableEq

structure Redactor where
  rules : List RedactionRule
  redactSecretAssignments : Bool

/-- `Redactor::new`. -/
def Redactor.new : Redactor := ⟨[], true⟩

/-- `Redactor::without_secret_assignment_detection`. -/
def Redactor.withoutSecretAssignmentDetection (redactor : Redactor) : Redactor :=
  { redactor with redactSecretAssignments := false }

/-- Longer values come first, then the rules are ordered by value and label. -/
def RedactionRule.sortKey (rule : RedactionRule) : ℕᵒᵈ ×ₗ String ×ₗ String :=
  toLex (OrderDual.toDual (byteLength rule.value), toLex (rule.value, rule.label))

/-- `Redactor::with_private_value`. -/
def Redactor.withPrivateValue (redactor : Redactor) (label value : String) : Redactor :=
  if fresh : trim label ≠ "" ∧ value ≠ "" ∧ ∀ rule ∈ redactor.rules, rule.value ≠ value then
    { redactor with
      rules := sortBy RedactionRule.sortKey (redactor.rules ++ [⟨label, value, fresh.2.1⟩]) }
  else redactor

/-- The marker that stands for what was removed under a label. -/
def marker (label : String) : String := "<redacted:" ++ label ++ ">"

/-- `trailing_assignment_key`: the word at the end of the text before a delimiter. -/
def trailingAssignmentKey (before : List Char) : List Char :=
  ((before.reverse.dropWhile isWhitespace).takeWhile fun c =>
    isAsciiAlphanumeric c || c == '_' || c == '-' || c == '"' || c == '\'').reverse

/-- `is_secret_key`. -/
def isSecretKey (key : List Char) : Bool :=
  let outer := fun c => c == '"' || c == '\'' || isWhitespace c
  let trimmed := ((key.dropWhile outer).reverse.dropWhile outer).reverse
  let normalized := String.ofList (trimmed.map fun c => if c = '-' then '_' else c.toUpper)
  ["SECRET", "TOKEN", "PASSWORD", "PRIVATE_KEY", "API_KEY", "AUTHORIZATION", "BEARER"].any
    (containsText normalized)

/-- `redact_secret_assignment_line`, from some character of the line on: at the first delimiter
after a secret key with something assigned, the rest of the line is replaced. -/
def redactSecretAssignmentLine (before : List Char) : List Char → Option (List Char)
  | [] => none
  | c :: rest =>
    if (c = '=' ∨ c = ':') ∧ isSecretKey (trailingAssignmentKey before) ∧
        ¬ rest.all isWhitespace then
      some (before ++ c :: rest.takeWhile isWhitespace ++ (marker "secret").toList)
    else redactSecretAssignmentLine (before ++ [c]) rest

/-- `redact_secret_assignments`: line by line, with the line breaks put back. -/
def redactSecretAssignments (input : String) : RedactedText :=
  let lines := (input.toList.splitOn '\n').map fun line =>
    (line, redactSecretAssignmentLine [] line)
  { text := String.ofList (['\n'].intercalate (lines.map fun line => line.2.getD line.1))
    summary := lines.foldl (fun summary line => summary.record "secret" line.2.toList.length)
      ⟨0, ∅⟩ }

/-- `str::replace`, with the number of replacements: the occurrences of a value are found from left
to right and do not overlap; `skip` characters still belong to the last one. -/
def replaceValue (value marker : List Char) : ℕ → List Char → List Char × ℕ
  | _, [] => ([], 0)
  | skip + 1, _ :: rest => replaceValue value marker skip rest
  | 0, c :: rest =>
    if value.isPrefixOf (c :: rest) then
      let (text, count) := replaceValue value marker (value.length - 1) rest
      (marker ++ text, count + 1)
    else
      let (text, count) := replaceValue value marker 0 rest
      (c :: text, count)

/-- One private value of the loop of `redact`; when it does not occur, nothing changes. -/
def RedactedText.replace (redacted : RedactedText) (rule : RedactionRule) : RedactedText :=
  let (text, count) :=
    replaceValue rule.value.toList (marker rule.label).toList 0 redacted.text.toList
  { text := String.ofList text, summary := redacted.summary.record rule.label count }

/-- `Redactor::redact`. -/
def Redactor.redact (redactor : Redactor) (input : String) : RedactedText :=
  redactor.rules.foldl RedactedText.replace
    (if redactor.redactSecretAssignments then Llm.redactSecretAssignments input
      else ⟨input, 0, ∅⟩)

mutual

/-- `redact_json_with`. -/
def redactJsonWith (redactor : Redactor) : Json → Json
  | .string text => .string (redactor.redact text).text
  | .array items => .array (redactItems redactor items)
  | .object members => .object (redactMembers redactor ∅ members).toList
  | other => other

/-- The items of an array. -/
def redactItems (redactor : Redactor) : List Json → List Json
  | [] => []
  | item :: items => redactJsonWith redactor item :: redactItems redactor items

/-- The members of an object; of two keys that are redacted to one, the later member stays. -/
def redactMembers (redactor : Redactor) (redacted : BTreeMap String Json) :
    List (String × Json) → BTreeMap String Json
  | [] => redacted
  | (key, value) :: members =>
    redactMembers redactor
      (redacted.insert (redactor.redact key).text (redactJsonWith redactor value)) members

end

/-- The private values cannot be taken for a marker: none has an angle bracket or occurs in a marker
that stands for one of them. -/
structure Redactor.Distinguishable (redactor : Redactor) : Prop where
  opening : ∀ rule ∈ redactor.rules, '<' ∉ rule.value.toList
  closing : ∀ rule ∈ redactor.rules, '>' ∉ rule.value.toList
  apart : ∀ rule ∈ redactor.rules, ∀ other ∈ redactor.rules,
    containsText (marker other.label) rule.value = false

/-- The strings of an object are its keys and the strings of its members. -/
theorem forall_membersStrings {good : String → Prop} :
    (∀ text ∈ Json.membersStrings members, good text) ↔
      ∀ key value, (key, value) ∈ members → good key ∧ ∀ text ∈ value.strings, good text := by
  induction members with
  | nil => simp [Json.membersStrings]
  | cons member members ih =>
    obtain ⟨key, value⟩ := member
    simp only [Json.membersStrings, cons_append, forall_mem_append, ih,
      mem_cons, Prod.mk.injEq, or_imp, forall_and, and_imp, forall_eq_apply_imp_iff,
      forall_eq]
    tauto

section

variable {hidden text : List Char}

/-- What misses the opening bracket starts the text when it starts the replacement. -/
theorem starts_of_replaceValue (value inside : List Char) (opening : '<' ∉ hidden)
    (starts : hidden <+: (replaceValue value ('<' :: inside ++ ['>']) 0 text).1) :
    hidden <+: text := by
  induction text generalizing hidden with
  | nil => exact starts
  | cons c text ih =>
    cases hidden with
    | nil => exact nil_prefix
    | cons head tail =>
      rw [replaceValue] at starts
      split at starts
      · obtain ⟨rfl, _⟩ := cons_prefix_cons.mp starts
        exact absurd mem_cons_self opening
      · obtain ⟨rfl, rest⟩ := cons_prefix_cons.mp starts
        exact cons_prefix_cons.mpr ⟨rfl, ih (not_mem_of_not_mem_cons opening) rest⟩

/-- What misses the brackets and the marker between them, and occurs after the replacement of a
value, is not the value and occurred before. -/
theorem occurs_of_replaceValue {hidden value inside text : List Char} {skip : ℕ}
    (nonempty : hidden ≠ []) (opening : '<' ∉ hidden) (closing : '>' ∉ hidden)
    (apart : ¬ hidden <:+: '<' :: inside ++ ['>'])
    (occurs : hidden <:+: (replaceValue value ('<' :: inside ++ ['>']) skip text).1) :
    hidden ≠ value ∧ hidden <:+: text := by
  induction text generalizing skip with
  | nil => exact absurd (eq_nil_of_infix_nil (by simpa [replaceValue] using occurs)) nonempty
  | cons c text ih =>
    cases skip with
    | succ skip => exact (ih occurs).imp_right infix_cons
    | zero =>
      rw [replaceValue] at occurs
      split at occurs
      · -- the marker ends in a bracket, so nothing reaches from it into the rest
        rcases infix_append_iff.mp occurs with
          within | later | ⟨front, back, rfl, ends, starts⟩
        · exact absurd within apart
        · exact (ih later).imp_right infix_cons
        · rcases suffix_concat_iff.mp ends with rfl | ⟨front, rfl, _⟩
          · exact (ih starts.isInfix).imp_right infix_cons
          · simp at closing
      · rename_i elsewhere
        rcases infix_cons_iff.mp occurs with here | later
        · have before : hidden <+: c :: text := by
            refine starts_of_replaceValue value inside opening ?_
            rwa [replaceValue, if_neg elsewhere]
          refine ⟨fun same => elsewhere ?_, before.isInfix⟩
          rwa [List.isPrefixOf_iff_prefix, ← same]
        · exact (ih later).imp_right infix_cons

end

/-- The passes of the private values: what is left after them is none of them. -/
theorem occurs_of_replace {rules : List RedactionRule} {hidden : List Char} (nonempty : hidden ≠ [])
    (opening : '<' ∉ hidden) (closing : '>' ∉ hidden)
    (apart : ∀ rule ∈ rules, ¬ hidden <:+: (marker rule.label).toList) {redacted : RedactedText}
    (occurs : hidden <:+: (rules.foldl RedactedText.replace redacted).text.toList) :
    (∀ rule ∈ rules, hidden ≠ rule.value.toList) ∧ hidden <:+: redacted.text.toList := by
  induction rules generalizing redacted with
  | nil => exact ⟨by simp, occurs⟩
  | cons rule rules ih =>
    rw [forall_mem_cons] at apart ⊢
    obtain ⟨others, before⟩ := ih apart.2 occurs
    have shape : (marker rule.label).toList =
        '<' :: ("redacted:" ++ rule.label).toList ++ ['>'] := by
      simp [marker]
    rw [RedactedText.replace, String.toList_ofList, shape] at before
    obtain ⟨this, first⟩ := occurs_of_replaceValue nonempty opening closing (shape ▸ apart.1) before
    exact ⟨⟨this, others⟩, first⟩

section

variable {redactor : Redactor} {good : String → Prop}

mutual

/-- What holds of every redacted text holds of the strings and keys of a redacted value. -/
theorem redactJsonWith_strings (each : ∀ input, good (redactor.redact input).text) (value : Json) :
    ∀ text ∈ (redactJsonWith redactor value).strings, good text := by
  cases value with
  | string text => simpa [redactJsonWith, Json.strings] using each text
  | array items =>
    rw [redactJsonWith, Json.strings]
    exact redactItems_strings each items
  | object members =>
    rw [redactJsonWith, Json.strings, forall_membersStrings]
    simp only [BTreeMap.mem_toList]
    exact redactMembers_strings each members (by simp)
  | _ => simp [redactJsonWith, Json.strings]

/-- It holds of those of the redacted items of an array. -/
theorem redactItems_strings (each : ∀ input, good (redactor.redact input).text)
    (items : List Json) : ∀ text ∈ Json.itemsStrings (redactItems redactor items), good text := by
  cases items with
  | nil => simp [redactItems, Json.itemsStrings]
  | cons item items =>
    rw [redactItems, Json.itemsStrings, forall_mem_append]
    exact ⟨redactJsonWith_strings each item, redactItems_strings each items⟩

/-- It holds of those of the redacted members of an object. -/
theorem redactMembers_strings (each : ∀ input, good (redactor.redact input).text)
    (members : List (String × Json))
    (before : ∀ (key : String) value, redacted[key]? = some value →
      good key ∧ ∀ text ∈ value.strings, good text) (key : String) (value : Json)
    (found : (redactMembers redactor redacted members)[key]? = some value) :
    good key ∧ ∀ text ∈ value.strings, good text := by
  cases members with
  | nil => exact before key value found
  | cons member members =>
    refine redactMembers_strings each members (fun other inner here => ?_) key value found
    rcases BTreeMap.get_insert_cases here with ⟨rfl, rfl⟩ | ⟨_, earlier⟩
    · exact ⟨each member.1, redactJsonWith_strings each member.2⟩
    · exact before other inner earlier

end

end

/-- No private value is left in a redacted text, nor in a string or a key of a redacted value. -/
theorem redact_hides_private_values {redactor : Redactor}
    (distinguishable : redactor.Distinguishable) {rule : RedactionRule}
    (known : rule ∈ redactor.rules) :
    (∀ input, containsText (redactor.redact input).text rule.value = false) ∧
      ∀ value, ∀ text ∈ (redactJsonWith redactor value).strings,
        containsText text rule.value = false := by
  have clear : ∀ input, containsText (redactor.redact input).text rule.value = false := by
    intro input
    rw [Bool.eq_false_iff, Ne, containsText_iff]
    intro occurs
    refine (occurs_of_replace (by simpa using rule.nonempty) (distinguishable.opening rule known)
      (distinguishable.closing rule known) (fun other listed within => ?_) occurs).1 rule known rfl
    have apart := distinguishable.apart rule known other listed
    rw [containsText_iff.mpr within] at apart
    cases apart
  exact ⟨clear, redactJsonWith_strings clear⟩

/-- Two private values, one inside the other. -/
def nestedValues : Redactor :=
  (Redactor.new.withPrivateValue "short" "abc").withPrivateValue "long" "abcdef"

/-- The inner value is hidden too. -/
theorem redact_hides_private_values_nested :
    (∀ input, containsText (nestedValues.redact input).text "abc" = false) ∧
      ∀ value, ∀ text ∈ (redactJsonWith nestedValues value).strings,
        containsText text "abc" = false := by
  have rules : nestedValues.rules =
      [⟨"long", "abcdef", by decide⟩, ⟨"short", "abc", by decide⟩] := by
    decide +kernel
  refine @redact_hides_private_values nestedValues ⟨?_, ?_, ?_⟩ ⟨"short", "abc", by decide⟩ ?_
  · rw [rules]; decide +kernel
  · rw [rules]; decide +kernel
  · rw [rules]; decide +kernel
  · rw [rules]; simp

end Maco.Llm
