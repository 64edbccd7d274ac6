import Mathlib

/-!
# Text

Byte lengths, trimming and the character classes that identifiers are checked against. A test of
every byte against an ASCII class is a test of every character: each byte of a character outside
ASCII lies outside every such class.
-/

namespace Maco.Base

open String (ofList toList_append toList_ofList ofList_toList)

/-- Length in bytes of the UTF-8 encoding. -/
abbrev byteLength (text : String) : ℕ := text.utf8ByteSize

/-- The Unicode `White_Space` property. -/
def isWhitespace (c : Char) : Bool :=
  (0x09 ≤ c.toNat && c.toNat ≤ 0x0d) || c.toNat == 0x20 || c.toNat == 0x85 || c.toNat == 0xa0 ||
    c.toNat == 0x1680 || (0x2000 ≤ c.toNat && c.toNat ≤ 0x200a) || c.toNat == 0x2028 ||
    c.toNat == 0x2029 || c.toNat == 0x202f || c.toNat == 0x205f || c.toNat == 0x3000

/-- Text without its leading and trailing whitespace. -/
def trim (text : String) : String :=
  ofList ((text.toList.dropWhile isWhitespace).reverse.dropWhile isWhitespace).reverse

/-- ASCII lower-case letters. -/
def isAsciiLowercase (c : Char) : Bool := 'a' ≤ c && c ≤ 'z'

/-- ASCII upper-case letters. -/
def isAsciiUppercase (c : Char) : Bool := 'A' ≤ c && c ≤ 'Z'

/-- ASCII decimal digits. -/
def isAsciiDigit (c : Char) : Bool := '0' ≤ c && c ≤ '9'

/-- ASCII letters and digits. -/
def isAsciiAlphanumeric (c : Char) : Bool :=
  isAsciiLowercase c || isAsciiUppercase c || isAsciiDigit c

/-- The letters, digits and separators of file-name-like identifiers. -/
def isNameChar (c : Char) : Bool := isAsciiAlphanumeric c || c == '-' || c == '_' || c == '.'

/-- Decimal digits and the lower-case hexadecimal letters. -/
def isLowerHexDigit (c : Char) : Bool := isAsciiDigit c || ('a' ≤ c && c ≤ 'f')

/-- The Unicode control characters. -/
def isControl (c : Char) : Bool := c.toNat ≤ 0x1f || (0x7f ≤ c.toNat && c.toNat ≤ 0x9f)

/-- Every character of the text is in the class. -/
def allChars (inClass : Char → Bool) (text : String) : Bool := text.toList.all inClass

/-- The ASCII control characters. -/
def isAsciiControl (c : Char) : Bool := c.toNat ≤ 0x1f || c.toNat == 0x7f

/-- The ASCII whitespace characters. -/
def isAsciiWhitespace (c : Char) : Bool :=
  c == ' ' || c == '\t' || c == '\n' || c.toNat == 0x0c || c == '\r'

/-- Text with its ASCII upper-case letters in lower case. -/
def toAsciiLowercase (text : String) : String :=
  ofList (text.toList.map fun c =>
    if isAsciiUppercase c then Char.ofNat (c.toNat + 0x20) else c)

/-- Some character of the text is in the class. -/
def anyChar (inClass : Char → Bool) (text : String) : Bool := text.toList.any inClass

/-- The text starts with the given one. -/
def startsWith (text start : String) : Bool := start.toList.isPrefixOf text.toList

/-- The text ends with the given one. -/
def endsWith (text stop : String) : Bool := stop.toList.isSuffixOf text.toList

/-- The given text occurs somewhere in the text. -/
def containsText (text part : String) : Bool := text.toList.tails.any part.toList.isPrefixOf

/-- The rest of a text after its start. -/
def stripStart (text start : String) : Option String :=
  if startsWith text start then some (ofList (text.toList.drop start.toList.length))
  else none

/-- The rest of a text before its end. -/
def stripEnd (text stop : String) : Option String :=
  if endsWith text stop then
    some (ofList (text.toList.take (text.toList.length - stop.toList.length)))
  else none

/-- The parts of a text between the occurrences of a separator. -/
def splitParts (text : String) (separator : Char) : List String :=
  (text.toList.splitOn separator).map ofList

/-- The parts before and after the first separator. -/
def splitOnce (text : String) (separator : Char) : Option (String × String) :=
  match text.toList.dropWhile (· != separator) with
  | [] => none
  | _ :: after => some (ofList (text.toList.takeWhile (· != separator)), ofList after)

/-- The parts before and after the last separator. -/
def rsplitOnce (text : String) (separator : Char) : Option (String × String) :=
  match text.toList.reverse.dropWhile (· != separator) with
  | [] => none
  | _ :: before => some (ofList before.reverse,
      ofList (text.toList.reverse.takeWhile (· != separator)).reverse)

/-- The value of a list of decimal digits. -/
def decimalValue (digits : List Char) : ℕ :=
  digits.foldl (fun n c => 10 * n + (c.toNat - '0'.toNat)) 0

/-- The digits of a number; a plus sign may stand before them. -/
def numberDigits : List Char → List Char
  | '+' :: digits => digits
  | digits => digits

/-- An unsigned decimal number no larger than the limit, as Rust's integer types read it. -/
def parseUnsigned (limit : ℕ) (text : String) : Option ℕ :=
  let digits := numberDigits text.toList
  if digits.isEmpty || !digits.all isAsciiDigit || limit < decimalValue digits then none
  else some (decimalValue digits)

/-- A number in decimal, padded with zeros to a width. -/
def zeroPadded (width n : ℕ) : String :=
  ofList (List.replicate (width - (toString n).length) '0') ++ toString n

/-- A padded number reads back as the number. -/
theorem zeroPadded_value (width n : ℕ) : Nat.ofDigitChars 10 (zeroPadded width n).toList 0 = n := by
  have zeros : ∀ (count : ℕ) (text : List Char),
      Nat.ofDigitChars 10 (List.replicate count '0' ++ text) 0 = Nat.ofDigitChars 10 text 0 := by
    intro count text
    induction count with
    | zero => rfl
    | succ count ih => simpa [List.replicate_succ, Nat.ofDigitChars_cons] using ih
  rw [zeroPadded, toList_append, toList_ofList, zeros, Nat.toString_eq_repr,
    Nat.repr_eq_ofList_toDigits, toList_ofList]
  exact Nat.ofDigitChars_toDigits (by decide) (by decide)

/-- Stripping the start that was put before a text gives the text. -/
theorem stripStart_append (start text : String) : stripStart (start ++ text) start = some text := by
  have starts : startsWith (start ++ text) start = true := by
    rw [startsWith, toList_append, List.isPrefixOf_iff_prefix]
    exact List.prefix_append _ _
  rw [stripStart, if_pos starts, toList_append, List.drop_left, ofList_toList]

/-- What is stripped off a text is its start. -/
theorem eq_append_of_stripStart {text start rest : String}
    (stripped : stripStart text start = some rest) : text = start ++ rest := by
  rw [stripStart, Option.ite_none_right_eq_some, Option.some_inj] at stripped
  obtain ⟨starts, rfl⟩ := stripped
  obtain ⟨tail, parts⟩ := List.isPrefixOf_iff_prefix.mp starts
  rw [← String.toList_inj, toList_append, toList_ofList, ← parts, List.drop_left]

/-- Stripping the end that was put after a text gives the text. -/
theorem stripEnd_append (text stop : String) : stripEnd (text ++ stop) stop = some text := by
  have ends : endsWith (text ++ stop) stop = true := by
    rw [endsWith, toList_append, List.isSuffixOf_iff_suffix]
    exact List.suffix_append _ _
  rw [stripEnd, if_pos ends, toList_append, List.length_append, Nat.add_sub_cancel,
    List.take_left, ofList_toList]

theorem startsWith_append {text start : String} (rest : String)
    (starts : startsWith text start = true) : startsWith (text ++ rest) start = true := by
  rw [startsWith, List.isPrefixOf_iff_prefix] at starts ⊢
  rw [toList_append]
  exact starts.trans (List.prefix_append _ _)

theorem containsText_iff {text part : String} :
    containsText text part = true ↔ part.toList <:+: text.toList := by
  simp only [containsText, List.any_eq_true, List.mem_tails, List.isPrefixOf_iff_prefix,
    List.infix_iff_prefix_suffix, and_comm]

theorem char_le_iff (a b : Char) : a ≤ b ↔ a.toNat ≤ b.toNat := Iff.rfl

/-- No identifier character is whitespace. -/
theorem isWhitespace_of_isNameChar {c : Char} (name : isNameChar c = true) :
    isWhitespace c = false := by
  simp only [isNameChar, isAsciiAlphanumeric, isAsciiLowercase, isAsciiUppercase, isAsciiDigit,
    Bool.or_eq_true, Bool.and_eq_true, decide_eq_true_eq, beq_iff_eq, char_le_iff] at name
  rcases name with ((letter | rfl) | rfl) | rfl
  · simp only [Char.reduceToNat] at letter
    simp only [isWhitespace, Bool.or_eq_false_iff, Bool.and_eq_false_iff, decide_eq_false_iff_not,
      beq_eq_false_iff_ne]
    omega
  all_goals decide

/-- Text with no whitespace is its own trimming. -/
theorem trim_eq_self {text : String} (clear : ∀ c ∈ text.toList, isWhitespace c = false) :
    trim text = text := by
  have untouched : ∀ chars : List Char, (∀ c ∈ chars, isWhitespace c = false) →
      chars.dropWhile isWhitespace = chars := by
    intro chars plain
    cases chars with
    | nil => rfl
    | cons c chars => rw [List.dropWhile_cons_of_neg (by simp [plain c])]
  rw [trim, untouched _ clear, untouched _ (by simpa using clear), List.reverse_reverse,
    ofList_toList]

end Maco.Base
