import Mathlib

/-!
# JSON values and their compact text

A JSON value and the text a compact writer gives it: no white space between tokens, object members
in the order they are written, and strings with only the quote, the backslash and the control
characters escaped. Integers are read back as they were written; what a reader makes of another
number is its own affair, and a parameter here.
-/

namespace Maco.Base

open List

/-- None of the characters is an ASCII control character below the space. -/
def Visible (chars : List Char) : Prop := ∀ c ∈ chars, 0x20 ≤ c.toNat

/-- The text of a number that is no integer. -/
structure FloatText where
  /-- The characters, in order. -/
  chars : List Char
  /-- None of them is a control character. -/
  visible : Visible chars

/-- A JSON value. -/
inductive Json where
  | null
  | bool (value : Bool)
  | number (value : ℕ)
  /-- A number below zero. -/
  | negative (magnitude : ℕ)
  | float (literal : FloatText)
  | string (value : String)
  | array (items : List Json)
  | object (members : List (String × Json))

/-- A hexadecimal digit in lower case. -/
def hexDigit (n : ℕ) : Char := if n < 10 then Char.ofNat (0x30 + n) else Char.ofNat (0x57 + n)

/-- The letter that stands for a character after a backslash. -/
def shortEscape (c : Char) : Option Char :=
  if c = '"' then some '"'
  else if c = '\\' then some '\\'
  else if c.toNat = 0x08 then some 'b'
  else if c.toNat = 0x0c then some 'f'
  else if c = '\n' then some 'n'
  else if c = '\r' then some 'r'
  else if c = '\t' then some 't'
  else none

/-- How one character of a string is written. -/
def escapedChar (c : Char) : List Char :=
  match shortEscape c with
  | some letter => ['\\', letter]
  | none =>
    if c.toNat < 0x20 then
      ['\\', 'u', '0', '0', hexDigit (c.toNat / 16), hexDigit (c.toNat % 16)]
    else [c]

/-- Texts with a comma between each two. -/
def commaSeparated : List (List Char) → List Char
  | [] => []
  | [part] => part
  | part :: parts => part ++ ',' :: commaSeparated parts

/-- A string between quotes. -/
def quotedChars (text : String) : List Char := '"' :: text.toList.flatMap escapedChar ++ ['"']

mutual

/-- The characters of a value. -/
def Json.chars : Json → List Char
  | .null => ['n', 'u', 'l', 'l']
  | .bool true => ['t', 'r', 'u', 'e']
  | .bool false => ['f', 'a', 'l', 's', 'e']
  | .number value => (toString value).toList
  | .negative magnitude => '-' :: (toString magnitude).toList
  | .float literal => literal.chars
  | .string value => quotedChars value
  | .array items => '[' :: commaSeparated (Json.itemChars items) ++ [']']
  | .object members => '\x7b' :: commaSeparated (Json.memberChars members) ++ ['\x7d']

/-- The characters of each item of an array. -/
def Json.itemChars : List Json → List (List Char)
  | [] => []
  | item :: items => item.chars :: Json.itemChars items

/-- The characters of each member of an object. -/
def Json.memberChars : List (String × Json) → List (List Char)
  | [] => []
  | (name, value) :: members =>
    (quotedChars name ++ ':' :: value.chars) :: Json.memberChars members

end

/-- `serde_json::to_string`. -/
def Json.text (value : Json) : String := String.ofList value.chars

/-- The number of bytes of a value's text. -/
def Json.size (value : Json) : ℕ := String.utf8Len value.chars

/-- An optional value; an absent one is written as null. -/
def Json.nullable : Option String → Json
  | some value => .string value
  | none => .null

mutual

/-- How many arrays and objects lie around one another in a value. -/
def Json.nesting : Json → ℕ
  | .array items => Json.itemsNesting items + 1
  | .object members => Json.membersNesting members + 1
  | _ => 0

/-- The deepest nesting of the items of an array. -/
def Json.itemsNesting : List Json → ℕ
  | [] => 0
  | item :: items => max item.nesting (Json.itemsNesting items)

/-- The deepest nesting of the members of an object. -/
def Json.membersNesting : List (String × Json) → ℕ
  | [] => 0
  | (_, value) :: members => max value.nesting (Json.membersNesting members)

end

mutual

/-- The strings and member names of a value. -/
def Json.strings : Json → List String
  | .string value => [value]
  | .array items => Json.itemsStrings items
  | .object members => Json.membersStrings members
  | _ => []

/-- The strings of the items of an array. -/
def Json.itemsStrings : List Json → List String
  | [] => []
  | item :: items => item.strings ++ Json.itemsStrings items

/-- The names and strings of the members of an object. -/
def Json.membersStrings : List (String × Json) → List String
  | [] => []
  | (name, value) :: members => name :: value.strings ++ Json.membersStrings members

end

mutual

/-- A value that was written and read again. -/
def Json.reread (readFloat : FloatText → FloatText) : Json → Json
  | .float literal => .float (readFloat literal)
  | .array items => .array (Json.rereadItems readFloat items)
  | .object members => .object (Json.rereadMembers readFloat members)
  | value => value

/-- The items of an array, read again. -/
def Json.rereadItems (readFloat : FloatText → FloatText) : List Json → List Json
  | [] => []
  | item :: items => item.reread readFloat :: Json.rereadItems readFloat items

/-- The members of an object, read again. -/
def Json.rereadMembers (readFloat : FloatText → FloatText) :
    List (String × Json) → List (String × Json)
  | [] => []
  | (name, value) :: members =>
    (name, value.reread readFloat) :: Json.rereadMembers readFloat members

end

section

variable {items : List Json} {members : List (String × Json)} {bound : ℕ}
  {readFloat : FloatText → FloatText}

/-- An array nests one level deeper than its items. -/
theorem Json.nesting_array_le (each : ∀ item ∈ items, item.nesting ≤ bound) :
    (Json.array items).nesting ≤ bound + 1 := by
  have together : itemsNesting items ≤ bound := by
    induction items with
    | nil => exact Nat.zero_le bound
    | cons item items ih =>
      rw [itemsNesting]
      exact max_le (each item mem_cons_self)
        (ih fun later member => each later (mem_cons_of_mem _ member))
  rw [nesting]
  omega

/-- An object nests one level deeper than its members. -/
theorem Json.nesting_object_le (each : ∀ member ∈ members, member.2.nesting ≤ bound) :
    (Json.object members).nesting ≤ bound + 1 := by
  have together : membersNesting members ≤ bound := by
    induction members with
    | nil => exact Nat.zero_le bound
    | cons member members ih =>
      rw [membersNesting]
      exact max_le (each member mem_cons_self)
        (ih fun later listed => each later (mem_cons_of_mem _ listed))
  rw [nesting]
  omega

/-- An array of items that are read back is read back. -/
theorem Json.reread_array (each : ∀ item ∈ items, item.reread readFloat = item) :
    (Json.array items).reread readFloat = .array items := by
  rw [reread]
  congr
  induction items with
  | nil => rfl
  | cons item items ih =>
    rw [rereadItems, each item mem_cons_self,
      ih fun later member => each later (mem_cons_of_mem _ member)]

/-- An object of members that are read back is read back. -/
theorem Json.reread_object (each : ∀ member ∈ members, member.2.reread readFloat = member.2) :
    (Json.object members).reread readFloat = .object members := by
  rw [reread]
  congr
  induction members with
  | nil => rfl
  | cons member members ih =>
    rw [rereadMembers, each member mem_cons_self,
      ih fun later listed => each later (mem_cons_of_mem _ listed)]

end

/-! ## Visible text -/

theorem hexDigit_visible {n : ℕ} (small : n < 16) : 0x20 ≤ (hexDigit n).toNat := by
  interval_cases n <;> decide

theorem shortEscape_visible {c letter : Char} (escaped : shortEscape c = some letter) :
    0x20 ≤ letter.toNat := by
  unfold shortEscape at escaped
  split_ifs at escaped <;> cases escaped <;> decide

/-- Escaping leaves no control character. -/
theorem escapedChar_visible (c : Char) : Visible (escapedChar c) := by
  intro d member
  unfold escapedChar at member
  split at member
  · rename_i letter escaped
    simp only [mem_cons, not_mem_nil, or_false] at member
    rcases member with rfl | rfl
    · decide
    · exact shortEscape_visible escaped
  · by_cases control : c.toNat < 0x20
    · have high : c.toNat / 16 < 16 := by omega
      have low : c.toNat % 16 < 16 := by omega
      simp only [if_pos control, mem_cons, not_mem_nil, or_false] at member
      rcases member with rfl | rfl | rfl | rfl | rfl | rfl
      · decide
      · decide
      · decide
      · decide
      · exact hexDigit_visible high
      · exact hexDigit_visible low
    · rw [if_neg control, mem_singleton] at member
      subst member
      omega

theorem quotedChars_visible (text : String) : Visible (quotedChars text) := by
  intro d member
  rw [quotedChars, mem_append, mem_cons, mem_flatMap, mem_singleton] at member
  rcases member with (rfl | ⟨c, -, inner⟩) | rfl
  · decide
  · exact escapedChar_visible c d inner
  · decide

/-- Visible texts stay visible between commas. -/
theorem commaSeparated_visible {parts : List (List Char)}
    (visible : ∀ part ∈ parts, Visible part) : Visible (commaSeparated parts) := by
  fun_induction commaSeparated parts with
  | case1 => simp [Visible]
  | case2 part => exact visible part mem_cons_self
  | case3 part parts _ ih =>
    intro d member
    rw [mem_append, mem_cons] at member
    rcases member with first | rfl | later
    · exact visible part mem_cons_self d first
    · decide
    · exact ih (fun part listed => visible part (mem_cons_of_mem _ listed)) d later

/-- Text between visible brackets is visible. -/
theorem Visible.bracket {chars : List Char} (visible : Visible chars) {left right : Char}
    (opens : 0x20 ≤ left.toNat) (closes : 0x20 ≤ right.toNat) :
    Visible (left :: chars ++ [right]) := by
  intro d member
  rw [mem_append, mem_cons, mem_singleton] at member
  rcases member with (rfl | inner) | rfl
  · exact opens
  · exact visible d inner
  · exact closes

/-- The decimal digits of a number are visible. -/
theorem toString_visible (n : ℕ) : Visible (toString n).toList := by
  intro d member
  have listed : d ∈ Nat.toDigits 10 n := by simpa using member
  have digit : d.isDigit = true := Nat.isDigit_of_mem_toDigits (by decide) (by decide) listed
  have low : '0'.toNat ≤ d.toNat := (Char.isDigit_iff_toNat.mp digit).1
  exact le_trans (by decide) low

mutual

/-- The text of a value is visible. -/
theorem Json.chars_visible : ∀ value : Json, Visible value.chars
  | .null => by simp [Json.chars, Visible]
  | .bool true => by simp [Json.chars, Visible]
  | .bool false => by simp [Json.chars, Visible]
  | .number value => by simpa only [Json.chars] using toString_visible value
  | .negative magnitude => by
    simpa only [Json.chars, Visible] using forall_mem_cons.mpr
      ⟨by decide, toString_visible magnitude⟩
  | .float literal => by simpa only [Json.chars] using literal.visible
  | .string value => by simpa only [Json.chars] using quotedChars_visible value
  | .array items => by
    simpa only [Json.chars] using
      (commaSeparated_visible (Json.itemChars_visible items)).bracket (by decide) (by decide)
  | .object members => by
    simpa only [Json.chars] using
      (commaSeparated_visible (Json.memberChars_visible members)).bracket (by decide) (by decide)

/-- The text of each item is visible. -/
theorem Json.itemChars_visible : ∀ (items : List Json), ∀ part ∈ Json.itemChars items, Visible part
  | [], part, member => by simp [Json.itemChars] at member
  | item :: items, part, member => by
    rw [Json.itemChars, mem_cons] at member
    rcases member with rfl | later
    · exact Json.chars_visible item
    · exact Json.itemChars_visible items part later

/-- The text of each member is visible. -/
theorem Json.memberChars_visible :
    ∀ (members : List (String × Json)), ∀ part ∈ Json.memberChars members, Visible part
  | [], part, member => by simp [Json.memberChars] at member
  | (name, value) :: members, part, member => by
    rw [Json.memberChars, mem_cons] at member
    rcases member with rfl | later
    · intro d inner
      rw [mem_append, mem_cons] at inner
      rcases inner with quoted | rfl | inner
      · exact quotedChars_visible name d quoted
      · decide
      · exact Json.chars_visible value d inner
    · exact Json.memberChars_visible members part later

end

end Maco.Base
