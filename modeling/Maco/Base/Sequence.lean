import Mathlib

/-!
# Sequences

Facts about the order of the items of a history that grows at its end: what has happened last, and
how a history that just grew splits at one of its items. A list may also be sorted by a key, and
then does not depend on the order in which the items that the key tells apart arrived.
-/

namespace Maco.Base

open List

variable {α : Type}

/-- Some item of the history is chosen, and no later item ends what it began. -/
def LastBefore (chosen ends : α → Prop) (history : List α) : Prop :=
  ∃ earlier item later, history = earlier ++ item :: later ∧ chosen item ∧
    ∀ other ∈ later, ¬ ends other

/-- A chosen item is the last one when it has just happened. -/
theorem LastBefore.now {chosen ends : α → Prop} {item : α} (history : List α)
    (choice : chosen item) : LastBefore chosen ends (history ++ [item]) :=
  ⟨history, item, [], rfl, choice, by simp⟩

/-- The last chosen item stays the last one under items that do not end it. -/
theorem LastBefore.keep {chosen ends : α → Prop} {history : List α} {item : α}
    (last : LastBefore chosen ends history) (quiet : ¬ ends item) :
    LastBefore chosen ends (history ++ [item]) := by
  obtain ⟨earlier, found, later, rfl, choice, silent⟩ := last
  refine ⟨earlier, found, later ++ [item], by simp, choice, ?_⟩
  intro other member
  rcases mem_append.mp member with old | new
  · exact silent other old
  · rw [mem_singleton] at new
    exact new ▸ quiet

/-- What is chosen may be weakened. -/
theorem LastBefore.imp {chosen weaker ends : α → Prop} {history : List α}
    (last : LastBefore chosen ends history) (weaken : ∀ item, chosen item → weaker item) :
    LastBefore weaker ends history := by
  obtain ⟨earlier, found, later, split, choice, silent⟩ := last
  exact ⟨earlier, found, later, split, weaken found choice, silent⟩

/-- A history that just grew splits at its new item or where it did before. -/
theorem append_singleton_split {history earlier later : List α} {item last : α}
    (split : history ++ [last] = earlier ++ item :: later) :
    (later = [] ∧ item = last ∧ earlier = history) ∨
      ∃ rest, later = rest ++ [last] ∧ history = earlier ++ item :: rest := by
  rcases eq_nil_or_concat later with rfl | ⟨rest, final, rfl⟩
  · have parts := append_inj' split rfl
    exact .inl ⟨rfl, by simpa using parts.2.symm, parts.1.symm⟩
  · have grouped : history ++ [last] = (earlier ++ item :: rest) ++ [final] := by simpa using split
    have parts := append_inj' grouped rfl
    exact .inr ⟨rest, by simpa using parts.2.symm, parts.1⟩

/-! ## Sorting by a key -/

variable {ρ : Type} [LinearOrder ρ]

/-- A stable sort by a key. -/
def sortBy (key : α → ρ) (items : List α) : List α :=
  items.insertionSort fun a b => key a ≤ key b

theorem sortBy_perm (key : α → ρ) (items : List α) : (sortBy key items).Perm items :=
  perm_insertionSort _ items

theorem mem_sortBy {key : α → ρ} {items : List α} {item : α} :
    item ∈ sortBy key items ↔ item ∈ items :=
  (sortBy_perm key items).mem_iff

/-- Two insertions into a sorted list commute when the key tells the items apart. -/
theorem orderedInsert_comm {key : α → ρ} {x y : α} (apart : key x = key y → x = y)
    (items : List α) :
    (items.orderedInsert (fun a b => key a ≤ key b) y).orderedInsert (fun a b => key a ≤ key b) x =
      (items.orderedInsert (fun a b => key a ≤ key b) x).orderedInsert
        (fun a b => key a ≤ key b) y := by
  by_cases same : key x = key y
  · rw [apart same]
  · induction items with
    | nil =>
      rcases lt_or_gt_of_ne same with less | less
      · simp [less.le, not_le_of_gt less]
      · simp [less.le, not_le_of_gt less]
    | cons item items ih =>
      by_cases first : key x ≤ key item <;> by_cases second : key y ≤ key item
      · rcases lt_or_gt_of_ne same with less | less
        · simp [first, second, less.le, not_le_of_gt less]
        · simp [first, second, less.le, not_le_of_gt less]
      · have less : key x < key y := lt_of_le_of_lt first (lt_of_not_ge second)
        simp [first, second, not_le_of_gt less]
      · have less : key y < key x := lt_of_le_of_lt second (lt_of_not_ge first)
        simp [first, second, not_le_of_gt less]
      · simp [first, second, ih]

/-- Items the key tells apart may arrive in any order. -/
theorem sortBy_append_perm {key : α → ρ} {left right : List α} (perm : left.Perm right)
    (apart : ∀ x ∈ left, ∀ y ∈ left, key x = key y → x = y) (rest : List α) :
    sortBy key (left ++ rest) = sortBy key (right ++ rest) := by
  simp only [sortBy, List.insertionSort, foldr_append]
  exact perm.foldr_eq' (fun x first y second z =>
    orderedInsert_comm (apart y second x first) z) _

end Maco.Base
