import Mathlib

/-!
# Ordered maps and sets

An ordered map over a linearly ordered key type, on the extensional tree maps of the standard
library: two maps with the same lookups are equal, and the entry list is sorted by key. The
standard lemmas are stated for a comparison function; the ones below restate lookups in terms of
the order's equality, and add what a proof about counters kept beside a map needs: how the entry
list, as a multiset, changes under insertion and removal.
-/

namespace Maco.Base

open List

/-- A map kept in key order. -/
abbrev BTreeMap (κ : Type) [LinearOrder κ] (β : Type) : Type := Std.ExtTreeMap κ β compare

/-- A set kept in order. -/
abbrev BTreeSet (κ : Type) [LinearOrder κ] : Type := Std.ExtTreeSet κ compare

instance transCmp {κ : Type} [LinearOrder κ] : Std.TransCmp (compare : κ → κ → Ordering) :=
  inferInstance

instance pairTransCmp : Std.TransCmp (compare : String ×ₗ String → String ×ₗ String → Ordering) :=
  inferInstance

/-- Two lists sorted by one strict order are equal when they have the same items. -/
theorem eq_of_sorted_of_mem {α : Type} {less : α → α → Prop}
    (asymmetric : ∀ a b, less a b → ¬ less b a) {left right : List α}
    (leftSorted : left.Pairwise less) (rightSorted : right.Pairwise less)
    (same : ∀ a, a ∈ left ↔ a ∈ right) : left = right := by
  have distinct (items : List α) (sorted : items.Pairwise less) : items.Nodup := by
    refine sorted.imp fun before => ?_
    rintro rfl
    exact asymmetric _ _ before before
  have perm : left.Perm right :=
    (perm_ext_iff_of_nodup (distinct _ leftSorted) (distinct _ rightSorted)).mpr same
  exact perm.eq_of_pairwise (fun a b _ _ ab ba => absurd ba (asymmetric a b ab))
    leftSorted rightSorted

/-- In a list whose items have distinct keys, searching for an item's key finds the item. -/
theorem find?_key_eq_some {α κ : Type} [DecidableEq κ] {key : α → κ} {items : List α}
    (distinct : (items.map key).Nodup) {item : α} (member : item ∈ items) :
    items.find? (fun other => key other == key item) = some item := by
  have found : (items.find? fun other => key other == key item).isSome = true := by
    rw [find?_isSome]
    exact ⟨item, member, beq_self_eq_true _⟩
  obtain ⟨other, first⟩ := Option.isSome_iff_exists.mp found
  have same : key other = key item := by simpa using find?_some first
  rw [first, inj_on_of_nodup_map distinct (mem_of_find?_eq_some first) member same]

section Longer

variable {α κ : Type} {items : List α} {item : α}

/-- What holds of the items of a list and of one more holds of the longer list. -/
theorem forall_mem_concat {holds : α → Prop} (each : ∀ other ∈ items, holds other)
    (new : holds item) : ∀ other ∈ items ++ [item], holds other := by
  intro other member
  rcases mem_append.mp member with old | here
  · exact each other old
  · rwa [mem_singleton.mp here]

theorem nodup_map_concat {key : α → κ} (distinct : (items.map key).Nodup)
    (fresh : key item ∉ items.map key) : ((items ++ [item]).map key).Nodup := by
  rw [map_append, map_singleton, ← concat_eq_append]
  exact distinct.concat fresh

/-- In a list with distinct keys, an item's key does not come before it. -/
theorem not_mem_map_of_split {key : α → κ} {before after : List α}
    (distinct : (items.map key).Nodup) (split : items = before ++ item :: after) :
    key item ∉ before.map key := by
  rw [split, map_append, map_cons] at distinct
  exact fun earlier => (nodup_append.mp distinct).2.2 _ earlier _ mem_cons_self rfl

end Longer

namespace BTreeMap

variable {κ β γ : Type} [LinearOrder κ]

theorem get_insert (m : BTreeMap κ β) (k a : κ) (v : β) :
    (m.insert k v)[a]? = if k = a then some v else m[a]? := by
  rw [Std.ExtTreeMap.getElem?_insert]
  simp only [compare_eq_iff_eq]

@[simp] theorem get_insert_self (m : BTreeMap κ β) (k : κ) (v : β) :
    (m.insert k v)[k]? = some v := by
  rw [get_insert, if_pos rfl]

variable {k : κ}

theorem get_insert_of_ne (m : BTreeMap κ β) {a : κ} (v : β) (different : k ≠ a) :
    (m.insert k v)[a]? = m[a]? := by
  rw [get_insert, if_neg different]

variable {m : BTreeMap κ β} {v : β}

theorem get_insert_cases {a : κ} {w : β}
    (found : (m.insert k v)[a]? = some w) : (a = k ∧ w = v) ∨ (k ≠ a ∧ m[a]? = some w) := by
  rw [get_insert] at found
  split at found
  · rename_i here
    exact .inl ⟨here.symm, (Option.some.inj found).symm⟩
  · rename_i away
    exact .inr ⟨away, found⟩

theorem get_erase (m : BTreeMap κ β) (k a : κ) :
    (m.erase k)[a]? = if k = a then none else m[a]? := by
  rw [Std.ExtTreeMap.getElem?_erase]
  simp only [compare_eq_iff_eq]

theorem get_filter (m : BTreeMap κ β) (keep : κ → β → Bool) (a : κ) :
    (m.filter keep)[a]? = m[a]?.filter (keep a) := by
  rw [Std.ExtTreeMap.getElem?_filter']

theorem get_erase_some {a : κ} (found : (m.erase k)[a]? = some v) : k ≠ a ∧ m[a]? = some v := by
  rw [get_erase] at found
  split at found
  · cases found
  · exact ⟨‹_›, found⟩

theorem get_filter_some {keep : κ → β → Bool} (found : (m.filter keep)[k]? = some v) :
    m[k]? = some v ∧ keep k v = true := by
  rwa [get_filter, Option.filter_eq_some_iff] at found

@[simp] theorem get_empty (a : κ) : (∅ : BTreeMap κ β)[a]? = none :=
  Std.ExtTreeMap.getElem?_empty

theorem ext_get {n : BTreeMap κ β} (same : ∀ k : κ, m[k]? = n[k]?) : m = n :=
  Std.ExtTreeMap.ext_getElem? fun k => same k

theorem contains_iff (m : BTreeMap κ β) (k : κ) : m.contains k = true ↔ ∃ v, m[k]? = some v := by
  rw [Std.ExtTreeMap.contains_eq_isSome_getElem?, Option.isSome_iff_exists]

theorem not_contains_iff (m : BTreeMap κ β) (k : κ) : m.contains k = false ↔ m[k]? = none := by
  rw [Std.ExtTreeMap.contains_eq_isSome_getElem?, Option.isSome_eq_false_iff,
    Option.isNone_iff_eq_none]

theorem ne_of_fresh (fresh : m[k]? = none) {a : κ} (found : m[a]? = some v) : k ≠ a := by
  rintro rfl
  rw [fresh] at found
  cases found

theorem get_insert_fresh (fresh : m[k]? = none) {a : κ} {w : β} :
    (m.insert k v)[a]? = some w ↔ m[a]? = some w ∨ (a, w) = (k, v) := by
  rw [get_insert]
  by_cases same : k = a
  · subst same
    simp [fresh, eq_comm]
  · simp [same, Ne.symm same]

/-- A map of the items of a list by their keys stays one when an item of a fresh key is added. -/
theorem get_insert_concat {key : β → κ} {items : List β}
    (listed : ∀ (a : κ) w, m[a]? = some w ↔ w ∈ items ∧ key w = a) (fresh : m[key v]? = none) :
    ∀ (a : κ) w, (m.insert (key v) v)[a]? = some w ↔ w ∈ items ++ [v] ∧ key w = a := by
  intro a w
  rw [get_insert_fresh fresh, listed, mem_append, mem_singleton, Prod.mk.injEq]
  constructor
  · rintro (⟨old, same⟩ | ⟨rfl, rfl⟩)
    · exact ⟨.inl old, same⟩
    · exact ⟨.inr rfl, rfl⟩
  · rintro ⟨old | rfl, same⟩
    · exact .inl ⟨old, same⟩
    · exact .inr ⟨same.symm, rfl⟩

theorem contains_insert {a : κ} :
    (m.insert k v).contains a = true ↔ k = a ∨ m.contains a = true := by
  rw [Std.ExtTreeMap.contains_insert, Bool.or_eq_true, beq_iff_eq, compare_eq_iff_eq]

theorem size_insert (fresh : m[k]? = none) (v : β) : (m.insert k v).size = m.size + 1 := by
  rw [Std.ExtTreeMap.size_insert, if_neg]
  rw [Bool.not_eq_true, not_contains_iff]
  exact fresh

theorem size_erase (present : m[k]? = some v) : (m.erase k).size = m.size - 1 := by
  rw [Std.ExtTreeMap.size_erase, if_pos]
  exact (contains_iff m k).mpr ⟨v, present⟩

theorem mem_toList : (k, v) ∈ m.toList ↔ m[k]? = some v :=
  Std.ExtTreeMap.mem_toList_iff_getElem?_eq_some

theorem sorted_toList (m : BTreeMap κ β) : m.toList.Pairwise fun a b => a.1 < b.1 := by
  have ordered := m.ordered_keys_toList
  simpa only [compare_lt_iff_lt] using ordered

theorem nodup_keys (m : BTreeMap κ β) : (m.toList.map Prod.fst).Nodup := by
  rw [List.Nodup, pairwise_map]
  exact m.sorted_toList.imp fun less => ne_of_lt less

theorem nodup_toList (m : BTreeMap κ β) : m.toList.Nodup := m.nodup_keys.of_map

/-- A strictly sorted entry list is determined by the lookups it supports. -/
theorem toList_eq_of_mem {entries : List (κ × β)} (sorted : entries.Pairwise fun a b => a.1 < b.1)
    (same : ∀ k v, (k, v) ∈ entries ↔ m[k]? = some v) : m.toList = entries := by
  refine eq_of_sorted_of_mem (fun a b => lt_asymm) m.sorted_toList sorted ?_
  rintro ⟨k, v⟩
  rw [mem_toList, same]

theorem size_pos (present : m[k]? = some v) : 0 < m.size := by
  have listed : (k, v) ∈ m.toList := mem_toList.mpr present
  rw [← Std.ExtTreeMap.length_toList]
  exact length_pos_of_mem listed

/-- The values in key order. -/
def values (m : BTreeMap κ β) : List β := m.toList.map Prod.snd

theorem mem_values : v ∈ m.values ↔ ∃ k : κ, m[k]? = some v := by
  simp only [values, mem_map, Prod.exists, exists_eq_right, mem_toList]

/-- Inserting a fresh key adds one entry. -/
theorem toList_insert_perm (fresh : m[k]? = none) (v : β) :
    (m.insert k v).toList.Perm ((k, v) :: m.toList) := by
  have distinct : ((k, v) :: m.toList).Nodup := by
    rw [nodup_cons]
    refine ⟨fun listed => ?_, m.nodup_toList⟩
    rw [mem_toList, fresh] at listed
    cases listed
  rw [perm_ext_iff_of_nodup (nodup_toList _) distinct]
  rintro ⟨a, w⟩
  rw [mem_toList, get_insert_fresh fresh, mem_cons, mem_toList, or_comm]

/-- Removing a present key removes one entry. -/
theorem toList_erase_perm (present : m[k]? = some v) :
    m.toList.Perm ((k, v) :: (m.erase k).toList) := by
  have restored : (m.erase k).insert k v = m := by
    apply ext_get
    intro a
    rw [get_insert, get_erase]
    split
    · rename_i same
      rw [← same, present]
    · rfl
  have absent : (m.erase k)[k]? = none := by rw [get_erase, if_pos rfl]
  have perm := toList_insert_perm absent v
  rwa [restored] at perm

/-- Replacing the value of a present key replaces one entry. -/
theorem toList_replace_perm (v : β) :
    (m.insert k v).toList.Perm ((k, v) :: (m.erase k).toList) := by
  have replaced : (m.insert k v).erase k = m.erase k := by
    apply ext_get
    intro a
    rw [get_erase, get_erase, get_insert]
    split <;> rfl
  have perm := toList_erase_perm (get_insert_self m k v)
  rwa [replaced] at perm

@[simp] theorem values_empty : values (∅ : BTreeMap κ β) = [] := by
  rw [values, Std.ExtTreeMap.toList_eq_nil_iff.mpr rfl]
  rfl

theorem values_insert_perm (fresh : m[k]? = none) (v : β) :
    (values (m.insert k v)).Perm (v :: m.values) :=
  (toList_insert_perm fresh v).map Prod.snd

/-- Replacing a value exchanges it with the old one. -/
theorem values_replace_perm (present : m[k]? = some v)
    (w : β) : (v :: values (m.insert k w)).Perm (w :: m.values) := by
  have before : m.values.Perm (v :: values (m.erase k)) :=
    (toList_erase_perm present).map Prod.snd
  have after : (values (m.insert k w)).Perm (w :: values (m.erase k)) :=
    (toList_replace_perm w).map Prod.snd
  exact ((after.cons v).trans (List.Perm.swap _ _ _)).trans (before.symm.cons w)

/-- A sum over the entries. -/
def sumBy (weight : κ → β → ℕ) (m : BTreeMap κ β) : ℕ :=
  (m.toList.map fun entry => weight entry.1 entry.2).sum

section

variable (weight : κ → β → ℕ)

@[simp] theorem sumBy_empty : sumBy weight (∅ : BTreeMap κ β) = 0 := by
  rw [sumBy, Std.ExtTreeMap.toList_eq_nil_iff.mpr rfl]
  rfl

theorem sumBy_insert (fresh : m[k]? = none)
    (v : β) : sumBy weight (m.insert k v) = weight k v + sumBy weight m := by
  simp only [sumBy, ((toList_insert_perm fresh v).map _).sum_eq, map_cons, sum_cons]

theorem sumBy_erase
    (present : m[k]? = some v) : sumBy weight m = weight k v + sumBy weight (m.erase k) := by
  simp only [sumBy, ((toList_erase_perm present).map _).sum_eq, map_cons, sum_cons]

theorem sumBy_replace (v : β) :
    sumBy weight (m.insert k v) = weight k v + sumBy weight (m.erase k) := by
  simp only [sumBy, ((toList_replace_perm v).map _).sum_eq, map_cons, sum_cons]

end

theorem sumBy_congr {left right : κ → β → ℕ}
    (agree : ∀ k v, m[k]? = some v → left k v = right k v) : sumBy left m = sumBy right m := by
  unfold sumBy
  congr 1
  apply map_congr_left
  rintro ⟨k, v⟩ listed
  exact agree k v (mem_toList.mp listed)

/-- A written entry adds its weight and takes away that of the entry it replaces. -/
theorem sumBy_update (m : BTreeMap κ β) (k : κ) (weight : κ → β → ℕ) (v : β) :
    sumBy weight (m.insert k v) + (m[k]?.map (weight k)).getD 0 = sumBy weight m + weight k v := by
  cases found : m[k]? with
  | none =>
    rw [sumBy_insert weight found]
    simp [Nat.add_comm]
  | some old =>
    rw [sumBy_replace, sumBy_erase weight found]
    simp only [Option.map_some, Option.getD_some]
    omega

/-- Weights that differ at one entry only give sums that differ by it. -/
theorem sumBy_reweigh (present : m[k]? = some v)
    {left right : κ → β → ℕ} (agree : ∀ a w, a ≠ k → left a w = right a w) :
    sumBy left m + right k v = sumBy right m + left k v := by
  have same : sumBy left (m.erase k) = sumBy right (m.erase k) := by
    apply sumBy_congr
    exact fun a w found => agree a w (get_erase_some found).1.symm
  rw [sumBy_erase left present, sumBy_erase right present, same]
  omega

/-- Items with distinct keys that a map covers weigh at most as much as the map. -/
theorem sum_le_sumBy {α : Type} {items : List α} {key : α → κ} {weight : α → ℕ}
    {bound : κ → β → ℕ} (distinct : (items.map key).Nodup)
    (covered : ∀ item ∈ items, ∃ v, m[key item]? = some v ∧ weight item ≤ bound (key item) v) :
    (items.map weight).sum ≤ sumBy bound m := by
  induction items generalizing m with
  | nil => exact Nat.zero_le _
  | cons item items ih =>
    rw [map_cons, nodup_cons] at distinct
    obtain ⟨v, present, less⟩ := covered item mem_cons_self
    have rest : (items.map weight).sum ≤ sumBy bound (m.erase (key item)) := by
      refine ih distinct.2 fun other member => ?_
      obtain ⟨w, found, smaller⟩ := covered other (mem_cons_of_mem _ member)
      have different : key item ≠ key other := by
        intro same
        exact distinct.1 (same ▸ mem_map_of_mem member)
      exact ⟨w, by rw [get_erase, if_neg different]; exact found, smaller⟩
    rw [map_cons, sum_cons, sumBy_erase bound present]
    omega

theorem sumBy_one (m : BTreeMap κ β) : sumBy (fun _ _ => 1) m = m.size := by
  rw [sumBy, map_const', sum_replicate, Std.ExtTreeMap.length_toList]
  simp

/-- Maps whose lookups agree up to a function on the values list values that agree so. -/
theorem values_map {γ : Type} {n : BTreeMap κ γ} {f : β → γ}
    (same : ∀ k : κ, n[k]? = m[k]?.map f) : n.values = m.values.map f := by
  have entries : n.toList = m.toList.map fun entry => (entry.1, f entry.2) := by
    apply toList_eq_of_mem
    · rw [pairwise_map]
      exact m.sorted_toList
    · intro k w
      rw [mem_map, same, Option.map_eq_some_iff]
      constructor
      · rintro ⟨⟨a, v⟩, listed, equal⟩
        obtain ⟨rfl, rfl⟩ := Prod.mk.inj equal
        exact ⟨v, mem_toList.mp listed, rfl⟩
      · rintro ⟨v, found, rfl⟩
        exact ⟨(k, v), mem_toList.mpr found, rfl⟩
  rw [values, values, entries, map_map, map_map]
  rfl

/-- Writing a present key changes its entry in place. -/
theorem toList_insert_present {old : β} (present : m[k]? = some old)
    (v : β) : (m.insert k v).toList =
      m.toList.map fun entry => if entry.1 = k then (k, v) else entry := by
  apply toList_eq_of_mem
  · have same (entry : κ × β) : (if entry.1 = k then (k, v) else entry).1 = entry.1 := by
      split
      · rename_i here
        exact here.symm
      · rfl
    rw [pairwise_map]
    simp only [same]
    exact m.sorted_toList
  · intro a w
    rw [mem_map, get_insert]
    constructor
    · rintro ⟨⟨b, u⟩, listed, equal⟩
      split at equal
      · obtain ⟨rfl, rfl⟩ := Prod.mk.inj equal
        rw [if_pos rfl]
      · rename_i different
        obtain ⟨rfl, rfl⟩ := Prod.mk.inj equal
        rw [if_neg (Ne.symm different)]
        exact mem_toList.mp listed
    · intro found
      split at found
      · rename_i here
        injection found with value
        exact ⟨(k, old), mem_toList.mpr present, by rw [if_pos rfl, here, value]⟩
      · rename_i different
        exact ⟨(a, w), mem_toList.mpr found, by rw [if_neg (Ne.symm different)]⟩

/-- Insert every entry of one map into another. -/
def extend (m n : BTreeMap κ β) : BTreeMap κ β :=
  n.toList.foldl (fun m entry => m.insert entry.1 entry.2) m

/-- Lookup in an extended map: the inserted entries come first. -/
theorem get_extend (m n : BTreeMap κ β) (k : κ) : (m.extend n)[k]? = n[k]?.or m[k]? := by
  have general : ∀ (entries : List (κ × β)) (start : BTreeMap κ β),
      (entries.map Prod.fst).Nodup → ∀ v, (entries.foldl
        (fun m entry => m.insert entry.1 entry.2) start)[k]? = some v ↔
        (k, v) ∈ entries ∨ (k ∉ entries.map Prod.fst ∧ start[k]? = some v) := by
    intro entries
    induction entries with
    | nil => simp
    | cons entry entries ih =>
      intro start distinct v
      obtain ⟨a, w⟩ := entry
      rw [map_cons, nodup_cons] at distinct
      rw [foldl_cons, ih _ distinct.2, get_insert]
      by_cases here : a = k
      · subst here
        have later : ∀ v, (a, v) ∉ entries :=
          fun v member => distinct.1 (mem_map.mpr ⟨(a, v), member, rfl⟩)
        simp [later, distinct.1, eq_comm]
      · simp [here, Ne.symm here]
  have unlisted : k ∉ n.toList.map Prod.fst ↔ n[k]? = none := by
    rw [← not_contains_iff, ← Bool.not_eq_true, contains_iff, not_iff_not, mem_map]
    constructor
    · rintro ⟨⟨_, v⟩, member, rfl⟩
      exact ⟨v, mem_toList.mp member⟩
    · rintro ⟨v, found⟩
      exact ⟨(k, v), mem_toList.mpr found, rfl⟩
  apply Option.ext
  intro v
  rw [extend, general n.toList m n.nodup_keys v, unlisted, mem_toList]
  cases n[k]? <;> simp

/-- Collect a list of entries into a map; a later entry replaces an earlier one of its key. -/
def ofList (entries : List (κ × β)) : BTreeMap κ β := Std.ExtTreeMap.ofList entries compare

/-- Collecting entries with distinct keys keeps each of them. -/
theorem get_ofList {entries : List (κ × β)} (distinct : (entries.map Prod.fst).Nodup) (k : κ)
    (v : β) : (ofList entries)[k]? = some v ↔ (k, v) ∈ entries := by
  unfold ofList
  have separate : entries.Pairwise fun a b => ¬ compare a.1 b.1 = .eq := by
    rw [List.Nodup, pairwise_map] at distinct
    exact distinct.imp fun different same => different (compare_eq_iff_eq.mp same)
  constructor
  · intro found
    by_cases listed : k ∈ entries.map Prod.fst
    · obtain ⟨⟨a, w⟩, member, rfl⟩ := mem_map.mp listed
      have stored := Std.ExtTreeMap.getElem?_ofList_of_mem
        (compare_eq_iff_eq.mpr rfl) separate member
      rw [stored, Option.some.injEq] at found
      rwa [found] at member
    · have missing : (Std.ExtTreeMap.ofList entries compare)[k]? = none :=
        Std.ExtTreeMap.getElem?_ofList_of_contains_eq_false (by simpa using listed)
      rw [missing] at found
      cases found
  · intro member
    exact Std.ExtTreeMap.getElem?_ofList_of_mem (compare_eq_iff_eq.mpr rfl) separate member

/-- The entries of a map rebuild it. -/
theorem ofList_toList : ofList m.toList = m := by
  apply ext_get
  intro k
  apply Option.ext
  intro v
  rw [get_ofList m.nodup_keys, mem_toList]

section

variable {key : β → κ} (keyed : ∀ (k : κ) v, m[k]? = some v → key v = k)

include keyed

/-- When every value knows its key, no key is listed twice by the values. -/
theorem nodup_key_values : (m.values.map key).Nodup := by
  have keys : m.values.map key = m.toList.map Prod.fst := by
    rw [values, map_map]
    apply map_congr_left
    rintro ⟨k, v⟩ listed
    exact keyed k v (mem_toList.mp listed)
  rw [keys]
  exact m.nodup_keys

/-- When every value knows its key, the values are sorted by it. -/
theorem sorted_values : m.values.Pairwise fun a b => key a < key b := by
  rw [values, pairwise_map]
  refine m.sorted_toList.imp_of_mem ?_
  rintro ⟨a, x⟩ ⟨b, y⟩ first second less
  rw [keyed a x (mem_toList.mp first), keyed b y (mem_toList.mp second)]
  exact less

/-- When every value knows its key, the values rebuild the map. -/
theorem ofList_values : ofList (m.values.map fun v => (key v, v)) = m := by
  have entries : (m.values.map fun v => (key v, v)) = m.toList := by
    rw [values, map_map]
    conv_rhs => rw [← map_id m.toList]
    apply map_congr_left
    rintro ⟨k, v⟩ listed
    simp [keyed k v (mem_toList.mp listed)]
  rw [entries, ofList_toList]

end

/-- A relation between the values of distinct keys holds between the listed values. -/
theorem pairwise_values {related : β → β → Prop}
    (apart : ∀ (a : κ) x (b : κ) y, m[a]? = some x → m[b]? = some y → a ≠ b → related x y) :
    m.values.Pairwise related := by
  rw [values, pairwise_map]
  refine m.sorted_toList.imp_of_mem ?_
  rintro ⟨a, x⟩ ⟨b, y⟩ first second less
  exact apart a x b y (mem_toList.mp first) (mem_toList.mp second) (ne_of_lt less)

end BTreeMap

namespace BTreeSet

variable {κ : Type} [LinearOrder κ]

/-- Collect a list into a set. -/
def ofList (items : List κ) : BTreeSet κ := Std.ExtTreeSet.ofList items compare

variable {item : κ}

theorem mem_ofList {items : List κ} : item ∈ ofList items ↔ item ∈ items := by
  simp [ofList]

theorem sorted_toList (s : BTreeSet κ) : s.toList.Pairwise (· < ·) := by
  have ordered := s.ordered_toList
  simpa only [compare_lt_iff_lt] using ordered

variable {s : BTreeSet κ}

theorem mem_toList : item ∈ s.toList ↔ item ∈ s :=
  Std.ExtTreeSet.mem_toList

theorem mem_insert {a : κ} : a ∈ s.insert item ↔ item = a ∨ a ∈ s := by
  rw [Std.ExtTreeSet.mem_insert, compare_eq_iff_eq]

/-- A set that holds the keys of a list, which are distinct, still does when an item of a fresh key
is added. -/
theorem insert_collects {α : Type} {key : α → κ} {items : List α} {new : α}
    (known : (items.map key).Nodup ∧ ∀ a, a ∈ s ↔ a ∈ items.map key) (fresh : key new ∉ s) :
    ((items ++ [new]).map key).Nodup ∧
      ∀ a, a ∈ s.insert (key new) ↔ a ∈ (items ++ [new]).map key := by
  obtain ⟨distinct, listed⟩ := known
  refine ⟨nodup_map_concat distinct (mt (listed _).mpr fresh), fun a => ?_⟩
  rw [mem_insert, listed, map_append, map_singleton, mem_append, mem_singleton, or_comm, eq_comm]

theorem mem_foldl_insert (items : List κ) (s : BTreeSet κ) (a : κ) :
    a ∈ items.foldl (fun held item => held.insert item) s ↔ a ∈ s ∨ a ∈ items := by
  induction items generalizing s with
  | nil => simp
  | cons item rest ih =>
    rw [foldl_cons, ih, mem_insert, mem_cons, eq_comm]
    tauto

theorem contains_insert {a : κ} :
    (s.insert item).contains a = true ↔ item = a ∨ s.contains a = true := by
  rw [← Std.ExtTreeSet.mem_iff_contains, mem_insert, Std.ExtTreeSet.mem_iff_contains]

theorem size_insert (fresh : ¬ s.contains item = true) : (s.insert item).size = s.size + 1 := by
  rw [Std.ExtTreeSet.size_insert, if_neg]
  exact fresh

theorem toList_ofList {items : List κ} (sorted : items.Pairwise (· < ·)) :
    (ofList items).toList = items := by
  refine eq_of_sorted_of_mem (fun a b => lt_asymm) (sorted_toList _) sorted fun item => ?_
  rw [mem_toList, mem_ofList]

end BTreeSet

/-! ## Breadth-first search

A queue of nodes still to be expanded beside the set of nodes reached. Each round takes the first
node of the queue and pushes those of its successors that were not reached before. -/

/-- The state of a search. -/
structure Frontier (κ : Type) [LinearOrder κ] where
  reached : BTreeSet κ
  pending : List κ

namespace Frontier

variable {κ : Type} [LinearOrder κ]

/-- Where a search starts. -/
def start (node : κ) : Frontier κ := ⟨BTreeSet.ofList [node], [node]⟩

/-- A successor is queued when it is reached for the first time. -/
def push (frontier : Frontier κ) (node : κ) : Frontier κ :=
  if frontier.reached.contains node = true then frontier
  else ⟨frontier.reached.insert node, frontier.pending ++ [node]⟩

/-- A bounded number of rounds. -/
def explore (successors : κ → List κ) : ℕ → Frontier κ → Frontier κ
  | 0, frontier => frontier
  | rounds + 1, frontier =>
    match frontier.pending with
    | [] => frontier
    | node :: pending =>
      explore successors rounds ((successors node).foldl push ⟨frontier.reached, pending⟩)

end Frontier

end Maco.Base
