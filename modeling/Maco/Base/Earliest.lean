import Maco.Base.Map
import Maco.Base.Result

/-!
# The earliest entry of each key

A table that reads entries one after another and keeps, for each key, the one of least rank; two
entries of one key have to agree, and the one that is not kept is displaced. What the table holds is
determined by the set of entries, so it does not depend on the order they are read in, and entries
of greater rank never replace what was kept before them.
-/

namespace Maco.Base

open List

/-- The entries kept, one for each key, and the entries displaced by them. -/
structure Earliest (κ : Type) [LinearOrder κ] (α : Type) where
  table : BTreeMap κ α
  displaced : List α

section Reading

variable {ε κ ρ α γ : Type} [LinearOrder κ] [LinearOrder ρ]

/-- Nothing has been read. -/
def Earliest.empty : Earliest κ α := ⟨∅, []⟩

variable (rank : α → ρ) (check : α → α → Except ε Unit)

/-- Read one entry: it is kept when its key is new or its rank is below the kept one's. -/
def Earliest.keep (kept : Earliest κ α) (key : κ) (item : α) : Except ε (Earliest κ α) :=
  match kept.table[key]? with
  | none => pure { kept with table := kept.table.insert key item }
  | some current => do
      check current item
      pure (if rank item < rank current then
        ⟨kept.table.insert key item, kept.displaced ++ [current]⟩
      else { kept with displaced := kept.displaced ++ [item] })

/-- Read all entries. -/
def Earliest.keepAll (entries : List (κ × α)) : Except ε (Earliest κ α) :=
  entries.foldlM (fun kept entry => kept.keep rank check entry.1 entry.2) .empty

/-- What reading one entry can do. -/
inductive Earliest.Keeps (kept : Earliest κ α) (key : κ) (item : α) : Earliest κ α → Prop where
  | fresh (absent : kept.table[key]? = none) :
      Keeps kept key item ⟨kept.table.insert key item, kept.displaced⟩
  | replaces {current : α} (present : kept.table[key]? = some current)
      (agrees : check current item = .ok ()) (below : rank item < rank current) :
      Keeps kept key item ⟨kept.table.insert key item, kept.displaced ++ [current]⟩
  | repeats {current : α} (present : kept.table[key]? = some current)
      (agrees : check current item = .ok ()) (above : rank current ≤ rank item) :
      Keeps kept key item ⟨kept.table, kept.displaced ++ [item]⟩

variable {rank check}

variable {kept : Earliest κ α} {key : κ} {item : α}

/-- Reading an entry does what the rules say. -/
theorem Earliest.keep_keeps {next : Earliest κ α}
    (read : kept.keep rank check key item = .ok next) : Keeps rank check kept key item next := by
  unfold keep at read
  split at read
  · rename_i absent
    cases read
    exact .fresh absent
  · rename_i current present
    simp only [ok_iff] at read
    obtain ⟨⟨⟩, agrees, rfl⟩ := read
    by_cases below : rank item < rank current
    · rw [if_pos below]
      exact .replaces present agrees below
    · rw [if_neg below]
      exact .repeats present agrees (le_of_not_gt below)

/-- Reading an entry succeeds when it agrees with the one kept under its key. -/
theorem Earliest.keep_succeeds
    (agrees : ∀ current, kept.table[key]? = some current → check current item = .ok ()) :
    ∃ next, kept.keep rank check key item = .ok next := by
  unfold keep
  split
  · exact ⟨_, rfl⟩
  · rename_i current present
    rw [agrees current present]
    exact ⟨_, rfl⟩

end Reading

/-! ## What the table holds -/

section Table

variable {ε κ ρ α γ : Type} [LinearOrder κ] [LinearOrder ρ] {rank : α → ρ}
  {check : α → α → Except ε Unit} {entries others : List (κ × α)}

/-- The table holds for each key of the entries one of its entries of least rank. -/
structure EarliestOf (rank : α → ρ) (entries : List (κ × α)) (table : BTreeMap κ α) : Prop where
  least : ∀ (k : κ) v, table[k]? = some v →
    (k, v) ∈ entries ∧ ∀ w, (k, w) ∈ entries → rank v ≤ rank w
  found : ∀ (k : κ) (w : α), (k, w) ∈ entries → ∃ v, table[k]? = some v

theorem EarliestOf.empty : EarliestOf rank [] (∅ : BTreeMap κ α) :=
  ⟨fun k v present => by simp at present, fun k w member => by simp at member⟩

variable {table : BTreeMap κ α}

/-- Inserting an entry below everything read of its key. -/
theorem EarliestOf.insert (holds : EarliestOf rank entries table)
    {key : κ} {item : α} (below : ∀ w, (key, w) ∈ entries → rank item ≤ rank w) :
    EarliestOf rank (entries ++ [(key, item)]) (table.insert key item) := by
  constructor
  · intro k v present
    rw [BTreeMap.get_insert] at present
    split at present
    · rename_i here
      subst here
      cases present
      refine ⟨by simp, fun w member => ?_⟩
      rw [mem_append, mem_singleton, Prod.mk.injEq] at member
      rcases member with old | ⟨-, rfl⟩
      · exact below w old
      · exact le_refl _
    · rename_i away
      obtain ⟨member, lowest⟩ := holds.least k v present
      refine ⟨mem_append_left _ member, fun w later => ?_⟩
      rw [mem_append, mem_singleton, Prod.mk.injEq] at later
      rcases later with old | ⟨rfl, -⟩
      · exact lowest w old
      · exact absurd rfl away
  · intro k w member
    by_cases here : key = k
    · exact ⟨item, by rw [here, BTreeMap.get_insert_self]⟩
    · rw [mem_append, mem_singleton, Prod.mk.injEq] at member
      rcases member with old | ⟨rfl, -⟩
      · rw [BTreeMap.get_insert_of_ne _ _ here]
        exact holds.found k w old
      · exact absurd rfl here

/-- An entry above the kept one changes nothing. -/
theorem EarliestOf.skip (holds : EarliestOf rank entries table)
    {key : κ} {item current : α} (present : table[key]? = some current)
    (above : rank current ≤ rank item) : EarliestOf rank (entries ++ [(key, item)]) table := by
  constructor
  · intro k v stored
    obtain ⟨member, lowest⟩ := holds.least k v stored
    refine ⟨mem_append_left _ member, fun w later => ?_⟩
    rw [mem_append, mem_singleton, Prod.mk.injEq] at later
    rcases later with old | ⟨rfl, rfl⟩
    · exact lowest w old
    · rw [present, Option.some.injEq] at stored
      exact stored ▸ above
  · intro k w member
    rw [mem_append, mem_singleton, Prod.mk.injEq] at member
    rcases member with old | ⟨rfl, -⟩
    · exact holds.found k w old
    · exact ⟨current, present⟩

/-- Reading one entry keeps the table the earliest of what was read. -/
theorem EarliestOf.keeps {kept next : Earliest κ α} {key : κ} {item : α}
    (holds : EarliestOf rank entries kept.table) (step : kept.Keeps rank check key item next) :
    EarliestOf rank (entries ++ [(key, item)]) next.table := by
  cases step with
  | fresh absent =>
    refine holds.insert fun w member => ?_
    obtain ⟨v, present⟩ := holds.found key w member
    rw [absent] at present
    cases present
  | replaces present agrees below =>
    exact holds.insert fun w member =>
      le_trans below.le ((holds.least key _ present).2 w member)
  | repeats present agrees above => exact holds.skip present above

variable {k : κ} {v : α}

/-- When the rank tells entries of one key apart, the kept one is the one of least rank. -/
theorem EarliestOf.get_iff (holds : EarliestOf rank entries table)
    (distinct : ∀ k v w, (k, v) ∈ entries → (k, w) ∈ entries → rank v = rank w → v = w)
    : table[k]? = some v ↔
      (k, v) ∈ entries ∧ ∀ w, (k, w) ∈ entries → rank v ≤ rank w := by
  constructor
  · exact holds.least k v
  · rintro ⟨member, lowest⟩
    obtain ⟨u, present⟩ := holds.found k v member
    obtain ⟨listed, least⟩ := holds.least k u present
    have same : rank u = rank v := le_antisymm (least v member) (lowest u listed)
    rw [present, distinct k u v listed member same]

variable {other : BTreeMap κ α}

/-- The table depends on the set of entries alone. -/
theorem EarliestOf.unique (holds : EarliestOf rank entries table)
    (otherHolds : EarliestOf rank others other)
    (distinct : ∀ k v w, (k, v) ∈ entries → (k, w) ∈ entries → rank v = rank w → v = w)
    (same : ∀ entry, entry ∈ entries ↔ entry ∈ others) : table = other := by
  apply BTreeMap.ext_get
  intro k
  apply Option.ext
  intro v
  rw [holds.get_iff distinct, otherHolds.get_iff (by simpa only [same] using distinct)]
  simp only [same]

/-- Where some entries rank below all others, the others replace none of them. -/
theorem EarliestOf.extend (early : α → Prop) (holds : EarliestOf rank entries table)
    (otherHolds : EarliestOf rank others other)
    (distinct : ∀ k v w, (k, v) ∈ entries → (k, w) ∈ entries → rank v = rank w → v = w)
    (inside : ∀ k v, (k, v) ∈ entries ↔ (k, v) ∈ others ∧ early v)
    (below : ∀ v w, early v → ¬ early w → rank v < rank w)
    (present : table[k]? = some v) : other[k]? = some v := by
  obtain ⟨member, lowest⟩ := holds.least k v present
  obtain ⟨more, first⟩ := (inside k v).mp member
  obtain ⟨u, found⟩ := otherHolds.found k v more
  obtain ⟨listed, least⟩ := otherHolds.least k u found
  have old : (k, u) ∈ entries := by
    refine (inside k u).mpr ⟨listed, ?_⟩
    by_contra late
    exact absurd (below v u first late) (not_lt_of_ge (least v more))
  have same : rank u = rank v := le_antisymm (least v more) (lowest u old)
  rw [found, distinct k u v old member same]

/-! ## Reading all entries -/

/-- Every item read is either kept or displaced. -/
theorem Earliest.Keeps.listed {kept next : Earliest κ α} {key : κ} {item : α}
    (step : kept.Keeps rank check key item next) :
    (next.displaced ++ next.table.values).Perm
      (item :: (kept.displaced ++ kept.table.values)) := by
  cases step with
  | fresh absent =>
    exact ((BTreeMap.values_insert_perm absent item).append_left _).trans perm_middle
  | replaces present agrees below =>
    simp only [append_assoc, singleton_append]
    exact ((BTreeMap.values_replace_perm present item).append_left _).trans perm_middle
  | repeats present agrees above =>
    simp only [append_assoc, singleton_append]
    exact perm_middle

/-- The table of everything read is the earliest of the entries, and with the displaced items it
lists them all. -/
theorem Earliest.keepAll_earliest {kept : Earliest κ α}
    (read : keepAll rank check entries = .ok kept) :
    EarliestOf rank entries kept.table ∧
      (kept.displaced ++ kept.table.values).Perm (entries.map Prod.snd) := by
  refine foldlM_invariant (fun (entries : List (κ × α)) (kept : Earliest κ α) =>
    EarliestOf rank entries kept.table ∧
      (kept.displaced ++ kept.table.values).Perm (entries.map Prod.snd)) ?_ ?_ read
  · rintro done entry kept next ⟨holds, listed⟩ stepped
    have step := keep_keeps stepped
    refine ⟨holds.keeps step, step.listed.trans ?_⟩
    rw [map_append, map_singleton]
    exact (listed.cons _).trans (perm_append_singleton _ _).symm
  · refine ⟨.empty, ?_⟩
    simp [Earliest.empty]

/-- Entries of one key have one content. -/
def Agree (content : α → γ) (entries : List (κ × α)) : Prop :=
  ∀ k v w, (k, v) ∈ entries → (k, w) ∈ entries → content v = content w

variable {content : α → γ}

section

variable (exact : ∀ v w, check v w = .ok () ↔ content v = content w)

include exact

/-- Entries that were read agree. -/
theorem Earliest.keepAll_agree
    {kept : Earliest κ α} (read : keepAll rank check entries = .ok kept) :
    Agree content entries := by
  have agreement : EarliestOf rank entries kept.table ∧ Agree content entries := by
    refine foldlM_invariant (fun (entries : List (κ × α)) (kept : Earliest κ α) =>
      EarliestOf rank entries kept.table ∧ Agree content entries) ?_
      ⟨.empty, fun k v w member => by simp at member⟩ read
    rintro done entry kept next ⟨holds, agree⟩ stepped
    obtain ⟨key, item⟩ := entry
    have step := keep_keeps stepped
    refine ⟨holds.keeps step, ?_⟩
    -- Whatever was read of the new entry's key has the content of the kept one.
    have earlier : ∀ w, (key, w) ∈ done → content w = content item := by
      intro w member
      obtain ⟨v, present⟩ := holds.found key w member
      have kept := agree key v w (holds.least key v present).1 member
      cases step with
      | fresh absent =>
        rw [absent] at present
        cases present
      | replaces stored agrees below =>
        rw [stored, Option.some.injEq] at present
        rw [← kept, ← present, (exact _ _).mp agrees]
      | repeats stored agrees above =>
        rw [stored, Option.some.injEq] at present
        rw [← kept, ← present, (exact _ _).mp agrees]
    intro k v w first second
    rw [mem_append, mem_singleton, Prod.mk.injEq] at first second
    rcases first with old | ⟨rfl, rfl⟩
    · rcases second with older | ⟨rfl, rfl⟩
      · exact agree k v w old older
      · exact earlier v old
    · rcases second with older | ⟨-, rfl⟩
      · exact (earlier w older).symm
      · rfl
  exact agreement.2

/-- Entries that agree are read. -/
theorem Earliest.keepAll_succeeds
    (agree : Agree content entries) : ∃ kept, keepAll rank check entries = .ok kept := by
  have advances : ∀ (done : List (κ × α)) (entry : κ × α) (rest : List (κ × α))
      (kept : Earliest κ α), entries = done ++ entry :: rest → EarliestOf rank done kept.table →
      ∃ next, kept.keep rank check entry.1 entry.2 = .ok next ∧
        EarliestOf rank (done ++ [entry]) next.table := by
    rintro done ⟨key, item⟩ rest kept rfl holds
    have agrees : ∀ current, kept.table[key]? = some current → check current item = .ok () := by
      intro current present
      have member := (holds.least key current present).1
      exact (exact current item).mpr (agree key current item (by simp [member]) (by simp))
    obtain ⟨next, read⟩ : ∃ next, kept.keep rank check key item = .ok next :=
      keep_succeeds agrees
    exact ⟨next, read, holds.keeps (keep_keeps read)⟩
  have initial : EarliestOf rank [] (Earliest.empty : Earliest κ α).table := .empty
  obtain ⟨kept, read, -⟩ := foldlM_succeeds _ advances initial
  exact ⟨kept, read⟩

/-- Reading the same entries in another order keeps the same items and displaces the same. -/
theorem Earliest.keepAll_perm
    (distinct : ∀ k v w, (k, v) ∈ entries → (k, w) ∈ entries → rank v = rank w → v = w)
    (perm : entries.Perm others) {kept : Earliest κ α}
    (read : keepAll rank check entries = .ok kept) :
    ∃ other, keepAll rank check others = .ok other ∧ other.table = kept.table ∧
      kept.displaced.Perm other.displaced := by
  have agree := keepAll_agree exact read
  have otherAgree : Agree content others := fun k v w first second =>
    agree k v w (perm.mem_iff.mpr first) (perm.mem_iff.mpr second)
  obtain ⟨other, otherRead⟩ : ∃ other, keepAll rank check others = .ok other :=
    keepAll_succeeds exact otherAgree
  obtain ⟨holds, listed⟩ := keepAll_earliest read
  obtain ⟨otherHolds, otherListed⟩ := keepAll_earliest otherRead
  have same : kept.table = other.table :=
    holds.unique otherHolds distinct fun entry => perm.mem_iff
  refine ⟨other, otherRead, same.symm, ?_⟩
  have all := (listed.trans (perm.map Prod.snd)).trans otherListed.symm
  rw [same] at all
  exact (perm_append_right_iff _).mp all

end

end Table

end Maco.Base
