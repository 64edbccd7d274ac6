import Maco.Sync.Inversion

/-!
# Claims by token

The top-level table is kept by path; `group_claims` turns it into one claim a token. The claim of
a token lists, in path order, the paths that carry the token, so it depends on those entries only.
-/

namespace Maco.Sync

open Maco.Base List

/-- The top-level entries that carry a token, in path order. -/
def entriesOf (claims : BTreeMap Path ClaimEntry) (token : ℕ) : List (Path × ClaimEntry) :=
  claims.toList.filter fun entry => entry.2.token == token

variable {claims : BTreeMap Path ClaimEntry} {token : ℕ}

/-- The entries that carry a token. -/
theorem mem_entriesOf :
    (key, entry) ∈ entriesOf claims token ↔ claims[key]? = some entry ∧ entry.token = token := by
  rw [entriesOf, mem_filter, BTreeMap.mem_toList, beq_iff_eq]

/-- The claim a list of entries with one token groups to. -/
def claimOfEntries (token : ℕ) (entries : List (Path × ClaimEntry)) : Option PathClaim :=
  entries.head?.map fun first => ⟨token, first.2.agentId, entries.map Prod.fst⟩

/-- Grouping collects, for each token, the entries that carry it. -/
theorem foldl_groupEntry_get (entries : List (Path × ClaimEntry)) (token : ℕ) :
    (entries.foldl groupEntry ∅)[token]? =
      claimOfEntries token (entries.filter fun entry => entry.2.token == token) := by
  induction entries using reverseRecOn with
  | nil => simp [claimOfEntries]
  | append_singleton entries entry ih =>
    rw [foldl_append, foldl_cons, foldl_nil, filter_append, groupEntry]
    by_cases here : entry.2.token = token
    · subst here
      rw [ih]
      cases before : entries.filter fun other => other.2.token == entry.2.token with
      | nil => simp [claimOfEntries]
      | cons first rest => simp [claimOfEntries]
    · have unchanged : ∀ claim : PathClaim,
          ((entries.foldl groupEntry ∅).insert entry.2.token claim)[token]? =
            (entries.foldl groupEntry ∅)[token]? :=
        fun claim => BTreeMap.get_insert_of_ne _ claim here
      have dropped : [entry].filter (fun other => other.2.token == token) = [] := by
        simp [here]
      rw [dropped, append_nil, ← ih]
      split
      · exact unchanged _
      · exact unchanged _

/-- The claim of a token is made of the entries that carry it. -/
theorem claimForToken_eq (claims : BTreeMap Path ClaimEntry) (token : ℕ) :
    claimForToken claims token = claimOfEntries token (entriesOf claims token) :=
  foldl_groupEntry_get claims.toList token

/-- Tables with the same entries for a token have the same claim for it. -/
theorem claimForToken_congr (same : ∀ (key : Path) (entry : ClaimEntry), entry.token = token →
      (claims[key]? = some entry ↔ others[key]? = some entry)) :
    claimForToken claims token = claimForToken others token := by
  have entries : entriesOf claims token = entriesOf others token := by
    refine eq_of_sorted_of_mem (fun a b => lt_asymm) (claims.sorted_toList.filter _)
      (others.sorted_toList.filter _) ?_
    rintro ⟨key, entry⟩
    simp only [mem_entriesOf]
    exact ⟨fun ⟨found, carries⟩ => ⟨(same key entry carries).mp found, carries⟩,
      fun ⟨found, carries⟩ => ⟨(same key entry carries).mpr found, carries⟩⟩
  rw [claimForToken_eq, claimForToken_eq, entries]

/-- A token has a claim as soon as some entry carries it. -/
theorem exists_claimForToken {key : Path} {entry : ClaimEntry}
    (found : claims[key]? = some entry) : ∃ claim, claimForToken claims entry.token =
      some claim := by
  have member := mem_entriesOf.mpr ⟨found, rfl⟩
  rw [claimForToken_eq, claimOfEntries]
  cases entries : entriesOf claims entry.token with
  | nil => simp [entries] at member
  | cons first rest => exact ⟨_, rfl⟩

/-- What the claim of a token records: the token, the paths that carry it, in order, and the agent
of one of them. -/
theorem claimForToken_some (found : claimForToken claims token = some claim) :
    claim.token = token ∧ claim.paths ≠ [] ∧ claim.paths.Pairwise (· < ·) ∧
      (∀ key, key ∈ claim.paths ↔ ∃ entry, claims[key]? = some entry ∧ entry.token = token) ∧
      ∃ (key : Path) (entry : ClaimEntry), claims[key]? = some entry ∧ entry.token = token ∧
        entry.agentId = claim.agentId := by
  rw [claimForToken_eq, claimOfEntries, Option.map_eq_some_iff] at found
  obtain ⟨⟨key, entry⟩, first, rfl⟩ := found
  have member := mem_of_head? first
  refine ⟨rfl, ?_, ?_, ?_, key, entry, (mem_entriesOf.mp member).1,
    (mem_entriesOf.mp member).2, rfl⟩
  · exact ne_nil_of_mem (mem_map_of_mem member)
  · rw [pairwise_map]
    exact claims.sorted_toList.filter _
  · intro path
    simp only [mem_map, Prod.exists, exists_and_right, exists_eq_right, mem_entriesOf]

end Maco.Sync
