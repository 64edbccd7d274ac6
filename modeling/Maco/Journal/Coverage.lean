import Maco.Journal.Intent

/-!
# Scope keys of paths

The coordination journal knows a path by a key: its components, joined by slashes, behind `path:`.
Locally paths are compared component by component, in the journal their keys are compared as texts.
Split at its slashes a key is the path again, so the two comparisons agree on names that are texts;
but only a path whose key is a canonical scope is compared in the journal at all. A name of the file
system need not be UTF-8: the key has what `to_string_lossy` makes of it, and is the name itself
where it is a text.
-/

namespace Maco.Journal

open Maco.Base Maco.Publication Maco.Sync List
open BTreeSet (ofList mem_ofList mem_toList)

section

variable (toStringLossy : String → String)

/-- The key of a normalized path. -/
def scopeKey (path : Path) : String :=
  "path:" ++ String.intercalate "/" (path.map fun c => toStringLossy c.text)

/-- `normalize_coordination_scopes`. -/
def normalizeCoordinationScopes (paths : List Path) : Except String (List String) := do
  let keys ← paths.mapM fun path => do
    let normalized ← (normalizeRepoPath path).mapError SyncError.message
    pure (scopeKey toStringLossy normalized)
  let scopes := (ofList keys).toList
  validateScopes journalFormat scopes
  pure scopes

/-- `remote_authority_scopes_cover_claim_paths`. -/
def remoteAuthorityScopesCoverClaimPaths (remoteScopes : List String) (claimPaths : List Path) :
    Except String Bool := do
  let claimScopes ← normalizeCoordinationScopes toStringLossy claimPaths
  pure (claimScopes.all fun claimScope => remoteScopes.any fun remoteScope =>
    claimScope == remoteScope || (stripStart claimScope remoteScope).any (Base.startsWith · "/"))

/-- A normalized path as the file system spells it, of names that are texts: they are printed as
they are, and no name has a slash. -/
structure IsSpelledPath (path : Path) : Prop where
  repo : IsRepoPath path
  plain : ∀ c ∈ path, '/' ∉ c.text.toList
  utf8 : ∀ c ∈ path, toStringLossy c.text = c.text

end

variable {toStringLossy : String → String} {path other ancestor : Path}

section

variable (spelled : IsSpelledPath toStringLossy path)
include spelled

theorem scopeKey_eq : scopeKey toStringLossy path =
    "path:" ++ String.intercalate "/" (path.map Component.text) := by
  rw [scopeKey, map_congr_left spelled.utf8]

theorem IsSpelledPath.above (nonempty : ancestor ≠ []) (above : ancestor <+: path) :
    IsSpelledPath toStringLossy ancestor where
  repo := ⟨nonempty, fun c member => spelled.repo.2 c (above.mem member)⟩
  plain := fun c member => spelled.plain c (above.mem member)
  utf8 := fun c member => spelled.utf8 c (above.mem member)

omit spelled in
/-- Split at its slashes, a key is the components of its path. -/
theorem scopeKey_splitOn (spelled : IsSpelledPath toStringLossy (c :: rest)) :
    (scopeKey toStringLossy (c :: rest)).toList.splitOn '/' =
      ("path:" ++ c.text).toList :: rest.map (·.text.toList) := by
  rw [scopeKey_eq spelled, map_cons, ← String.intercalate_cons_append,
    String.toList_intercalate, map_cons, map_map]
  refine splitOn_intercalate '/' ?_ (cons_ne_nil _ _)
  intro part member
  rcases mem_cons.mp member with rfl | later
  · rw [String.toList_append, mem_append, not_or]
    exact ⟨by decide, spelled.plain c mem_cons_self⟩
  · obtain ⟨d, listed, rfl⟩ := mem_map.mp later
    exact spelled.plain d (mem_cons_of_mem c listed)

omit spelled in
/-- The texts of its names determine a path. -/
theorem map_normal_text (repo : IsRepoPath path) :
    (path.map (·.text.toList)).map (.normal <| String.ofList ·) = path := by
  rw [map_map]
  refine (map_congr_left fun c member => ?_).trans (map_id path)
  obtain ⟨segment, rfl⟩ := repo.2 c member
  exact congrArg _ String.ofList_toList

/-- Different paths have different keys. -/
theorem scopeKey_injective (others : IsSpelledPath toStringLossy other)
    (same : scopeKey toStringLossy path = scopeKey toStringLossy other) : path = other := by
  obtain ⟨c, rest, rfl⟩ := exists_cons_of_ne_nil spelled.repo.1
  obtain ⟨d, tail, rfl⟩ := exists_cons_of_ne_nil others.repo.1
  have parts := congrArg (·.toList.splitOn '/') same
  simp only [scopeKey_splitOn spelled, scopeKey_splitOn others, cons.injEq, String.toList_append,
    append_cancel_left_eq] at parts
  rw [← map_normal_text spelled.repo, ← map_normal_text others.repo]
  simp only [map_cons, parts.1, parts.2]

/-- A key lies at or below another exactly when the other is the key of an ancestor. -/
theorem below_scopeKey_iff : (scopeKey toStringLossy path == above ||
      (stripStart (scopeKey toStringLossy path) above).any (Base.startsWith · "/")) = true ↔
    ∃ ancestor ≠ [], ancestor <+: path ∧ scopeKey toStringLossy ancestor = above := by
  rw [Bool.or_eq_true, beq_iff_eq]
  constructor
  · intro below
    have parts : above.toList.splitOn '/' <+: (scopeKey toStringLossy path).toList.splitOn '/' := by
      rcases below with rfl | below
      · exact prefix_refl _
      · obtain ⟨rest, stripped, slash⟩ := (Option.any_eq_true _ _).mp below
        obtain ⟨more, tail⟩ := isPrefixOf_iff_prefix.mp slash
        rw [eq_append_of_stripStart stripped, String.toList_append, ← tail]
        exact splitOn_append_cons_self above.toList more ▸ prefix_append _ _
    -- The parts of the other key begin with the first name, and join to the key of a prefix.
    obtain ⟨c, rest, rfl⟩ := exists_cons_of_ne_nil spelled.repo.1
    obtain ⟨first, taken, split⟩ := exists_cons_of_ne_nil (splitOn_ne_nil '/' above.toList)
    rw [scopeKey_splitOn spelled, split, cons_prefix_cons] at parts
    obtain ⟨rfl, begins⟩ := parts
    have begun : c :: rest.take taken.length <+: c :: rest :=
      cons_prefix_cons.mpr ⟨rfl, take_prefix _ _⟩
    refine ⟨_, cons_ne_nil _ _, begun, ?_⟩
    have joined : _ = above.toList := intercalate_splitOn '/'
    rw [split, prefix_iff_eq_take.mp begins, ← map_take] at joined
    rw [← String.toList_inj, scopeKey_eq (spelled.above (cons_ne_nil _ _) begun), map_cons,
      ← String.intercalate_cons_append, String.toList_intercalate, ← joined, map_cons, map_map]
    rfl
  · rintro ⟨ancestor, nonempty, ⟨rest, rfl⟩, rfl⟩
    by_cases last : rest = []
    · simp [last]
    · right
      have longer : scopeKey toStringLossy (ancestor ++ rest) = scopeKey toStringLossy ancestor ++
          ("/" ++ String.intercalate "/" (rest.map fun c => toStringLossy c.text)) := by
        simp [scopeKey, String.intercalate_append_of_ne_nil, nonempty, last, String.append_assoc]
      rw [longer, stripStart_append, Option.any_some]
      exact startsWith_append _ (by decide)

/-- Between the keys of two paths, lying below is the prefix order of the paths. -/
theorem scopeKey_below_scopeKey (others : IsSpelledPath toStringLossy other) :
    scopeKey toStringLossy path = scopeKey toStringLossy other ∨
      (stripStart (scopeKey toStringLossy path) (scopeKey toStringLossy other)).any
        (Base.startsWith · "/") = true ↔ other <+: path := by
  rw [← beq_iff_eq, ← Bool.or_eq_true, below_scopeKey_iff spelled]
  constructor
  · rintro ⟨ancestor, nonempty, above, same⟩
    rwa [← scopeKey_injective (spelled.above nonempty above) others same]
  · exact fun above => ⟨other, others.repo.1, above, rfl⟩

end

variable {claimPaths : List Path} (claims : ∀ path ∈ claimPaths, IsSpelledPath toStringLossy path)
include claims

/-- The scopes of normalized paths are their keys, if these are canonical. -/
theorem normalizeCoordinationScopes_ok :
    normalizeCoordinationScopes toStringLossy claimPaths = .ok scopes ↔
      validateScopes journalFormat (ofList (claimPaths.map (scopeKey toStringLossy))).toList =
          .ok () ∧ (ofList (claimPaths.map (scopeKey toStringLossy))).toList = scopes := by
  have keys : (claimPaths.mapM fun path => do
      let normalized ← (normalizeRepoPath path).mapError SyncError.message
      pure (scopeKey toStringLossy normalized)) =
        .ok (claimPaths.map (scopeKey toStringLossy)) := by
    rw [mapM_ok, map_map]
    refine map_congr_left fun path member => ?_
    rw [normalizeRepoPath_eq_self (claims path member).repo]
    rfl
  simp only [normalizeCoordinationScopes, keys, ok_bind, ok_iff]
  exact Unique.exists_iff

/-- Keys of paths overlap exactly when the paths do. Remote scopes cover a claim exactly when each
of its paths lies at or below a path whose key is one of them, and its own keys are canonical. -/
theorem remoteScopes_cover_iff {p q : Path} {remoteScopes : List String}
    (first : IsSpelledPath toStringLossy p) (second : IsSpelledPath toStringLossy q) :
    scopeKeysOverlap (scopeKey toStringLossy p) (scopeKey toStringLossy q) = pathsOverlap p q ∧
    (remoteAuthorityScopesCoverClaimPaths toStringLossy remoteScopes claimPaths = .ok true ↔
      validateScopes journalFormat (ofList (claimPaths.map (scopeKey toStringLossy))).toList =
          .ok () ∧
      ∀ path ∈ claimPaths, ∃ ancestor ≠ [], ancestor <+: path ∧
        scopeKey toStringLossy ancestor ∈ remoteScopes) := by
  constructor
  · rw [Bool.eq_iff_iff, pathsOverlap_iff, ← scopeKey_below_scopeKey first second,
      ← scopeKey_below_scopeKey second first, scopeKeysOverlap, Bool.or_eq_true, Bool.or_eq_true,
      beq_iff_eq]
    tauto
  · simp only [remoteAuthorityScopesCoverClaimPaths, ok_iff, normalizeCoordinationScopes_ok claims]
    constructor
    · rintro ⟨_, ⟨valid, rfl⟩, covered⟩
      refine ⟨valid, fun path member => ?_⟩
      have key : scopeKey toStringLossy path ∈
          (ofList (claimPaths.map (scopeKey toStringLossy))).toList :=
        mem_toList.mpr (mem_ofList.mpr (mem_map_of_mem member))
      obtain ⟨remote, listed, below⟩ := any_eq_true.mp (all_eq_true.mp covered _ key)
      obtain ⟨ancestor, nonempty, above, rfl⟩ := (below_scopeKey_iff (claims path member)).mp below
      exact ⟨ancestor, nonempty, above, listed⟩
    · rintro ⟨valid, covered⟩
      refine ⟨_, ⟨valid, rfl⟩, all_eq_true.mpr fun key member => ?_⟩
      rw [mem_toList, mem_ofList] at member
      obtain ⟨path, claimed, rfl⟩ := mem_map.mp member
      obtain ⟨ancestor, nonempty, above, listed⟩ := covered path claimed
      exact any_eq_true.mpr ⟨_, listed,
        (below_scopeKey_iff (claims path claimed)).mpr ⟨ancestor, nonempty, above, rfl⟩⟩

omit claims

/-- A file below a remote scope. -/
theorem remoteScopes_cover_iff_guide :
    remoteAuthorityScopesCoverClaimPaths id ["path:docs"] [[.normal "docs", .normal "guide"]] =
      .ok true := by
  have spelled : IsSpelledPath id [.normal "docs", .normal "guide"] :=
    ⟨by simp [IsRepoPath], by simp [Component.text], fun _ _ => rfl⟩
  refine (remoteScopes_cover_iff (by simpa using spelled) spelled spelled).2.mpr
    ⟨by decide +kernel, ?_⟩
  simp only [forall_mem_singleton]
  exact ⟨[.normal "docs"], by simp, by simp, by decide⟩

/-- A file below a remote scope whose name has a blank is refused; and two names that are no texts
may be printed alike. -/
theorem remoteScopes_refuse_blank :
    ((∀ path ∈ [[Component.normal "docs", .normal "my file"]], ∃ ancestor ≠ [],
        ancestor <+: path ∧ scopeKey id ancestor ∈ ["path:docs"]) ∧
      remoteAuthorityScopesCoverClaimPaths id ["path:docs"] [[.normal "docs", .normal "my file"]] =
        .error "claim scope is not a canonical opaque resource key") ∧
    scopeKeysOverlap (scopeKey (fun _ => "\uFFFD") [.normal "a"])
        (scopeKey (fun _ => "\uFFFD") [.normal "b"]) = true ∧
      pathsOverlap [.normal "a"] [.normal "b"] = false := by
  refine ⟨⟨?_, by decide +kernel⟩, by decide, by decide⟩
  simp only [forall_mem_singleton]
  exact ⟨[.normal "docs"], by simp, by simp, by decide⟩

end Maco.Journal
