import Maco.Sync.Exclusivity
import Maco.Sync.Grouping

/-!
# The consistency invariant of a coordinator

What every coordinator built by claims and releases satisfies, beyond exclusivity: entries and
grants are in normal form and carry tokens already issued, a token belongs to one agent, and every
subordinate claim is matched by exactly one retained grant whose parent is still active. Each
operation is a composition of a few kinds of change, and each kind keeps the invariant.
-/

namespace Maco.Sync

open Maco.Base BTreeMap

/-- A top-level entry in normal form, under a token already issued. -/
structure EntryWellFormed (nextToken : ℕ) (key : Path) (entry : ClaimEntry) : Prop where
  repo : IsRepoPath key
  agent : normalizeAgentId entry.agentId = .ok entry.agentId
  positive : 1 ≤ entry.token
  below : entry.token < nextToken

/-- A retained grant in normal form, under tokens already issued. -/
structure BindingWellFormed (nextToken : ℕ) (binding : SubordinateClaimBinding) : Prop where
  childPositive : 1 ≤ binding.childToken
  parentPositive : 1 ≤ binding.parentToken
  different : binding.childToken ≠ binding.parentToken
  childBelow : binding.childToken < nextToken
  parentBelow : binding.parentToken < nextToken
  worker : normalizeAgentId binding.workerId = .ok binding.workerId
  canonical : CanonicalScope binding.paths
  digest : validSourceDigest binding.sourceDigest = true

/-- A subordinate claim matched by a grant whose parent is active. -/
structure BoundChild (claims : BTreeMap Path ClaimEntry) (child : PathClaim)
    (binding : SubordinateClaimBinding) : Prop where
  token : binding.childToken = child.token
  worker : binding.workerId = child.agentId
  paths : binding.paths = child.paths
  parent : ∃ parent, claimForToken claims binding.parentToken = some parent ∧
    CarvedFrom parent child.agentId child.paths

/-- The invariant of coordinators built by claims and releases. -/
structure Consistent (inner : Inner) : Prop extends Separated inner where
  positive : 1 ≤ inner.nextToken
  entries : ∀ (key : Path) entry, inner.claims[key]? = some entry →
    EntryWellFormed inner.nextToken key entry
  tokenAgent : ∀ (k l : Path) x y, inner.claims[k]? = some x → inner.claims[l]? = some y →
    x.token = y.token → x.agentId = y.agentId
  bindings : ∀ binding ∈ inner.subordinateBindings, BindingWellFormed inner.nextToken binding
  childDistinct : (inner.subordinateBindings.map SubordinateClaimBinding.childToken).Nodup
  sourceDistinct : (inner.subordinateBindings.map bindingSource).Nodup
  topNotChild : ∀ (key : Path) entry, inner.claims[key]? = some entry →
    ∀ binding ∈ inner.subordinateBindings, binding.childToken ≠ entry.token
  childToken : ∀ (token : ℕ) child, inner.subordinateClaims[token]? = some child →
    child.token = token
  childBound : ∀ (token : ℕ) child, inner.subordinateClaims[token]? = some child →
    ∃ binding ∈ inner.subordinateBindings, BoundChild inner.claims child binding
  workersApart : ∀ (s t : ℕ) x y, inner.subordinateClaims[s]? = some x →
    inner.subordinateClaims[t]? = some y → s ≠ t → x.agentId ≠ y.agentId

/-- A new coordinator is consistent. -/
theorem Consistent.default : Consistent Inner.default where
  top := Exclusive.empty
  subordinate := Exclusive.empty
  positive := le_refl 1
  entries := by simp [Inner.default]
  tokenAgent := by simp [Inner.default]
  bindings := by simp [Inner.default]
  childDistinct := by simp [Inner.default]
  sourceDistinct := by simp [Inner.default]
  topNotChild := by simp [Inner.default]
  childToken := by simp [Inner.default]
  childBound := by simp [Inner.default]
  workersApart := by simp [Inner.default]

namespace Consistent

variable {inner : Inner}

variable {nextToken : ℕ}

/-- Issuing tokens keeps a coordinator consistent. -/
theorem raise (consistent : Consistent inner)
    (later : inner.nextToken ≤ nextToken) : Consistent { inner with nextToken } where
  __ := consistent
  positive := consistent.positive.trans later
  entries := fun key entry found =>
    let form := consistent.entries key entry found
    ⟨form.repo, form.agent, form.positive, form.below.trans_le later⟩
  bindings := fun binding listed =>
    let form := consistent.bindings binding listed
    { form with
      childBelow := form.childBelow.trans_le later
      parentBelow := form.parentBelow.trans_le later }

variable {claims : BTreeMap Path ClaimEntry} {token : ℕ} {agent : String} {scope : List Path}

/-- Entering a claim under one token changes the claim of no other token. -/
theorem claimForToken_enter (older : other ≠ token)
    (inserted : insertClaim claims token agent scope = .ok next) :
    claimForToken next other = claimForToken claims other := by
  refine claimForToken_congr fun key entry carries => ?_
  rw [insertClaim_entry inserted]
  refine ⟨fun found => found.resolve_left ?_, .inr⟩
  rintro ⟨-, rfl⟩
  exact older carries.symm

section

variable (consistent : Consistent inner)

include consistent

/-- Entering a normalized claim under a fresh token keeps a coordinator consistent. -/
theorem enter
    (later : inner.nextToken ≤ nextToken) (positive : 1 ≤ token) (below : token < nextToken)
    (newToken : ∀ (key : Path) entry, inner.claims[key]? = some entry → entry.token ≠ token)
    (newBinding : ∀ binding ∈ inner.subordinateBindings,
      binding.childToken ≠ token ∧ binding.parentToken ≠ token)
    (normal : normalizeAgentId agent = .ok agent) (canonical : CanonicalScope scope)
    (inserted : insertClaim inner.claims token agent scope = .ok claims) :
    Consistent { inner with nextToken, claims } := by
  have raised := consistent.raise later
  refine { raised with
    top := insertClaim_exclusive consistent.top canonical inserted
    entries := ?_, tokenAgent := ?_, topNotChild := ?_, childBound := ?_ }
  · intro key entry found
    rcases (insertClaim_entry inserted).mp found with ⟨requested, rfl⟩ | old
    · exact ⟨canonical.repo key requested, normal, positive, below⟩
    · exact raised.entries key entry old
  · intro k l x y first second same
    rcases (insertClaim_entry inserted).mp first with ⟨_, rfl⟩ | oldFirst <;>
      rcases (insertClaim_entry inserted).mp second with ⟨_, rfl⟩ | oldSecond
    · rfl
    · exact absurd same.symm (newToken l y oldSecond)
    · exact absurd same (newToken k x oldFirst)
    · exact consistent.tokenAgent k l x y oldFirst oldSecond same
  · intro key entry found binding listed
    rcases (insertClaim_entry inserted).mp found with ⟨_, rfl⟩ | old
    · exact (newBinding binding listed).1
    · exact consistent.topNotChild key entry old binding listed
  · intro token child found
    obtain ⟨binding, listed, bound⟩ := consistent.childBound token child found
    obtain ⟨parent, active, carved⟩ := bound.parent
    have kept := claimForToken_enter (newBinding binding listed).2 inserted
    exact ⟨binding, listed, { bound with parent := ⟨parent, kept.trans active, carved⟩ }⟩

variable {binding : SubordinateClaimBinding}

/-- Retaining one more grant keeps a coordinator consistent. -/
theorem retain (form : BindingWellFormed inner.nextToken binding)
    (newChild : ∀ other ∈ inner.subordinateBindings, other.childToken ≠ binding.childToken)
    (newSource : ∀ other ∈ inner.subordinateBindings, bindingSource other ≠ bindingSource binding)
    (newTop : ∀ (key : Path) entry, inner.claims[key]? = some entry →
      binding.childToken ≠ entry.token) :
    Consistent { inner with subordinateBindings := inner.subordinateBindings ++ [binding] } := by
  refine { consistent with
    bindings := ?_, childDistinct := ?_, sourceDistinct := ?_, topNotChild := ?_
    childBound := ?_ }
  · exact forall_mem_concat consistent.bindings form
  · exact nodup_map_concat consistent.childDistinct (by simpa using newChild)
  · exact nodup_map_concat consistent.sourceDistinct (by simpa using newSource)
  · intro key entry found
    exact forall_mem_concat (consistent.topNotChild key entry found) (newTop key entry found)
  · intro token child found
    obtain ⟨other, listed, bound⟩ := consistent.childBound token child found
    exact ⟨other, List.mem_append_left _ listed, bound⟩

/-- Attaching a child that fits and is matched by a retained grant keeps a coordinator
consistent. -/
theorem attach (parent child : PathClaim)
    (listed : binding ∈ inner.subordinateBindings) (bound : BoundChild inner.claims child binding)
    (fits : SubordinateFits inner parent child.agentId child.paths) :
    Consistent { inner with
      subordinateClaims := inner.subordinateClaims.insert child.token child } := by
  refine { consistent with
    subordinate := consistent.toSeparated.insertChild child fits
    childToken := ?_, childBound := ?_, workersApart := ?_ }
  · intro token other found
    rcases get_insert_cases found with ⟨rfl, rfl⟩ | ⟨-, old⟩
    · rfl
    · exact consistent.childToken token other old
  · intro token other found
    rcases get_insert_cases found with ⟨rfl, rfl⟩ | ⟨-, old⟩
    · exact ⟨binding, listed, bound⟩
    · exact consistent.childBound token other old
  · intro s t x y first second different
    rcases get_insert_cases first with ⟨rfl, rfl⟩ | ⟨-, oldFirst⟩ <;>
      rcases get_insert_cases second with ⟨rfl, rfl⟩ | ⟨-, oldSecond⟩
    · exact absurd rfl different
    · exact (fits.freeWorker t y oldSecond).symm
    · exact fits.freeWorker s x oldFirst
    · exact consistent.workersApart s t x y oldFirst oldSecond different

/-- Granting a scope that fits to a Worker keeps a coordinator consistent. -/
theorem grant {parent : PathClaim} {workerId sourceDigest : String}
    {paths : List Path} (active : claimForToken inner.claims parent.token = some parent)
    (digest : validSourceDigest sourceDigest = true)
    (unused : ∀ binding ∈ inner.subordinateBindings, binding.parentToken = parent.token →
      binding.sourceDigest = sourceDigest → binding.workerId ≠ workerId)
    (fits : SubordinateFits inner parent workerId paths) :
    Consistent (inner.withSubordinate parent.token workerId paths sourceDigest) := by
  obtain ⟨_, _, _, _, parentKey, parentEntry, parentFound, parentToken, _⟩ :=
    claimForToken_some active
  have parentPositive := (consistent.entries parentKey parentEntry parentFound).positive
  have parentBelow := (consistent.entries parentKey parentEntry parentFound).below
  rw [parentToken] at parentPositive parentBelow
  have form : BindingWellFormed (inner.nextToken + 1)
      ⟨inner.nextToken, parent.token, sourceDigest, workerId, paths⟩ :=
    ⟨consistent.positive, parentPositive, parentBelow.ne', Nat.lt_succ_self _,
      Nat.lt_succ_of_lt parentBelow, fits.worker, fits.canonical, digest⟩
  have retained := (consistent.raise (Nat.le_succ inner.nextToken)).retain form
    (fun other member => (consistent.bindings other member).childBelow.ne)
    (fun other member same => by
      rw [bindingSource, bindingSource, EmbeddingLike.apply_eq_iff_eq, Prod.mk.injEq,
        EmbeddingLike.apply_eq_iff_eq, Prod.mk.injEq] at same
      exact unused other member same.1 same.2.1 same.2.2)
    (fun key entry found => (consistent.entries key entry found).below.ne')
  exact retained.attach parent ⟨inner.nextToken, workerId, paths⟩
    (List.mem_append_right _ (List.mem_singleton_self _))
    ⟨rfl, rfl, rfl, parent, active, fits.toCarvedFrom⟩ { fits with }

/-- Dropping subordinate claims keeps a coordinator consistent. -/
theorem dropChildren (fewer : ∀ (token : ℕ) child, children[token]? = some child →
      inner.subordinateClaims[token]? = some child) :
    Consistent { inner with subordinateClaims := children } :=
  { consistent with
    subordinate := consistent.subordinate.mono fewer
    childToken := fun token child found => consistent.childToken token child (fewer _ _ found)
    childBound := fun token child found => consistent.childBound token child (fewer _ _ found)
    workersApart := fun s t x y first second =>
      consistent.workersApart s t x y (fewer _ _ first) (fewer _ _ second) }

/-- Dropping top-level entries that belong to no active child's parent keeps a coordinator
consistent. -/
theorem dropEntries
    (fewer : ∀ (key : Path) entry, claims[key]? = some entry → inner.claims[key]? = some entry)
    (parents : ∀ binding ∈ inner.subordinateBindings,
      inner.subordinateClaims[binding.childToken]? ≠ none → ∀ (key : Path) entry,
      entry.token = binding.parentToken → inner.claims[key]? = some entry →
      claims[key]? = some entry) : Consistent { inner with claims } := by
  refine { consistent with
    top := consistent.top.mono fewer
    entries := fun key entry found => consistent.entries key entry (fewer _ _ found)
    tokenAgent := fun k l x y first second =>
      consistent.tokenAgent k l x y (fewer _ _ first) (fewer _ _ second)
    topNotChild := fun key entry found => consistent.topNotChild key entry (fewer _ _ found)
    childBound := ?_ }
  intro token child found
  obtain ⟨binding, listed, bound⟩ := consistent.childBound token child found
  obtain ⟨parent, active, carved⟩ := bound.parent
  have occupied : inner.subordinateClaims[binding.childToken]? ≠ none := by
    rw [bound.token, consistent.childToken token child found, found]
    exact Option.some_ne_none child
  have kept : claimForToken claims binding.parentToken =
      claimForToken inner.claims binding.parentToken :=
    claimForToken_congr fun key entry carries =>
      ⟨fewer key entry, parents binding listed occupied key entry carries⟩
  exact ⟨binding, listed, { bound with parent := ⟨parent, kept.trans active, carved⟩ }⟩

end

end Consistent

variable {inner : Inner}

/-- Every operation keeps a coordinator consistent. -/
theorem step_consistent (consistent : Consistent inner) (operation : Operation) :
    Consistent (step inner operation) := by
  cases operation with
  | claimPaths agentId paths =>
    rcases claimPaths_cases inner agentId paths with
      ⟨_, same⟩ | ⟨_, spent⟩ | ⟨agent, scope, claims, agentNormal, normal, _, inserted, entered⟩
    · rwa [step, same]
    · rw [step, spent]
      exact consistent.raise (Nat.le_succ _)
    · rw [step, entered]
      exact consistent.enter (Nat.le_succ _) consistent.positive (Nat.lt_succ_self _)
        (fun key entry found => (consistent.entries key entry found).below.ne)
        (fun binding listed => ⟨(consistent.bindings binding listed).childBelow.ne,
          (consistent.bindings binding listed).parentBelow.ne⟩)
        (normalizeAgentId_idempotent agentNormal) (normalizeClaimPaths_canonical normal) inserted
  | claimSubordinatePaths parent workerId paths sourceDigest =>
    refine stateAfter_rec consistent fun claim next accepted => ?_
    obtain ⟨active, digest, unused, fits, _, rfl, rfl⟩ := claimSubordinatePaths_ok accepted
    exact consistent.grant active digest unused fits
  | release token =>
    refine stateAfter_rec consistent fun claim next accepted => ?_
    obtain ⟨childless, ⟨_, rfl⟩ | ⟨_, _, rfl⟩⟩ := release_ok accepted
    · exact consistent.dropChildren fun other child found => (get_erase_some found).2
    · refine consistent.dropEntries (fun key entry found => (get_filter_some found).1) ?_
      intro binding listed occupied key entry carries found
      rw [get_filter, found, Option.filter_some, if_pos]
      rw [carries, bne_iff_ne]
      exact fun released => occupied (childless binding listed released)
  | releaseByAgent agentId =>
    refine stateAfter_rec consistent fun claims next accepted => ?_
    obtain ⟨agent, _, childless, rfl⟩ := releaseByAgent_ok accepted
    have fewer : ∀ (token : ℕ) child,
        (inner.subordinateClaims.filter fun _ claim => claim.agentId != agent)[token]? =
          some child → inner.subordinateClaims[token]? = some child :=
      fun token child found => (get_filter_some found).1
    refine (consistent.dropChildren fewer).dropEntries
      (fun key entry found => (get_filter_some found).1) ?_
    intro binding listed occupied key entry carries found
    rw [get_filter, found, Option.filter_some, if_pos]
    rw [bne_iff_ne]
    intro held
    obtain ⟨child, kept⟩ := Option.ne_none_iff_exists'.mp occupied
    have dropped := childless binding listed key entry found held carries
    rw [fewer _ child kept] at dropped
    cases dropped

theorem operate_consistent (consistent : Consistent inner)
    (operations : List Operation) : Consistent (operate inner operations) := by
  refine List.foldlRecOn operations step consistent ?_
  exact fun inner consistent operation _ => step_consistent consistent operation

end Maco.Sync
