import Maco.Base.Exclusion
import Maco.Forge.ClaimSteps
import Maco.Forge.Reading

/-!
# Claims are exclusive and linear

No two active claims of a reconstructed thread overlap, every claim has at most one accepted
successor, a claim is taken over only when it was stale, and no chain of successors comes back to
where it began. Each of these is kept by every step a record can cause.
-/

namespace Maco.Forge

open Maco.Base Maco.Base.BTreeMap Maco.Publication

/-- Two active claims on overlapping scopes. -/
def activeClash (_ : String) (a : ForgeClaimState) (_ : String) (b : ForgeClaimState) : Prop :=
  a.status = .active ∧ b.status = .active ∧ scopesOverlap a.scopes b.scopes = true

theorem activeClash_symm (i : String) (a : ForgeClaimState) (j : String) (b : ForgeClaimState)
    (clash : activeClash i a j b) : activeClash j b i a :=
  ⟨clash.2.1, clash.1, scopesOverlap_comm clash.2.2⟩

/-- The claims form chains of successors, and the active ones are apart. -/
structure Linear (claims : Claims) : Prop where
  exclusive : Exclusive activeClash claims
  succession : ∀ (id : String) claim (predecessorId : String),
    claims[id]? = some claim → claim.status.accepted = true →
      claim.supersedes = some predecessorId →
        ∃ predecessor, claims[predecessorId]? = some predecessor ∧
          predecessor.supersededBy = some id
  successor : ∀ (id : String) claim (successorId : String),
    claims[id]? = some claim → claim.supersededBy = some successorId →
      ∃ successor, claims[successorId]? = some successor
  stale : ∀ (id : String) claim, claims[id]? = some claim →
    claim.status = .superseded → ∃ successorId successor,
      claim.supersededBy = some successorId ∧ claims[successorId]? = some successor ∧
        claim.StaleBy successor.activation.createdAt
  ranked : ∃ rank : String → ℕ, ∀ (id : String) claim (successorId : String),
    claims[id]? = some claim → claim.supersededBy = some successorId → rank id < rank successorId

theorem Linear.empty : Linear ∅ where
  exclusive := .empty
  succession id claim _ present := by simp at present
  successor id claim _ present := by simp at present
  stale id claim present := by simp at present
  ranked := ⟨fun _ => 0, fun id claim _ present => by simp at present⟩

section Steps

variable {claims : Claims} {claimId : String} {claim : ForgeClaimState}

/-- A change that keeps the claim's lineage and makes it neither active nor superseded. -/
structure ForgeClaimState.Continues (claim later : ForgeClaimState) : Prop where
  claimId : later.claimId = claim.claimId
  scopes : later.scopes = claim.scopes
  supersedes : later.supersedes = claim.supersedes
  supersededBy : later.supersededBy = claim.supersededBy
  activation : later.activation = claim.activation
  accepted : later.status.accepted = claim.status.accepted
  active : later.status = .active → claim.status = .active
  superseded : later.status = .superseded →
    claim.status = .superseded ∧ ∀ time, claim.StaleBy time → later.StaleBy time

/-- Every claim continues, and none begins. -/
structure Continued (claims next : Claims) : Prop where
  forth : ∀ (id : String) claim, claims[id]? = some claim →
    ∃ later, next[id]? = some later ∧ claim.Continues later
  back : ∀ (id : String) later, next[id]? = some later →
    ∃ claim, claims[id]? = some claim ∧ claim.Continues later

variable {next : Claims}

/-- Claims that continue stay exclusive and linear. -/
theorem Linear.continued (linear : Linear claims)
    (continued : Continued claims next) : Linear next := by
  constructor
  · intro a x b y first second different clash
    obtain ⟨left, before, continues⟩ := continued.back a x first
    obtain ⟨right, beforeToo, continuesToo⟩ := continued.back b y second
    refine linear.exclusive a left b right before beforeToo different
      ⟨continues.active clash.1, continuesToo.active clash.2.1, ?_⟩
    rw [← continues.scopes, ← continuesToo.scopes]
    exact clash.2.2
  · intro id later predecessorId stored accepted named
    obtain ⟨claim, before, continues⟩ := continued.back id later stored
    obtain ⟨predecessor, listed, marked⟩ := linear.succession id claim predecessorId before
      (continues.accepted ▸ accepted) (continues.supersedes ▸ named)
    obtain ⟨found, after, same⟩ := continued.forth predecessorId predecessor listed
    exact ⟨found, after, same.supersededBy.trans marked⟩
  · intro id later successorId stored followed
    obtain ⟨claim, before, continues⟩ := continued.back id later stored
    obtain ⟨successor, listed⟩ := linear.successor id claim successorId before
      (continues.supersededBy ▸ followed)
    obtain ⟨found, after, -⟩ := continued.forth successorId successor listed
    exact ⟨found, after⟩
  · intro id later stored ended
    obtain ⟨claim, before, continues⟩ := continued.back id later stored
    obtain ⟨endedBefore, staleToo⟩ := continues.superseded ended
    obtain ⟨successorId, successor, followed, listed, stale⟩ :=
      linear.stale id claim before endedBefore
    obtain ⟨found, after, same⟩ := continued.forth successorId successor listed
    exact ⟨successorId, found, continues.supersededBy.trans followed, after,
      same.activation ▸ staleToo _ stale⟩
  · obtain ⟨rank, increasing⟩ := linear.ranked
    refine ⟨rank, fun id later successorId stored followed => ?_⟩
    obtain ⟨claim, before, continues⟩ := continued.back id later stored
    exact increasing id claim successorId before (continues.supersededBy ▸ followed)

/-- One claim continues. -/
theorem Continued.rewrite (present : claims[claimId]? = some claim)
    (continues : claim.Continues later) : Continued claims (claims.insert claimId later) := by
  have same (other : ForgeClaimState) : other.Continues other :=
    ⟨rfl, rfl, rfl, rfl, rfl, rfl, id, fun ended => ⟨ended, fun _ => id⟩⟩
  constructor
  · intro id old stored
    by_cases here : claimId = id
    · subst here
      rw [present, Option.some.injEq] at stored
      exact ⟨later, get_insert_self _ _ _, stored ▸ continues⟩
    · exact ⟨old, by rw [get_insert_of_ne _ _ here, stored], same old⟩
  · intro id found stored
    rcases get_insert_cases stored with ⟨rfl, rfl⟩ | ⟨-, old⟩
    · exact ⟨claim, present, continues⟩
    · exact ⟨found, old, same found⟩

section

variable (linear : Linear claims)

include linear

/-- A claim without a predecessor may begin when it is refused or its scopes are free. -/
theorem Linear.insert (fresh : claims[claimId]? = none)
    (unsucceeded : claim.supersededBy = none) (running : claim.status ≠ .superseded)
    (clear : claim.status = .active → Free claims claim.scopes)
    (first : claim.status.accepted = true → claim.supersedes = none) :
    Linear (claims.insert claimId claim) := by
  have kept {id : String} {old : ForgeClaimState} (stored : claims[id]? = some old) :
      (claims.insert claimId claim)[id]? = some old := by
    rw [get_insert_of_ne _ _ (ne_of_fresh fresh stored), stored]
  constructor
  · refine linear.exclusive.insert activeClash_symm fun id other stored away clash => ?_
    have apart := clear clash.1 id other stored clash.2.1
    rw [scopesOverlap_comm clash.2.2] at apart
    cases apart
  · intro id found predecessorId stored accepted named
    rcases get_insert_cases stored with ⟨rfl, rfl⟩ | ⟨-, old⟩
    · rw [first accepted] at named
      cases named
    · obtain ⟨predecessor, listed, marked⟩ :=
        linear.succession id found predecessorId old accepted named
      exact ⟨predecessor, kept listed, marked⟩
  · intro id found successorId stored followed
    rcases get_insert_cases stored with ⟨rfl, rfl⟩ | ⟨-, old⟩
    · rw [unsucceeded] at followed
      cases followed
    · obtain ⟨successor, listed⟩ := linear.successor id found successorId old followed
      exact ⟨successor, kept listed⟩
  · intro id found stored ended
    rcases get_insert_cases stored with ⟨rfl, rfl⟩ | ⟨-, old⟩
    · exact absurd ended running
    · obtain ⟨successorId, successor, followed, listed, stale⟩ := linear.stale id found old ended
      exact ⟨successorId, successor, followed, kept listed, stale⟩
  · obtain ⟨rank, increasing⟩ := linear.ranked
    refine ⟨rank, fun id found successorId stored followed => ?_⟩
    rcases get_insert_cases stored with ⟨rfl, rfl⟩ | ⟨-, old⟩
    · rw [unsucceeded] at followed
      cases followed
    · exact increasing id found successorId old followed

/-- A predecessor marked with its successor: nothing else of it changes but that a stale one
ends. -/
structure ForgeClaimState.MarkedBy (predecessor marked claim : ForgeClaimState)
    (claimId : String) : Prop where
  supersedes : marked.supersedes = predecessor.supersedes
  supersededBy : marked.supersededBy = some claimId
  activation : marked.activation = predecessor.activation
  accepted : marked.status.accepted = predecessor.status.accepted
  inactive : marked.status ≠ .active
  stale : marked.status = .superseded → marked.StaleBy claim.activation.createdAt

/-- A claim may succeed one that has ended or ends with it. -/
theorem Linear.succeed (fresh : claims[claimId]? = none)
    {predecessor marked : ForgeClaimState}
    (present : claims[predecessorId]? = some predecessor) (first : predecessor.supersededBy = none)
    (marking : predecessor.MarkedBy marked claim claimId)
    (unsucceeded : claim.supersededBy = none) (active : claim.status = .active)
    (named : claim.supersedes = some predecessorId)
    (clear : Free (claims.insert predecessorId marked) claim.scopes) :
    Linear ((claims.insert predecessorId marked).insert claimId claim) := by
  -- What is stored afterwards is the new claim, the marked predecessor, or as it was before.
  have still {id : String} {found : ForgeClaimState}
      (stored : ((claims.insert predecessorId marked).insert claimId claim)[id]? = some found) :
      (id = claimId ∧ found = claim) ∨ (id = predecessorId ∧ found = marked) ∨
        claims[id]? = some found := by
    rcases get_insert_cases stored with here | ⟨-, before⟩
    · exact .inl here
    · rcases get_insert_cases before with here | ⟨-, old⟩
      · exact .inr (.inl here)
      · exact .inr (.inr old)
  have marks : ((claims.insert predecessorId marked).insert claimId claim)[predecessorId]? =
      some marked := by
    rw [get_insert_of_ne _ _ (ne_of_fresh fresh present), get_insert_self]
  have kept {id : String} {old : ForgeClaimState} (stored : claims[id]? = some old) :
      ∃ found, ((claims.insert predecessorId marked).insert claimId claim)[id]? = some found ∧
        (∀ successorId, old.supersededBy = some successorId →
          found.supersededBy = some successorId) ∧ found.activation = old.activation := by
    by_cases here : predecessorId = id
    · subst here
      rw [present, Option.some.injEq] at stored
      subst stored
      refine ⟨marked, marks, fun successorId followed => ?_, marking.activation⟩
      rw [first] at followed
      cases followed
    · refine ⟨old, ?_, fun _ same => same, rfl⟩
      rw [get_insert_of_ne _ _ (ne_of_fresh fresh stored), get_insert_of_ne _ _ here, stored]
  constructor
  · refine Exclusive.insert ?_ activeClash_symm fun id other stored away clash => ?_
    · exact linear.exclusive.rewrite present activeClash_symm fun id other clash =>
        absurd clash.1 marking.inactive
    · have apart := clear id other stored clash.2.1
      rw [scopesOverlap_comm clash.2.2] at apart
      cases apart
  · intro id found otherId stored accepted followed
    rcases still stored with ⟨rfl, rfl⟩ | before
    · rw [named, Option.some.injEq] at followed
      subst followed
      exact ⟨marked, marks, marking.supersededBy⟩
    · have earlier : ∃ earlier, claims[otherId]? = some earlier ∧
          earlier.supersededBy = some id := by
        rcases before with ⟨rfl, rfl⟩ | old
        · exact linear.succession _ predecessor otherId present (marking.accepted ▸ accepted)
            (marking.supersedes ▸ followed)
        · exact linear.succession id found otherId old accepted followed
      obtain ⟨earlier, listed, precedes⟩ := earlier
      obtain ⟨now, after, same, -⟩ := kept listed
      exact ⟨now, after, same id precedes⟩
  · intro id found successorId stored followed
    rcases still stored with ⟨rfl, rfl⟩ | ⟨rfl, rfl⟩ | old
    · rw [unsucceeded] at followed
      cases followed
    · rw [marking.supersededBy, Option.some.injEq] at followed
      subst followed
      exact ⟨claim, get_insert_self _ _ _⟩
    · obtain ⟨successor, listed⟩ := linear.successor id found successorId old followed
      obtain ⟨now, after, -⟩ := kept listed
      exact ⟨now, after⟩
  · intro id found stored ended
    rcases still stored with ⟨rfl, rfl⟩ | ⟨rfl, rfl⟩ | old
    · rw [active] at ended
      cases ended
    · exact ⟨claimId, claim, marking.supersededBy, get_insert_self _ _ _, marking.stale ended⟩
    · obtain ⟨successorId, successor, followed, listed, stale⟩ := linear.stale id found old ended
      obtain ⟨now, after, -, began⟩ := kept listed
      exact ⟨successorId, now, followed, after, began ▸ stale⟩
  · -- The new claim ranks just above its predecessor; no earlier successor is the new claim.
    obtain ⟨rank, increasing⟩ := linear.ranked
    refine ⟨Function.update rank claimId (rank predecessorId + 1), ?_⟩
    intro id found successorId stored followed
    rcases still stored with ⟨rfl, rfl⟩ | ⟨rfl, rfl⟩ | old
    · rw [unsucceeded] at followed
      cases followed
    · rw [marking.supersededBy, Option.some.injEq] at followed
      subst followed
      rw [Function.update_self, Function.update_of_ne (ne_of_fresh fresh present).symm]
      omega
    · obtain ⟨successor, listed⟩ := linear.successor id found successorId old followed
      rw [Function.update_of_ne (ne_of_fresh fresh old).symm,
        Function.update_of_ne (ne_of_fresh fresh listed).symm]
      exact increasing id found successorId old followed

/-- A heartbeat or a release keeps the claims exclusive and linear. -/
theorem Linear.mutate (mutation : Mutates claims next) : Linear next := by
  cases mutation with
  | heard provenance present active =>
    refine linear.continued (.rewrite present ⟨rfl, rfl, rfl, rfl, rfl, rfl, id, fun ended => ?_⟩)
    simp [active] at ended
  | released provenance present active =>
    exact linear.continued (.rewrite present
      ⟨rfl, rfl, rfl, rfl, rfl, by rw [active]; rfl, by simp, by simp⟩)

/-- A beginning claim keeps the claims exclusive and linear. -/
theorem Linear.begin (fresh : claims[claimId]? = none)
    (beginning : Begins claims claimId definition observed next) : Linear next := by
  cases beginning with
  | refused conflict refusal =>
    have refused {status : ClaimStatus} (refusal : status.accepted = false) :
        status ≠ .active ∧ status ≠ .superseded := by
      constructor <;> rintro rfl <;> cases refusal
    refine linear.insert fresh rfl (refused refusal).2
      (fun active => absurd active (refused refusal).1) fun accepted => ?_
    rw [ClaimDefinition.begin, refusal] at accepted
    cases accepted
  | opened alone free =>
    exact linear.insert fresh rfl (by simp [ClaimDefinition.begin]) (fun _ => free) fun _ => alone
  | @succeeded predecessorId predecessor named present unsucceeded ended free =>
    have inactive : predecessor.status ≠ .active := by simp [ended]
    refine linear.succeed fresh present unsucceeded
      ⟨rfl, rfl, rfl, rfl, inactive, fun superseded => ?_⟩ rfl rfl named ?_
    · have same : predecessor.status = .superseded := superseded
      rw [ended] at same
      cases same
    · intro id other stored active
      rcases get_insert_cases stored with ⟨rfl, rfl⟩ | ⟨-, old⟩
      · exact absurd active inactive
      · exact free id other old active
  | @tookOver predecessorId predecessor named present sameScopes unsucceeded active stale =>
    refine linear.succeed fresh present unsucceeded
      ⟨rfl, rfl, rfl, by rw [active]; rfl, by simp [ForgeClaimState.succeededBy],
        fun _ => stale⟩ rfl rfl named ?_
    -- Whoever overlapped the new claim would have overlapped its predecessor.
    intro id other stored activeToo
    rcases get_insert_cases stored with ⟨rfl, rfl⟩ | ⟨away, old⟩
    · simp [ForgeClaimState.succeededBy] at activeToo
    · by_contra overlap
      refine linear.exclusive id other predecessorId predecessor old present (Ne.symm away)
        ⟨activeToo, active, ?_⟩
      rw [sameScopes]
      simpa [ClaimDefinition.begin] using overlap

end

variable {model : ClaimModel}

theorem Linear.step (linear : Linear claims)
    (step : ClaimStep model claims next) : Linear next := by
  cases step with
  | mutates mutation => exact linear.mutate mutation
  | begins winner fresh beginning => exact linear.begin fresh beginning

theorem Linear.run (linear : Linear claims) (run : Run model claims next) : Linear next := by
  induction run with
  | refl => exact linear
  | tail _ step ih => exact ih.step step

end Steps

/-! ## Reconstructed claims -/

/-- The seconds of a reduction are distinct. -/
theorem nodup_claimTimestamps (records : List ObservedRecord) : (claimTimestamps records).Nodup :=
  (BTreeSet.sorted_toList _).imp fun less => ne_of_lt less

variable {claims : Claims}

/-- The claims of a reduction come from a run of steps. -/
theorem reduceClaims_run {model : ClaimModel}
    (reduced : reduceClaims records model = .ok (claims, dispositions)) : Run model ∅ claims := by
  rw [reduceClaims, bind_ok] at reduced
  obtain ⟨losing, -, reduced⟩ := reduced
  have begun : Begun [] (∅ : Claims) := fun id claim present => by simp at present
  exact (reduceTimestamps_run (.empty model) begun (nodup_claimTimestamps records) reduced).1

variable {marked : Claims} {now : ℕ}

/-- Marking the stale claims changes nothing else. -/
theorem markStale_marks (marks : markStale claims now = .ok marked) :
    (∀ (id : String) claim, claims[id]? = some claim →
      ∃ stale, marked[id]? = some { claim with staleAtObservation := stale }) ∧
    ∀ id : String, claims[id]? = none → marked[id]? = none := by
  have result := foldlM_invariant
    (fun (done : List (String × ForgeClaimState)) (marked : Claims) =>
      (∀ entry ∈ done, claims[entry.1]? = some entry.2) →
      (∀ (id : String) claim, claims[id]? = some claim →
        ∃ stale, marked[id]? = some { claim with staleAtObservation := stale }) ∧
      ∀ id : String, claims[id]? = none → marked[id]? = none) ?_
    (fun _ => ⟨fun id claim present => ⟨claim.staleAtObservation, present⟩, fun _ absent => absent⟩)
    marks
  · exact result fun entry member => mem_toList.mp member
  rintro done ⟨id, claim⟩ reached next holds stepped listed
  obtain ⟨each, none⟩ := holds fun entry member => listed entry (by simp [member])
  have present : claims[id]? = some claim := listed (id, claim) (by simp)
  simp only [ok_iff] at stepped
  obtain ⟨stale, -, rfl⟩ := stepped
  constructor
  · intro other found stored
    by_cases here : id = other
    · subst here
      rw [present, Option.some.injEq] at stored
      exact ⟨stale, by rw [get_insert_self, stored]⟩
    · rw [get_insert_of_ne _ _ here]
      exact each other found stored
  · intro other absent
    rw [get_insert_of_ne _ _ (ne_of_fresh absent present).symm]
    exact none other absent

/-- Marked claims continue the ones they mark. -/
theorem markStale_continued
    (marks : markStale claims now = .ok marked) : Continued claims marked := by
  obtain ⟨each, none⟩ := markStale_marks marks
  have continues (claim : ForgeClaimState) (stale : Bool) :
      claim.Continues { claim with staleAtObservation := stale } :=
    ⟨rfl, rfl, rfl, rfl, rfl, rfl, id, fun ended => ⟨ended, fun _ => id⟩⟩
  constructor
  · intro id claim present
    obtain ⟨stale, after⟩ := each id claim present
    exact ⟨_, after, continues claim stale⟩
  · intro id later present
    cases before : claims[id]? with
    | none =>
      rw [none id before] at present
      cases present
    | some claim =>
      obtain ⟨stale, after⟩ := each id claim before
      rw [present, Option.some.injEq] at after
      exact ⟨claim, rfl, after ▸ continues claim stale⟩

/-- What a reconstruction does: it reads the records, reduces the claims, marks the stale ones and
reports them. -/
theorem reconstruct_claims (success : reconstruct recordFromStr engine observation = .ok snapshot) :
    ∃ records replays model claims dispositions now marked,
      parseRecords recordFromStr engine observation = .ok (records, replays) ∧
      ClaimModel.new records = .ok model ∧
      reduceClaims records model = .ok (claims, dispositions) ∧
      markStale claims now = .ok marked ∧ snapshot.claims = BTreeMap.values marked := by
  simp only [reconstruct, bind_ok] at success
  obtain ⟨-, -, ⟨records, replays⟩, parsed, success⟩ := success
  simp only [snapshotOf, ok_iff] at success
  obtain ⟨model, built, ⟨claims, dispositions⟩, reduced, now, -, marked, marks, -, -, rfl⟩ :=
    success
  exact ⟨records, replays, model, claims, dispositions, now, marked, parsed, built, reduced, marks,
    rfl⟩

/-- A chain of successors goes up in rank. -/
theorem rank_lt_of_chain {follows : String → String → Prop} {rank : String → ℕ}
    (increasing : ∀ a b, follows a b → rank a < rank b)
    (chain : Relation.TransGen follows a b) : rank a < rank b := by
  induction chain with
  | single edge => exact increasing _ _ edge
  | tail _ edge ih => exact lt_trans ih (increasing _ _ edge)

/-- The claims a thread reconstructs to are exclusive and linear: active claims have disjoint
scopes; a claim that was accepted as a successor is its predecessor's only one, and the predecessor
names it; a superseded claim was stale when its successor began; and no chain of successors is a
cycle. -/
theorem reconstruct_claims_linear (recordFromStr : RecordReader)
    (engine : ForgeCoordinationEngine) (observation : ItemThreadObservation)
    (snapshot : CoordinationSnapshot)
    (success : reconstruct recordFromStr engine observation = .ok snapshot) :
    (snapshot.claims.Pairwise fun a b => a.status = .active → b.status = .active →
      ∀ left ∈ a.scopes, ∀ right ∈ b.scopes, scopeKeysOverlap left right = false) ∧
    (snapshot.claims.map (·.claimId)).Nodup ∧
    (∀ claim ∈ snapshot.claims, claim.status.accepted = true →
      ∀ predecessorId, claim.supersedes = some predecessorId →
        (∃ predecessor ∈ snapshot.claims, predecessor.claimId = predecessorId ∧
          predecessor.supersededBy = some claim.claimId) ∧
        ∀ other ∈ snapshot.claims, other.status.accepted = true →
          other.supersedes = some predecessorId → other = claim) ∧
    (∀ claim ∈ snapshot.claims, claim.status = .superseded →
      ∃ successor ∈ snapshot.claims, claim.supersededBy = some successor.claimId ∧
        claim.StaleBy successor.activation.createdAt) ∧
    ∀ id, ¬ Relation.TransGen (fun a b => ∃ claim ∈ snapshot.claims,
      claim.claimId = a ∧ claim.supersededBy = some b) id id := by
  obtain ⟨records, replays, model, claims, dispositions, now, marked, -, -, reduced, marks,
    shown⟩ := reconstruct_claims success
  rw [shown]
  have run := reduceClaims_run reduced
  have linear : Linear marked := (Linear.empty.run run).continued (markStale_continued marks)
  have keyed : ∀ (id : String) claim, marked[id]? = some claim →
      claim.claimId = id := by
    intro id later present
    obtain ⟨claim, before, continues⟩ := (markStale_continued marks).back id later present
    exact continues.claimId.trans (((Placed.empty model).run run).keyed id claim before)
  refine ⟨?_, ?_, ?_, ?_, ?_⟩
  · apply pairwise_values
    intro a x b y first second different activeLeft activeRight left inLeft right inRight
    have apart := linear.exclusive a x b y first second different
    by_contra overlap
    exact apart ⟨activeLeft, activeRight,
      scopesOverlap_iff.mpr ⟨left, inLeft, right, inRight, by simpa using overlap⟩⟩
  · exact nodup_key_values keyed
  · intro claim listed accepted predecessorId named
    obtain ⟨id, stored⟩ := mem_values.mp listed
    obtain ⟨predecessor, found, follows⟩ :=
      linear.succession id claim predecessorId stored accepted named
    constructor
    · exact ⟨predecessor, mem_values.mpr ⟨_, found⟩, keyed _ _ found,
        keyed id claim stored ▸ follows⟩
    · intro other listedToo acceptedToo namedToo
      obtain ⟨otherId, storedToo⟩ := mem_values.mp listedToo
      obtain ⟨same, foundToo, followsToo⟩ :=
        linear.succession otherId other predecessorId storedToo acceptedToo namedToo
      rw [found, Option.some.injEq] at foundToo
      rw [← foundToo, follows, Option.some.injEq] at followsToo
      rw [← followsToo, stored, Option.some.injEq] at storedToo
      exact storedToo.symm
  · intro claim listed ended
    obtain ⟨id, stored⟩ := mem_values.mp listed
    obtain ⟨successorId, successor, follows, found, stale⟩ := linear.stale id claim stored ended
    exact ⟨successor, mem_values.mpr ⟨_, found⟩, (keyed _ _ found).symm ▸ follows, stale⟩
  · intro id cycle
    obtain ⟨rank, increasing⟩ := linear.ranked
    refine lt_irrefl (rank id) (rank_lt_of_chain (fun a b edge => ?_) cycle)
    obtain ⟨claim, listed, rfl, follows⟩ := edge
    obtain ⟨key, stored⟩ := mem_values.mp listed
    rw [keyed key claim stored]
    exact increasing key claim b stored follows

/-- The claims of the sample thread are exclusive and linear; one of them is superseded. -/
theorem reconstruct_claims_linear_sample : ∃ snapshot,
    reconstruct sampleReader sampleEngine sampleThread = .ok snapshot ∧
    snapshot.claims.map (fun claim => (claim.claimId, claim.status)) =
      [("c1", .superseded), ("c2", .active)] ∧
    ∀ claim ∈ snapshot.claims, claim.status = .superseded →
      ∃ successor ∈ snapshot.claims, claim.supersededBy = some successor.claimId ∧
        claim.StaleBy successor.activation.createdAt := by
  obtain ⟨snapshot, success, claims⟩ := reconstruct_sampleThread
  have linear := reconstruct_claims_linear _ _ _ snapshot success
  exact ⟨snapshot, success, claims, linear.2.2.2.1⟩

end Maco.Forge
