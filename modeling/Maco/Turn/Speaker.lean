import Maco.Turn.State

/-!
# The speaker of a turn

Under round robin the speaker of a turn is the participant its number falls on; under a speaker
graph it is where the walk of unique successors has come. What an accepted definition guarantees
makes both participants, and the successor the protocol derives after a turn is the speaker of the
next one.
-/

namespace Maco.Turn

open Maco.Base TurnProtocolDefinition SpeakerGraph List
open TurnParticipant (agentId)

/-! ## Accepted definitions -/

/-- What an accepted definition guarantees. -/
structure TurnProtocolDefinition.Accepted (definition : TurnProtocolDefinition) : Prop where
  nonempty : definition.agentIds ≠ []
  distinct : definition.agentIds.Nodup
  turns : definition.maxTurns ≠ 0
  bounded : definition.maxTurns ≤ hardMaxTurns
  initial : ∀ graph, definition.policy = .graphSelected graph →
    definition.containsParticipant graph.initialSpeaker
  targets : ∀ graph, definition.policy = .graphSelected graph → ∀ speaker,
    ∀ next ∈ graph.choices speaker, definition.containsParticipant next

/-- The participants collected so far. -/
theorem addParticipants_ok {limits : TurnProtocolLimits} {participants : List TurnParticipant}
    {ids : BTreeSet String} (collected : participants.foldlM (addParticipant limits) ∅ = .ok ids) :
    (participants.map agentId).Nodup ∧
      ∀ id, ids.contains id = true ↔ id ∈ participants.map agentId := by
  simp only [Std.ExtTreeSet.contains_iff_mem]
  refine foldlM_invariant (fun participants (ids : BTreeSet String) =>
    (participants.map agentId).Nodup ∧
      ∀ id, id ∈ ids ↔ id ∈ participants.map agentId) ?_ (by simp) collected
  intro read participant ids next known added
  simp only [addParticipant, ok_iff, Std.ExtTreeSet.contains_iff_mem] at added
  obtain ⟨_, -, fresh, rfl⟩ := added
  exact BTreeSet.insert_collects known fresh

variable {graph : SpeakerGraph}

/-- A checked graph stays among the participants. -/
theorem validateGraph_ok {ids : BTreeSet String} {limits : TurnProtocolLimits} {done : Unit}
    (accepted : validateGraph graph ids limits = .ok done) :
    ids.contains graph.initialSpeaker = true ∧
      ∀ speaker, ∀ next ∈ graph.choices speaker, ids.contains next = true := by
  simp only [validateGraph, ok_iff, Bool.not_eq_false] at accepted
  obtain ⟨initial, _, walked, -⟩ := accepted
  refine ⟨initial, ?_⟩
  intro speaker next member
  unfold choices at member
  cases found : graph.transitions[speaker]? with
  | none => simp [found] at member
  | some choices =>
    rw [found, Option.getD_some] at member
    obtain ⟨before, after, split⟩ := append_of_mem (BTreeMap.mem_toList.mpr found)
    rw [split] at walked
    obtain ⟨_, _, -, source⟩ := foldlM_split walked
    simp only [addSource, ok_iff, Prod.exists] at source
    obtain ⟨-, _, _, targets, -⟩ := source
    obtain ⟨before, after, rfl⟩ := append_of_mem member
    obtain ⟨_, _, -, target⟩ := foldlM_split targets
    simp only [addTransition, ok_iff, Bool.not_eq_false] at target
    obtain ⟨_, -, -, known, -⟩ := target
    exact known

/-- The checks of a definition. -/
theorem TurnProtocolDefinition.accepted_of_validate {definition : TurnProtocolDefinition}
    {done : Unit} (accepted : definition.validate = .ok done) : definition.Accepted := by
  simp only [validate, TurnProtocolLimits.validate, validateLimit, ok_iff, not_or,
    not_lt] at accepted
  obtain ⟨⟨-, -, -, -, ⟨-, most⟩, -⟩, _, -, _, -, some_, -, ids, collected, ⟨turns, bounded⟩,
    policy⟩ := accepted
  obtain ⟨distinct, listed⟩ := addParticipants_ok collected
  have walk : ∀ graph, definition.policy = .graphSelected graph →
      definition.containsParticipant graph.initialSpeaker ∧ ∀ speaker,
        ∀ next ∈ graph.choices speaker, definition.containsParticipant next := by
    intro graph selected
    rw [validatePolicy, selected] at policy
    obtain ⟨initial, targets⟩ := validateGraph_ok policy
    exact ⟨(listed _).mp initial, fun speaker next member =>
      (listed _).mp (targets speaker next member)⟩
  refine ⟨?_, distinct, turns, bounded.trans most, fun graph selected => (walk graph selected).1,
    fun graph selected => (walk graph selected).2⟩
  intro empty
  exact some_ (map_eq_nil_iff.mp empty)

/-! ## The speaker of a turn -/

/-- The only speaker that may follow a speaker. -/
def SpeakerGraph.successor (graph : SpeakerGraph) (speaker : String) : Option String :=
  match graph.choices speaker with
  | [next] => some next
  | _ => none

/-- Where the walk of unique successors has come after a number of turns. -/
def SpeakerGraph.walk (graph : SpeakerGraph) : ℕ → Option String
  | 0 => some graph.initialSpeaker
  | turns + 1 => (graph.walk turns).bind graph.successor

/-- The speaker of a turn, where the policy derives it. -/
def TurnProtocolDefinition.turnSpeaker (definition : TurnProtocolDefinition) (turn : ℕ) :
    Option String :=
  match definition.policy with
  | .roundRobin => definition.agentIds[turn % definition.agentIds.length]?
  | .graphSelected graph => graph.walk turn
  | .modelSelected | .freeForm => none

section Speakers

variable {definition : TurnProtocolDefinition}

variable {turn : ℕ} {speaker : String}

section

variable (accepted : definition.Accepted)

include accepted

namespace TurnProtocolDefinition.Accepted

/-- The walk stays among the participants. -/
theorem walk_mem
    (selected : definition.policy = .graphSelected graph)
    (walked : graph.walk turn = some speaker) : definition.containsParticipant speaker := by
  cases turn with
  | zero =>
    have same : graph.initialSpeaker = speaker := by simpa [walk] using walked
    exact same ▸ accepted.initial graph selected
  | succ turn =>
    obtain ⟨before, -, stepped⟩ := Option.bind_eq_some_iff.mp walked
    unfold successor at stepped
    split at stepped
    case h_1 next choices =>
      have same : next = speaker := by simpa using stepped
      exact accepted.targets graph selected before speaker (by simp [choices, same])
    case h_2 => cases stepped

/-- The derived speaker of a turn is a participant. -/
theorem speaker_mem
    (derived : definition.turnSpeaker turn = some speaker) :
    definition.containsParticipant speaker := by
  unfold turnSpeaker at derived
  split at derived
  case h_1 => exact mem_of_getElem? derived
  case h_2 graph selected => exact accepted.walk_mem selected derived
  case h_3 | h_4 => cases derived

/-- Under round robin every turn has a speaker. -/
theorem speaker_roundRobin
    (policy : definition.policy = .roundRobin) (turn : ℕ) :
    ∃ speaker, definition.turnSpeaker turn = some speaker := by
  have below : turn % definition.agentIds.length < definition.agentIds.length :=
    Nat.mod_lt _ (length_pos_of_ne_nil accepted.nonempty)
  rw [turnSpeaker, policy]
  exact ⟨_, getElem?_eq_getElem below⟩

/-- A turn before one with a speaker has a speaker. -/
theorem speaker_before
    (later : (definition.turnSpeaker (turn + 1)).isSome = true) :
    ∃ speaker, definition.turnSpeaker turn = some speaker := by
  cases policy : definition.policy with
  | roundRobin => exact accepted.speaker_roundRobin policy turn
  | graphSelected graph =>
    obtain ⟨next, found⟩ := Option.isSome_iff_exists.mp later
    unfold turnSpeaker at found ⊢
    rw [policy] at found ⊢
    obtain ⟨speaker, walked, -⟩ := Option.bind_eq_some_iff.mp found
    exact ⟨speaker, walked⟩
  | modelSelected | freeForm =>
    rw [turnSpeaker, policy] at later
    cases later

end TurnProtocolDefinition.Accepted

end

/-- The successor derived after a turn is the speaker of the next turn. -/
theorem TurnProtocolDefinition.Accepted.nextSpeaker_ok {state : TurnProtocolState}
    (accepted : state.definition.Accepted)
    (derived : state.definition.turnSpeaker turn = some speaker) {next : Option String} :
    state.nextSpeaker speaker = .ok next ↔
      ∃ successor, state.definition.turnSpeaker (turn + 1) = some successor ∧
        next = some successor := by
  unfold turnSpeaker at derived ⊢
  unfold TurnProtocolState.nextSpeaker
  cases policy : state.definition.policy with
  | roundRobin =>
    rw [policy] at derived
    have positive := length_pos_of_ne_nil accepted.nonempty
    have below := Nat.mod_lt turn positive
    have found : state.definition.participantIndex speaker =
        some (turn % state.definition.agentIds.length) := by
      rw [getElem?_eq_getElem below, Option.some.injEq] at derived
      rw [participantIndex, findIdx?_eq_some_iff_getElem]
      refine ⟨below, by simp [derived], ?_⟩
      intro earlier less same
      have equal := (accepted.distinct.getElem_inj_iff).mp ((beq_iff_eq.mp same).trans derived.symm)
      omega
    have index : (turn % state.definition.agentIds.length + 1) % state.definition.agentIds.length =
        (turn + 1) % state.definition.agentIds.length := Nat.mod_add_mod turn _ 1
    have present := getElem?_eq_getElem
      (Nat.mod_lt (turn + 1) positive)
    simp only [found, ok_iff, Option.some.injEq, exists_eq_left', index, present]
    exact eq_comm
  | graphSelected graph =>
    rw [policy] at derived
    dsimp only at derived ⊢
    rw [walk, derived, Option.bind_some, successor, TurnProtocolState.graphSuccessor]
    cases choices : graph.choices speaker with
    | nil => simp
    | cons first rest =>
      cases rest with
      | nil =>
        have known := accepted.targets graph policy speaker first (by simp [choices])
        simp only [ok_iff, not_not, Option.some.injEq]
        constructor
        · rintro ⟨-, same⟩
          exact ⟨first, rfl, same.symm⟩
        · rintro ⟨_, same, final⟩
          exact ⟨known, by rw [final, same]⟩
      | cons second rest => simp
  | modelSelected | freeForm =>
    rw [policy] at derived
    cases derived

end Speakers

/-! ## The walk of a speaker graph -/

/-- The speaker before a turn. -/
def SpeakerGraph.before (graph : SpeakerGraph) : ℕ → Option String
  | 0 => none
  | turns + 1 => graph.walk turns

variable {completedTurns : ℕ} {status : TurnProtocolStatus}

theorem TurnProtocolStatus.inactive_of_completed (completed : status.isCompleted = true) :
    status.isActive = false := by
  cases status with
  | active => cases completed
  | terminated | completed => rfl

theorem TurnProtocolStatus.running_of_active (active : status.isActive = true) :
    status.isCompleted = false := by
  cases status with
  | active | terminated => rfl
  | completed => cases active

/-- One step of the derived walk that needs a successor. -/
theorem walkStep_ok {step : ℕ} {speakers next : String × Option String}
    (needed : step + 1 < completedTurns ∨ status.isCompleted = false) :
    walkStep graph completedTurns status speakers step = .ok next ↔
      graph.successor speakers.1 = some next.1 ∧ next.2 = some speakers.1 := by
  rw [walkStep, if_pos needed, successor]
  cases graph.choices speakers.1 with
  | nil => simp
  | cons first rest =>
    cases rest with
    | nil =>
      simp only [Except.ok.injEq, Option.some.injEq, Prod.ext_iff]
      exact ⟨fun ⟨current, last⟩ => ⟨current, last.symm⟩,
        fun ⟨current, last⟩ => ⟨current, last.symm⟩⟩
    | cons second rest => simp

/-- The steps that need a successor follow the walk. -/
theorem walkSteps_ok {steps : ℕ} {speakers : String × Option String}
    (needed : ∀ step < steps, step + 1 < completedTurns ∨ status.isCompleted = false) :
    (List.range steps).foldlM (walkStep graph completedTurns status) (graph.initialSpeaker, none) =
        .ok speakers ↔
      graph.walk steps = some speakers.1 ∧ speakers.2 = graph.before steps := by
  induction steps generalizing speakers with
  | zero =>
    simp only [range_zero, foldlM_nil, pure_ok, walk, before, Option.some.injEq, Prod.ext_iff]
    exact ⟨fun ⟨current, last⟩ => ⟨current, last.symm⟩, fun ⟨current, last⟩ => ⟨current, last.symm⟩⟩
  | succ steps ih =>
    have earlier : ∀ step < steps, step + 1 < completedTurns ∨ status.isCompleted = false :=
      fun step less => needed step (by omega)
    simp only [range_succ, foldlM_append, foldlM_cons, foldlM_nil, ok_iff,
      exists_eq_right, walkStep_ok (needed steps (by omega)), ih earlier, walk, before]
    constructor
    · rintro ⟨middle, ⟨walked, -⟩, stepped, last⟩
      exact ⟨by rw [walked, Option.bind_some, stepped], by rw [walked, last]⟩
    · rintro ⟨walked, last⟩
      obtain ⟨middle, found, stepped⟩ := Option.bind_eq_some_iff.mp walked
      exact ⟨(middle, graph.before steps), ⟨found, rfl⟩, stepped, by rw [last, found]⟩

/-- The derived speakers are where the walk has come and the speaker before; a completed protocol
needs no successor of its last speaker. -/
theorem deriveGraphSpeakers_ok :
    deriveGraphSpeakers graph completedTurns status = .ok (last, current) ↔
      last = graph.before completedTurns ∧
        (status.isCompleted = false → ∃ speaker, graph.walk completedTurns = some speaker ∧
          current = if status.isActive then some speaker else none) ∧
        (status.isCompleted = true → current = none ∧
          (completedTurns ≠ 0 → ∃ speaker, last = some speaker)) := by
  simp only [deriveGraphSpeakers, ok_iff, Prod.exists, Prod.mk.injEq]
  cases completed : status.isCompleted with
  | false =>
    have needed : ∀ step < completedTurns, step + 1 < completedTurns ∨ status.isCompleted = false :=
      fun _ _ => .inr completed
    simp only [walkSteps_ok needed, true_implies, reduceCtorEq, false_implies, and_true]
    constructor
    · rintro ⟨speaker, _, ⟨walked, rfl⟩, rfl, rfl⟩
      exact ⟨rfl, speaker, walked, rfl⟩
    · rintro ⟨rfl, speaker, walked, rfl⟩
      exact ⟨speaker, _, ⟨walked, rfl⟩, rfl, rfl⟩
  | true =>
    have inactive := TurnProtocolStatus.inactive_of_completed completed
    cases completedTurns with
    | zero =>
      simp only [range_zero, foldlM_nil, pure_ok, Prod.mk.injEq, inactive,
        Bool.false_eq_true, if_false, before, reduceCtorEq, false_implies, true_implies,
        ne_eq, not_true_eq_false, and_true, true_and]
      constructor
      · rintro ⟨_, _, ⟨-, rfl⟩, rfl, rfl⟩
        exact ⟨rfl, rfl⟩
      · rintro ⟨rfl, rfl⟩
        exact ⟨_, _, ⟨rfl, rfl⟩, rfl, rfl⟩
    | succ turns =>
      have needed : ∀ step < turns, step + 1 < turns + 1 ∨ status.isCompleted = false :=
        fun step less => .inl (by omega)
      have final : ∀ speakers : String × Option String,
          walkStep graph (turns + 1) status speakers turns = .ok (speakers.1, some speakers.1) := by
        intro speakers
        rw [walkStep, if_neg (by simp [completed])]
      simp only [range_succ, foldlM_append, foldlM_cons, foldlM_nil, ok_iff,
        exists_eq_right, walkSteps_ok needed, final, Except.ok.injEq, Prod.exists, Prod.mk.injEq,
        inactive, Bool.false_eq_true, if_false, before, reduceCtorEq, false_implies, true_and,
        true_implies, ne_eq, not_false_eq_true, Nat.add_eq_zero_iff, one_ne_zero, and_false]
      constructor
      · rintro ⟨speaker, _, ⟨_, _, ⟨walked, -⟩, rfl, rfl⟩, rfl, rfl⟩
        exact ⟨walked.symm, rfl, _, rfl⟩
      · rintro ⟨rfl, rfl, speaker, walked⟩
        exact ⟨speaker, some speaker, ⟨speaker, graph.before turns, ⟨walked, rfl⟩, rfl, rfl⟩,
          walked.symm, rfl⟩

end Maco.Turn
