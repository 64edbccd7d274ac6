import Maco.Turn.Reachable

/-!
# Handles on a stored turn protocol

Any number of handles share one state file. Each call takes the lock, reads the file, checks what it
expects of it and replaces it as a whole; a handle whose write failed is poisoned, and the file may
or may not have been replaced. The mutations that replaced the file form one run of the protocol, so
each generation is used up once, and the turns go round in the order their numbers give.
-/

namespace Maco.Turn

open Maco.Base TurnProtocolState List

/-- How the replacement of the state file ends. -/
inductive WriteOutcome where
  | replaced
  | failed
  | uncertain
deriving DecidableEq, Repr

/-- What the file system does during a call. -/
structure TurnIo where
  readable : Bool
  write : WriteOutcome
deriving DecidableEq, Repr

/-- `TurnProtocolStore`: one handle. -/
structure TurnProtocolStore where
  expectedDefinition : TurnProtocolDefinition
  state : TurnProtocolState
  poisoned : Bool
deriving DecidableEq

/-- `TurnSelectionOutcome`, `TurnCompletionOutcome` and `TurnTerminationOutcome`. -/
inductive TurnOutcome where
  | selected (selectedSpeaker : String) (completedTurns generation : ℕ)
  | completed (receipt : Option TurnCompletionReceipt) (status : TurnProtocolStatus)
      (nextSpeaker : Option String)
  | terminated (status : TurnProtocolStatus) (completedTurns generation : ℕ)
deriving DecidableEq, Repr

/-- What a successful mutation answers, from the state it leaves. -/
def TurnMutation.outcome (mutation : TurnMutation) (state : TurnProtocolState) : TurnOutcome :=
  match mutation with
  | .selectSpeaker participantId =>
    .selected participantId state.completedTurns state.generation
  | .completeTurn _ => .completed state.lastCompletion state.status state.currentSpeaker
  | .terminate _ => .terminated state.status state.completedTurns state.generation

variable {definition : TurnProtocolDefinition}

section Store

variable (documentBytes : TurnProtocolState → ℕ)

/-- The check of the size of the stored document. -/
def checkBytes (state : TurnProtocolState) : Except TurnProtocolError Unit :=
  refuseIf (state.definition.limits.maxStateBytes < documentBytes state)
    (.stateByteLimitExceeded (documentBytes state) state.definition.limits.maxStateBytes)

/-- `read_state`. -/
def readState (io : TurnIo) (file : TurnProtocolState) :
    Except TurnProtocolError TurnProtocolState := do
  refuseIf (io.readable = false) .persistence
  file.validate
  checkBytes documentBytes file
  pure file

/-- The checks of `write_state` before the file is replaced. -/
def writeChecks (state : TurnProtocolState) : Except TurnProtocolError Unit := do
  state.validate
  checkBytes documentBytes state

/-- What a call leaves: the handle, the file, and the answer. -/
structure TurnEffect where
  store : TurnProtocolStore
  file : TurnProtocolState
  answer : Except TurnProtocolError TurnOutcome

namespace TurnProtocolStore

variable (store : TurnProtocolStore)

/-- `reload_locked`. -/
def reloadLocked (io : TurnIo) (file : TurnProtocolState) :
    Except TurnProtocolError TurnProtocolStore := do
  let state ← readState documentBytes io file
  refuseIf (state.definition ≠ store.expectedDefinition) .definitionMismatch
  pure { store with state }

/-- `persist_locked`, with the answer of the mutation. -/
def persistLocked (io : TurnIo) (file candidate : TurnProtocolState) (mutation : TurnMutation) :
    TurnEffect :=
  match writeChecks documentBytes candidate with
  | .error error => ⟨{ store with poisoned := true }, file, .error error⟩
  | .ok _ =>
    match io.write with
    | .replaced => ⟨{ store with state := candidate }, candidate, .ok (mutation.outcome candidate)⟩
    | .failed => ⟨{ store with poisoned := true }, file, .error .persistence⟩
    -- the new file may already be in place when the failure is reported
    | .uncertain => ⟨{ store with poisoned := true }, candidate, .error .persistence⟩

/-- `select_speaker`, `complete_turn` and `terminate`. -/
def mutate (io : TurnIo) (file : TurnProtocolState) (mutation : TurnMutation)
    (expected : TurnExpectation) : TurnEffect :=
  if store.poisoned then ⟨store, file, .error .poisoned⟩
  else match store.reloadLocked documentBytes io file with
    | .error error => ⟨store, file, .error error⟩
    | .ok reloaded =>
      match reloaded.state.candidate mutation expected with
      | .error error => ⟨reloaded, file, .error error⟩
      | .ok candidate => reloaded.persistLocked documentBytes io file candidate mutation

/-- `TurnProtocolStore::open`. -/
def openStore (expectedDefinition : TurnProtocolDefinition) (io : TurnIo)
    (file : TurnProtocolState) : Except TurnProtocolError TurnProtocolStore := do
  let state ← readState documentBytes io file
  expectedDefinition.validate.mapError .invalidDefinition
  refuseIf (state.definition ≠ expectedDefinition) .definitionMismatch
  pure ⟨expectedDefinition, state, false⟩

end TurnProtocolStore

/-- A mutation that was called: what it expected, whether the file was replaced, and the answer. -/
structure TurnRecord where
  mutation : TurnMutation
  expected : TurnExpectation
  replaced : Bool
  answer : Except TurnProtocolError TurnOutcome

/-- The mutation was reported as done. -/
def TurnRecord.succeeded (record : TurnRecord) : Bool := record.answer.isOk

/-- The state file, the open handles, and the mutations called so far. -/
structure TurnWorld where
  file : TurnProtocolState
  handles : List TurnProtocolStore
  records : List TurnRecord

/-- A call of one party. -/
inductive TurnCall where
  | reopen (definition : TurnProtocolDefinition) (io : TurnIo)
  | mutate (handle : ℕ) (mutation : TurnMutation) (expected : TurnExpectation) (io : TurnIo)

namespace TurnWorld

/-- The world of a protocol that was just created, with the handle that created it. -/
def created (definition : TurnProtocolDefinition) : TurnWorld :=
  ⟨.initial definition, [⟨definition, .initial definition, false⟩], []⟩

/-- One call under the lock. -/
def call (world : TurnWorld) : TurnCall → TurnWorld
  | .reopen definition io =>
    match TurnProtocolStore.openStore documentBytes definition io world.file with
    | .ok store => { world with handles := world.handles ++ [store] }
    | .error _ => world
  | .mutate handle mutation expected io =>
    match world.handles[handle]? with
    | none => world
    | some store =>
      let effect := store.mutate documentBytes io world.file mutation expected
      ⟨effect.file, world.handles.set handle effect.store,
        world.records ++ [⟨mutation, expected, decide (effect.file ≠ world.file), effect.answer⟩]⟩

/-- Calls of any number of handles, in the order in which they got the lock. -/
def run (definition : TurnProtocolDefinition) (calls : List TurnCall) : TurnWorld :=
  calls.foldl (call documentBytes) (created definition)

end TurnWorld

/-! ## What one call can do -/

/-- The mutations that replaced the file, in order. -/
def commits (records : List TurnRecord) : List (TurnMutation × TurnExpectation) :=
  (records.filter TurnRecord.replaced).map fun record => (record.mutation, record.expected)

/-- A mutation leaves the file alone and answers an error, or replaces it by its candidate. -/
theorem TurnProtocolStore.mutate_effect (store : TurnProtocolStore) (io : TurnIo)
    (file : TurnProtocolState) (mutation : TurnMutation) (expected : TurnExpectation) :
    ((store.mutate documentBytes io file mutation expected).file = file ∧
        (store.mutate documentBytes io file mutation expected).answer.isOk = false) ∨
      file.candidate mutation expected =
        .ok (store.mutate documentBytes io file mutation expected).file := by
  unfold mutate
  split
  case isTrue => exact .inl ⟨rfl, rfl⟩
  case isFalse =>
    split
    case h_1 => exact .inl ⟨rfl, rfl⟩
    case h_2 reloaded read =>
      simp only [reloadLocked, readState, ok_iff] at read
      obtain ⟨_, ⟨-, _, -, _, -, rfl⟩, -, rfl⟩ := read
      split
      case h_1 => exact .inl ⟨rfl, rfl⟩
      case h_2 candidate taken =>
        unfold persistLocked
        split
        case h_1 => exact .inl ⟨rfl, rfl⟩
        case h_2 =>
          split
          case h_1 | h_3 => exact .inr taken
          case h_2 => exact .inl ⟨rfl, rfl⟩

namespace TurnWorld

/-- A call adds no record, adds one that changed nothing and was refused, or adds one that replaced
the file by the candidate of its mutation. -/
inductive Steps (world : TurnWorld) : TurnWorld → Prop where
  | quiet (handles : List TurnProtocolStore) : Steps world { world with handles }
  | refused (handles : List TurnProtocolStore) (record : TurnRecord)
      (kept : record.replaced = false) (error : record.succeeded = false) :
      Steps world ⟨world.file, handles, world.records ++ [record]⟩
  | committed (file : TurnProtocolState) (handles : List TurnProtocolStore) (record : TurnRecord)
      (replaced : record.replaced = true)
      (taken : world.file.candidate record.mutation record.expected = .ok file) :
      Steps world ⟨file, handles, world.records ++ [record]⟩

/-- Every call is one of these steps. -/
theorem call_steps (world : TurnWorld) (made : TurnCall) :
    world.Steps (world.call documentBytes made) := by
  unfold call
  split
  case h_1 definition io =>
    split
    case h_1 store _ => exact .quiet (world.handles ++ [store])
    case h_2 => exact .quiet world.handles
  case h_2 handle mutation expected io =>
    split
    case h_1 => exact .quiet world.handles
    case h_2 store _ =>
      dsimp only
      have effect : ((store.mutate documentBytes io world.file mutation expected).file = _ ∧ _) ∨ _ :=
        store.mutate_effect documentBytes io world.file mutation expected
      obtain ⟨kept, error⟩ | taken := effect
      · rw [kept]
        exact .refused _ _ (by simp) error
      · have changed : (store.mutate documentBytes io world.file mutation expected).file ≠
            world.file := by
          intro same
          obtain ⟨-, -, -, -, later⟩ := candidate_ok taken
          rw [same] at later
          omega
        exact .committed _ _ _ (by simp [changed]) taken

theorem run_append (calls : List TurnCall) (made : TurnCall) :
    run documentBytes definition (calls ++ [made]) =
      (run documentBytes definition calls).call documentBytes made := by
  simp [run]

/-- The mutations that replaced the file form one run of the protocol, and those that were reported
as done are among them. -/
theorem run_refines (definition : TurnProtocolDefinition) (calls : List TurnCall) :
    turnRun definition (commits (run documentBytes definition calls).records) =
        .ok (run documentBytes definition calls).file ∧
      ∀ record ∈ (run documentBytes definition calls).records,
        record.succeeded = true → record.replaced = true := by
  induction calls using List.reverseRecOn with
  | nil => exact ⟨rfl, by simp [run, created]⟩
  | append_singleton calls made ih =>
    rw [run_append]
    obtain ⟨ran, answered⟩ := ih
    have steps := call_steps documentBytes (run documentBytes definition calls) made
    generalize (run documentBytes definition calls).call documentBytes made = after at steps ⊢
    cases steps with
    | quiet => exact ⟨ran, answered⟩
    | refused handles record kept error =>
      refine ⟨?_, ?_⟩
      · simpa [commits, filter_append, kept] using ran
      · intro other member done
        obtain earlier | same := mem_append.mp member
        · exact answered other earlier done
        · rw [mem_singleton.mp same, error] at done
          cases done
    | committed file handles record replaced taken =>
      refine ⟨?_, ?_⟩
      · have extended : commits ((run documentBytes definition calls).records ++ [record]) =
            commits (run documentBytes definition calls).records ++
              [(record.mutation, record.expected)] := by
          simp [commits, filter_append, replaced]
        rw [extended]
        exact turnRun_append.mpr ⟨_, ran, taken⟩
      · intro other member done
        obtain earlier | same := mem_append.mp member
        · exact answered other earlier done
        · rw [mem_singleton.mp same]
          exact replaced

end TurnWorld

end Store

/-! ## The laws of a run -/

/-- The speaker whose turn a mutation completes. -/
def TurnMutation.completes? : TurnMutation → Option String
  | .completeTurn speakerId => some speakerId
  | .selectSpeaker _ | .terminate _ => none

/-- The speakers of the turns completed, in order. -/
def completions (steps : List (TurnMutation × TurnExpectation)) : List String :=
  steps.filterMap fun step => step.1.completes?

namespace TurnProtocolState

/-- A completion counts one turn, by the speaker it was due; other mutations count none. -/
theorem candidate_counts {state next : TurnProtocolState} {mutation : TurnMutation}
    {expected : TurnExpectation} (taken : state.candidate mutation expected = .ok next) :
    next.completedTurns = state.completedTurns + mutation.completes?.toList.length ∧
      ∀ speaker ∈ mutation.completes?, state.selectedSpeaker = some speaker := by
  cases mutation with
  | selectSpeaker participantId =>
    obtain ⟨-, -, -, -, -, -, -, rfl, -⟩ := selectSpeaker_ok.mp taken
    exact ⟨rfl, fun _ none_ => by cases none_⟩
  | completeTurn speakerId =>
    obtain ⟨-, -, -, -, selected, -, -, succeeded, -⟩ := completeTurn_ok.mp taken
    refine ⟨?_, ?_⟩
    · unfold succeed at succeeded
      split at succeeded
      · rw [pure_ok] at succeeded
        exact succeeded ▸ rfl
      · simp only [ok_iff] at succeeded
        obtain ⟨_, -, rfl⟩ := succeeded
        rfl
    · rintro speaker ⟨⟩
      exact selected
  | terminate reason =>
    obtain ⟨-, -, -, -, rfl, -⟩ := terminate_ok.mp taken
    exact ⟨rfl, fun _ none_ => by cases none_⟩

/-- What holds of the steps of a run and the state they lead to. -/
structure RunLaws (definition : TurnProtocolDefinition)
    (steps : List (TurnMutation × TurnExpectation)) (state : TurnProtocolState) : Prop where
  generations : steps.map (fun step => step.2.generation) = List.range state.generation
  counted : (completions steps).length = state.completedTurns
  placed : ∀ step ∈ steps, ∀ speaker ∈ step.1.completes?,
    (completions steps)[step.2.completedTurns]? = some speaker
  derived : definition.policy.kind.isSelective = false → ∀ turn speaker,
    (completions steps)[turn]? = some speaker → definition.turnSpeaker turn = some speaker

/-- Every run obeys the laws. -/
theorem turnRun_laws
    (accepted : definition.validate = .ok ()) {steps : List (TurnMutation × TurnExpectation)}
    {state : TurnProtocolState} (ran : turnRun definition steps = .ok state) :
    RunLaws definition steps state := by
  induction steps using List.reverseRecOn generalizing state with
  | nil =>
    have same : initial definition = state := Except.ok.inj ran
    subst same
    exact ⟨rfl, rfl, by simp, by simp [completions]⟩
  | append_singleton steps step ih =>
    obtain ⟨before, earlier, taken⟩ := turnRun_append.mp ran
    have laws := ih earlier
    obtain ⟨valid, same⟩ := turnRun_valid accepted earlier
    obtain ⟨active, met, -, -, next⟩ := candidate_ok taken
    obtain ⟨turns, due⟩ := candidate_counts taken
    have split : completions (steps ++ [step]) = completions steps ++ step.1.completes?.toList := by
      cases completed : step.1.completes? <;> simp [completions, completed]
    have running := TurnProtocolStatus.running_of_active active
    refine ⟨?_, ?_, ?_, ?_⟩
    · rw [map_append, laws.generations, next, range_succ, map_singleton, met]
      rfl
    · rw [split, length_append, laws.counted, turns]
    · intro made member speaker completes
      rw [split]
      obtain old | new := mem_append.mp member
      · have found := laws.placed made old speaker completes
        have inside : made.2.completedTurns < (completions steps).length :=
          (List.getElem?_eq_some_iff.mp found).1
        rw [getElem?_append_left inside, found]
      · rw [mem_singleton.mp new] at completes ⊢
        have place : step.2.completedTurns = (completions steps).length := by
          rw [met, laws.counted]
          rfl
        rw [place, completes, getElem?_append_right (le_refl _), Nat.sub_self]
        rfl
    · intro derives turn speaker found
      rw [split] at found
      by_cases old : turn < (completions steps).length
      · rw [getElem?_append_left old] at found
        exact laws.derived derives turn speaker found
      · rw [getElem?_append_right (Nat.le_of_not_lt old)] at found
        have completes : step.1.completes? = some speaker ∧ turn = (completions steps).length := by
          cases completed : step.1.completes? with
          | none => simp [completed] at found
          | some other =>
            rw [completed, Option.toList_some, getElem?_singleton] at found
            split at found
            case isTrue place => exact ⟨found, by omega⟩
            case isFalse => cases found
        obtain ⟨completes, place⟩ := completes
        have selected := due speaker completes
        rw [← same] at derives ⊢
        obtain ⟨id, present, held⟩ := (valid.derived derives).current running
        have current := held active
        rw [← valid.selected, selected] at current
        rw [place, laws.counted, present, current]

end TurnProtocolState

/-! ## Compare and swap -/

/-- The calls that follow a world whose protocol has ended change nothing. -/
theorem TurnWorld.ended_records {documentBytes : TurnProtocolState → ℕ}
    (ended : (run documentBytes definition calls).file.status.isActive = false)
    (later : List TurnCall) :
    (run documentBytes definition (calls ++ later)).file.status.isActive = false ∧
      ∃ refused, (run documentBytes definition (calls ++ later)).records =
        (run documentBytes definition calls).records ++ refused ∧
          ∀ record ∈ refused, record.replaced = false ∧ record.succeeded = false := by
  induction later using List.reverseRecOn with
  | nil => exact ⟨by simpa using ended, [], by simp, by simp⟩
  | append_singleton later made ih =>
    obtain ⟨still, refused, split, quiet⟩ := ih
    rw [← append_assoc, run_append]
    have steps := call_steps documentBytes (run documentBytes definition (calls ++ later)) made
    generalize (run documentBytes definition (calls ++ later)).call documentBytes made = after
      at steps ⊢
    cases steps with
    | quiet => exact ⟨still, refused, split, quiet⟩
    | refused handles record kept error =>
      refine ⟨still, refused ++ [record], by simp [split], ?_⟩
      exact forall_mem_concat quiet ⟨kept, error⟩
    | committed file handles record replaced taken =>
      obtain ⟨active, -⟩ := candidate_ok taken
      rw [still] at active
      cases active

/-- In every lock-serialized interleaving of selections, completions, terminations and reopenings by
any number of handles: a mutation reported as done replaced the file; the generations of those that
did are `0, 1, 2, …`, so each is used up once; at most the maximum number of turns completes; the
turn of a number is completed by the participant of that number under round robin and by the walk of
unique successors under a speaker graph; and once the protocol has ended nothing replaces the file.
-/
theorem turns_compare_and_swap (documentBytes : TurnProtocolState → ℕ)
    (definition : TurnProtocolDefinition) (accepted : definition.validate = .ok ())
    (calls : List TurnCall) :
    let world := TurnWorld.run documentBytes definition calls
    (∀ record ∈ world.records, record.succeeded = true → record.replaced = true) ∧
      (commits world.records).map (fun step => step.2.generation) =
        List.range (commits world.records).length ∧
      ((world.records.filter TurnRecord.succeeded).map fun record =>
        record.expected.generation).Nodup ∧
      (completions (commits world.records)).length ≤ definition.maxTurns ∧
      (∀ record ∈ world.records, record.replaced = true → ∀ speaker,
        record.mutation = .completeTurn speaker →
          (completions (commits world.records))[record.expected.completedTurns]? = some speaker) ∧
      (∀ turn speaker, (completions (commits world.records))[turn]? = some speaker →
        (definition.policy = .roundRobin →
          definition.agentIds[turn % definition.agentIds.length]? = some speaker) ∧
        ∀ graph, definition.policy = .graphSelected graph → graph.walk turn = some speaker) ∧
      (world.file.status.isActive = false → ∀ later : List TurnCall,
        ∀ record ∈ (TurnWorld.run documentBytes definition (calls ++ later)).records.drop
          world.records.length, record.replaced = false ∧ record.succeeded = false) := by
  intro world
  obtain ⟨ran, answered⟩ := TurnWorld.run_refines documentBytes definition calls
  have laws := turnRun_laws accepted ran
  obtain ⟨valid, same⟩ := turnRun_valid accepted ran
  have generations := laws.generations
  have length : world.file.generation = (commits world.records).length := by
    have counts := congrArg List.length generations
    simpa using counts.symm
  refine ⟨answered, ?_, ?_, ?_, ?_, ?_, ?_⟩
  · rw [← length]
    exact generations
  · -- the mutations reported as done are some of those that replaced the file
    have among : (world.records.filter TurnRecord.replaced).filter TurnRecord.succeeded =
        world.records.filter TurnRecord.succeeded := by
      rw [filter_filter]
      refine filter_congr ?_
      intro record member
      cases done : record.succeeded with
      | false => rfl
      | true => simp [answered record member done]
    have all : ((world.records.filter TurnRecord.replaced).map fun record =>
        record.expected.generation) = List.range world.file.generation := by
      rw [← generations, commits, map_map]
      rfl
    have part := (filter_sublist (p := TurnRecord.succeeded)
      (l := world.records.filter TurnRecord.replaced)).map fun record => record.expected.generation
    rw [among, all] at part
    exact nodup_range.sublist part
  · rw [laws.counted]
    have most := valid.turns_le
    rw [same] at most
    exact most
  · intro record member replaced speaker completes
    refine laws.placed (record.mutation, record.expected) ?_ speaker (by rw [completes]; rfl)
    exact mem_map.mpr ⟨record, mem_filter.mpr ⟨member, replaced⟩, rfl⟩
  · intro turn speaker found
    refine ⟨?_, ?_⟩
    · intro policy
      have derived := laws.derived (by rw [policy]; rfl) turn speaker found
      rw [TurnProtocolDefinition.turnSpeaker, policy] at derived
      exact derived
    · intro graph policy
      have derived := laws.derived (by rw [policy]; rfl) turn speaker found
      rw [TurnProtocolDefinition.turnSpeaker, policy] at derived
      exact derived
  · intro ended later record member
    obtain ⟨-, refused, split, quiet⟩ := TurnWorld.ended_records ended later
    rw [split, drop_left] at member
    exact quiet record member

/-- Two handles race for the first turn; the write of the second turn is uncertain, and the handle
is opened again. -/
def sampleCalls : List TurnCall :=
  let clean : TurnIo := ⟨true, .replaced⟩
  [.reopen sampleDefinition clean, .mutate 0 (.completeTurn "auditor") ⟨0, 0⟩ clean,
    .mutate 1 (.completeTurn "auditor") ⟨0, 0⟩ clean,
    .mutate 1 (.completeTurn "lead") ⟨1, 1⟩ ⟨true, .uncertain⟩,
    .reopen sampleDefinition clean,
    .mutate 2 (.terminate "done") ⟨2, 2⟩ clean]

theorem turns_compare_and_swap_sample :
    let world := TurnWorld.run (fun _ => 0) sampleDefinition sampleCalls
    completions (commits world.records) = ["auditor", "lead"] ∧
      world.records.map TurnRecord.succeeded = [true, false, false, true] ∧
        ((world.records.filter TurnRecord.succeeded).map fun record =>
          record.expected.generation).Nodup := by
  have definition :
      sampleDefinition.validate.toOption.map id = some () := by decide +kernel
  obtain ⟨_, accepted, -⟩ := ok_of_toOption definition
  have laws := turns_compare_and_swap (fun _ => 0) sampleDefinition accepted
    sampleCalls
  exact ⟨by decide +kernel, by decide +kernel, laws.2.2.1⟩

end Maco.Turn
