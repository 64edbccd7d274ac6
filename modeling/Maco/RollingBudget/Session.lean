import Maco.RollingBudget.ReadBack
import Maco.RollingBudget.Usage

/-!
# Processes that die and reopen the ledger

A workspace is a journal directory and at most one process that holds it. The process makes calls;
it may die between calls or in the middle of one, after any part of the append took effect; and
opening the ledger again replays the journal and settles every reservation it finds pending.

Exactly-once accounting survives all of that. It does not survive a process that goes on after an
append was reported as failed although its record had been published: the event is in the journal
but not in memory, and settling the same reservation again appends a second terminal event. The
model keeps the ids of such lost terminal events beside the state, and whether one of them was
settled again.
-/

namespace Maco.RollingBudget

open Maco.Base WorkspaceBudgetLedger List

/-- A journal directory, with the process that holds it. -/
inductive System (codec : Codec) where
  | closed (published : List (JournalRecord codec.Value))
  | running (ledger : WorkspaceBudgetLedger codec)

/-- What can happen to a workspace. -/
inductive Action where
  /-- The process makes a call and goes on, whatever the call returns. -/
  | call (io : AppendIo) (request : Request)
  /-- The process dies during a call, after what the file system did up to then. -/
  | dieDuring (io : AppendIo) (request : Request)
  /-- The process dies between calls. -/
  | die
  /-- A process opens the ledger. -/
  | reopen (io : DurableBudgetReservation → AppendIo) (unixNow : Except String ℕ)

/-- A workspace, the reservations whose terminal event its process has lost, and whether one of
them was settled again. -/
structure World (codec : Codec) where
  system : System codec
  lost : List String
  retriedLost : Bool

variable {codec : Codec}

/-- The record files of a workspace. -/
def System.published : System codec → List (JournalRecord codec.Value)
  | .closed published => published
  | .running ledger => ledger.published

/-- `open_or_create`, with the file system and the clock that crash recovery meets. -/
def openOrCreate (published : List (JournalRecord codec.Value))
    (io : DurableBudgetReservation → AppendIo) (unixNow : Except String ℕ) : System codec :=
  match replayEvents codec published with
  | .error _ => .closed published
  | .ok events =>
    match WorkspaceBudgetLedger.recoverUnsettledReservations ⟨published, published, events⟩ io
        unixNow with
    | (.error _, ledger) => .closed ledger.published
    | (.ok (), ledger) => .running ledger

/-- The reservation a terminal event settles. -/
def terminalId : BudgetLedgerEvent → Option String
  | .reservationReconciled _ _ entry _ => some entry.reservationId
  | .reservation .. | .consume .. | .poolConsume .. | .rateLimited .. => none

section

variable (ledger : WorkspaceBudgetLedger codec)

/-- The reservation a call settles in the journal, if it publishes a terminal event. -/
def settledBy (request : Request) (next : WorkspaceBudgetLedger codec) : Option String :=
  if next.published.length = ledger.published.length then none
  else
    match ledger.prepare request with
    | .ok (some event) => terminalId event
    | _ => none

/-- The lost terminal events after a call: one more if the call failed but settled a reservation. -/
def lostAfter (lost : List String) (request : Request)
    (outcome : Except String RecordOutcome × WorkspaceBudgetLedger codec) : List String :=
  match outcome.1 with
  | .ok _ => lost
  | .error _ => (settledBy ledger request outcome.2).toList ++ lost

/-- A call settles a reservation again whose terminal event was lost. -/
def retries (lost : List String) (request : Request) (next : WorkspaceBudgetLedger codec) : Bool :=
  (settledBy ledger request next).any fun id => lost.contains id

end

/-- One action. A call needs a process, and opening needs that there is none. -/
def World.step (world : World codec) (action : Action) : World codec :=
  match world.system, action with
  | .running ledger, .call io request =>
    let outcome := ledger.call io request
    { system := .running outcome.2
      lost := lostAfter ledger world.lost request outcome
      retriedLost := world.retriedLost || retries ledger world.lost request outcome.2 }
  | .running ledger, .dieDuring io request =>
    let outcome := ledger.call io request
    { system := .closed outcome.2.published
      lost := []
      retriedLost := world.retriedLost || retries ledger world.lost request outcome.2 }
  | .running ledger, .die =>
    { world with system := .closed ledger.published, lost := [] }
  | .closed published, .reopen io unixNow =>
    { world with system := openOrCreate published io unixNow, lost := [] }
  | .running _, .reopen .. | .closed _, .call .. | .closed _, .dieDuring .. | .closed _, .die =>
    world

/-- A workspace without a journal. -/
def World.start (codec : Codec) : World codec := ⟨.closed [], [], false⟩

/-- A whole history of a workspace. -/
def World.run (codec : Codec) (actions : List Action) : World codec :=
  actions.foldl World.step (World.start codec)

/-- The events in a list of records. -/
def journalEvents (codec : Codec) (records : List (JournalRecord codec.Value)) :
    List BudgetLedgerEvent :=
  records.filterMap fun record => codec.fromValue record.payload

variable {events : List BudgetLedgerEvent}

/-- Written records hold the events they were written for. -/
theorem journalEvents_of_writes {records : List (JournalRecord codec.Value)}
    (written : List.Forall₂ Writes records events) : journalEvents codec records = events := by
  induction written with
  | nil => rfl
  | @cons record event records events first _ ih =>
    have read : codec.fromValue record.payload = some event := by
      rw [first.2.1, codec.fromValue_toValue event first.2.2]
    rw [journalEvents, filterMap_cons, read]
    exact congrArg (event :: ·) ih

/-- How often an id is settled in a list of events. -/
def settlements (id : String) (events : List BudgetLedgerEvent) : ℕ := events.countP (settles id)

theorem settlements_append (id : String) (events : List BudgetLedgerEvent)
    (event : BudgetLedgerEvent) :
    settlements id (events ++ [event]) = settlements id events + settlements id [event] :=
  countP_append

theorem settlements_eq_zero {id : String} :
    settlements id events = 0 ↔ ∀ event ∈ events, settles id event = false := by
  simp [settlements, countP_eq_zero]

/-- A single event settles an id exactly when it is a terminal event of it. -/
theorem settlements_singleton (id : String) (event : BudgetLedgerEvent) :
    settlements id [event] = (terminalId event).toList.count id := by
  cases event with
  | reservationReconciled version pricing entry recovered =>
    by_cases same : entry.reservationId = id
    · simp [settlements, settles, terminalId, same]
    · simp [settlements, settles, terminalId, same]
  | _ => rfl

variable {event : BudgetLedgerEvent}

/-- A terminal event that may follow a history settles an id the history does not settle. -/
theorem Admissible.settlements_eq_zero (admissible : Admissible events event) {id : String}
    (terminal : terminalId event = some id) : settlements id events = 0 := by
  cases event with
  | reservationReconciled version pricing entry recovered =>
    injection terminal with same
    exact Maco.RollingBudget.settlements_eq_zero.mpr (same ▸ admissible.2.2.2)
  | _ => cases terminal

/-- In a history every reservation is settled at most once. -/
theorem WellFormed.settlements_le (history : WellFormed events)
    (id : String) : settlements id events ≤ 1 := by
  induction history with
  | nil => exact Nat.zero_le _
  | @snoc events event before admissible ih =>
    rw [settlements_append, settlements_singleton]
    cases terminal : terminalId event with
    | none => exact ih
    | some settled =>
      by_cases same : settled = id
      · have unsettled := admissible.settlements_eq_zero (same ▸ terminal)
        simp [unsettled, same]
      · simpa [same] using ih

/-- The records of a directory are those the ledger writes for the events they hold. -/
def Readable (published : List (JournalRecord codec.Value)) : Prop :=
  List.Forall₂ Writes published (journalEvents codec published)

/-- One more written record is one more event. -/
theorem Readable.append {published : List (JournalRecord codec.Value)}
    (readable : Readable published) {record : JournalRecord codec.Value}
    (written : Writes record event) :
    journalEvents codec (published ++ [record]) = journalEvents codec published ++ [event] ∧
      Readable (published ++ [record]) := by
  have both : List.Forall₂ Writes (published ++ [record])
      (journalEvents codec published ++ [event]) :=
    rel_append readable (.cons written .nil)
  have same := journalEvents_of_writes both
  exact ⟨same, by rw [Readable, same]; exact both⟩

/-- What holds of a journal directory: whether it settles a reservation twice is known. -/
structure Kept (published : List (JournalRecord codec.Value)) (retriedLost : Bool) : Prop where
  readable : Readable published
  single : retriedLost = false → ∀ id, settlements id (journalEvents codec published) ≤ 1
  doubled : retriedLost = true → ∃ id, 2 ≤ settlements id (journalEvents codec published)

/-- What holds of a running process: its events form a history, and the journal settles what they
settle and what was lost. -/
structure Holds (ledger : WorkspaceBudgetLedger codec) (lost : List String) (retriedLost : Bool) :
    Prop where
  history : WellFormed ledger.events
  readable : Readable ledger.published
  counted : ∀ id, settlements id (journalEvents codec ledger.published) =
    settlements id ledger.events + lost.count id
  fresh : retriedLost = false → lost.Nodup ∧ ∀ id ∈ lost, settlements id ledger.events = 0
  doubled : retriedLost = true → ∃ id, 2 ≤ settlements id (journalEvents codec ledger.published)

variable {ledger : WorkspaceBudgetLedger codec} {lost : List String} {retriedLost : Bool}

section

variable (holds : Holds ledger lost retriedLost)

include holds

/-- When the process of a workspace dies, its journal is kept. -/
theorem Holds.kept : Kept ledger.published retriedLost := by
  refine ⟨holds.readable, fun clean id => ?_, holds.doubled⟩
  obtain ⟨distinct, open_⟩ := holds.fresh clean
  rw [holds.counted]
  by_cases isLost : id ∈ lost
  · have remembered := open_ id isLost
    have once := nodup_iff_count_le_one.mp distinct id
    omega
  · have remembered := holds.history.settlements_le id
    have never := count_eq_zero.mpr isLost
    omega

/-- Publishing one more prepared event keeps the count, whether or not the process remembers it. -/
theorem Holds.publish {next : WorkspaceBudgetLedger codec} (prepared : ledger.Prepared event)
    (published : next.published = ledger.published ++ [ledger.nextRecord event]) {again : Bool}
    (isAgain : again = (terminalId event).any fun id => lost.contains id) {lost' : List String}
    (remembered : (next.events = ledger.events ++ [event] ∧ lost' = lost) ∨
      (next.events = ledger.events ∧ lost' = (terminalId event).toList ++ lost)) :
    Holds next lost' (retriedLost || again) := by
  obtain ⟨journal, readable⟩ := holds.readable.append (nextRecord_writes prepared)
  rw [← published] at journal readable
  have counted : ∀ id, settlements id (journalEvents codec next.published) =
      settlements id next.events + lost'.count id := by
    intro id
    rw [journal, settlements_append, holds.counted, settlements_singleton]
    rcases remembered with ⟨events, sameLost⟩ | ⟨events, oneMore⟩
    · rw [events, sameLost, settlements_append, settlements_singleton]
      omega
    · rw [events, oneMore, count_append]
      omega
  have grows : ∀ id, settlements id (journalEvents codec ledger.published) ≤
      settlements id (journalEvents codec next.published) := by
    intro id
    rw [journal, settlements_append]
    exact Nat.le_add_right _ _
  refine ⟨?_, readable, counted, fun clean => ?_, fun dirty => ?_⟩
  · rcases remembered with ⟨events, -⟩ | ⟨events, -⟩
    · rw [events]
      exact holds.history.snoc prepared.admissible
    · rw [events]
      exact holds.history
  · rw [Bool.or_eq_false_iff] at clean
    obtain ⟨distinct, open_⟩ := holds.fresh clean.1
    have other : ∀ id, terminalId event = some id → id ∉ lost := by
      intro id terminal isLost
      have retried : again = true := by simp [isAgain, terminal, isLost]
      rw [clean.2] at retried
      cases retried
    rcases remembered with ⟨events, sameLost⟩ | ⟨events, oneMore⟩
    · rw [sameLost]
      refine ⟨distinct, fun id isLost => ?_⟩
      rw [events, settlements_append, open_ id isLost, settlements_singleton]
      cases terminal : terminalId event with
      | none => rfl
      | some settled =>
        have different : settled ≠ id := fun same => other settled terminal (same ▸ isLost)
        simp [different]
    · rw [oneMore, events]
      cases terminal : terminalId event with
      | none => exact ⟨distinct, open_⟩
      | some settled =>
        refine ⟨nodup_cons.mpr ⟨other settled terminal, distinct⟩, fun id isLost => ?_⟩
        rcases mem_cons.mp isLost with rfl | earlier
        · exact prepared.admissible.settlements_eq_zero terminal
        · exact open_ id earlier
  · rw [Bool.or_eq_true] at dirty
    rcases dirty with before | now
    · obtain ⟨id, twice⟩ := holds.doubled before
      exact ⟨id, twice.trans (grows id)⟩
    · rw [isAgain, Option.any_eq_true] at now
      obtain ⟨id, terminal, isLost⟩ := now
      refine ⟨id, ?_⟩
      have once : 0 < lost.count id := count_pos_iff.mpr (by simpa using isLost)
      have journaled := holds.counted id
      rw [journal, settlements_append, settlements_singleton, terminal]
      simp only [Option.toList_some, count_singleton_self]
      omega

/-- A call keeps what holds of the process. -/
theorem Holds.call (io : AppendIo) (request : Request) :
    Holds (ledger.call io request).2 (lostAfter ledger lost request (ledger.call io request))
      (retriedLost || retries ledger lost request (ledger.call io request).2) := by
  have executed := ledger.call_executed io request
  generalize ledger.call io request = outcome at executed
  obtain ⟨result, next⟩ := outcome
  have unchanged : settledBy ledger request ledger = none := by simp [settledBy]
  have grown {event : BudgetLedgerEvent} (chosen : ledger.prepare request = .ok (some event))
      (published : next.published = ledger.published ++ [ledger.nextRecord event]) :
      settledBy ledger request next = terminalId event := by
    simp [settledBy, published, chosen]
  cases executed with
  | refused refusal => simpa [lostAfter, retries, unchanged] using holds
  | alreadyRecorded nothing => simpa [lostAfter, retries, unchanged] using holds
  | unacknowledged refusal chosen checked =>
    refine holds.publish (prepare_prepared holds.history chosen) rfl ?_ (.inr ⟨rfl, ?_⟩)
    · rw [retries, grown chosen rfl]
    · rw [lostAfter, grown chosen rfl]
  | headFailed refusal chosen checked failed =>
    refine holds.publish (prepare_prepared holds.history chosen) rfl ?_ (.inr ⟨rfl, ?_⟩)
    · rw [retries, grown chosen rfl]
    · rw [lostAfter, grown chosen rfl]
  | completed chosen checked =>
    refine holds.publish (prepare_prepared holds.history chosen) rfl ?_ (.inl ⟨rfl, rfl⟩)
    rw [retries, grown chosen rfl]

end

/-- The reservations of a list are recorded. -/
def Recorded (pending : List DurableBudgetReservation) (events : List BudgetLedgerEvent) : Prop :=
  ∀ reservation ∈ pending, ∃ version pricing, .reservation version pricing reservation ∈ events

/-- The pending reservations of a history are recorded. -/
theorem WellFormed.recorded_pending (history : WellFormed events) :
    Recorded (BTreeMap.values (unsettledOf events)) events := by
  intro reservation member
  obtain ⟨id, found⟩ := BTreeMap.mem_values.mp member
  obtain ⟨⟨version, pricing, listed, -⟩, -⟩ := (history.unsettledOf_get id reservation).mp found
  exact ⟨version, pricing, listed⟩

section Recovery

variable {io : DurableBudgetReservation → AppendIo} {Running : WorkspaceBudgetLedger codec → Prop}
  {Stopped : List (JournalRecord codec.Value) → Prop}

/-- One settlement of crash recovery goes on with a running ledger or stops. -/
def RecoveryStep (io : DurableBudgetReservation → AppendIo)
    (Running : WorkspaceBudgetLedger codec → Prop)
    (Stopped : List (JournalRecord codec.Value) → Prop) : Prop :=
  ∀ ledger recoveredAt reservation version pricing result next, Running ledger →
    .reservation version pricing reservation ∈ ledger.events →
    ledger.Executed (io reservation) (ledger.prepareRecovery recoveredAt reservation) result next →
    match result with
    | .ok _ => Running next
    | .error _ => Stopped next.published

section

variable (step : RecoveryStep io Running Stopped)

include step

/-- What every settlement of crash recovery keeps, the loop keeps. -/
theorem recoverAll_keeps (recoveredAt : ℕ) (pending : List DurableBudgetReservation)
    (running : Running ledger) (recorded : Recorded pending ledger.events) :
    match recoverAll io recoveredAt pending ledger with
    | (.ok (), next) => Running next
    | (.error _, next) => Stopped next.published := by
  induction pending generalizing ledger with
  | nil => exact running
  | cons reservation rest ih =>
    obtain ⟨⟨version, pricing, listed⟩, others⟩ := forall_mem_cons.mp recorded
    have executed := ledger.execute_executed (io reservation)
      (ledger.prepareRecovery recoveredAt reservation)
    unfold recoverAll
    generalize ledger.execute (io reservation) (ledger.prepareRecovery recoveredAt reservation) =
      outcome at executed
    obtain ⟨result, next⟩ := outcome
    have kept := step ledger recoveredAt reservation version pricing result next running listed
      executed
    cases result with
    | error refusal => exact kept
    | ok recordedOutcome =>
      apply ih kept
      intro other member
      obtain ⟨version, pricing, earlier⟩ := others other member
      cases executed with
      | alreadyRecorded => exact ⟨version, pricing, earlier⟩
      | completed => exact ⟨version, pricing, mem_append_left _ earlier⟩

/-- What every settlement of crash recovery keeps, crash recovery keeps. -/
theorem recoverUnsettledReservations_keeps (history : WellFormed ledger.events)
    (running : Running ledger) (stopped : Stopped ledger.published) (unixNow : Except String ℕ) :
    match ledger.recoverUnsettledReservations io unixNow with
    | (.ok (), next) => Running next
    | (.error _, next) => Stopped next.published := by
  unfold recoverUnsettledReservations
  by_cases nothing : BTreeMap.values ledger.unsettledReservations = []
  · rw [if_pos nothing]
    exact running
  · rw [if_neg nothing]
    cases unixNow with
    | error text => exact stopped
    | ok recoveredAt => exact recoverAll_keeps step recoveredAt _ running history.recorded_pending

/-- Opening a ledger that was written leads to a running process or leaves a stopped one. -/
theorem openOrCreate_keeps
    {published : List (JournalRecord codec.Value)} (readable : Readable published)
    (stopped : Stopped published) (running : WellFormed (journalEvents codec published) →
      HasRoom published (unsettledOf (journalEvents codec published)).size →
      Running ⟨published, published, journalEvents codec published⟩) (unixNow : Except String ℕ) :
    match openOrCreate published io unixNow with
    | .running next => Running next
    | .closed next => Stopped next := by
  unfold openOrCreate
  cases read : replayEvents codec published with
  | error refusal => exact stopped
  | ok events =>
    obtain ⟨history, -, room, same⟩ := (replayEvents_ok readable).mp read
    rw [same]
    have kept := recoverUnsettledReservations_keeps step history (running history room) stopped
      unixNow
    dsimp only
    generalize recoverUnsettledReservations
      (⟨published, published, journalEvents codec published⟩ : WorkspaceBudgetLedger codec)
      io unixNow = outcome at kept
    obtain ⟨result, next⟩ := outcome
    cases result with
    | error refusal => exact kept
    | ok done => exact kept

end

end Recovery

/-- A settlement of crash recovery keeps what holds of the process, and what it leaves behind when
it fails is kept. -/
theorem Holds.recoveryStep (io : DurableBudgetReservation → AppendIo) (retriedLost : Bool) :
    RecoveryStep io (fun ledger : WorkspaceBudgetLedger codec => Holds ledger [] retriedLost)
      (fun published => Kept published retriedLost) := by
  intro ledger recoveredAt reservation version pricing result next holds listed executed
  have prepared {event : BudgetLedgerEvent}
      (chosen : ledger.prepareRecovery recoveredAt reservation = .ok (some event)) :
      ledger.Prepared event := prepareRecovery_prepared holds.history listed chosen
  -- Nothing is lost before recovery fails, and then the process is gone.
  have never {event : BudgetLedgerEvent} :
      false = (terminalId event).any fun id => ([] : List String).contains id := by
    cases terminalId event <;> rfl
  cases executed with
  | refused refusal => exact holds.kept
  | alreadyRecorded nothing => exact holds
  | @unacknowledged refusal event chosen checked =>
    have after : Holds (ledger.unacknowledge event) _ (retriedLost || false) :=
      holds.publish (prepared chosen) rfl never (.inr ⟨rfl, rfl⟩)
    rw [Bool.or_false] at after
    exact after.kept
  | @headFailed refusal event chosen checked failed =>
    have after : Holds (ledger.headFail event) _ (retriedLost || false) :=
      holds.publish (prepared chosen) rfl never (.inr ⟨rfl, rfl⟩)
    rw [Bool.or_false] at after
    exact after.kept
  | @completed event chosen checked =>
    have after : Holds (ledger.append event) [] (retriedLost || false) :=
      holds.publish (prepared chosen) rfl never (.inl ⟨rfl, rfl⟩)
    rw [Bool.or_false] at after
    exact after

/-- What holds of a workspace, running or not. -/
def World.Sound (world : World codec) : Prop :=
  match world.system with
  | .closed published => Kept published world.retriedLost
  | .running ledger => Holds ledger world.lost world.retriedLost

/-- Every action keeps it. -/
theorem World.Sound.step {world : World codec} (sound : world.Sound) (action : Action) :
    (world.step action).Sound := by
  obtain ⟨system, lost, retriedLost⟩ := world
  cases system with
  | closed published =>
    cases action with
    | reopen io unixNow =>
      have kept : Kept published retriedLost := sound
      have opened := openOrCreate_keeps (Holds.recoveryStep io retriedLost) kept.readable kept
        (fun history _ => ⟨history, kept.readable, fun id => by simp, fun _ => by simp,
          kept.doubled⟩) unixNow
      unfold World.Sound World.step
      dsimp only
      generalize openOrCreate published io unixNow = system at opened
      cases system with
      | closed next => exact opened
      | running next => exact opened
    | call io request => exact sound
    | dieDuring io request => exact sound
    | die => exact sound
  | running ledger =>
    have holds : Holds ledger lost retriedLost := sound
    cases action with
    | call io request => exact holds.call io request
    | dieDuring io request => exact (holds.call io request).kept
    | die => exact holds.kept
    | reopen io unixNow => exact sound

/-- It holds of every workspace that any history leads to. -/
theorem World.run_sound (actions : List Action) : (World.run codec actions).Sound := by
  have start : (World.start codec).Sound := by
    refine ⟨.nil, fun _ id => Nat.zero_le _, fun retried => ?_⟩
    cases retried
  exact foldlRecOn actions World.step start fun world sound action _ => sound.step action

/-- The process goes on although an append could not write the head. -/
def Action.goesOnHeadless : Action → Prop
  | .call io _ => io = .headFailed
  | .dieDuring .. | .die | .reopen .. => False

/-- `Action.goesOnHeadless`, decided. -/
instance (action : Action) : Decidable action.goesOnHeadless :=
  match action with
  | .call io _ => inferInstanceAs (Decidable (io = .headFailed))
  | .dieDuring .. | .die | .reopen .. => inferInstanceAs (Decidable False)

/-- A process that remembers what it wrote: it holds every record of the journal and has lost
nothing, or a record it did not take stands in the way of the next one. -/
structure Current (ledger : WorkspaceBudgetLedger codec) (lost : List String) : Prop where
  complete : ledger.Complete
  holds : (ledger.published = ledger.records ∧ lost = []) ∨
    ledger.records.length < ledger.published.length

/-- Where the journal takes a record, nothing has been lost. -/
theorem Current.appends (current : Current ledger lost)
    (checked : ledger.appendChecks event = .ok ()) :
    ledger.published = ledger.records ∧ lost = [] := by
  simp only [appendChecks, ok_iff] at checked
  obtain ⟨-, -, -, -, -, -, free⟩ := checked
  exact current.holds.resolve_right free

/-- A current process settles no reservation again. -/
theorem Current.retries_eq_false
    (current : Current ledger lost) (io : AppendIo) (request : Request) :
    retries ledger lost request (ledger.call io request).2 = false := by
  have executed := ledger.call_executed io request
  generalize ledger.call io request = outcome at executed
  obtain ⟨result, next⟩ := outcome
  have unchanged : retries ledger lost request ledger = false := by simp [retries, settledBy]
  have appended {event : BudgetLedgerEvent} (checked : ledger.appendChecks event = .ok ()) :
      retries ledger lost request next = false := by
    rw [(current.appends checked).2]
    cases settled : settledBy ledger request next <;> simp [retries, settled]
  cases executed with
  | refused refusal => exact unchanged
  | alreadyRecorded nothing => exact unchanged
  | unacknowledged refusal chosen checked => exact appended checked
  | headFailed refusal chosen checked failed => exact appended checked
  | completed chosen checked => exact appended checked

/-- A call that does not go on after a failed head write keeps the process current. -/
theorem Current.call (current : Current ledger lost) {io : AppendIo} (headed : io ≠ .headFailed)
    (request : Request) :
    Current (ledger.call io request).2
      (lostAfter ledger lost request (ledger.call io request)) := by
  have executed := ledger.call_executed io request
  generalize ledger.call io request = outcome at executed
  obtain ⟨result, next⟩ := outcome
  cases executed with
  | refused refusal => simpa [lostAfter, settledBy] using current
  | alreadyRecorded nothing => exact current
  | unacknowledged refusal chosen checked =>
    have same := (current.appends checked).1
    refine ⟨⟨current.complete.history, current.complete.written, current.complete.room⟩, .inr ?_⟩
    simp [same]
  | headFailed refusal chosen checked failed => exact absurd failed headed
  | completed chosen checked =>
    obtain ⟨same, nothing⟩ := current.appends checked
    have prepared := prepare_prepared current.complete.history chosen
    exact ⟨current.complete.append prepared checked, .inl ⟨by simp [same], nothing⟩⟩

/-- A settlement of crash recovery keeps the process current; when it fails there is no process. -/
theorem Current.recoveryStep (io : DurableBudgetReservation → AppendIo) :
    RecoveryStep io (fun ledger : WorkspaceBudgetLedger codec => Current ledger [])
      (fun _ => True) := by
  intro ledger recoveredAt reservation version pricing result next current listed executed
  cases executed with
  | refused refusal => trivial
  | unacknowledged refusal chosen checked => trivial
  | headFailed refusal chosen checked failed => trivial
  | alreadyRecorded nothing => exact current
  | completed chosen checked =>
    obtain ⟨same, -⟩ := current.appends checked
    have prepared := prepareRecovery_prepared current.complete.history listed chosen
    exact ⟨current.complete.append prepared checked, .inl ⟨by simp [append, same], rfl⟩⟩

/-- A workspace whose process, if there is one, is current, and in which nothing was settled
again. -/
def World.Clean (world : World codec) : Prop :=
  world.retriedLost = false ∧
    match world.system with
    | .closed _ => True
    | .running ledger => Current ledger world.lost

/-- Every action that does not go on after a failed head write keeps the workspace clean. -/
theorem World.Clean.step {world : World codec} (clean : world.Clean) (sound : world.Sound)
    {action : Action} (headed : ¬ action.goesOnHeadless) : (world.step action).Clean := by
  obtain ⟨system, lost, retriedLost⟩ := world
  obtain ⟨single, current⟩ := clean
  cases system with
  | closed published =>
    cases action with
    | reopen io unixNow =>
      have kept : Kept published retriedLost := sound
      have opened := openOrCreate_keeps (Current.recoveryStep io) kept.readable trivial
        (fun history room => ⟨⟨history, kept.readable, room⟩, .inl ⟨rfl, rfl⟩⟩) unixNow
      unfold World.Clean World.step
      dsimp only
      generalize openOrCreate published io unixNow = system at opened
      cases system with
      | closed next => exact ⟨single, trivial⟩
      | running next => exact ⟨single, opened⟩
    | call io request => exact ⟨single, trivial⟩
    | dieDuring io request => exact ⟨single, trivial⟩
    | die => exact ⟨single, trivial⟩
  | running ledger =>
    cases action with
    | call io request =>
      have never := current.retries_eq_false io request
      exact ⟨by simp [World.step, single, never], current.call headed request⟩
    | dieDuring io request =>
      have never := current.retries_eq_false io request
      exact ⟨by simp [World.step, single, never], trivial⟩
    | die => exact ⟨single, trivial⟩
    | reopen io unixNow => exact ⟨single, current⟩

/-- A workspace stays clean as long as no process goes on after a failed head write. -/
theorem World.run_clean {actions : List Action}
    (headed : ∀ action ∈ actions, ¬ action.goesOnHeadless) : (World.run codec actions).Clean := by
  have start : (World.start codec).Sound ∧ (World.start codec).Clean :=
    ⟨World.run_sound [], rfl, trivial⟩
  have step : ∀ world : World codec, world.Sound ∧ world.Clean → ∀ action ∈ actions,
      (world.step action).Sound ∧ (world.step action).Clean := by
    rintro world ⟨sound, clean⟩ action member
    exact ⟨sound.step action, clean.step sound (headed action member)⟩
  have both : (World.run codec actions).Sound ∧ (World.run codec actions).Clean :=
    foldlRecOn (motive := fun world => world.Sound ∧ world.Clean) actions World.step start step
  exact both.2

end Maco.RollingBudget
