import Maco.Messaging.Chain

/-!
# Crashes of the messaging journal

The process may die after any step on the files, in an append as in the recovery of an open. What
is left is always the chain of the events that were appended, with the event of an interrupted
append or without it, an anchor of some prefix of it, and a temporary file that is torn or holds
the anchor of a prefix. Opening such files gives the events back exactly when every line can be
read; a journal cut at a line is refused.
-/

namespace Maco.Messaging

open Maco.Base MessagingStore List
open Maco.Turn (RoleCategory)
open ReplayedState (validateTransition applyValidated changeDelivery advance)

section

variable (crates : Crates)

/-- A file holds the tail anchor of some first lines. -/
def AnchorsPrefix (events : List StoreEvent) (file : AnchorFile) : Prop :=
  ∃ n < events.length, file = .anchor (anchorOf crates (events.take (n + 1)))

/-- What a crash leaves of a store with these events. -/
structure Intact (events : List StoreEvent) (disk : Disk) : Prop where
  journal : disk.journal = chain crates events
  anchor : ∃ file, disk.anchor = some file ∧ AnchorsPrefix crates events file
  temp : ∀ file, disk.temp = some file →
    file = .garbled ∨ AnchorsPrefix crates events file

/-- What a completed operation leaves of a store with these events. -/
structure Settled (events : List StoreEvent) (disk : Disk) : Prop where
  journal : disk.journal = chain crates events
  anchor : disk.anchor = some (.anchor (anchorOf crates events))
  temp : disk.temp = none

/-- Steps that keep the files intact wherever they are cut, and settle them when they complete. -/
structure Recovers (events : List StoreEvent) (steps : List DiskStep) (disk : Disk) : Prop where
  intact : ∀ io, Intact crates events (disk.run crates io steps).2
  settles : ∀ io, (disk.run crates io steps).1 = none →
    Settled crates events (disk.run crates io steps).2
  completes : ∀ io, steps.length ≤ io → (disk.run crates io steps).1 = none

variable {crates : Crates} {events : List StoreEvent} {disk next : Disk}

/-- The anchor of all lines is the anchor of some. -/
theorem anchorsPrefix_all (some_event : events ≠ []) :
    AnchorsPrefix crates events (.anchor (anchorOf crates events)) := by
  have positive := length_pos_iff.mpr some_event
  refine ⟨events.length - 1, by omega, ?_⟩
  rw [take_of_length_le (by omega)]

/-- An anchor of some first lines stays one when lines are added. -/
theorem AnchorsPrefix.append (anchors : AnchorsPrefix crates events file)
    (later : List StoreEvent) : AnchorsPrefix crates (events ++ later) file := by
  obtain ⟨n, within, rfl⟩ := anchors
  refine ⟨n, by rw [length_append]; omega, ?_⟩
  rw [take_append_of_le_length (by omega)]

theorem Settled.intact (settled : Settled crates events disk) (some_event : events ≠ []) :
    Intact crates events disk where
  journal := settled.journal
  anchor := ⟨_, settled.anchor, anchorsPrefix_all some_event⟩
  temp file present := by rw [settled.temp] at present; cases present

/-- One more line leaves the files intact. -/
theorem Intact.appendLine (intact : Intact crates events disk) (event : StoreEvent) :
    Intact crates (events ++ [event])
      { disk with journal := disk.journal ++ [nextRecord crates events event] } where
  journal := by rw [intact.journal, chain_snoc]
  anchor := by
    obtain ⟨file, present, anchors⟩ := intact.anchor
    exact ⟨file, present, anchors.append [event]⟩
  temp file present := (intact.temp file present).imp_right fun anchors => anchors.append [event]

/-! ### Lists of steps -/

theorem recovers_nil (settled : Settled crates events disk) (some_event : events ≠ []) :
    Recovers crates events [] disk where
  intact io := by rw [Disk.run]; exact settled.intact some_event
  settles io _ := by rw [Disk.run]; exact settled
  completes io _ := by rw [Disk.run]

/-- Steps recover when the first one can be taken and the rest recover from there. -/
theorem recovers_cons (intact : Intact crates events disk)
    (performed : disk.perform crates step = .ok next)
    (rest : Recovers crates events steps next) :
    Recovers crates events (step :: steps) disk where
  intact io := by
    cases io with
    | zero => exact intact
    | succ io => simpa only [Disk.run, performed] using rest.intact io
  settles io := by
    cases io with
    | zero => intro done; cases done
    | succ io => simpa only [Disk.run, performed] using rest.settles io
  completes io enough := by
    cases io with
    | zero => simp at enough
    | succ io =>
      simpa only [Disk.run, performed] using
        rest.completes io (by simpa using enough)

/-- The anchor of a settled store is verified. -/
theorem Settled.verify (settled : Settled crates events disk) (some_event : events ≠ []) :
    Recovers crates events
      [.verifyAnchor (checkpointOf crates events)] disk := by
  refine recovers_cons (settled.intact some_event) ?_ (recovers_nil settled some_event)
  simp only [Disk.perform, verifyAnchorCheckpoint, settled.anchor, ok_iff, Option.some.injEq,
    exists_eq_left', readTailAnchor_anchorOf some_event, Except.ok.injEq, anchorOf_matches,
    not_true_eq_false, not_false_eq_true, and_self]

section

variable (intact : Intact crates events disk)

include intact

/-- Renaming a temporary file with the anchor of all lines settles the store. -/
theorem Intact.publish (some_event : events ≠ [])
    (prepared : disk.temp = some (.anchor (anchorOf crates events))) :
    Recovers crates events
      [.renameTemp, .verifyAnchor (checkpointOf crates events)] disk := by
  have settled : Settled crates events { disk with
      anchor := some (.anchor (anchorOf crates events))
      temp := none } := ⟨intact.journal, rfl, rfl⟩
  refine recovers_cons intact ?_ (settled.verify some_event)
  simp only [Disk.perform, prepared, ok_iff, Option.some.injEq, exists_eq_left']

/-- Replacing the anchor settles a store without a temporary file. -/
theorem Intact.replace (some_event : events ≠ []) (clear : disk.temp = none) :
    Recovers crates events
      (replaceTailAnchor crates (checkpointOf crates events) ++
        [.verifyAnchor (checkpointOf crates events)]) disk := by
  have torn : Intact crates events { disk with temp := some .garbled } :=
    ⟨intact.journal, intact.anchor, fun file present => .inl (Option.some.inj present).symm⟩
  have written : Intact crates events
      { disk with temp := some (.anchor (anchorOf crates events)) } :=
    ⟨intact.journal, intact.anchor, fun file present =>
      .inr (Option.some.inj present ▸ anchorsPrefix_all some_event)⟩
  refine recovers_cons intact ?_ (recovers_cons torn ?_ (written.publish some_event rfl))
  · simp only [Disk.perform, clear, Option.isSome_none, Bool.false_eq_true, ok_iff,
      not_false_eq_true, true_and]
  · rfl

/-- The files without their temporary file. -/
theorem Intact.removeTemp : Intact crates events { disk with temp := none } :=
  ⟨intact.journal, intact.anchor, fun file present => by cases present⟩

end

/-- An anchor of some first lines is read back. -/
theorem readTailAnchor_take (some_event : events ≠ []) (n : ℕ) :
    readTailAnchor crates (.anchor (anchorOf crates (events.take (n + 1)))) =
      .ok (anchorOf crates (events.take (n + 1))) :=
  readTailAnchor_anchorOf (by simp [some_event])

variable {n : ℕ}

/-- An anchor of some first lines matches their checkpoint. -/
theorem matches_some_checkpoint (within : n < events.length) :
    ∃ checkpoint ∈ checkpoints crates events,
      tailAnchorMatchesCheckpoint (anchorOf crates (events.take (n + 1)))
        checkpoint = true :=
  ⟨_, mem_checkpoints within, anchorOf_matches _⟩

/-- An anchor of some first lines is the one of all lines or lags behind them. -/
theorem anchor_lags (disk : Disk) (journal : disk.journal = chain crates events)
    (within : n < events.length) :
    ¬ (¬ tailAnchorMatchesCheckpoint (anchorOf crates (events.take (n + 1)))
          (checkpointOf crates events) = true ∧
        ¬ ((anchorOf crates (events.take (n + 1))).journalBytes < journalBytes disk.journal ∧
          ∃ checkpoint ∈ checkpoints crates events,
            tailAnchorMatchesCheckpoint (anchorOf crates (events.take (n + 1)))
              checkpoint = true)) := by
  rintro ⟨other, behind⟩
  by_cases all : n + 1 < events.length
  · have less := @checkpointOf_take_lt crates events (n + 1) all
    rw [← journal] at less
    exact behind ⟨less, matches_some_checkpoint within⟩
  · rw [take_of_length_le (by omega)] at other
    exact other (anchorOf_matches events)

/-- Whatever a crash left of the anchors, the steps of the recovery settle the store. -/
theorem Intact.recoverySteps (intact : Intact crates events disk)
    (reading : Reading) (some_event : events ≠ [])
    (read : reading.checkpoints = checkpoints crates events) :
    ∃ steps, recoverySteps crates disk reading = .ok steps ∧ steps.length ≤ 5 ∧
      Recovers crates events steps disk := by
  obtain ⟨file, present, n, within, rfl⟩ := intact.anchor
  have lags := anchor_lags disk intact.journal within
  have last := @checkpoints_getLast crates events some_event
  -- the committed anchor is read, and either is the latest one or lags behind
  rw [Messaging.recoverySteps, present, read, last]
  simp only [require, ok_bind, readTailAnchor_take some_event n, refuseIf, if_neg lags]
  -- without a temporary file, the anchor is verified or replaced
  have plain (cleared : Disk) (clear : cleared.temp = none)
      (kept : Intact crates events cleared)
      (same : cleared.anchor = disk.anchor) :
      Recovers crates events
        ((if tailAnchorMatchesCheckpoint (anchorOf crates (events.take (n + 1)))
            (checkpointOf crates events) = true then []
          else replaceTailAnchor crates (checkpointOf crates events)) ++
          [.verifyAnchor (checkpointOf crates events)]) cleared := by
    split
    · rename_i latest
      have all := anchorOf_take_matches latest
      have settled : Settled crates events cleared :=
        ⟨kept.journal, by rw [same, present, all], clear⟩
      exact settled.verify some_event
    · exact kept.replace some_event clear
  cases found : disk.temp with
  | none =>
    simp only [recoverTailAnchorTemp, found]
    refine ⟨_, rfl, ?_, ?_⟩
    · simp only [Bool.false_eq_true, if_false]
      split <;> simp [replaceTailAnchor]
    · simpa using plain disk found intact rfl
  | some file =>
    rcases intact.temp file found with rfl | ⟨m, inside, rfl⟩
    · simp only [recoverTailAnchorTemp, found]
      refine ⟨_, rfl, by simp [replaceTailAnchor], ?_⟩
      exact recovers_cons intact rfl (intact.removeTemp.replace some_event rfl)
    · by_cases latest : tailAnchorMatchesCheckpoint (anchorOf crates (events.take (m + 1)))
          (checkpointOf crates events) = true
      · simp only [recoverTailAnchorTemp, found, readTailAnchor_take some_event m, if_pos latest]
        refine ⟨_, rfl, by simp, ?_⟩
        rw [anchorOf_take_matches latest] at found
        exact intact.publish some_event found
      · have older := @matches_some_checkpoint crates events m inside
        simp only [recoverTailAnchorTemp, found, readTailAnchor_take some_event m, if_neg latest,
          refuseIf, older, not_true_eq_false, if_false, ok_bind]
        refine ⟨_, rfl, ?_, ?_⟩
        · simp only [Bool.false_eq_true, if_false]
          split <;> simp [replaceTailAnchor]
        · have rest := plain { disk with temp := none } rfl intact.removeTemp rfl
          have taken : Recovers crates events (.removeTemp :: _) disk :=
            recovers_cons intact rfl rest
          simp only [Bool.false_eq_true, if_false]
          split <;> rename_i matched <;> simpa [matched] using taken

/-! ### Opening what a crash left -/

/-- The events after the creation replay, and their lines fit the limits. -/
structure Good (crates : Crates) (header : StoreHeader)
    (events : List StoreEvent) : Prop where
  replays : ∃ replayed, replayEvents header events = .ok replayed
  bytes : journalBytes (chain crates (.created header :: events)) ≤
    header.limits.maxJournalBytes
  records : events.length + 1 ≤ header.limits.maxJournalRecords

/-- The fields of a store agree with its events. -/
structure Holds (crates : Crates) (header : StoreHeader) (events : List StoreEvent)
    (store : MessagingStore) : Prop where
  header_eq : store.header = header
  events_eq : store.events = .created header :: events
  sequence : store.lastSequence = events.length
  checksum : store.lastChecksum = lastChecksum crates (.created header :: events)
  length : store.journalBytes = journalBytes (chain crates (.created header :: events))
  replayed : replayEvents header events = .ok store.replayed
  bytes : journalBytes (chain crates (.created header :: events)) ≤
    header.limits.maxJournalBytes
  records : events.length + 1 ≤ header.limits.maxJournalRecords

variable {expected : Expected} {header : StoreHeader}

theorem Holds.good {store : MessagingStore} (holds : Holds crates header events store) :
    Good crates header events := ⟨⟨_, holds.replayed⟩, holds.bytes, holds.records⟩

/-- A header that fits passes the checks of what is expected. -/
theorem Fits.expected_ok (fits : Fits expected header) :
    validateLimits expected.limits = .ok () ∧
      validateAuthorityBinding expected.authorityBinding expected.limits.maxIdentifierBytes =
        .ok () := by
  have valid := fits.valid
  simp only [validateHeader, ok_iff, fits.limits, fits.authority] at valid
  obtain ⟨-, _, limits, authority⟩ := valid
  exact ⟨limits, authority⟩

/-- The plan of an open of files left by a crash: when every line can be read its steps recover the
files and its store has the events; otherwise there is none. -/
theorem planOpen_intact (fits : Fits expected header) (good : Good crates header events)
    (intact : Intact crates (.created header :: events) disk) :
    (∃ store steps, planOpen crates expected disk = .ok (store, steps) ∧
      (∀ event ∈ events, event.Readable crates) ∧ Holds crates header events store ∧
      store.poisoned = false ∧ steps.length ≤ 5 ∧
      Recovers crates (.created header :: events) steps disk) ∨
    ∃ error, planOpen crates expected disk = .error error ∧
      ¬ ∀ event ∈ events, event.Readable crates := by
  have some_event : StoreEvent.created header :: events ≠ [] := cons_ne_nil _ _
  obtain ⟨limits, authority⟩ := fits.expected_ok
  obtain ⟨file, present, -⟩ := intact.anchor
  have lines : 0 < journalBytes (chain crates (.created header :: events)) := by
    refine journalBytes_pos fun none => ?_
    simpa using congrArg List.length none
  have bytes := good.bytes
  have records := good.records
  rw [fits.limits] at bytes records
  have opened : planOpen crates expected disk = (do
      let reading ← (chain crates (.created header :: events)).foldlM
        (readRecord crates expected) .start
      let found ← require reading.header .firstRecordNotCreated
      let steps ← Messaging.recoverySteps crates disk reading
      pure
        ({ disk
           header := found
           events := reading.events
           lastSequence := reading.lastSequence
           lastChecksum := reading.previousChecksum
           journalBytes := journalBytes (chain crates (.created header :: events))
           poisoned := false
           replayed := reading.replayed }, steps)) := by
    rw [planOpen, limits, authority, present, intact.journal]
    simp only [ok_bind, refuseIf, require, fits.binding, length_chain, length_cons,
      not_true_eq_false, if_false, if_neg (not_lt.mpr bytes), if_neg (not_lt.mpr records),
      if_neg (show ¬ journalBytes (chain crates (.created header :: events)) = 0 by omega)]
  rw [opened]
  by_cases readable : ∀ event ∈ events, event.Readable crates
  · obtain ⟨replayed, replays⟩ := good.replays
    obtain ⟨steps, recovered, short, recovers⟩ := intact.recoverySteps
      (readingOf crates header events replayed) some_event rfl
    have known : (readingOf crates header events replayed).header = some header := rfl
    rw [(read_chain fits events).mpr ⟨readable, replayed, replays, rfl⟩]
    simp only [ok_bind, known, require, recovered]
    exact .inl ⟨_, steps, rfl, readable, ⟨rfl, rfl, rfl, rfl, rfl, replays, good.bytes,
      good.records⟩, rfl, short, recovers⟩
  · cases read : (chain crates (.created header :: events)).foldlM
      (readRecord crates expected) .start with
    | error error => exact .inr ⟨error, rfl, readable⟩
    | ok reading => exact absurd ((read_chain fits events).mp read).1 readable

/-- An open of files left by a crash: it returns a store with the events and settled files when
every line can be read and no step fails; otherwise the files stay intact. -/
theorem reopen_intact (fits : Fits expected header) (good : Good crates header events)
    (intact : Intact crates (.created header :: events) disk) (io : ℕ) :
    (∃ store, reopen crates expected disk io = (.ok store, store.disk) ∧
      (∀ event ∈ events, event.Readable crates) ∧ Holds crates header events store ∧
      store.poisoned = false ∧ Settled crates (.created header :: events) store.disk) ∨
    ∃ error left, reopen crates expected disk io = (.error error, left) ∧
      Intact crates (.created header :: events) left ∧
      ((∀ event ∈ events, event.Readable crates) → io < 5) := by
  rw [reopen]
  rcases planOpen_intact fits good intact with
    ⟨store, steps, plan, readable, holds, healthy, short, recovers⟩ | ⟨error, refused, unreadable⟩
  · have kept := recovers.intact io
    have settles := recovers.settles io
    have completes := recovers.completes io
    simp only [plan]
    cases ran : disk.run crates io steps with
    | mk error left =>
      rw [ran] at kept settles completes
      cases error with
      | some error =>
        refine .inr ⟨error, left, rfl, kept, fun _ => not_le.mp fun enough => ?_⟩
        cases completes (by omega)
      | none => exact .inl ⟨_, rfl, readable, { holds with }, healthy, settles rfl⟩
  · rw [refused]
    exact .inr ⟨error, disk, rfl, intact, fun readable => absurd readable unreadable⟩

/-! ### Appending -/

/-- A transition that was checked can be applied. -/
theorem ReplayedState.applies {state : ReplayedState} {event : StoreEvent}
    (valid : state.validateTransition event header = .ok ()) :
    ∃ next, state.applyValidated event = .ok next := by
  cases event with
  | created other => cases valid
  | channelCreated channel => exact ⟨_, rfl⟩
  | messageSent envelope =>
    simp only [validateTransition, ok_iff] at valid
    obtain ⟨-, -, -, -, -, -, -, -, following, fits, -⟩ := valid
    simp [applyValidated, fits, require]
  | deliveryAttempted messageId recipientId attempt =>
    simp only [validateTransition, ok_iff] at valid
    obtain ⟨-, -, message, known, delivery, present, -⟩ := valid
    simp [applyValidated, changeDelivery, known, present, require]
  | acknowledged messageId recipientId =>
    simp only [validateTransition, ok_iff] at valid
    obtain ⟨-, -, message, known, delivery, present, -⟩ := valid
    simp [applyValidated, changeDelivery, known, present, require]

variable {store : MessagingStore} {event : StoreEvent}

section

variable (holds : Holds crates header events store)

include holds

/-- The line an append prepares is the next line of the chain, and the longer chain is good. -/
theorem prepareRecord_ok
    {record : JournalRecord} (prepared : store.prepareRecord crates event = .ok record) :
    store.poisoned = false ∧ record = nextRecord crates (.created header :: events) event ∧
      ∃ replayed, store.replayed.applyValidated event = .ok replayed ∧
        replayEvents header (events ++ [event]) = .ok replayed ∧
        journalBytes (chain crates (.created header :: (events ++ [event]))) ≤
          header.limits.maxJournalBytes ∧
        events.length + 2 ≤ header.limits.maxJournalRecords := by
  simp only [prepareRecord, ok_iff, not_lt, checkedAddU64_eq_some, holds.header_eq, holds.events_eq,
    holds.sequence, holds.checksum, holds.length, length_cons] at prepared
  obtain ⟨healthy, records, sequence, ⟨-, rfl⟩, bytes, _, valid, rfl⟩ := prepared
  obtain ⟨replayed, applied⟩ := ReplayedState.applies valid
  refine ⟨by simpa using healthy, rfl, replayed, applied, ?_, ?_, records⟩
  · rw [replayEvents, foldlM_append, ← replayEvents, holds.replayed, ok_bind]
    simp [advance, valid, applied]
  · rw [← cons_append, journalBytes_snoc]
    exact bytes

/-- The steps of an append settle the files with one more event, or leave them intact with the event
or without it. -/
theorem run_appendSteps (settled : Settled crates (.created header :: events) store.disk)
    (event : StoreEvent) (io : ℕ) :
    let ran := store.disk.run crates io (store.appendSteps crates
      (nextRecord crates (.created header :: events) event))
    (ran.1 = none → Settled crates (.created header :: (events ++ [event])) ran.2) ∧
      (Intact crates (.created header :: events) ran.2 ∨
        Intact crates (.created header :: (events ++ [event])) ran.2) := by
  have intact := settled.intact (cons_ne_nil _ _)
  have recovers := (intact.appendLine event).replace (by simp) settled.temp
  have after : store.checkpointAfter
      (nextRecord crates (.created header :: events) event) =
        checkpointOf crates ((.created header :: events) ++ [event]) := by
    rw [checkpointAfter, checkpointOf, journalBytes_snoc, holds.length, lastChecksum_snoc]
    simp [nextRecord, recordFor]
  rw [← after] at recovers
  cases io with
  | zero => exact ⟨fun done => (by cases done), .inl intact⟩
  | succ io => exact ⟨recovers.settles io, .inr (recovers.intact io)⟩

/-- How an append ends on a store with settled files, unless it is poisoned: it is done, or refused
before anything is written, or interrupted, and then the store is poisoned. -/
theorem append_cases (settled : store.poisoned = false →
      Settled crates (.created header :: events) store.disk) (event : StoreEvent) (io : ℕ) :
    (∃ next, store.append crates event io = (.ok (), next) ∧
      Holds crates header (events ++ [event]) next ∧ next.poisoned = false ∧
      Settled crates (.created header :: (events ++ [event])) next.disk) ∨
    (∃ error, store.append crates event io = (.error error, store)) ∨
    ∃ error next, store.append crates event io = (.error error, next) ∧
      Holds crates header events next ∧ store.poisoned = false ∧ next.poisoned = true ∧
      (Intact crates (.created header :: events) next.disk ∨
        Good crates header (events ++ [event]) ∧
          Intact crates (.created header :: (events ++ [event])) next.disk) := by
  rw [append]
  split
  · exact .inr (.inl ⟨_, rfl⟩)
  · rw [appendRecord]
    cases prepared : store.prepareRecord crates event with
    | error error => exact .inr (.inl ⟨error, rfl⟩)
    | ok record =>
      obtain ⟨healthy, rfl, replayed, applied, replays, bytes, records⟩ :=
        prepareRecord_ok holds prepared
      have longer : (events ++ [event]).length + 1 ≤ header.limits.maxJournalRecords := by
        rwa [length_append]
      have ran := run_appendSteps holds (settled healthy) event io
      cases done : store.disk.run crates io (store.appendSteps crates
          (nextRecord crates (.created header :: events) event)) with
      | mk error left =>
        rw [done] at ran
        simp only [done]
        cases error with
        | some error =>
          exact .inr (.inr ⟨error, _, rfl, { holds with }, healthy, rfl,
            ran.2.imp_right fun intact => ⟨⟨⟨_, replays⟩, bytes, longer⟩, intact⟩⟩)
        | none =>
          simp only [applied]
          refine .inl ⟨_, rfl, ⟨holds.header_eq, ?_, ?_, ?_, ?_, replays, bytes, longer⟩, healthy,
            ran.1 rfl⟩
          · simp [holds.events_eq]
          · simp [nextRecord, recordFor]
          · rw [← cons_append, lastChecksum_snoc]
          · rw [← cons_append, journalBytes_snoc, holds.length]

end

/-- A store just created holds its creation, in settled files. -/
theorem create_settled (created : create crates header = .ok store) :
    validateHeader header = .ok () ∧ Holds crates header [] store ∧
      store.poisoned = false ∧ Settled crates [.created header] store.disk := by
  simp only [create, ok_iff, not_lt] at created
  obtain ⟨_, valid, bytes, rfl⟩ := created
  have first : chain crates [StoreEvent.created header] =
      [nextRecord crates [] (.created header)] := rfl
  have length : journalBytes (chain crates [StoreEvent.created header]) =
      (nextRecord crates [] (.created header)).lineBytes := by
    rw [first, journalBytes, map_singleton, sum_singleton]
  have positive : 1 ≤ header.limits.maxJournalRecords := by
    simp only [validateHeader, ok_iff] at valid
    obtain ⟨-, _, limits, -⟩ := valid
    simp only [validateLimits, ok_iff, not_or] at limits
    obtain ⟨_, -, ⟨present, -⟩, -⟩ := limits
    omega
  refine ⟨valid, ⟨rfl, rfl, rfl, rfl, length.symm, rfl, ?_, positive⟩, rfl, rfl, ?_, rfl⟩
  · rw [length]
    exact bytes
  · rw [anchorOf, checkpointOf, length]
    rfl

/-! ### Runs with crashes -/

/-- A process that holds a store open, or only its files. -/
inductive StoreSystem where
  | running (store : MessagingStore)
  | stopped (disk : Disk)

/-- The files of a system. -/
def StoreSystem.files : StoreSystem → Disk
  | .running store => store.disk
  | .stopped disk => disk

/-- What has happened: the events before an append that was interrupted, the event of that append if
there is one, and the events whose append returned. -/
structure StoreHistory where
  events : List StoreEvent
  interrupted : Option StoreEvent
  returned : List StoreEvent

section

variable (crates : Crates) (expected : Expected) (header : StoreHeader)

/-- The runs of a store: it is created, appends events, dies at any point and is opened again. An
append and an open may each be cut after any of their steps. -/
inductive Reaches : StoreHistory → StoreSystem → Prop
  | created {store : MessagingStore}
      (made : create crates header = .ok store) :
      Reaches ⟨[.created header], none, []⟩ (.running store)
  | appended {history : StoreHistory} {store next : MessagingStore} {event : StoreEvent} {io : ℕ}
      (before : Reaches history (.running store))
      (append : store.append crates event io = (.ok (), next)) :
      Reaches ⟨history.events ++ [event], none, history.returned ++ [event]⟩ (.running next)
  | refused {history : StoreHistory} {store next : MessagingStore} {event : StoreEvent}
      {error : StoreError} {io : ℕ}
      (before : Reaches history (.running store))
      (append : store.append crates event io = (.error error, next))
      (same : next.poisoned = store.poisoned) :
      Reaches history (.running next)
  | interrupted {history : StoreHistory} {store next : MessagingStore} {event : StoreEvent}
      {error : StoreError} {io : ℕ}
      (before : Reaches history (.running store))
      (append : store.append crates event io = (.error error, next))
      (changed : next.poisoned ≠ store.poisoned) :
      Reaches { history with interrupted := some event } (.running next)
  | died {history : StoreHistory} {store : MessagingStore}
      (before : Reaches history (.running store)) :
      Reaches history (.stopped store.disk)
  | reopened {history : StoreHistory} {disk left : Disk} {store : MessagingStore} {io : ℕ}
      (before : Reaches history (.stopped disk))
      (opening : reopen crates expected disk io = (.ok store, left)) :
      Reaches ⟨store.events, none, history.returned⟩ (.running store)
  | failed {history : StoreHistory} {disk left : Disk} {error : StoreError} {io : ℕ}
      (before : Reaches history (.stopped disk))
      (opening : reopen crates expected disk io = (.error error, left)) :
      Reaches history (.stopped left)

/-- The files hold the events, or the events and the one of the interrupted append. -/
def LeftBehind (events : List StoreEvent) (interrupted : Option StoreEvent) (disk : Disk) : Prop :=
  ∃ found, (found = events ∨ ∃ event, interrupted = some event ∧ found = events ++ [event]) ∧
    Good crates header found ∧ Intact crates (.created header :: found) disk

/-- What every system of a run satisfies. -/
def StoreSystem.Consistent (events : List StoreEvent) (interrupted : Option StoreEvent) :
    StoreSystem → Prop
  | .running store => Holds crates header events store ∧
      if store.poisoned = true then
        LeftBehind crates header events interrupted store.disk
      else interrupted = none ∧ Settled crates (.created header :: events) store.disk
  | .stopped disk => LeftBehind crates header events interrupted disk

end

/-- Settled files hold the events. -/
theorem Settled.leftBehind (settled : Settled crates (.created header :: events) disk)
    (good : Good crates header events) (interrupted : Option StoreEvent) :
    LeftBehind crates header events interrupted disk :=
  ⟨events, .inl rfl, good, settled.intact (cons_ne_nil _ _)⟩

variable {system : StoreSystem} {interrupted : Option StoreEvent}

theorem StoreSystem.Consistent.settled
    (consistent : (running store).Consistent crates header events interrupted)
    (healthy : store.poisoned = false) :
    Settled crates (.created header :: events) store.disk := by
  have state := consistent.2
  rw [if_neg (by simp [healthy])] at state
  exact state.2

/-- The files of a consistent system hold the events or also the one of the interrupted append. -/
theorem StoreSystem.Consistent.leftBehind
    (consistent : system.Consistent crates header events interrupted) :
    LeftBehind crates header events interrupted system.files := by
  cases system with
  | stopped disk => exact consistent
  | running store =>
    obtain ⟨holds, state⟩ := consistent
    split at state
    · exact state
    · exact state.2.leftBehind holds.good interrupted

/-- Every system of a run is consistent, and the events hold all that were returned. -/
theorem Reaches.consistent (fits : Fits expected header)
    (reaches : Reaches crates expected header history system) :
    ∃ events, history.events = .created header :: events ∧ history.returned.Sublist events ∧
      system.Consistent crates header events history.interrupted := by
  induction reaches with
  | created made =>
    obtain ⟨-, holds, healthy, settled⟩ := create_settled made
    exact ⟨[], rfl, List.Sublist.refl _, holds, by simp [healthy, settled]⟩
  | @appended history store next event io before append ih =>
    obtain ⟨events, known, returned, consistent⟩ := ih
    rcases append_cases consistent.1 consistent.settled event io with
      ⟨after, done, grown, healthy, settled⟩ | ⟨_, refused⟩ | ⟨_, after, cut, -⟩
    · obtain ⟨-, rfl⟩ := Prod.mk.inj (done.symm.trans append)
      exact ⟨events ++ [event], by simp [known], returned.append_right [event], grown,
        by simp [healthy, settled]⟩
    · cases refused.symm.trans append
    · cases cut.symm.trans append
  | @refused history store next event error io before append same ih =>
    obtain ⟨events, known, returned, consistent⟩ := ih
    rcases append_cases consistent.1 consistent.settled event io with
      ⟨after, done, -⟩ | ⟨_, refused⟩ | ⟨_, after, cut, -, healthy, spoiled, -⟩
    · cases done.symm.trans append
    · obtain ⟨-, rfl⟩ := Prod.mk.inj (refused.symm.trans append)
      exact ⟨events, known, returned, consistent⟩
    · obtain ⟨-, rfl⟩ := Prod.mk.inj (cut.symm.trans append)
      rw [spoiled, healthy] at same
      cases same
  | @interrupted history store next event error io before append changed ih =>
    obtain ⟨events, known, returned, consistent⟩ := ih
    rcases append_cases consistent.1 consistent.settled event io with
      ⟨after, done, -⟩ | ⟨_, refused⟩ | ⟨_, after, cut, kept, -, spoiled, files⟩
    · cases done.symm.trans append
    · obtain ⟨-, rfl⟩ := Prod.mk.inj (refused.symm.trans append)
      exact absurd rfl changed
    · obtain ⟨-, rfl⟩ := Prod.mk.inj (cut.symm.trans append)
      refine ⟨events, known, returned, kept, ?_⟩
      rw [if_pos spoiled]
      rcases files with old | ⟨good, longer⟩
      · exact ⟨events, .inl rfl, kept.good, old⟩
      · exact ⟨events ++ [event], .inr ⟨event, rfl, rfl⟩, good, longer⟩
  | died before ih =>
    obtain ⟨events, known, returned, consistent⟩ := ih
    exact ⟨events, known, returned, consistent.leftBehind⟩
  | @reopened history disk left store io before opening ih =>
    obtain ⟨events, known, returned, found, which, good, intact⟩ := ih
    rcases reopen_intact fits good intact io with
      ⟨_, opens, -, holds, healthy, settled⟩ | ⟨_, _, fails, -⟩
    · obtain ⟨same, -⟩ := Prod.mk.inj (opens.symm.trans opening)
      obtain rfl := Except.ok.inj same
      have kept : events.Sublist found := by
        rcases which with rfl | ⟨event, -, rfl⟩
        · exact List.Sublist.refl _
        · exact sublist_append_left _ _
      exact ⟨found, holds.events_eq, returned.trans kept, holds, by simp [healthy, settled]⟩
    · cases fails.symm.trans opening
  | @failed history disk left error io before opening ih =>
    obtain ⟨events, known, returned, found, which, good, intact⟩ := ih
    rcases reopen_intact fits good intact io with ⟨_, opens, -⟩ | ⟨_, _, fails, kept, -⟩
    · cases opens.symm.trans opening
    · obtain ⟨-, rfl⟩ := Prod.mk.inj (fails.symm.trans opening)
      exact ⟨events, known, returned, found, which, good, kept⟩

/-- The lines of the files are the events, or also the one of the interrupted append. -/
theorem LeftBehind.lines (left : LeftBehind crates header events interrupted disk) :
    disk.events = .created header :: events ∨
      ∃ event, interrupted = some event ∧
        disk.events = .created header :: events ++ [event] := by
  obtain ⟨found, which, -, intact⟩ := left
  rw [Disk.events, intact.journal, map_event_chain]
  rcases which with rfl | ⟨event, cut, rfl⟩
  · exact .inl rfl
  · exact .inr ⟨event, cut, rfl⟩

/-! ### Journals that were cut -/

end

/-! ### A store with a deep payload -/

/-- Crates with one tag for everything and a reader that loses nothing. -/
def plainCrates : Crates :=
  ⟨fun _ _ _ _ => genesisChecksum, fun _ _ _ => genesisChecksum, id,
    fun _ _ _ _ => genesisChecksum_canonical, fun _ _ _ => genesisChecksum_canonical⟩

/-- Small limits. -/
def smallLimits : MessagingLimits := ⟨2, 4, 2, 2, 1, 1000, 64, 8, 100000, 3⟩

/-- A coordinator and a worker. -/
def pairAuthority : BTreeMap String RoleCategory :=
  .ofList [("lead", .delegatingCoordinator), ("worker", .nonDelegatingTerminalWorker)]

/-- Arrays around one another. -/
def nestedArrays : ℕ → Json
  | 0 => .array []
  | n + 1 => .array [nestedArrays n]

variable {payload : Json}

end Maco.Messaging
