import Maco.Messaging.Store

/-!
# The chain of a list of events

The lines a store writes are determined by the events: each line is chained to the one before. This
module says what reading such a chain back gives, and what the tail anchors of its prefixes are.
-/

namespace Maco.Messaging

open Maco.Base List
open Maco.Turn (RoleCategory)
open Json (membersNesting nesting reread rereadMembers)

/-- A line with this event can be read back: its payload, which lies three levels deep in the line,
is not too deep for the reader, and its numbers are read as they were written. -/
def StoreEvent.Readable (crates : Crates) : StoreEvent → Prop
  | .messageSent envelope => envelope.payload.nesting ≤ 124 ∧
      (envelope.payload.reread crates.readFloat).chars = envelope.payload.chars
  | _ => True

instance (crates : Crates) (event : StoreEvent) : Decidable (event.Readable crates) :=
  match event with
  | .messageSent _ => inferInstanceAs (Decidable (_ ∧ _))
  | .created _ => .isTrue trivial
  | .channelCreated _ => .isTrue trivial
  | .deliveryAttempted _ _ _ => .isTrue trivial
  | .acknowledged _ _ => .isTrue trivial

theorem MessagingLimits.nesting_document (limits : MessagingLimits) :
    limits.document.nesting = 1 := rfl

theorem JournalRecord.nesting_document (record : JournalRecord) :
    record.document.nesting = record.event.document.nesting + 1 := by
  simp [JournalRecord.document, nesting, membersNesting]

/-- The reader takes a line, and writes it again as it was, exactly when its event is readable. -/
theorem JournalRecord.readable_iff (crates : Crates) (record : JournalRecord) :
    (record.document.nesting ≤ readerNesting ∧
      (record.document.reread crates.readFloat).chars = record.document.chars) ↔
      record.event.Readable crates := by
  rw [record.nesting_document, readerNesting]
  simp only [JournalRecord.document, reread, rereadMembers]
  cases record.event with
  | created header =>
    have authority := authorityDocument_nesting header.authorityBinding
    have limits := header.limits.nesting_document
    have fixed : header.limits.document.reread crates.readFloat = header.limits.document := rfl
    simp only [StoreEvent.document, StoreEvent.Readable, nesting, membersNesting, reread,
      rereadMembers, authorityDocument_reread, fixed, iff_true, and_true]
    omega
  | channelCreated channel =>
    have shallow := channel.nesting_document
    simp only [StoreEvent.document, StoreEvent.Readable, nesting, membersNesting, reread,
      rereadMembers, GovernedChannel.reread_document, iff_true, and_true]
    omega
  | messageSent envelope =>
    have bounds := envelope.nesting_document
    refine and_congr ?_ ?_
    · simp only [StoreEvent.document, nesting, membersNesting]
      omega
    · -- Around the payload both texts are the same.
      simp only [StoreEvent.document, MessageEnvelope.document, reread, rereadMembers,
        MessageAddress.reread_document, recipientsDocument_reread, Json.chars, Json.memberChars,
        commaSeparated, append_assoc, cons_append, cons.injEq, true_and, append_cancel_left_eq,
        append_cancel_right_eq]
  | deliveryAttempted messageId recipientId attempt =>
    simp [StoreEvent.document, StoreEvent.Readable, nesting, membersNesting, reread, rereadMembers]
  | acknowledged messageId recipientId =>
    simp [StoreEvent.document, StoreEvent.Readable, nesting, membersNesting, reread, rereadMembers]

section

variable (crates : Crates)

/-- The line of an event at a place in the chain. -/
def recordFor (sequence : ℕ) (previous : String) (event : StoreEvent) : JournalRecord :=
  ⟨journalFormatVersion, sequence, previous, event,
    crates.checksum journalFormatVersion sequence previous event⟩

/-- The lines of events from a place in the chain on. -/
def chainFrom (sequence : ℕ) (previous : String) : List StoreEvent → List JournalRecord
  | [] => []
  | event :: events =>
    recordFor crates sequence previous event ::
      chainFrom (sequence + 1)
        (crates.checksum journalFormatVersion sequence previous event) events

/-- The checksum after events from a place in the chain on. -/
def checksumFrom (sequence : ℕ) (previous : String) : List StoreEvent → String
  | [] => previous
  | event :: events =>
    checksumFrom (sequence + 1)
      (crates.checksum journalFormatVersion sequence previous event) events

section

variable (events : List StoreEvent)

/-- The lines of a list of events. -/
def chain : List JournalRecord :=
  chainFrom crates 0 genesisChecksum events

/-- The last checksum of the lines of a list of events. -/
def lastChecksum : String :=
  checksumFrom crates 0 genesisChecksum events

/-- The line that follows the lines of a list of events. -/
def nextRecord (event : StoreEvent) : JournalRecord :=
  recordFor crates events.length (lastChecksum crates events) event

/-- The checkpoint at the end of a list of events. -/
def checkpointOf : JournalCheckpoint :=
  ⟨journalBytes (chain crates events), events.length - 1,
    lastChecksum crates events⟩

/-- The checkpoints of every line of a list of events. -/
def checkpoints : List JournalCheckpoint :=
  (List.range events.length).map fun n => checkpointOf crates (events.take (n + 1))

/-- The tail anchor of a list of events. -/
def anchorOf : TailAnchor :=
  encodedTailAnchor crates (checkpointOf crates events)

end

variable {crates : Crates}

theorem chainFrom_append (events later : List StoreEvent) (sequence : ℕ) (previous : String) :
    chainFrom crates sequence previous (events ++ later) =
      chainFrom crates sequence previous events ++
        chainFrom crates (sequence + events.length)
          (checksumFrom crates sequence previous events) later := by
  induction events generalizing sequence previous with
  | nil => rfl
  | cons event events ih =>
    simp only [cons_append, chainFrom, checksumFrom, ih, length_cons]
    rw [show sequence + (events.length + 1) = sequence + 1 + events.length by omega]

theorem checksumFrom_append (events later : List StoreEvent) (sequence : ℕ) (previous : String) :
    checksumFrom crates sequence previous (events ++ later) =
      checksumFrom crates (sequence + events.length)
        (checksumFrom crates sequence previous events) later := by
  induction events generalizing sequence previous with
  | nil => rfl
  | cons event events ih =>
    simp only [cons_append, checksumFrom, ih, length_cons]
    rw [show sequence + (events.length + 1) = sequence + 1 + events.length by omega]

section

variable (events : List StoreEvent)

theorem chain_snoc (event : StoreEvent) :
    chain crates (events ++ [event]) =
      chain crates events ++ [nextRecord crates events event] := by
  rw [chain, chainFrom_append, Nat.zero_add]
  rfl

theorem lastChecksum_snoc (event : StoreEvent) :
    lastChecksum crates (events ++ [event]) =
      (nextRecord crates events event).checksum := by
  rw [lastChecksum, checksumFrom_append, Nat.zero_add]
  rfl

@[simp] theorem length_chain : (chain crates events).length = events.length := by
  induction events using List.reverseRecOn with
  | nil => rfl
  | append_singleton events event ih => rw [chain_snoc]; simp [ih]

@[simp] theorem map_event_chain :
    (chain crates events).map JournalRecord.event = events := by
  induction events using List.reverseRecOn with
  | nil => rfl
  | append_singleton events event ih =>
    rw [chain_snoc, map_append, ih]
    rfl

end

variable {events : List StoreEvent}

theorem chain_injective
    (same : chain crates events = chain crates later) : events = later := by
  rw [← @map_event_chain crates events, same, map_event_chain]

theorem journalBytes_append (journal later : List JournalRecord) :
    journalBytes (journal ++ later) = journalBytes journal + journalBytes later := by
  simp [journalBytes]

theorem journalBytes_snoc (events : List StoreEvent) (event : StoreEvent) :
    journalBytes (chain crates (events ++ [event])) =
      journalBytes (chain crates events) +
        (nextRecord crates events event).lineBytes := by
  rw [chain_snoc, journalBytes_append]
  simp [journalBytes]

theorem journalBytes_pos (lines : journal ≠ []) : 0 < journalBytes journal := by
  cases journal with
  | nil => exact absurd rfl lines
  | cons record journal =>
    rw [journalBytes, map_cons, sum_cons, JournalRecord.lineBytes]
    omega

/-- A journal cut at a line is shorter. -/
theorem journalBytes_lt_of_prefix (cut : journal <+: full)
    (proper : journal ≠ full) : journalBytes journal < journalBytes full := by
  obtain ⟨rest, rfl⟩ := cut
  have lines : rest ≠ [] := by
    rintro rfl
    exact proper (append_nil journal).symm
  have more := journalBytes_pos lines
  rw [journalBytes_append]
  omega

theorem chain_take_isPrefix (events : List StoreEvent) (n : ℕ) :
    chain crates (events.take n) <+: chain crates events := by
  have whole := congrArg (chain crates) (take_append_drop n events)
  rw [chain, chainFrom_append] at whole
  rw [← whole]
  exact prefix_append _ _

variable {n : ℕ}

/-- The checkpoint of a proper prefix counts fewer bytes. -/
theorem checkpointOf_take_lt (proper : n < events.length) :
    (checkpointOf crates (events.take n)).journalBytes <
      journalBytes (chain crates events) := by
  refine journalBytes_lt_of_prefix (chain_take_isPrefix events n) fun same => ?_
  have shorter := congrArg List.length (chain_injective same)
  rw [length_take] at shorter
  omega

theorem checkpoints_snoc (events : List StoreEvent) (event : StoreEvent) :
    checkpoints crates (events ++ [event]) =
      checkpoints crates events ++ [checkpointOf crates (events ++ [event])] := by
  rw [checkpoints, length_append, length_singleton, range_succ, map_append]
  congr 1
  · refine map_congr_left fun n member => ?_
    rw [take_append_of_le_length]
    have bound := mem_range.mp member
    omega
  · rw [map_singleton, take_of_length_le (by simp)]

theorem checkpoints_getLast (some_event : events ≠ []) :
    (checkpoints crates events).getLast? = some (checkpointOf crates events) := by
  obtain ⟨earlier, event, rfl⟩ := (eq_nil_or_concat events).resolve_left some_event
  rw [concat_eq_append, checkpoints_snoc, getLast?_concat]

/-- Every prefix with a line has its checkpoint. -/
theorem mem_checkpoints (within : n < events.length) :
    checkpointOf crates (events.take (n + 1)) ∈ checkpoints crates events :=
  mem_map.mpr ⟨n, mem_range.mpr within, rfl⟩

theorem genesisChecksum_canonical : isCanonicalAuthenticationTag genesisChecksum = true := by
  decide +kernel

theorem lastChecksum_canonical (events : List StoreEvent) :
    isCanonicalAuthenticationTag (lastChecksum crates events) = true := by
  rcases eq_nil_or_concat events with rfl | ⟨earlier, event, rfl⟩
  · exact genesisChecksum_canonical
  · rw [concat_eq_append, lastChecksum_snoc]
    exact crates.checksum_canonical _ _ _ _

/-- The tail anchor of a list of events is read back. -/
theorem readTailAnchor_anchorOf (some_event : events ≠ []) :
    readTailAnchor crates (.anchor (anchorOf crates events)) =
      .ok (anchorOf crates events) := by
  have lines : chain crates events ≠ [] := by
    intro none
    exact some_event (by simpa using congrArg List.length none)
  have bytes := journalBytes_pos lines
  have checksum := @lastChecksum_canonical crates events
  have tag := crates.tag_canonical (journalBytes (chain crates events))
    (events.length - 1) (lastChecksum crates events)
  simp only [readTailAnchor, anchorOf, encodedTailAnchor, checkpointOf, ok_iff, ne_eq,
    not_true_eq_false, not_false_eq_true, true_and, not_or, and_true, checksum, tag]
  omega

/-- An anchor matches the checkpoint it was made for. -/
theorem anchorOf_matches (events : List StoreEvent) :
    tailAnchorMatchesCheckpoint (anchorOf crates events)
      (checkpointOf crates events) = true := by
  simp [tailAnchorMatchesCheckpoint, anchorOf, encodedTailAnchor]

/-- Among the anchors of the prefixes, only the last one matches the last checkpoint. -/
theorem anchorOf_take_matches
    (same : tailAnchorMatchesCheckpoint (anchorOf crates (events.take n))
      (checkpointOf crates events) = true) : events.take n = events := by
  by_cases within : n < events.length
  · have less := @checkpointOf_take_lt crates events n within
    simp only [tailAnchorMatchesCheckpoint, anchorOf, encodedTailAnchor, Bool.and_eq_true,
      beq_iff_eq] at same
    have bytes := same.1.1
    simp only [checkpointOf] at less bytes
    omega
  · exact take_of_length_le (by omega)

/-! ### Reading a chain -/

/-- The header of a journal is the one `open` expects. -/
structure Fits (expected : Expected) (header : StoreHeader) : Prop where
  valid : validateHeader header = .ok ()
  binding : isCanonicalIdentifier expected.brokerBinding maxBrokerInstanceIdBytes = true
  generation : ∃ generation, generation ≠ "" ∧
    header.brokerInstanceId = expected.brokerBinding ++ "-" ++ generation
  authority : header.authorityBinding = expected.authorityBinding
  limits : header.limits = expected.limits

variable {expected : Expected} {header : StoreHeader}

/-- A header that fits is recovered. -/
theorem Fits.recoverHeader (fits : Fits expected header) :
    recoverHeader expected (.created header) = .ok header := by
  obtain ⟨generation, present, instance_id⟩ := fits.generation
  have stripped : (stripStart header.brokerInstanceId expected.brokerBinding).bind
      (fun rest => stripStart rest "-") = some generation := by
    rw [instance_id, String.append_assoc, stripStart_append, Option.bind_some, stripStart_append]
  simp only [Messaging.recoverHeader, ok_iff, fits.valid, stripped, fits.authority, fits.limits,
    true_and, ne_eq, not_true_eq_false, not_false_eq_true, and_true]
  simp [present]

/-- The state of the loop after the lines of a store. -/
def readingOf (crates : Crates) (header : StoreHeader) (events : List StoreEvent)
    (replayed : ReplayedState) : Reading :=
  { header := some header
    events := .created header :: events
    previousChecksum := lastChecksum crates (.created header :: events)
    lastSequence := events.length
    replayed
    checkpoints := checkpoints crates (.created header :: events)
    journalOffset := journalBytes (chain crates (.created header :: events)) }

variable {reading : Reading} {event : StoreEvent}

/-- The line that follows some lines passes the checks exactly when it can be read. -/
theorem checkLine_nextRecord (events : List StoreEvent)
    (index : reading.events.length = events.length)
    (previous : reading.previousChecksum = lastChecksum crates events) :
    checkLine crates reading (nextRecord crates events event) = .ok () ↔
      event.Readable crates := by
  have canonical := @lastChecksum_canonical crates events
  have tagged := crates.checksum_canonical journalFormatVersion events.length
    (lastChecksum crates events) event
  have readable := (nextRecord crates events event).readable_iff crates
  rw [show (nextRecord crates events event).event = event from rfl] at readable
  rw [← readable]
  simp only [checkLine, ok_iff, not_lt, not_not, ne_eq, index, previous]
  simp [nextRecord, recordFor, canonical, tagged]

/-- Reading the line that follows some lines adds its event. -/
theorem readRecord_nextRecord {next : Reading} (events : List StoreEvent)
    (index : reading.events.length = events.length)
    (previous : reading.previousChecksum = lastChecksum crates events) :
    readRecord crates expected reading (nextRecord crates events event) = .ok next ↔
      event.Readable crates ∧ ∃ header replayed,
        replayLine expected reading event = .ok (header, replayed) ∧
        next =
          { header := some header
            events := reading.events ++ [event]
            previousChecksum := lastChecksum crates (events ++ [event])
            lastSequence := events.length
            replayed
            checkpoints := reading.checkpoints ++
              [⟨reading.journalOffset + (nextRecord crates events event).lineBytes,
                events.length, lastChecksum crates (events ++ [event])⟩]
            journalOffset :=
              reading.journalOffset + (nextRecord crates events event).lineBytes } := by
  rw [readRecord, bind_ok]
  simp only [checkLine_nextRecord events index previous, ok_iff, Prod.exists, lastChecksum_snoc]
  constructor
  · rintro ⟨readable, header, replayed, replays, rfl⟩
    exact ⟨readable, header, replayed, replays, rfl⟩
  · rintro ⟨readable, header, replayed, replays, rfl⟩
    exact ⟨readable, header, replayed, replays, rfl⟩

/-- A creation event is never replayed. -/
theorem ReplayedState.advance_not_created {state next : ReplayedState}
    (advanced : state.advance header event = .ok next) : ¬ event.isCreated = true := by
  cases event with
  | created other => cases advanced
  | channelCreated channel => exact Bool.false_ne_true
  | messageSent envelope => exact Bool.false_ne_true
  | deliveryAttempted messageId recipientId attempt => exact Bool.false_ne_true
  | acknowledged messageId recipientId => exact Bool.false_ne_true

/-- One more event makes one more line to read. -/
theorem readingOf_snoc (header : StoreHeader) (events : List StoreEvent) (event : StoreEvent)
    (before after : ReplayedState) :
    readingOf crates header (events ++ [event]) after =
      { header := some header
        events := (readingOf crates header events before).events ++ [event]
        previousChecksum := lastChecksum crates (.created header :: events ++ [event])
        lastSequence := (StoreEvent.created header :: events).length
        replayed := after
        checkpoints := (readingOf crates header events before).checkpoints ++
          [⟨(readingOf crates header events before).journalOffset +
              (nextRecord crates (.created header :: events) event).lineBytes,
            (StoreEvent.created header :: events).length,
            lastChecksum crates (.created header :: events ++ [event])⟩]
        journalOffset := (readingOf crates header events before).journalOffset +
          (nextRecord crates (.created header :: events) event).lineBytes } := by
  simp only [readingOf, ← cons_append, checkpoints_snoc, journalBytes_snoc, checkpointOf,
    length_append, length_cons, length_nil, Nat.zero_add, Nat.add_sub_cancel]

/-- The lines of a store are read back exactly when every line can be read and the events replay. -/
theorem read_chain (fits : Fits expected header) (events : List StoreEvent) :
    (chain crates (.created header :: events)).foldlM
        (readRecord crates expected) .start = .ok reading ↔
      (∀ event ∈ events, event.Readable crates) ∧ ∃ replayed,
        replayEvents header events = .ok replayed ∧
        reading = readingOf crates header events replayed := by
  induction events using List.reverseRecOn generalizing reading with
  | nil =>
    have first : chain crates [StoreEvent.created header] =
        [nextRecord crates [] (.created header)] := rfl
    rw [first, foldlM_cons, bind_ok]
    simp only [foldlM_nil, pure_ok, exists_eq_right]
    rw [readRecord_nextRecord [] rfl rfl]
    simp only [replayLine, Reading.start, fits.recoverHeader, ok_bind, pure_ok, Prod.mk.injEq,
      replayEvents, foldlM_nil, StoreEvent.Readable]
    constructor
    · rintro ⟨-, recovered, replayed, ⟨rfl, rfl⟩, rfl⟩
      refine ⟨by simp, _, rfl, ?_⟩
      simp [readingOf, checkpoints, checkpointOf, first, journalBytes, lastChecksum, checksumFrom]
    · rintro ⟨-, replayed, rfl, rfl⟩
      refine ⟨trivial, header, _, ⟨rfl, rfl⟩, ?_⟩
      simp [readingOf, checkpoints, checkpointOf, first, journalBytes, lastChecksum, checksumFrom]
  | append_singleton events event ih =>
    rw [← cons_append, chain_snoc, foldlM_append, bind_ok]
    simp only [foldlM_cons, foldlM_nil, ok_iff, exists_eq_right, ih]
    constructor
    · rintro ⟨before, ⟨readable, replayed, replays, rfl⟩, read⟩
      rw [readRecord_nextRecord (.created header :: events) rfl rfl] at read
      obtain ⟨last, found, next, advanced, rfl⟩ := read
      simp only [replayLine, readingOf, ok_iff, Option.some.injEq, Prod.mk.injEq] at advanced
      obtain ⟨-, _, rfl, after, stepped, rfl, rfl⟩ := advanced
      refine ⟨by simpa [or_imp, forall_and] using ⟨readable, last⟩, after, ?_, ?_⟩
      · rw [replayEvents, foldlM_append, ← replayEvents, replays, ok_bind]
        simpa using stepped
      · exact (readingOf_snoc header events event replayed after).symm
    · rintro ⟨readable, replayed, replays, rfl⟩
      rw [replayEvents, foldlM_append, ← replayEvents, bind_ok] at replays
      obtain ⟨before, earlier, stepped⟩ := replays
      simp only [foldlM_cons, foldlM_nil, ok_iff, exists_eq_right] at stepped
      refine ⟨_, ⟨fun other member => readable other (by simp [member]), before, earlier, rfl⟩, ?_⟩
      rw [readRecord_nextRecord (.created header :: events) rfl rfl]
      refine ⟨readable event (by simp), header, replayed, ?_, ?_⟩
      · simp only [replayLine, readingOf, ok_iff, Option.some.injEq, Prod.mk.injEq]
        exact ⟨ReplayedState.advance_not_created stepped, header, rfl, replayed, stepped, rfl, rfl⟩
      · exact readingOf_snoc header events event before replayed

end

end Maco.Messaging
