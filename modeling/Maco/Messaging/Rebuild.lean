import Maco.Messaging.Agreement

/-!
# Rebuilding a broker from its journal

The runs of a broker: it is created, serves calls, dies at any point and is opened again, where an
append and an open may each be cut after any of their steps. The journal then always replays. A
broker opened from it has the channels, messages, delivery states, order and next sequence of the
broker that wrote it exactly when every line can be read and no interrupted event lies in the
journal.
-/

namespace Maco.Messaging

open Maco.Base MessagingBroker
open Maco.Turn (RoleCategory)

/-- A process that holds a broker open, or only its files. -/
inductive BrokerSystem where
  | running (broker : MessagingBroker)
  | stopped (disk : Disk)

/-- The runs of a broker. -/
inductive BrokerReaches (setting : Setting) : BrokerSystem → Prop
  | created {generation : String} {broker : MessagingBroker} (present : generation ≠ "")
      (made : create setting generation = .ok broker) :
      BrokerReaches setting (.running broker)
  | performed {broker : MessagingBroker} (before : BrokerReaches setting (.running broker))
      (request : Request) (io : ℕ) :
      BrokerReaches setting (.running (broker.perform setting request io).2)
  | died {broker : MessagingBroker} (before : BrokerReaches setting (.running broker)) :
      BrokerReaches setting (.stopped broker.store.disk)
  | reopened {disk left : Disk} {broker : MessagingBroker} {io : ℕ}
      (before : BrokerReaches setting (.stopped disk))
      (opening : reopen setting disk io = (.ok broker, left)) :
      BrokerReaches setting (.running broker)
  | failed {disk left : Disk} {error : MessagingError} {io : ℕ}
      (before : BrokerReaches setting (.stopped disk))
      (opening : reopen setting disk io = (.error error, left)) :
      BrokerReaches setting (.stopped left)

section

variable {setting : Setting} {header : StoreHeader} {events : List StoreEvent} {disk : Disk}
  {broker : MessagingBroker}

/-- The files hold these events, and the events replay. -/
structure Replays (setting : Setting) (header : StoreHeader) (events : List StoreEvent)
    (disk : Disk) : Prop where
  good : Good setting.crates header events
  intact : Intact setting.crates (.created header :: events) disk
  tracks : ∃ replica, Tracks setting header events replica

/-- The files of a broker: settled, or left by an interrupted append. -/
def FilesOf (setting : Setting) (header : StoreHeader) (events : List StoreEvent)
    (store : MessagingStore) : Prop :=
  if store.poisoned = true then
    ∃ found, (found = events ∨ ∃ event, found = events ++ [event]) ∧
      Replays setting header found store.disk
  else Settled setting.crates (.created header :: events) store.disk

/-- A broker in a run. -/
structure BrokerHolds (setting : Setting) (header : StoreHeader) (events : List StoreEvent)
    (broker : MessagingBroker) : Prop where
  credentials : broker.credentials = setting.credentials
  authority : broker.authorityBinding = setting.authorityBinding
  limits : broker.limits = setting.limits
  holds : Holds setting.crates header events broker.store
  tracks : Tracks setting header events broker.toReplica
  files : FilesOf setting header events broker.store

section

variable (holds : BrokerHolds setting header events broker)

include holds

theorem BrokerHolds.serves : Serves setting header broker :=
  ⟨holds.credentials, holds.authority, holds.limits, holds.holds.header_eq,
    holds.tracks.channelsValid⟩

/-- The files of a broker in a run replay. -/
theorem BrokerHolds.replays :
    ∃ found, (found = events ∨ ∃ event, found = events ++ [event]) ∧
      Replays setting header found broker.store.disk := by
  have files := holds.files
  unfold FilesOf at files
  split at files
  · exact files
  · exact ⟨events, .inl rfl, holds.holds.good, files.intact (List.cons_ne_nil _ _), _, holds.tracks⟩

theorem BrokerHolds.settled (healthy : broker.store.poisoned = false) :
    Settled setting.crates (.created header :: events) broker.store.disk := by
  have files := holds.files
  rwa [FilesOf, if_neg (by simp [healthy])] at files

/-- The lines of a broker that is not poisoned are the events it knows. -/
theorem BrokerHolds.lines (healthy : broker.store.poisoned = false) :
    broker.store.disk.events = broker.store.events := by
  rw [Disk.events, (holds.settled healthy).journal, map_event_chain, holds.holds.events_eq]

/-- A call of a broker in a run leaves a broker in a run. -/
theorem BrokerHolds.perform (request : Request) (io : ℕ) :
    ∃ after, BrokerHolds setting header after (broker.perform setting request io).2 := by
  rcases perform_proceeds holds.serves request with
    ⟨answer, same⟩ | ⟨event, answer, after, applied, done⟩
  · rw [same]
    exact ⟨events, holds⟩
  · rw [done, committed]
    have longer : Tracks setting header (events ++ [event]) after :=
      tracks_snoc.mpr ⟨_, holds.tracks, applied⟩
    rcases append_cases holds.holds holds.settled event io with
      ⟨next, appended, grown, healthy, settled⟩ | ⟨error, refused⟩ |
      ⟨error, next, cut, kept, -, spoiled, left⟩
    · rw [appended]
      refine ⟨events ++ [event],
        ⟨holds.credentials, holds.authority, holds.limits, grown, longer, ?_⟩⟩
      rwa [FilesOf, if_neg (by simp [healthy])]
    · rw [refused]
      exact ⟨events, { holds with }⟩
    · rw [cut]
      refine ⟨events, ⟨holds.credentials, holds.authority, holds.limits, kept, holds.tracks, ?_⟩⟩
      rw [FilesOf, if_pos spoiled]
      rcases left with old | ⟨good, new⟩
      · exact ⟨events, .inl rfl, kept.good, old, _, holds.tracks⟩
      · exact ⟨events ++ [event], .inr ⟨event, rfl⟩, good, new, _, longer⟩

end

/-- The replay of a store with these events, read off its fields. -/
theorem fromStore_holds {store : MessagingStore} (fits : Fits setting.expected header)
    (holds : Holds setting.crates header events store) :
    fromStore setting store = (do
      let replica ← events.foldlM (Replica.applyEvent setting header) .new
      pure { replica with
        store
        credentials := setting.credentials
        authorityBinding := setting.authorityBinding
        limits := setting.limits }) := by
  have authority : header.authorityBinding = setting.authorityBinding := fits.authority
  have limits : header.limits = setting.limits := fits.limits
  rw [fromStore, replay, holds.events_eq, holds.header_eq]
  simp only [authority, limits, refuseIf, ne_eq, not_true_eq_false, or_self, if_false, ok_bind]

theorem isWhitespace_of_isIdentifierChar (identifier : isIdentifierChar c = true) :
    isWhitespace c = false := by
  by_cases colon : c = ':'
  · rw [colon]
    decide
  · apply isWhitespace_of_isNameChar
    simpa [isIdentifierChar, isNameChar, colon, or_assoc] using identifier

/-- An identity that begins with the binding of a setting makes the binding an identifier. -/
theorem brokerBinding_canonical (canonical : isCanonicalIdentifier (setting.brokerBinding ++ rest)
      maxBrokerInstanceIdBytes = true) :
    isCanonicalIdentifier setting.brokerBinding maxBrokerInstanceIdBytes = true := by
  simp only [isCanonicalIdentifier, Bool.and_eq_true, bne_iff_ne, beq_iff_eq, decide_eq_true_eq,
    byteLength, String.utf8ByteSize_append, allChars, String.toList_append, List.all_append]
    at canonical ⊢
  obtain ⟨⟨⟨⟨⟨-, length⟩, -⟩, -⟩, -⟩, chars, -⟩ := canonical
  have start : setting.brokerBinding.toList = 'm' :: ("essaging-v1-".toList ++
      setting.digest.toList) := by
    rw [Setting.brokerBinding, String.toList_append]
    rfl
  have other (text : String) (different : text.toList.head? ≠ some 'm') :
      setting.brokerBinding ≠ text := by
    rintro rfl
    exact different (by rw [start]; rfl)
  refine ⟨⟨⟨⟨⟨other "" (by decide), by omega⟩, trim_eq_self ?_⟩, other "." (by decide)⟩,
    other ".." (by decide)⟩, chars⟩
  intro c member
  exact isWhitespace_of_isIdentifierChar (List.all_eq_true.mp chars c member)

/-- A created broker is in a run. -/
theorem create_holds (present : generation ≠ "") (made : create setting generation = .ok broker) :
    checkSetting setting = .ok () ∧
      ∃ header, Fits setting.expected header ∧ BrokerHolds setting header [] broker := by
  simp only [create, bind_ok, mapError_ok] at made
  obtain ⟨_, checked, store, created, opened⟩ := made
  obtain ⟨valid, holds, healthy, settled⟩ := create_settled created
  have canonical : isCanonicalIdentifier (setting.brokerBinding ++ "-" ++ generation)
      maxBrokerInstanceIdBytes = true := by
    simp only [validateHeader, ok_iff, not_not] at valid
    exact valid.1
  rw [String.append_assoc] at canonical
  have fits : Fits setting.expected
      ⟨setting.brokerBinding ++ "-" ++ generation, setting.authorityBinding, setting.limits⟩ :=
    ⟨valid, brokerBinding_canonical canonical, ⟨generation, present, rfl⟩, rfl, rfl⟩
  refine ⟨checked, _, fits, ?_⟩
  rw [fromStore_holds fits holds] at opened
  obtain rfl := Except.ok.inj opened
  refine ⟨rfl, rfl, rfl, holds, rfl, ?_⟩
  rw [FilesOf, if_neg (by simp [healthy])]
  exact settled

/-- An open of files that replay: it returns a broker in a run when every line can be read and no
step fails; otherwise the files it leaves replay. -/
theorem reopen_holds (checked : checkSetting setting = .ok ())
    (fits : Fits setting.expected header) (replays : Replays setting header events disk) (io : ℕ) :
    (∃ opened left, reopen setting disk io = (.ok opened, left) ∧
      (∀ event ∈ events, event.Readable setting.crates) ∧
        BrokerHolds setting header events opened) ∨
    ∃ error left, reopen setting disk io = (.error error, left) ∧
      Replays setting header events left ∧
        ((∀ event ∈ events, event.Readable setting.crates) → io < 5) := by
  obtain ⟨replica, tracks⟩ := replays.tracks
  rw [reopen, checked]
  rcases reopen_intact fits replays.good replays.intact io with
    ⟨store, opens, readable, holds, healthy, settled⟩ | ⟨error, left, fails, kept, short⟩
  · have rebuilt := fromStore_holds fits holds
    rw [tracks, ok_bind] at rebuilt
    simp only [opens, rebuilt]
    refine .inl ⟨_, _, rfl, readable, rfl, rfl, rfl, holds, tracks, ?_⟩
    rwa [FilesOf, if_neg (by simp [healthy])]
  · simp only [fails]
    exact .inr ⟨_, left, rfl, ⟨replays.good, kept, replays.tracks⟩, short⟩

/-- What every system of a run satisfies. -/
def BrokerSystem.Consistent (setting : Setting) (header : StoreHeader) : BrokerSystem → Prop
  | .running broker => ∃ events, BrokerHolds setting header events broker
  | .stopped disk => ∃ events, Replays setting header events disk

/-- Every system of a run is consistent. -/
theorem BrokerReaches.consistent {system : BrokerSystem} (reaches : BrokerReaches setting system) :
    checkSetting setting = .ok () ∧
      ∃ header, Fits setting.expected header ∧ system.Consistent setting header := by
  induction reaches with
  | created present made =>
    obtain ⟨checked, header, fits, holds⟩ := create_holds present made
    exact ⟨checked, header, fits, [], holds⟩
  | performed before request io ih =>
    obtain ⟨checked, header, fits, events, holds⟩ := ih
    exact ⟨checked, header, fits, holds.perform request io⟩
  | died before ih =>
    obtain ⟨checked, header, fits, events, holds⟩ := ih
    obtain ⟨found, -, replays⟩ := holds.replays
    exact ⟨checked, header, fits, found, replays⟩
  | @reopened disk left broker io before opening ih =>
    obtain ⟨checked, header, fits, events, replays⟩ := ih
    rcases reopen_holds checked fits replays io with ⟨_, _, opens, -, holds⟩ | ⟨_, _, fails, -⟩
    · obtain ⟨same, -⟩ := Prod.mk.inj (opens.symm.trans opening)
      obtain rfl := Except.ok.inj same
      exact ⟨checked, header, fits, events, holds⟩
    · cases fails.symm.trans opening
  | @failed disk left error io before opening ih =>
    obtain ⟨checked, header, fits, events, replays⟩ := ih
    rcases reopen_holds checked fits replays io with ⟨_, _, opens, -⟩ | ⟨_, _, fails, kept, -⟩
    · cases opens.symm.trans opening
    · obtain ⟨-, rfl⟩ := Prod.mk.inj (fails.symm.trans opening)
      exact ⟨checked, header, fits, events, kept⟩

/-- The files of a broker rebuild its state exactly when every line can be read and the lines are
the events the broker knows. -/
theorem BrokerHolds.rebuild_iff (checked : checkSetting setting = .ok ())
    (fits : Fits setting.expected header) (holds : BrokerHolds setting header events broker)
    (enough : 5 ≤ io) :
    (∃ rebuilt left, reopen setting broker.store.disk io = (.ok rebuilt, left) ∧
        rebuilt.toReplica = broker.toReplica) ↔
      (∀ event ∈ broker.store.disk.events, event.Readable setting.crates) ∧
        broker.store.disk.events = broker.store.events := by
  obtain ⟨found, which, replays⟩ := holds.replays
  have lines : broker.store.disk.events = .created header :: found := by
    rw [Disk.events, replays.intact.journal, map_event_chain]
  rw [lines, holds.holds.events_eq, List.forall_mem_cons, List.cons.injEq]
  rcases reopen_holds checked fits replays io with
    ⟨opened, left, opens, readable, again⟩ | ⟨_, _, fails, -, short⟩
  · constructor
    · rintro ⟨_, _, reopened, same⟩
      obtain rfl := Except.ok.inj (Prod.mk.inj (opens.symm.trans reopened)).1
      refine ⟨⟨trivial, readable⟩, rfl, ?_⟩
      rcases which with rfl | ⟨event, rfl⟩
      · rfl
      · obtain ⟨replica, tracks, applied⟩ := tracks_snoc.mp again.tracks
        obtain rfl := tracks.unique holds.tracks
        exact absurd same (applyEvent_ok applied).changes
    · rintro ⟨-, -, rfl⟩
      exact ⟨opened, left, opens, again.tracks.unique holds.tracks⟩
  · constructor
    · rintro ⟨_, _, reopened, -⟩
      cases fails.symm.trans reopened
    · exact fun readable => absurd (short readable.1.2) (not_lt.mpr enough)

/-- After every successful call of a broker in a run, opening its journal rebuilds exactly its state
when, and only when, every stored payload can be read back and no interrupted event lies in the
journal. -/
theorem reopen_rebuilds_iff (reaches : BrokerReaches setting (.running broker))
    {request : Request} {io : ℕ} {response : Response} {next : MessagingBroker}
    (done : broker.perform setting request io = (.ok response, next)) {io' : ℕ}
    (enough : 5 ≤ io') :
    (∃ rebuilt left, reopen setting next.store.disk io' = (.ok rebuilt, left) ∧
        rebuilt.toReplica = next.toReplica) ↔
      (∀ event ∈ next.store.disk.events, event.Readable setting.crates) ∧
        next.store.disk.events = next.store.events := by
  obtain ⟨checked, header, fits, events, holds⟩ := reaches.consistent
  obtain ⟨after, kept⟩ := holds.perform request io
  rw [done] at kept
  exact kept.rebuild_iff checked fits enough

end

/-! ### A deep payload -/

/-- A broker of the pair. -/
def pairSetting : Setting :=
  { credentials := .ofList [("lead", "lead-secret"), ("worker", "worker-secret")]
    authorityBinding := pairAuthority
    limits := smallLimits
    crates := plainCrates
    digest := "d" }

/-- A message from the lead to the worker. -/
def leadSends (payload : Json) : Request := .sendDirect ⟨"lead", "lead-secret"⟩ "worker" payload

/-- Whether a new broker of the pair sends a message. -/
def sendsMessage (payload : Json) : Option Bool :=
  (create pairSetting "g").toOption.map fun broker =>
    (broker.perform pairSetting (leadSends payload) 10).1.toOption.isSome

/-- Whether the store is then healthy, and whether every line of its journal can be read. -/
def journalReads (payload : Json) : Option (Bool × Bool) :=
  (create pairSetting "g").toOption.map fun broker =>
    let next := (broker.perform pairSetting (leadSends payload) 10).2
    (!next.store.poisoned, decide (∀ event ∈ next.store.disk.events, event.Readable plainCrates))

/-- A new broker of the pair sends the message, and its store is healthy. -/
theorem exists_sending_broker (evaluated : (sendsMessage payload, journalReads payload) =
      (some true, some (true, readable))) :
    ∃ broker response next, BrokerReaches pairSetting (.running broker) ∧
      broker.perform pairSetting (leadSends payload) 10 = (.ok response, next) ∧
      next.store.poisoned = false ∧
      decide (∀ event ∈ next.store.disk.events, event.Readable plainCrates) = readable := by
  obtain ⟨sends, reads⟩ := Prod.mk.inj evaluated
  obtain ⟨broker, made, sent⟩ := ok_of_toOption sends
  rw [journalReads, made] at reads
  cases performed : broker.perform pairSetting (leadSends payload) 10 with
  | mk result next =>
    rw [performed] at sent
    cases result with
    | error error => cases sent
    | ok response =>
      refine ⟨broker, response, next, .created (by decide) made, performed, ?_⟩
      simpa only [Except.toOption, Option.map_some, performed, Option.some.injEq, Prod.mk.injEq,
        Bool.not_eq_true'] using reads

theorem reopen_rebuilds_iff_flat :
    ∃ broker response next, BrokerReaches pairSetting (.running broker) ∧
      broker.perform pairSetting (leadSends .null) 10 = (.ok response, next) ∧
      ∃ rebuilt left, reopen pairSetting next.store.disk 5 = (.ok rebuilt, left) ∧
        rebuilt.toReplica = next.toReplica := by
  have evaluated : (sendsMessage .null, journalReads .null) = (some true, some (true, true)) := by
    decide +kernel
  obtain ⟨broker, response, next, reaches, performed, healthy, readable⟩ :=
    exists_sending_broker evaluated
  refine ⟨broker, response, next, reaches, performed, ?_⟩
  obtain ⟨-, header, -, events, holds⟩ :=
    (BrokerReaches.performed reaches (leadSends .null) 10).consistent
  rw [performed] at holds
  exact (reopen_rebuilds_iff reaches performed le_rfl).mpr
    ⟨of_decide_eq_true readable, holds.lines healthy⟩

/-- A payload of 125 arrays around one another is sent, and its journal is never opened again. -/
theorem reopen_after_deep_payload_fails :
    ∃ broker response next, BrokerReaches pairSetting (.running broker) ∧
      broker.perform pairSetting (leadSends (nestedArrays 124)) 10 = (.ok response, next) ∧
      ∀ io rebuilt left,
        reopen pairSetting next.store.disk io ≠ (.ok rebuilt, left) := by
  have evaluated : (sendsMessage (nestedArrays 124), journalReads (nestedArrays 124)) =
      (some true, some (true, false)) := by decide +kernel
  obtain ⟨broker, response, next, reaches, performed, -, unreadable⟩ :=
    exists_sending_broker evaluated
  refine ⟨broker, response, next, reaches, performed, fun io rebuilt left opened => ?_⟩
  obtain ⟨checked, header, fits, events, holds⟩ :=
    (BrokerReaches.performed reaches (leadSends (nestedArrays 124)) 10).consistent
  rw [performed] at holds
  obtain ⟨found, -, replays⟩ := holds.replays
  rcases reopen_holds checked fits replays io with ⟨_, _, -, readable, -⟩ | ⟨_, _, fails, -⟩
  · apply of_decide_eq_false unreadable
    rw [Disk.events, replays.intact.journal, map_event_chain, List.forall_mem_cons]
    exact ⟨trivial, readable⟩
  · cases fails.symm.trans opened

end Maco.Messaging
