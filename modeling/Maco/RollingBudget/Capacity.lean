import Maco.RollingBudget.ExactlyOnce

/-!
# Room for the terminal events

Every append leaves room for the terminal events of the reservations pending after it, a replayed
journal has that room, and settling a reservation uses the place kept for it. A process that holds
what it wrote can therefore settle all its reservations, in any order and with any valid charge.
A settlement that is published but forgotten takes a place and frees none.
-/

namespace Maco.RollingBudget

open Maco.Base Maco.Base.BTreeMap WorkspaceBudgetLedger World List

variable {codec : Codec}

/-- Every record, with its newline, is within the bound of a record. -/
def Codec.Bounded (codec : Codec) : Prop :=
  ∀ record, codec.encodedLength record + 1 ≤ maxRecordBytes

namespace WorkspaceBudgetLedger

variable {ledger : WorkspaceBudgetLedger codec}

/-- A reconciliation of a pending reservation that `reconcile_reservation` has no reason of its own
to refuse: valid data under the contract frozen at admission. -/
structure Settlable (ledger : WorkspaceBudgetLedger codec)
    (reconciliation : DurableBudgetReconciliation) (pricing : Option ChargePricing) : Prop where
  pending : ledger.unsettledReservations.contains reconciliation.reservationId = true
  valid : validateDurableReconciliation reconciliation = .ok ()
  contract : (ledger.reservationPricing reconciliation.reservationId).bind ChargePricing.contract =
    pricing.bind ChargePricing.contract

/-- The settlements of crash recovery, each after the ones before it, find the capacity they
need. -/
def RecoversWithinCapacity (recoveredAt : ℕ) :
    List DurableBudgetReservation → WorkspaceBudgetLedger codec → Prop
  | [], _ => True
  | reservation :: rest, ledger =>
    ∃ event, ledger.prepareRecovery recoveredAt reservation = .ok (some event) ∧
      ledger.appendCapacity event = .ok () ∧
      RecoversWithinCapacity recoveredAt rest (ledger.append event)

/-- No settlement of a pending reservation fails for lack of capacity, and neither does crash
recovery of all of them. -/
structure SettlesWithinCapacity (ledger : WorkspaceBudgetLedger codec) : Prop where
  reconcile : ∀ reconciliation pricing recovered, ledger.Settlable reconciliation pricing →
    ∃ event, ledger.prepareReconciliation reconciliation recovered pricing = .ok (some event) ∧
      ledger.appendCapacity event = .ok ()
  recover : ∀ recoveredAt,
    RecoversWithinCapacity recoveredAt (BTreeMap.values ledger.unsettledReservations) ledger

/-- The journal has room for every terminal event that is due. -/
def RoomForTerminals (ledger : WorkspaceBudgetLedger codec) : Prop :=
  HasRoom ledger.records ledger.unsettledReservations.size

/-- A record finds its place in a journal with room for one more. -/
theorem appendCapacity_of_room (bounded : codec.Bounded)
    (room : HasRoom ledger.records (pending + 1)) (event : BudgetLedgerEvent) :
    ledger.appendCapacity event = .ok () := by
  have short := bounded (ledger.nextRecord event)
  have bytes : maxTotalBytes < 2 ^ 64 := by decide
  obtain ⟨count, total⟩ := room
  rw [Nat.add_mul, Nat.one_mul] at total
  simp only [appendCapacity, validateRecordSize, ok_iff, checkedAddU64_eq_some]
  refine ⟨by omega, by omega, _, ⟨by omega, rfl⟩, by omega⟩

variable {reconciliation : DurableBudgetReconciliation} {pricing : Option ChargePricing}

/-- A settlable reservation is pending in the history. -/
theorem Settlable.unsettled (settlable : ledger.Settlable reconciliation pricing) :
    ∃ reservation, (unsettledOf ledger.events)[reconciliation.reservationId]? = some reservation :=
  (contains_iff _ _).mp settlable.pending

/-- With room for the terminal events, a settlement finds its capacity. -/
theorem Settlable.prepares (bounded : codec.Bounded) (history : WellFormed ledger.events)
    (room : ledger.RoomForTerminals) (settlable : ledger.Settlable reconciliation pricing)
    (recovered : Bool) :
    ∃ event, ledger.prepareReconciliation reconciliation recovered pricing = .ok (some event) ∧
      ledger.appendCapacity event = .ok () := by
  obtain ⟨reservation, pending⟩ := settlable.unsettled
  obtain ⟨⟨version, reserved, listed, sameId⟩, open_⟩ := (history.unsettledOf_get _ _).mp pending
  have positive : 1 ≤ (unsettledOf ledger.events).size := size_pos pending
  have place : HasRoom ledger.records ((unsettledOf ledger.events).size - 1 + 1) := by
    rw [Nat.sub_add_cancel positive]
    exact room
  cases found : ledger.reservation reconciliation.reservationId with
  | none =>
    have reserves_ := reservation_eq_none.mp found _ listed
    exact absurd ⟨version, reserved, reservation, rfl, sameId⟩ reserves_
  | some held =>
    refine ⟨_, prepareReconciliation_some.mpr ⟨settlable.valid, held, found, settlable.contract,
      reservationTerminal_eq_none.mpr open_, positive, place, rfl⟩, ?_⟩
    exact appendCapacity_of_room bounded place _

variable {reservation : DurableBudgetReservation}

/-- The charge of crash recovery is settlable. -/
theorem settlable_recoveryCharge (history : WellFormed ledger.events) (recoveredAt : ℕ)
    (pending : (unsettledOf ledger.events)[reservation.reservationId]? = some reservation) :
    ledger.Settlable (recoveryCharge reservation recoveredAt)
      (ledger.reservationPricing reservation.reservationId) := by
  obtain ⟨⟨version, pricing, listed, -⟩, -⟩ := (history.unsettledOf_get _ _).mp pending
  have valid := history.reservation_valid listed
  exact ⟨(contains_iff _ _).mpr ⟨reservation, pending⟩,
    validateDurableReconciliation_of_reservation valid _, rfl⟩

/-- A prepared settlement of a pending reservation leaves room for the others, which stay
pending. -/
theorem append_recovery (bounded : codec.Bounded) (history : WellFormed ledger.events)
    (pending : (unsettledOf ledger.events)[reservation.reservationId]? = some reservation)
    (prepared : ledger.prepareRecovery recoveredAt reservation = .ok (some event)) :
    WellFormed (ledger.append event).events ∧ (ledger.append event).RoomForTerminals ∧
      ∀ id, id ≠ reservation.reservationId →
        (unsettledOf (ledger.append event).events)[id]? = (unsettledOf ledger.events)[id]? := by
  obtain ⟨⟨version, pricing, listed, -⟩, -⟩ := (history.unsettledOf_get _ _).mp pending
  have next := prepareRecovery_prepared history listed prepared
  refine ⟨history.snoc next.admissible, ?_, fun id other => ?_⟩
  · have size := history.unsettledOf_size next.admissible
    have room := next.room.append (bounded (ledger.nextRecord event))
    rw [← size] at room
    exact room
  · obtain ⟨-, held, -, -, -, -, -, rfl⟩ := prepareReconciliation_some.mp prepared
    have appended := unsettledOf_append ledger.events
      (.reservationReconciled ledgerFormatVersion
        (ledger.reservationPricing reservation.reservationId)
        { recoveryCharge reservation recoveredAt with
          unixSeconds := max (recoveryCharge reservation recoveredAt).unixSeconds
            held.unixSeconds } true)
    rw [append, appended, trackPending, get_erase, if_neg]
    exact fun same => other same.symm

/-- With room for the terminal events, crash recovery of any distinct pending reservations finds its
capacity. -/
theorem recoversWithinCapacity (bounded : codec.Bounded) (recoveredAt : ℕ)
    (distinct : (pending.map DurableBudgetReservation.reservationId).Nodup)
    (history : WellFormed ledger.events) (room : ledger.RoomForTerminals)
    (open_ : ∀ reservation ∈ pending,
      (unsettledOf ledger.events)[reservation.reservationId]? = some reservation) :
    RecoversWithinCapacity recoveredAt pending ledger := by
  induction pending generalizing ledger with
  | nil => trivial
  | cons reservation rest ih =>
    rw [map_cons, nodup_cons] at distinct
    have here := open_ reservation mem_cons_self
    obtain ⟨event, prepared, fits⟩ :=
      (settlable_recoveryCharge history recoveredAt here).prepares bounded history room true
    obtain ⟨history', room', others⟩ := append_recovery bounded history here prepared
    refine ⟨event, prepared, fits, ih distinct.2 history' room' fun other member => ?_⟩
    have different : other.reservationId ≠ reservation.reservationId := by
      intro same
      exact distinct.1 (same ▸ mem_map_of_mem member)
    rw [others _ different]
    exact open_ other (mem_cons_of_mem _ member)

/-- The pending reservations of a history are listed under their own ids, each once. -/
theorem pending_listed (history : WellFormed ledger.events) :
    ((BTreeMap.values ledger.unsettledReservations).map
      DurableBudgetReservation.reservationId).Nodup ∧
    ∀ reservation ∈ BTreeMap.values ledger.unsettledReservations,
      (unsettledOf ledger.events)[reservation.reservationId]? = some reservation := by
  have keyed : ∀ (id : String) reservation,
      (unsettledOf ledger.events)[id]? = some reservation → reservation.reservationId = id := by
    intro id reservation found
    obtain ⟨⟨version, pricing, -, sameId⟩, -⟩ := (history.unsettledOf_get id reservation).mp found
    exact sameId
  refine ⟨nodup_key_values keyed, fun reservation member => ?_⟩
  obtain ⟨id, found⟩ := mem_values.mp member
  rw [keyed id reservation found]
  exact found

/-- All pending reservations of a history can be settled exactly when there is none, or the journal
has room for all of them. -/
theorem settlesWithinCapacity_iff (bounded : codec.Bounded) (history : WellFormed ledger.events) :
    ledger.SettlesWithinCapacity ↔
      ledger.unsettledReservations.size = 0 ∨ ledger.RoomForTerminals := by
  obtain ⟨distinct, listed⟩ := pending_listed history
  constructor
  · intro settles
    by_cases empty : ledger.unsettledReservations.size = 0
    · exact .inl empty
    · right
      have some_ : ∃ reservation, reservation ∈ values ledger.unsettledReservations := by
        apply exists_mem_of_length_pos
        rw [values, length_map, Std.ExtTreeMap.length_toList]
        omega
      obtain ⟨reservation, member⟩ := some_
      have charge := settlable_recoveryCharge history 0 (listed reservation member)
      obtain ⟨event, prepared, -⟩ := settles.reconcile _ _ true charge
      obtain ⟨-, held, -, -, -, positive, room, -⟩ := prepareReconciliation_some.mp prepared
      rw [Nat.sub_add_cancel positive] at room
      exact room
  · rintro (empty | room)
    · have nothing : ledger.unsettledReservations = ∅ :=
        Std.ExtTreeMap.eq_empty_iff_size_eq_zero.mpr empty
      constructor
      · intro reconciliation pricing recovered settlable
        have pending := settlable.pending
        rw [nothing] at pending
        simp at pending
      · intro recoveredAt
        rw [nothing]
        trivial
    · exact ⟨fun reconciliation pricing recovered settlable =>
        settlable.prepares bounded history room recovered,
        fun recoveredAt => recoversWithinCapacity bounded recoveredAt distinct history room listed⟩

end WorkspaceBudgetLedger

/-- The process of a workspace. -/
def System.process : System codec → Option (WorkspaceBudgetLedger codec)
  | .closed _ => none
  | .running ledger => some ledger

/-- In every workspace that any history leads to, if no process went on after an append that could
not write the head, the process can settle every pending reservation without running out of
capacity. Over all histories, it can do so exactly when nothing is pending or the journal has room
for the terminal events. -/
theorem settlesWithinCapacity_run (bounded : codec.Bounded) (actions : List Action)
    {ledger : WorkspaceBudgetLedger codec}
    (running : (run codec actions).system.process = some ledger) :
    ((∀ action ∈ actions, ¬ action.goesOnHeadless) → ledger.SettlesWithinCapacity) ∧
      (ledger.SettlesWithinCapacity ↔
        ledger.unsettledReservations.size = 0 ∨ ledger.RoomForTerminals) := by
  have system : (run codec actions).system = .running ledger := by
    cases state : (run codec actions).system with
    | closed published =>
      rw [state] at running
      cases running
    | running held =>
      rw [state] at running
      injection running with same
      rw [same]
  have sound : (run codec actions).Sound := run_sound actions
  unfold World.Sound at sound
  rw [system] at sound
  have exact_ := settlesWithinCapacity_iff bounded sound.history
  refine ⟨fun headed => ?_, exact_⟩
  have clean : (run codec actions).Clean := run_clean headed
  have current := clean.2
  rw [system] at current
  exact exact_.mpr (.inr current.complete.room)

variable {ledger : WorkspaceBudgetLedger codec}

/-- A call that is prepared and passes the checks of the journal is appended. -/
theorem World.step_completes (prepared : ledger.prepare request = .ok (some event))
    (checked : ledger.appendChecks event = .ok ()) (ordinary : terminalId event = none)
    (lost : List String) (retriedLost : Bool) :
    step ⟨.running ledger, lost, retriedLost⟩ (.call .completes request) =
      ⟨.running (ledger.append event), lost, retriedLost⟩ := by
  have called : ledger.call .completes request = (.ok .recorded, ledger.append event) := by
    have published : ledger.publish .completes event = (.ok (), ledger.append event) := by
      unfold publish
      rw [checked]
      rfl
    rw [call_eq, prepared]
    unfold execute
    dsimp only
    rw [published]
    rfl
  have settled : settledBy ledger request (ledger.append event) = none := by
    simp [settledBy, prepared, ordinary]
  simp [step, called, lostAfter, retries, settled]

/-- The consumption of one token. -/
def sampleConsumption : BudgetLedgerEvent := .consume ledgerFormatVersion "r" 1 none 1000

/-- The call that records it. -/
def consumeOne : Action := .call .completes (.recordConsumption "r" 1 none 1000)

/-- With room for one record more than the terminal events, a consumption is appended. -/
theorem World.step_consumeOne (bounded : codec.Bounded)
    (room : HasRoom ledger.records (ledger.unsettledReservations.size + 1))
    (whole : ledger.published.length ≤ ledger.records.length) (lost : List String)
    (retriedLost : Bool) :
    step ⟨.running ledger, lost, retriedLost⟩ consumeOne =
      ⟨.running (ledger.append sampleConsumption), lost, retriedLost⟩ := by
  refine step_completes ?_ ?_ rfl lost retriedLost
  · have valid : refuseIf (costInvalid none = true)
        "rolling budget consumption cost must be finite and non-negative" =
          (.ok () : Except String Unit) := by decide
    have fits : ledger.ensureAppendCapacity ledger.unsettledReservations.size = .ok () :=
      ensureAppendCapacity_ok.mpr room
    rw [prepare, prepareConsumption, if_neg (by decide), valid, ok_bind, fits]
    rfl
  · have phase : StateJournal.validatePhase maxPhaseBytes sampleConsumption.phase = .ok () := by
      decide +kernel
    have subject : whenSome sampleConsumption.subject
        (StateJournal.validateSubject maxSubjectBytes) = .ok () := by decide +kernel
    have fits := appendCapacity_of_room bounded room sampleConsumption
    rw [appendChecks, phase, ok_bind, subject, ok_bind, fits, ok_bind, refuseIf_ok]
    omega

/-- Consumption fills the journal up to the room for the terminal events. -/
theorem World.fill (bounded : codec.Bounded) (count : ℕ)
    (room : HasRoom ledger.records (ledger.unsettledReservations.size + count))
    (whole : ledger.published.length ≤ ledger.records.length) (lost : List String)
    (retriedLost : Bool) :
    (replicate count consumeOne).foldl step ⟨.running ledger, lost, retriedLost⟩ =
      ⟨.running ((fun held => held.append sampleConsumption)^[count] ledger), lost,
        retriedLost⟩ := by
  induction count generalizing ledger with
  | zero => rfl
  | succ count ih =>
    have one : HasRoom ledger.records (ledger.unsettledReservations.size + 1) := by
      obtain ⟨records, bytes⟩ := room
      rw [← Nat.add_assoc, Nat.add_mul, Nat.one_mul] at bytes
      refine ⟨by omega, ?_⟩
      rw [Nat.add_mul, Nat.one_mul]
      have more : ledger.unsettledReservations.size * maxRecordBytes ≤
          (ledger.unsettledReservations.size + count) * maxRecordBytes :=
        Nat.mul_le_mul_right _ (Nat.le_add_right _ _)
      omega
    have pending : (ledger.append sampleConsumption).unsettledReservations =
        ledger.unsettledReservations :=
      unsettledOf_append ledger.events sampleConsumption
    have place := HasRoom.append room (bounded (ledger.nextRecord sampleConsumption))
    rw [replicate_succ, foldl_cons, step_consumeOne bounded one whole, Function.iterate_succ_apply]
    refine ih ?_ ?_
    · rw [pending]
      exact place
    · simp [append, whole]

/-- The plain codec with records of the largest size. -/
def wideCodec : Codec where
  Value := BudgetLedgerEvent
  toValue := id
  fromValue := some
  encodedLength := fun _ => 65535
  fromValue_toValue := some_id_event

theorem wideCodec_bounded : wideCodec.Bounded := fun _ => le_refl 65536

/-- Two reservations. -/
def reservingActions : List Action :=
  [.reopen (fun _ => .completes) (.ok 1000),
    .call .completes (.recordReservation (sampleReservation "a") none),
    .call .completes (.recordReservation (sampleReservation "b") none)]

/-- The event of a sample reservation. -/
def sampleReserved (reservationId : String) : BudgetLedgerEvent :=
  .reservation ledgerFormatVersion none (sampleReservation reservationId)

/-- The ledger with the two reservations pending. -/
def reservedLedger : WorkspaceBudgetLedger wideCodec :=
  ((WorkspaceBudgetLedger.empty wideCodec).append (sampleReserved "a")).append (sampleReserved "b")

/-- The two reservations are recorded. -/
theorem run_reserving : run wideCodec reservingActions = ⟨.running reservedLedger, [], false⟩ := by
  have opened : (start wideCodec).step (.reopen (fun _ => .completes) (.ok 1000)) =
      ⟨.running (WorkspaceBudgetLedger.empty wideCodec), [], false⟩ := rfl
  have first : step ⟨.running (WorkspaceBudgetLedger.empty wideCodec), [], false⟩
      (.call .completes (.recordReservation (sampleReservation "a") none)) =
        ⟨.running ((WorkspaceBudgetLedger.empty wideCodec).append (sampleReserved "a")), [],
          false⟩ :=
    step_completes (by decide +kernel) (by decide +kernel) rfl [] false
  have second : step
      ⟨.running ((WorkspaceBudgetLedger.empty wideCodec).append (sampleReserved "a")), [], false⟩
      (.call .completes (.recordReservation (sampleReservation "b") none)) =
        ⟨.running reservedLedger, [], false⟩ :=
    step_completes (by decide +kernel) (by decide +kernel) rfl [] false
  rw [run, reservingActions, foldl_cons, opened, foldl_cons, first, foldl_cons, second]
  rfl

/-- With two reservations pending, both can be settled. -/
theorem settlesWithinCapacity_run_reserving : ∃ ledger,
    (run wideCodec reservingActions).system.process = some ledger ∧
      ledger.unsettledReservations.size = 2 ∧ ledger.SettlesWithinCapacity := by
  have running : (run wideCodec reservingActions).system.process = some reservedLedger := by
    rw [run_reserving]
    rfl
  exact ⟨reservedLedger, running, by decide +kernel,
    (settlesWithinCapacity_run wideCodec_bounded reservingActions running).1 (by decide)⟩

/-- Two reservations, consumption that leaves room for their two terminal events and no more, and a
settlement of the first that fails to write the head. -/
def headlessFullActions : List Action :=
  reservingActions ++ replicate 252 consumeOne ++
    [.call .headFailed (.reconcileReservation (sampleReconciliation "a") none)]

/-- The second reservation was never settled, and it cannot be for lack of capacity. -/
theorem reconcile_headless_full :
    (run wideCodec headlessFullActions).system.process.map (fun ledger =>
      (ledger.unsettledReservations.contains "b",
        settlements "b" (journalEvents wideCodec ledger.published),
        (ledger.call .completes (.reconcileReservation (sampleReconciliation "b") none)).1)) =
    some (true, 0, .error ("workspace rolling budget journal has insufficient byte capacity " ++
      "for durable reservation reconciliation")) := by
  have room : HasRoom reservedLedger.records (reservedLedger.unsettledReservations.size + 252) := by
    unfold HasRoom
    decide +kernel
  have filled : run wideCodec (reservingActions ++ replicate 252 consumeOne) =
      ⟨.running ((fun held => held.append sampleConsumption)^[252] reservedLedger), [], false⟩ := by
    have start := run_reserving
    rw [run] at start
    rw [run, foldl_append, start]
    exact fill wideCodec_bounded 252 room (by decide +kernel) [] false
  have last : run wideCodec headlessFullActions =
      step ⟨.running ((fun held => held.append sampleConsumption)^[252] reservedLedger), [],
        false⟩ (.call .headFailed (.reconcileReservation (sampleReconciliation "a") none)) := by
    rw [run] at filled
    rw [run, headlessFullActions, foldl_append, filled]
    rfl
  rw [last]
  decide +kernel

end Maco.RollingBudget
