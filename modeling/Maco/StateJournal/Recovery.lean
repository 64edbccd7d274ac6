import Maco.StateJournal.Files

/-!
# Recovery of a state journal

Whatever an append or a recovery leaves behind, the record files are one authenticated chain and the
head is at most one record behind it. Such a journal opens again exactly when what is left besides
is what one publication leaves that was interrupted before its record was linked, and then it is at
rest with its chain: a record with a second link is not read, and nothing removes the link.
-/

namespace Maco.StateJournal

open Maco.Base List
open StateJournal.Journal (openOrInitialize)

section

variable {π : Type} {setting : JournalSetting π} {identity : String}
  {records : List (JournalRecord π)} {record : JournalRecord π} {files : Files π}

/-! ## Chains -/

/-- The files of a list of records. -/
def numbered (records : List (JournalRecord π)) : List (ℕ × Option (JournalRecord π)) :=
  records.zipIdx.map fun entry => (entry.2 + 1, some entry.1)

@[simp] theorem numbered_snoc :
    numbered (records ++ [record]) = numbered records ++ [(records.length + 1, some record)] := by
  simp [numbered, zipIdx_append]

@[simp] theorem length_numbered : (numbered records).length = records.length := by simp [numbered]

@[simp] theorem numbered_eq_nil : numbered records = [] ↔ records = [] := by simp [numbered]

@[simp] theorem lastMac_snoc : lastMac (records ++ [record]) = record.mac := by simp [lastMac]

@[simp] theorem totalBytes_snoc :
    totalBytes setting (records ++ [record]) =
      totalBytes setting records + setting.size record := by
  simp [totalBytes]

theorem numbered_injective (same : numbered records = numbered other) : records = other := by
  have back (records : List (JournalRecord π)) :
      (numbered records).filterMap Prod.snd = records := by
    induction records using reverseRecOn with
    | nil => rfl
    | append_singleton records record ih => simp [ih]
  rw [← back records, same, back]

/-- What makes a record the next one of a chain. -/
structure Accepts (setting : JournalSetting π) (identity : String)
    (records : List (JournalRecord π)) (record : JournalRecord π) : Prop where
  small : setting.size record ≤ setting.maxRecordBytes
  total : totalBytes setting records + setting.size record ≤ setting.maxTotalBytes
  owner : record.identity = identity
  sequence : record.sequence = records.length + 1
  previous : record.previousMac = lastMac records
  phase : validatePhase setting.maxPhaseBytes record.phase = .ok ()
  subject : whenSome record.subject (validateSubject setting.maxSubjectBytes) = .ok ()
  tag : record.mac = setting.recordTag record.toRecordBody

/-- A chain of records that the authentication accepts. -/
inductive Verified (setting : JournalSetting π) (identity : String) :
    List (JournalRecord π) → Prop where
  | nil : Verified setting identity []
  | snoc {records : List (JournalRecord π)} {record : JournalRecord π}
      (before : Verified setting identity records)
      (accepts : Accepts setting identity records record) :
      Verified setting identity (records ++ [record])

/-- A record file is read when it has one link and its record fits. -/
theorem readDirect_ok {file : ℕ × Option (JournalRecord π)} {read : Option (JournalRecord π)} :
    readDirect setting files file = .ok read ↔ (file.1, true) ∉ files.recordTemps ∧
      (∀ record ∈ file.2, setting.size record ≤ setting.maxRecordBytes) ∧ file.2 = read := by
  simp only [readDirect, ok_iff, whenSome_ok, not_lt]

/-- The next record of a chain is read when it has one link and is accepted. -/
theorem checkRecord_ok {file : ℕ × Option (JournalRecord π)} {next : List (JournalRecord π)} :
    checkRecord setting files identity records file = .ok next ↔
      (file.1, true) ∉ files.recordTemps ∧
      ∃ record, file = (records.length + 1, some record) ∧ next = records ++ [record] ∧
        Accepts setting identity records record := by
  obtain ⟨sequence, file⟩ := file
  simp only [checkRecord, ok_iff, readDirect_ok, not_not, not_lt, not_or, Prod.mk.injEq]
  constructor
  · rintro ⟨rfl, _, ⟨single, small, rfl⟩, record, rfl, total, ⟨owner, place, previous⟩, _, phase, _,
      subject, tag, rfl⟩
    exact ⟨single, record, ⟨rfl, rfl⟩, rfl, small record rfl, total, owner, place, previous, phase,
      subject, tag⟩
  · rintro ⟨single, record, ⟨rfl, rfl⟩, rfl, small, total, owner, place, previous, phase, subject,
      tag⟩
    refine ⟨rfl, _, ⟨single, ?_, rfl⟩, record, rfl, total, ⟨owner, place, previous⟩, (), phase, (),
      subject, tag, rfl⟩
    rintro _ ⟨⟩
    exact small

/-- The loop over the files reads exactly the chains whose records have one link each. -/
theorem foldlM_checkRecord (listed : List (ℕ × Option (JournalRecord π)))
    (records : List (JournalRecord π)) :
    listed.foldlM (checkRecord setting files identity) [] = .ok records ↔
      (∀ file ∈ listed, (file.1, true) ∉ files.recordTemps) ∧
        listed = numbered records ∧ Verified setting identity records := by
  induction listed using reverseRecOn generalizing records with
  | nil =>
    rw [foldlM_nil, pure_ok, eq_comm, numbered_eq_nil.symm.trans eq_comm]
    constructor
    · intro empty
      rw [numbered_eq_nil.mp empty.symm]
      exact ⟨by simp, rfl, .nil⟩
    · exact fun read => read.2.1
  | append_singleton listed file ih =>
    simp only [foldlM_append, foldlM_cons, foldlM_nil, ok_iff, exists_eq_right, ih, checkRecord_ok,
      forall_mem_append, forall_mem_singleton]
    constructor
    · rintro ⟨before, ⟨others, rfl, verified⟩, single, record, rfl, rfl, accepts⟩
      exact ⟨⟨others, single⟩, numbered_snoc.symm, verified.snoc accepts⟩
    · rintro ⟨⟨others, single⟩, same, verified⟩
      cases verified with
      | nil => cases append_eq_nil_iff.mp same |>.2
      | @snoc before record verified accepts =>
        rw [numbered_snoc] at same
        obtain ⟨rfl, last⟩ := append_inj' same rfl
        exact ⟨before, ⟨others, rfl, verified⟩, single, record, singleton_inj.mp last, rfl, accepts⟩

/-- With tags that differ, a chain is determined by its length and the tag of its last record. -/
theorem Verified.unique (different : Function.Injective setting.recordTag)
    (verified : Verified setting identity records)
    (too : Verified setting identity other) (length : records.length = other.length)
    (mac : lastMac records = lastMac other) : records = other := by
  induction verified generalizing other with
  | nil => exact (length_eq_zero_iff.mp length.symm).symm
  | @snoc before record _ accepts ih =>
    cases too with
    | nil => simp at length
    | @snoc earlier last verified also =>
      rw [lastMac_snoc, lastMac_snoc] at mac
      have body : record.toRecordBody = last.toRecordBody :=
        different (accepts.tag.symm.trans (mac.trans also.tag))
      have previous : lastMac before = lastMac earlier := by
        rw [← accepts.previous, ← also.previous, body]
      have equal : record = last := by
        obtain ⟨_, _⟩ := record
        obtain ⟨_, _⟩ := last
        exact congrArg₂ _ body mac
      rw [ih verified (by simpa using length) previous, equal]

theorem Verified.totalBytes_le (verified : Verified setting identity records) :
    totalBytes setting records ≤ setting.maxTotalBytes := by
  cases verified with
  | nil => exact Nat.zero_le _
  | snoc _ accepts => rw [totalBytes_snoc]; exact accepts.total

/-- The first file of a chain names its identity. -/
theorem Verified.first (verified : Verified setting identity records) (nonempty : records ≠ []) :
    ∃ first rest, numbered records = (1, some first) :: rest ∧ first.identity = identity ∧
      first.sequence = 1 ∧ setting.size first ≤ setting.maxRecordBytes := by
  induction verified with
  | nil => exact absurd rfl nonempty
  | @snoc before record _ accepts ih =>
    by_cases empty : before = []
    · subst empty
      exact ⟨record, [], rfl, accepts.owner, accepts.sequence, accepts.small⟩
    · obtain ⟨first, rest, listed, named⟩ := ih empty
      exact ⟨first, rest ++ [(before.length + 1, some record)], by simp [listed], named⟩

/-! ## What the files hold -/

/-- The head file of a chain. -/
def headFile (setting : JournalSetting π) (identity : String) (records : List (JournalRecord π)) :
    Option JournalHead :=
  if records = [] then none else some (headOf setting identity records)

/-- The files of an instance whose records are a chain. -/
structure Intact (setting : JournalSetting π) (identity : String) (files : Files π)
    (records : List (JournalRecord π)) : Prop where
  inventory : files.records = numbered records
  verified : Verified setting identity records
  few : records.length ≤ setting.maxRecords
  bound : records ≠ [] → setting.binds identity = true
  /-- The head covers the chain, or all but its last record. -/
  head : files.head = headFile setting identity records ∨ ∃ covered last,
    records = covered ++ [last] ∧ files.head = headFile setting identity covered
  /-- Only the last record has a second link. -/
  linked : ∀ sequence, (sequence, true) ∈ files.recordTemps → sequence = records.length

/-- No published record has a second link: no publication ended between the link of its record and
the removal of its temporary file. -/
def Files.Unlinked (files : Files π) : Prop :=
  ∀ sequence, (sequence, true) ∉ files.recordTemps

/-- What is left besides the records is what one publication leaves after a record that ended before
its own record was linked. -/
def Files.Clear (files : Files π) : Prop :=
  (files.records = [] → files.headTemps = 0 ∧ files.recordTemps = []) ∧ files.headTemps ≤ 1 ∧
    (files.recordTemps = [] ∨ files.recordTemps = [(files.records.length + 1, false)])

theorem Files.Clear.unlinked (clear : files.Clear) : files.Unlinked := by
  intro sequence linked
  rcases clear.2.2 with temps | temps <;> simp [temps] at linked

/-- The files of a journal at rest. -/
def restingFiles (setting : JournalSetting π) (identity : String)
    (records : List (JournalRecord π)) : Files π :=
  { records := numbered records, head := headFile setting identity records }

/-- The operations that leave a chain as it is. -/
def Harmless (setting : JournalSetting π) (identity : String) (records : List (JournalRecord π)) :
    FileStep π → Prop
  | .linkRecord _ => False
  | .renameHead head => some head = headFile setting identity records
  | _ => True

section

variable (intact : Intact setting identity files records)

include intact

theorem Intact.perform (step : FileStep π) (harmless : Harmless setting identity records step) :
    Intact setting identity (files.perform step) records := by
  obtain ⟨inventory, verified, few, bound, head, linked⟩ := intact
  have dropped : ∀ sequence, (sequence, true) ∈ files.recordTemps.dropLast →
      sequence = records.length :=
    fun other member => linked other (mem_of_mem_dropLast member)
  cases step with
  | linkRecord record => cases harmless
  | renameHead next => exact ⟨inventory, verified, few, bound, .inl harmless, linked⟩
  | createRecordTemp sequence =>
    refine ⟨inventory, verified, few, bound, head, fun other member => linked other ?_⟩
    simpa [Files.perform] using member
  | unlinkTemp | removeRecordTemp => exact ⟨inventory, verified, few, bound, head, dropped⟩
  | createHeadTemp | removeHeadTemp | fence =>
    exact ⟨inventory, verified, few, bound, head, linked⟩

theorem Intact.run (io : ℕ) (harmless : ∀ step ∈ steps, Harmless setting identity records step) :
    Intact setting identity (files.run io steps) records := by
  induction steps generalizing files io with
  | nil => simpa [Files.run] using intact
  | cons step steps ih =>
    rw [forall_mem_cons] at harmless
    cases io with
    | zero => exact intact
    | succ io => exact ih (intact.perform step harmless.1) io harmless.2

/-- A journal at rest is a chain. -/
theorem Intact.resting : Intact setting identity (restingFiles setting identity records) records :=
  ⟨rfl, intact.verified, intact.few, intact.bound, .inl rfl, by simp [restingFiles]⟩

/-! ## Opening -/

omit intact in
theorem Files.Unlinked.validateLinkage_ok (unlinked : files.Unlinked) :
    validateLinkage files = .ok () := by
  refine forM_ok.mpr fun file _ => ?_
  have single : (files.recordTemps.filter fun temp => temp == (file.1, true)) = [] := by
    rw [filter_eq_nil_iff]
    rintro temp member same
    exact unlinked file.1 (eq_of_beq same ▸ member)
  simp [ok_iff, single]

/-- The chain is what is loaded, and it is loaded when what is left besides is clear. -/
theorem Intact.load_spec :
    (∀ found, load setting identity files = .ok found → found = records) ∧
      (files.Clear → load setting identity files = .ok records) := by
  simp only [load, ok_iff, foldlM_checkRecord]
  constructor
  · rintro found ⟨-, -, _, ⟨-, same, -⟩, -, rfl⟩
    exact numbered_injective (same.symm.trans intact.inventory)
  · intro clear
    exact ⟨(), clear.unlinked.validateLinkage_ok, records,
      ⟨fun file _ => clear.unlinked file.1, intact.inventory, intact.verified⟩,
      not_lt.mpr intact.few, rfl⟩

omit intact in
/-- What is loaded has no second link. -/
theorem Intact.load_unlinked (intact : Intact setting identity files records)
    (loaded : load setting identity files = .ok found) (nonempty : records ≠ []) :
    files.Unlinked := by
  intro sequence linked
  simp only [load, ok_iff, foldlM_checkRecord] at loaded
  obtain ⟨-, -, _, ⟨single, -⟩, -⟩ := loaded
  obtain ⟨before, record, rfl⟩ := (eq_nil_or_concat records).resolve_left nonempty
  obtain rfl := intact.linked sequence linked
  refine single (before.length + 1, some record) ?_ (by simpa using linked)
  simp [intact.inventory]

end

/-- The operations that repair the head of a chain. -/
def headRepair (setting : JournalSetting π) (identity : String) (files : Files π)
    (records : List (JournalRecord π)) : List (FileStep π) :=
  if files.head = headFile setting identity records then [] else writeHead setting identity records

section

variable (intact : Intact setting identity files records)

include intact

/-- The head of a chain is accepted or repaired. -/
theorem Intact.head_recovered (nonempty : records ≠ []) :
    recoverHead setting identity files records =
      .ok (headRepair setting identity files records) := by
  have bytes := intact.verified.totalBytes_le
  have some_ : records.length ≠ 0 := fun none_ => nonempty (length_eq_zero_iff.mp none_)
  rcases intact.head with covers | ⟨covered, last, rfl, behind⟩
  · rw [headRepair, if_pos covers]
    rw [headFile, if_neg nonempty] at covers
    simp [recoverHead, covers, headOf, refuseIf, some_, not_lt.mpr bytes]
  · by_cases first : covered = []
    · subst first
      simp [recoverHead, headRepair, behind, headFile, refuseIf]
    · rw [totalBytes_snoc] at bytes
      have positive := setting.size_pos last
      have within : ¬ setting.maxTotalBytes < totalBytes setting covered := by omega
      have more : setting.size last ≠ 0 := by omega
      have count : covered.length ≠ 0 := fun none_ => first (length_eq_zero_iff.mp none_)
      simp [recoverHead, headRepair, behind, headFile, first, headOf, refuseIf, count, within, more]

/-- The operations that clear away what an interrupted publication left. -/
def removal (files : Files π) : List (FileStep π) :=
  (if files.headTemps = 0 then [] else [.removeHeadTemp]) ++
    (if files.recordTemps = [] then [] else [.removeRecordTemp]) ++ [.fence]

/-- A temporary record file that is removed without a link belongs to the record after the last. -/
theorem Intact.recoverRecordTemp_ok (few : files.recordTemps.length ≤ 1)
    (unlinked : files.Unlinked) :
    recoverRecordTemp files records.length = .ok steps ↔
      (if files.recordTemps = [] then [] else [.removeRecordTemp]) = steps ∧
      (files.recordTemps = [] ∨ files.recordTemps = [(files.records.length + 1, false)]) := by
  rw [intact.inventory, length_numbered]
  unfold recoverRecordTemp
  match listed : files.recordTemps with
  | [] => simp only [pure_ok, if_true, true_or, and_true]
  | [(sequence, true)] => exact absurd (by simp [listed]) (unlinked sequence)
  | [(sequence, false)] =>
    by_cases here : sequence = records.length
    · simp [here, refuseIf]
    · simp only [if_neg here]
      split
      · rename_i ahead
        simp [pure_ok, ahead]
      · rename_i away
        simp [away]
  | _ :: _ :: _ => simp [listed] at few

/-- The recovery of a chain: with nothing besides but what an interrupted publication left it clears
that away and repairs the head; otherwise it is refused. -/
theorem Intact.planRecovery_eq (nonempty : records ≠ []) :
    (files.Clear → planRecovery setting identity files =
      (removal files ++ headRepair setting identity files records,
        .ok ⟨identity, records, false⟩)) ∧
    (¬ files.Clear → ∃ steps refusal, planRecovery setting identity files =
      (steps, .error refusal) ∧ ∀ step ∈ steps, step = .removeHeadTemp) := by
  have some_ : files.records ≠ [] := by rwa [intact.inventory, ne_eq, numbered_eq_nil]
  unfold planRecovery
  cases loaded : load setting identity files with
  | error refusal =>
    refine ⟨fun clear => ?_, fun _ => ⟨[], refusal, rfl, by simp⟩⟩
    rw [intact.load_spec.2 clear] at loaded
    cases loaded
  | ok found =>
    obtain rfl := intact.load_spec.1 found loaded
    by_cases many : 1 < files.headTemps ∨ 1 < files.recordTemps.length
    · simp only [if_pos many]
      refine ⟨?_, fun _ => ⟨[], _, rfl, by simp⟩⟩
      rintro ⟨-, heads, temps⟩
      rcases temps with temps | temps <;> simp [temps] at many <;> omega
    · have single : files.recordTemps.length ≤ 1 := by omega
      have unlinked := intact.load_unlinked loaded nonempty
      simp only [if_neg many, intact.head_recovered nonempty]
      cases recovered : recoverRecordTemp files found.length with
      | error refusal =>
        constructor
        · rintro ⟨-, -, temps⟩
          rw [(intact.recoverRecordTemp_ok single unlinked).mpr ⟨rfl, temps⟩] at recovered
          cases recovered
        · exact fun _ => ⟨_, refusal, rfl, by split <;> simp⟩
      | ok steps =>
        obtain ⟨rfl, temps⟩ := (intact.recoverRecordTemp_ok single unlinked).mp recovered
        exact ⟨fun _ => rfl,
          fun unclear => absurd ⟨fun none_ => absurd none_ some_, by omega, temps⟩ unclear⟩

end

/-- The recovery of a chain that is clear: wherever it is interrupted the files stay clear, and it
ends at rest. -/
theorem Files.Clear.recovered (clear : files.Clear) (some_ : files.records ≠ [])
    (setting : JournalSetting π) (identity : String) (nonempty : records ≠ []) (io : ℕ) :
    (files.run io (removal files ++ headRepair setting identity files records)).Clear ∧
    (removal files ++ headRepair setting identity files records).length ≤ 6 ∧
    ((removal files ++ headRepair setting identity files records).length ≤ io →
      files.run io (removal files ++ headRepair setting identity files records) =
        { records := files.records, head := headFile setting identity records }) := by
  obtain ⟨listed, temps, heads, head⟩ := files
  obtain ⟨-, few, shape⟩ := clear
  dsimp only at few shape some_ ⊢
  have repairs : (headRepair setting identity ⟨listed, temps, heads, head⟩ records = [] ∧
      head = headFile setting identity records) ∨
      headRepair setting identity ⟨listed, temps, heads, head⟩ records =
        writeHead setting identity records := by
    unfold headRepair
    split
    · exact .inl ⟨rfl, by assumption⟩
    · exact .inr rfl
  have name : some (headOf setting identity records) = headFile setting identity records := by
    rw [headFile, if_neg nonempty]
  obtain rfl | rfl : heads = 0 ∨ heads = 1 := by omega
  all_goals
    rcases shape with rfl | rfl <;> rcases repairs with ⟨repair, rfl⟩ | repair <;>
      rw [repair] <;> refine ⟨?_, by simp [removal, writeHead], ?_⟩ <;>
      match io with
      | 0 | 1 | 2 | 3 | 4 | 5 | _ + 6 =>
        simp [Files.run, removal, writeHead, Files.perform, Files.Clear, some_, name]

section

variable (intact : Intact setting identity files records)

include intact

/-- Opening a chain either succeeds with the chain at rest, when what was left besides is clear, or
leaves the chain and the links of its records as they are. -/
theorem Intact.reopen (nonempty : records ≠ []) (io : ℕ) :
    (files.Clear ∧ Journal.reopen setting identity files io =
      (.ok ⟨identity, records, false⟩, restingFiles setting identity records)) ∨
    ∃ refusal left, Journal.reopen setting identity files io = (.error refusal, left) ∧
      Intact setting identity left records ∧ (files.Clear → left.Clear ∧ io < 6) ∧
      (¬ files.Clear → left.recordTemps = files.recordTemps) := by
  obtain ⟨cleared, refused⟩ := intact.planRecovery_eq nonempty
  unfold Journal.reopen execute
  by_cases clear : files.Clear
  · have some_ : files.records ≠ [] := by rwa [intact.inventory, ne_eq, numbered_eq_nil]
    obtain ⟨stays, short, rests⟩ := clear.recovered some_ setting identity nonempty io
    rw [cleared clear]
    dsimp only
    split
    · refine .inr ⟨_, _, rfl, intact.run io ?_, fun _ => ⟨stays, by omega⟩, absurd clear⟩
      intro step member
      rcases mem_append.mp member with removes | repairs
      · rcases step <;> simp_all [removal, Harmless]
      · unfold headRepair at repairs
        split at repairs
        · cases repairs
        · rcases step <;> simp_all [writeHead, Harmless, headFile]
    · refine .inl ⟨clear, ?_⟩
      rw [rests (by omega), intact.inventory]
      rfl
  · obtain ⟨steps, refusal, plan, removes⟩ := refused clear
    have stays : Intact setting identity (files.run io steps) records :=
      intact.run io fun step member => by rw [removes step member]; trivial
    have temps : (files.run io steps).recordTemps = files.recordTemps :=
      foldlRecOn (motive := fun left : Files π => left.recordTemps = files.recordTemps) _
        Files.perform rfl fun left same step member => by
          rw [removes step (mem_of_mem_take member)]
          exact same
    rw [plan]
    split <;> exact .inr ⟨_, _, rfl, stays, fun is => absurd is clear, fun _ => temps⟩

/-- A chain with a record is located under its own identity, unless its first record has a second
link. -/
theorem Intact.locate_eq (nonempty : records ≠ []) :
    (∀ found, locate setting files = .ok found → found = some identity) ∧
      (files.Unlinked → locate setting files = .ok (some identity)) := by
  obtain ⟨first, rest, listed, owner, sequence, fits⟩ := intact.verified.first nonempty
  rw [← intact.inventory] at listed
  simp only [locate, listed, ok_iff, readDirect_ok]
  constructor
  · rintro found ⟨-, -, -, _, ⟨-, -, rfl⟩, locator, same, -, rfl⟩
    rw [← Option.some.inj same, owner]
  · intro unlinked
    refine ⟨(), unlinked.validateLinkage_ok, by simp, _, ⟨unlinked 1, ?_, rfl⟩, first, rfl, ?_⟩
    · rintro _ ⟨⟩
      exact fits
    · simp [owner, sequence, intact.bound nonempty]

/-- What opening a chain with a record does: it reads the chain under its own identity, or is
refused at a link of the first record. -/
theorem Intact.openOrInitialize_eq (nonempty : records ≠ []) (random : String) (io : ℕ) :
    openOrInitialize setting random files io = Journal.reopen setting identity files io ∨
      ¬ files.Clear ∧ ∃ refusal, openOrInitialize setting random files io =
        (.error refusal, files) := by
  obtain ⟨named, located⟩ := intact.locate_eq nonempty
  unfold openOrInitialize
  cases found : locate setting files with
  | error refusal =>
    refine .inr ⟨fun clear => ?_, refusal, rfl⟩
    rw [located clear.unlinked] at found
    cases found
  | ok name =>
    rw [named name found]
    exact .inl rfl

/-- The same of `open_or_initialize`, which gives a chain without a record a new identity. -/
theorem Intact.openOrInitialize (binds : setting.binds random = true) (io : ℕ) :
    (files.Clear ∧ ∃ owner, openOrInitialize setting random files io =
        (.ok ⟨owner, records, false⟩, restingFiles setting owner records) ∧
      setting.binds owner = true ∧
        Intact setting owner (restingFiles setting owner records) records) ∨
    ∃ refusal left, openOrInitialize setting random files io = (.error refusal, left) ∧
      Intact setting identity left records ∧ (files.Clear → left.Clear ∧ io < 6) ∧
      (¬ files.Clear → left.recordTemps = files.recordTemps) := by
  by_cases nonempty : records ≠ []
  · rcases intact.openOrInitialize_eq nonempty random io with same | ⟨unclear, refusal, refused⟩
    · rw [same]
      exact (intact.reopen nonempty io).imp_left fun ⟨clear, opened⟩ =>
        ⟨clear, identity, opened, intact.bound nonempty, intact.resting⟩
    · exact .inr ⟨refusal, files, refused, intact, fun clear => absurd clear unclear, fun _ => rfl⟩
  · obtain rfl : records = [] := not_not.mp nonempty
    have inventory : files.records = [] := intact.inventory
    have head : files.head = none := by simpa [headFile] using intact.head
    unfold StateJournal.Journal.openOrInitialize locate
    simp only [inventory, head, validateLinkage]
    by_cases residue : files.recordTemps ≠ [] ∨ files.headTemps ≠ 0
    · refine .inr ⟨_, files, by simp [refuseIf, residue]; rfl, intact, ?_, fun _ => rfl⟩
      rintro ⟨clean, -⟩
      obtain ⟨heads, temps⟩ := clean inventory
      simp [heads, temps] at residue
    · have clean := residue
      rw [not_or, not_not, not_not] at clean
      have rests : files = restingFiles setting random [] := by
        obtain ⟨_, _, _, _⟩ := files
        simp_all [restingFiles, numbered, headFile]
      refine .inl ⟨⟨fun _ => clean.symm, by omega, .inl clean.1⟩, random, ?_, binds, ?_⟩
      · rw [← rests]
        simp [refuseIf, clean]
      · exact ⟨rfl, .nil, Nat.zero_le _, fun some_ => absurd rfl some_, .inl rfl,
          by simp [restingFiles]⟩

end

end

end Maco.StateJournal
