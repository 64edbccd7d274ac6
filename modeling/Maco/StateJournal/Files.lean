import Maco.Base.Text
import Maco.Base.Result

/-!
# The files of a state journal

A journal instance is a directory with one file for each record, a head that names the last record
published, and the temporary files of publications under way. A record is written to a temporary
file, which is then linked under the record's name and unlinked; the head is written to a temporary
file and renamed. Opening authenticates the chain of records, removes what an interrupted
publication left and repairs a head that is one record behind.
-/

namespace Maco.StateJournal

open Maco.Base

/-- What the tag of a record covers (`record_mac_payload`). -/
structure RecordBody (π : Type) where
  identity : String
  sequence : ℕ
  previousMac : String
  phase : String
  subject : Option String
  payload : π
deriving DecidableEq, Repr

structure JournalRecord (π : Type) extends RecordBody π where
  mac : String
deriving DecidableEq, Repr

/-- What the tag of a head covers (`head_mac_payload`). -/
structure HeadBody where
  identity : String
  sequence : ℕ
  lastRecordMac : String
  recordBytes : ℕ
deriving DecidableEq, Repr

structure JournalHead extends HeadBody where
  mac : String
deriving DecidableEq, Repr

/-- The bounds of a `JournalSpec`, the tags of the authenticator and the printed size of a record.
`binds` says which identities `open_or_initialize` takes from a first record. -/
structure JournalSetting (π : Type) where
  title : String
  maxRecords : ℕ
  maxRecordBytes : ℕ
  maxTotalBytes : ℕ
  maxPhaseBytes : ℕ
  maxSubjectBytes : ℕ
  recordTag : RecordBody π → String
  headTag : HeadBody → String
  size : JournalRecord π → ℕ
  size_pos : ∀ record, 0 < size record
  binds : String → Bool

/-- `AuthenticationTag::zero`. -/
def zeroTag : String := String.ofList (List.replicate 64 '0')

/-- The files of an instance: the records in the order of their sequences, where a malformed file
has no record; the temporary record files, each with its sequence and whether it is a link of the
published record; and the head with its temporary files. -/
structure Files (π : Type) where
  records : List (ℕ × Option (JournalRecord π)) := []
  recordTemps : List (ℕ × Bool) := []
  headTemps : ℕ := 0
  head : Option JournalHead := none
deriving DecidableEq

/-- One operation on the files; `fence` stands for a synchronization or a check that may fail. -/
inductive FileStep (π : Type) where
  | createRecordTemp (sequence : ℕ)
  | linkRecord (record : JournalRecord π)
  | unlinkTemp
  | createHeadTemp
  | renameHead (head : JournalHead)
  | removeHeadTemp
  | removeRecordTemp
  | fence

variable {π : Type}

/-- What an operation does; the newest temporary record file is the last one. -/
def Files.perform (files : Files π) : FileStep π → Files π
  | .createRecordTemp sequence =>
    { files with recordTemps := files.recordTemps ++ [(sequence, false)] }
  | .linkRecord record =>
    { files with
      records := files.records ++ [(record.sequence, some record)]
      recordTemps := files.recordTemps.dropLast ++ [(record.sequence, true)] }
  | .unlinkTemp => { files with recordTemps := files.recordTemps.dropLast }
  | .createHeadTemp => { files with headTemps := files.headTemps + 1 }
  | .renameHead head =>
    { files with headTemps := files.headTemps - 1, head := some head }
  | .removeHeadTemp => { files with headTemps := files.headTemps - 1 }
  | .removeRecordTemp => { files with recordTemps := files.recordTemps.dropLast }
  | .fence => files

/-- The files after the first operations of a list. -/
def Files.run (files : Files π) (io : ℕ) (steps : List (FileStep π)) : Files π :=
  (steps.take io).foldl Files.perform files

/-- `StateJournal`: what a handle knows. -/
structure Journal (π : Type) where
  identity : String
  records : List (JournalRecord π)
  headDirty : Bool
deriving DecidableEq

/-- `validate_phase`. -/
def validatePhase (maxPhaseBytes : ℕ) (phase : String) : Except String Unit :=
  refuseIf (phase = "" ∨ maxPhaseBytes < byteLength phase ∨
      allChars (fun c => isAsciiLowercase c || isAsciiDigit c || c == '_') phase = false)
    "checkpoint phase is not a bounded canonical identifier"

/-- `validate_subject`. -/
def validateSubject (maxSubjectBytes : ℕ) (subject : String) : Except String Unit :=
  refuseIf (subject = "" ∨ maxSubjectBytes < byteLength subject ∨
      allChars (fun c => isNameChar c || c == '/') subject = false)
    "checkpoint subject is not a bounded canonical identifier"

section

variable (setting : JournalSetting π)

section

variable (identity : String) (records : List (JournalRecord π))

/-- The printed size of a list of records. -/
def totalBytes : ℕ := (records.map setting.size).sum

/-- The tag of the last record. -/
def lastMac : String :=
  (records.getLast?.map JournalRecord.mac).getD zeroTag

/-- The record an append makes. -/
def nextRecord (phase : String) (subject : Option String) (payload : π) : JournalRecord π :=
  let body := ⟨identity, records.length + 1, lastMac records, phase, subject, payload⟩
  ⟨body, setting.recordTag body⟩

/-- The head of a list of records. -/
def headOf : JournalHead :=
  let body := ⟨identity, records.length, lastMac records, totalBytes setting records⟩
  ⟨body, setting.headTag body⟩

/-- `write_head`. -/
def writeHead : List (FileStep π) :=
  [.createHeadTemp, .renameHead (headOf setting identity records), .fence]

end

/-! ## Opening -/

/-- `BoundedRegularReader::read_direct` on a record file, which must have no second link. -/
def readDirect (files : Files π) (file : ℕ × Option (JournalRecord π)) :
    Except String (Option (JournalRecord π)) := do
  refuseIf ((file.1, true) ∈ files.recordTemps)
    "state input must have exactly one hard link (observed 2)"
  whenSome file.2 fun record =>
    refuseIf (setting.maxRecordBytes < setting.size record) "file exceeds its byte bound"
  pure file.2

/-- One record file in the loop of `load_and_recover`. -/
def checkRecord (files : Files π) (identity : String) (records : List (JournalRecord π))
    (file : ℕ × Option (JournalRecord π)) : Except String (List (JournalRecord π)) := do
  refuseIf (file.1 ≠ records.length + 1)
    "checkpoint journal has a missing, reordered, or duplicate sequence"
  let read ← readDirect setting files file
  let record ← require read "checkpoint journal contains a truncated or malformed record"
  refuseIf (setting.maxTotalBytes < totalBytes setting records + setting.size record)
    (setting.title ++ " journal exceeds its aggregate byte bound")
  refuseIf (record.identity ≠ identity ∨ record.sequence ≠ records.length + 1 ∨
      record.previousMac ≠ lastMac records)
    "checkpoint journal record chain or identity is invalid"
  validatePhase setting.maxPhaseBytes record.phase
  whenSome record.subject (validateSubject setting.maxSubjectBytes)
  refuseIf (record.mac ≠ setting.recordTag record.toRecordBody)
    "repository authentication tag verification failed"
  pure (records ++ [record])

variable (identity : String) (files : Files π)

/-- `validate_published_record_linkage`: only the last record has a second link, its temporary
file. -/
def validateLinkage : Except String Unit :=
  files.records.forM fun file => do
    let links := (files.recordTemps.filter fun temp => temp == (file.1, true)).length
    refuseIf (1 < links) "published checkpoint record has an unsafe hard-link count"
    refuseIf (links = 1 ∧ file.1 ≠ ((files.records.getLast?).map Prod.fst).getD 0)
      "non-final published checkpoint record has an extra hard link"
    refuseIf (links = 1 ∧ (files.recordTemps.filter fun temp => temp.1 == file.1).length ≠ 1)
      "published checkpoint record has an unbound extra hard link"

/-- The records of an instance. -/
def load : Except String (List (JournalRecord π)) := do
  validateLinkage files
  let records ← files.records.foldlM (checkRecord setting files identity) []
  refuseIf (setting.maxRecords < records.length)
    (setting.title ++ " journal exceeds its record-count bound")
  pure records

/-- The record part of `recover_temporary_files`. -/
def recoverRecordTemp (last : ℕ) : Except String (List (FileStep π)) :=
  match files.recordTemps with
  | [] => pure []
  | (sequence, linked) :: _ =>
    if sequence = last then do
      refuseIf (linked = false)
        "checkpoint hard-link crash residue is not bound to its published record"
      pure [.removeRecordTemp]
    else if sequence = last + 1 then pure [.removeRecordTemp]
    else throw "checkpoint journal temp does not belong to the final unpublished tail"

/-- `verify_or_recover_head`: the operations that repair the head. -/
def recoverHead (records : List (JournalRecord π)) : Except String (List (FileStep π)) :=
  match files.head with
  | none => do
    refuseIf (records.length ≠ 1)
      "checkpoint journal head is missing outside the recoverable first append"
    pure (writeHead setting identity records)
  | some head => do
    refuseIf (head.identity ≠ identity ∨ head.sequence = 0 ∨
        setting.maxTotalBytes < head.recordBytes)
      "checkpoint journal head is malformed or bound to another run"
    refuseIf (head.mac ≠ setting.headTag head.toHeadBody)
      "repository authentication tag verification failed"
    refuseIf (records.length < head.sequence) "checkpoint journal published tail was truncated"
    if head.sequence = records.length then do
      refuseIf (head.lastRecordMac ≠ lastMac records ∨
          head.recordBytes ≠ totalBytes setting records)
        "checkpoint journal head does not match its published tail"
      pure []
    else do
      refuseIf (head.sequence + 1 ≠ records.length)
        "checkpoint journal head rollback exceeds the single crash window"
      refuseIf (head.lastRecordMac ≠ lastMac (records.take head.sequence) ∨
          totalBytes setting records ≤ head.recordBytes)
        "checkpoint journal head rollback evidence is inconsistent"
      pure (writeHead setting identity records)

/-- `load_and_recover`: the operations it performs, and what it returns after them. -/
def planRecovery : List (FileStep π) × Except String (Journal π) :=
  match load setting identity files with
  | .error refusal => ([], .error refusal)
  | .ok records =>
    if 1 < files.headTemps ∨ 1 < files.recordTemps.length then
      ([], .error "checkpoint journal has ambiguous crash residue")
    else
      let heads := if files.headTemps = 0 then [] else [.removeHeadTemp]
      match recoverRecordTemp files records.length with
      | .error refusal => (heads, .error refusal)
      | .ok temps =>
        match recoverHead setting identity files records with
        | .error refusal => (heads ++ temps ++ [.fence], .error refusal)
        | .ok repair => (heads ++ temps ++ [.fence] ++ repair, .ok ⟨identity, records, false⟩)

/-- Perform a plan, of which at most so many operations are done. -/
def execute {α : Type} (plan : List (FileStep π) × Except String α) (files : Files π) (io : ℕ) :
    Except String α × Files π :=
  (if io < plan.1.length then .error "interrupted" else plan.2, files.run io plan.1)

/-- `open`. -/
def Journal.reopen (expected : String) (files : Files π) (io : ℕ) :
    Except String (Journal π) × Files π :=
  execute (planRecovery setting expected files) files io

/-- The part of `open_or_initialize` before the journal is loaded: the identity that the first
record names, or none while the instance is empty. -/
def locate (files : Files π) : Except String (Option String) := do
  validateLinkage files
  match files.records with
  | [] => do
    refuseIf (files.head.isSome ∨ files.recordTemps ≠ [] ∨ files.headTemps ≠ 0)
      (setting.title ++ " empty instance has publication residue and cannot be initialized")
    pure none
  | first :: _ => do
    refuseIf (first.1 ≠ 1) "authenticated journal has records but no first record"
    let read ← readDirect setting files first
    let locator ← require read (setting.title ++ " first record locator is malformed")
    refuseIf (setting.binds locator.identity = false ∨ locator.sequence ≠ 1)
      (setting.title ++ " first record locator has the wrong instance binding")
    pure (some locator.identity)

/-- `open_or_initialize`, where a new instance takes a random identity. -/
def Journal.openOrInitialize (random : String) (files : Files π) (io : ℕ) :
    Except String (Journal π) × Files π :=
  match locate setting files with
  | .error refusal => (.error refusal, files)
  | .ok none => (.ok ⟨random, [], false⟩, files)
  | .ok (some identity) => Journal.reopen setting identity files io

/-! ## Appending -/

variable (journal : Journal π)

/-- The checks of `append` before it touches a file. -/
def checkAppend (phase : String) (subject : Option String) : Except String Unit := do
  validatePhase setting.maxPhaseBytes phase
  whenSome subject (validateSubject setting.maxSubjectBytes)
  refuseIf (setting.maxRecords ≤ journal.records.length)
    (setting.title ++ " journal reached its bounded record count")

/-- The checks of `append` before it publishes its record. -/
def checkPublish (files : Files π) (record : JournalRecord π) : Except String Unit := do
  refuseIf (setting.maxRecordBytes < setting.size record) "checkpoint record exceeds its byte bound"
  refuseIf (setting.maxTotalBytes < totalBytes setting journal.records + setting.size record)
    "checkpoint journal exceeds its aggregate byte bound"
  refuseIf (∃ file ∈ files.records, file.1 = record.sequence)
    "managed direct child must not already exist"

/-- `durable_publish_no_replace`. -/
def publishRecord (record : JournalRecord π) : List (FileStep π) :=
  [.createRecordTemp record.sequence, .linkRecord record, .fence, .unlinkTemp, .fence]

/-- `append` once the head is clean. -/
def appendClean (files : Files π) (record : JournalRecord π) (io : ℕ) :
    Except String (JournalRecord π) × Journal π × Files π :=
  let clean := { journal with headDirty := false }
  match checkPublish setting journal files record with
  | .error refusal => (.error refusal, clean, files)
  | .ok _ =>
    let published := files.run io (publishRecord record)
    if io < 5 then (.error "interrupted", clean, published)
    else
      let records := journal.records ++ [record]
      let left := published.run (io - 5) (writeHead setting journal.identity records)
      if io < 8 then (.error "interrupted", ⟨journal.identity, records, true⟩, left)
      else (.ok record, ⟨journal.identity, records, false⟩, left)

/-- `append`, of whose file operations at most so many are done. -/
def Journal.append (files : Files π) (phase : String) (subject : Option String) (payload : π)
    (io : ℕ) : Except String (JournalRecord π) × Journal π × Files π :=
  match checkAppend setting journal phase subject with
  | .error refusal => (.error refusal, journal, files)
  | .ok _ =>
    let record := nextRecord setting journal.identity journal.records phase subject payload
    if journal.headDirty = false then appendClean setting journal files record io
    else
      let head := writeHead setting journal.identity journal.records
      if io < 3 then (.error "interrupted", journal, files.run io head)
      else appendClean setting journal (files.run io head) record (io - 3)

end

end Maco.StateJournal
