import Maco.StateJournal.Recovery

/-!
# Runs of a state journal

A run opens an instance, appends records and opens it again, with a crash after any file operation
and, when the process goes on after a failure, with further appends on the same handle. Over every
run an open succeeds exactly when what is left besides the records is clear, and then no record
whose append returned is missing. After crashes alone it is clear after a first record unless the
process died between the link of a record and the removal of its temporary file.
-/

namespace Maco.StateJournal

open Maco.Base
open StateJournal.Journal (openOrInitialize)

/-- A process that holds the journal, or none. -/
inductive System (π : Type) where
  | stopped (files : Files π)
  | running (journal : Journal π) (files : Files π)

/-- What is known of a run: the records the last handle knew, the record it was appending when the
process died, and the records whose append returned. -/
structure History (π : Type) where
  known : List (JournalRecord π) := []
  interrupted : Option (JournalRecord π) := none
  returned : List (JournalRecord π) := []

section

variable (setting : JournalSetting π) (live : Bool)

/-- The runs of an instance; with `live` a process may go on after an append that failed. -/
inductive Reaches : History π → System π → Prop where
  | start : Reaches {} (.stopped {})
  | opened (before : Reaches history (.stopped files))
      (binds : setting.binds random = true)
      (step : openOrInitialize setting random files io = (.ok journal, left)) :
      Reaches ⟨journal.records, none, history.returned⟩ (.running journal left)
  | refused (before : Reaches history (.stopped files))
      (binds : setting.binds random = true)
      (step : openOrInitialize setting random files io = (.error refusal, left)) :
      Reaches history (.stopped left)
  | died (before : Reaches history (.running journal files)) :
      Reaches history (.stopped files)
  | appended (before : Reaches history (.running journal files))
      (step : journal.append setting files phase subject payload io = (.ok record, next, left)) :
      Reaches ⟨history.known ++ [record], none, history.returned ++ [record]⟩
        (.running next left)
  | cut (before : Reaches history (.running journal files))
      (step : journal.append setting files phase subject payload io =
        (.error refusal, next, left)) :
      Reaches { history with
          interrupted :=
            some (nextRecord setting journal.identity journal.records phase subject payload) }
        (.stopped left)
  | survived (before : Reaches history (.running journal files)) (goes : live = true)
      (step : journal.append setting files phase subject payload io =
        (.error refusal, next, left)) :
      Reaches { history with known := next.records } (.running next left)

end

section

variable {π : Type} {setting : JournalSetting π} {identity : String}
  {records : List (JournalRecord π)} {record : JournalRecord π} {files : Files π}
  {journal : Journal π}

/-! ## One append -/

/-- A handle in use and the chain its files hold: the records it knows, or one more whose
publication failed after it was linked, and then no further record is published. -/
structure Serves (setting : JournalSetting π) (journal : Journal π) (files : Files π)
    (records : List (JournalRecord π)) : Prop where
  intact : Intact setting journal.identity files records
  binds : setting.binds journal.identity = true
  known : (records = journal.records ∧ files.Unlinked ∧
      if journal.headDirty = true then records ≠ []
      else files.head = headFile setting journal.identity records) ∨
    ∃ record, records = journal.records ++ [record] ∧ journal.headDirty = false

/-- What an append leaves: the handle, the files and the chain they hold. -/
structure Appends (setting : JournalSetting π) (journal : Journal π) (files : Files π)
    (records : List (JournalRecord π)) (record : JournalRecord π)
    (result : Except String (JournalRecord π)) (next : Journal π) (left : Files π)
    (grown : List (JournalRecord π)) : Prop where
  serves : Serves setting next left grown
  kept : journal.records <+: next.records
  chain : grown = records ∨ grown = records ++ [record]
  heads : left.headTemps ≤ files.headTemps + 1
  temps : left.recordTemps = files.recordTemps ∨
    left.recordTemps = files.recordTemps ++ [(grown.length, true)] ∨
    left.recordTemps = files.recordTemps ++ [(grown.length + 1, false)]
  returned : ∀ found, result = .ok found → found = record ∧ grown = next.records ∧
    next = ⟨journal.identity, journal.records ++ [record], false⟩ ∧
    left.headTemps = files.headTemps ∧ left.recordTemps = files.recordTemps

/-- Linking the next record extends the chain. -/
theorem Intact.link (intact : Intact setting identity files records)
    (binds : setting.binds identity = true) (accepts : Accepts setting identity records record)
    (room : records.length < setting.maxRecords)
    (unlinked : files.Unlinked)
    (head : files.head = headFile setting identity records) :
    Intact setting identity (files.perform (.linkRecord record)) (records ++ [record]) := by
  refine ⟨?_, intact.verified.snoc accepts, by simpa using room, fun _ => binds,
    .inr ⟨records, record, rfl, head⟩, ?_⟩
  · simp [Files.perform, intact.inventory, accepts.sequence]
  · intro other member
    rcases List.mem_append.mp member with old | new
    · exact absurd (List.mem_of_mem_dropLast old) (unlinked other)
    · simp only [List.mem_singleton, Prod.mk.injEq, and_true] at new
      simp [new, accepts.sequence]

/-- Writing the head of a chain leaves at most its temporary file behind. -/
theorem Intact.writeHead (intact : Intact setting identity files records)
    (binds : setting.binds identity = true) (nonempty : records ≠ [])
    (unlinked : files.Unlinked) (io : ℕ) :
    Serves setting ⟨identity, records, decide (io < 3)⟩
      (files.run io (writeHead setting identity records)) records ∧
    (files.run io (writeHead setting identity records)).headTemps ≤ files.headTemps + 1 ∧
    (files.run io (writeHead setting identity records)).recordTemps = files.recordTemps ∧
    (3 ≤ io → (files.run io (writeHead setting identity records)).headTemps = files.headTemps) := by
  have harmless : ∀ step ∈ StateJournal.writeHead setting identity records,
      Harmless setting identity records step := by
    simp [StateJournal.writeHead, Harmless, headFile, nonempty]
  have stays := intact.run io harmless
  rcases io with _ | _ | _ | io
  iterate 3
    exact ⟨⟨stays, binds, .inl ⟨rfl, unlinked, nonempty⟩⟩, by
      simp [Files.run, StateJournal.writeHead, Files.perform]⟩
  · have written : files.run (io + 1 + 1 + 1) (StateJournal.writeHead setting identity records) =
        { files with head := headFile setting identity records } := by
      simp [Files.run, StateJournal.writeHead, Files.perform, headFile, nonempty]
    rw [written] at stays ⊢
    exact ⟨⟨stays, binds, .inl ⟨rfl, unlinked, by simp⟩⟩, by simp⟩

section

variable (serves : Serves setting journal files records)

include serves

/-- An append from a clean head. -/
theorem Serves.appendClean
    (clean : journal.headDirty = false) (number : record.sequence = journal.records.length + 1)
    (accepts : checkPublish setting journal files record = .ok () →
      Accepts setting journal.identity journal.records record ∧
        journal.records.length < setting.maxRecords) (io : ℕ) :
    ∃ result next left grown, appendClean setting journal files record io = (result, next, left) ∧
      Appends setting journal files records record result next left grown := by
  have same : { journal with headDirty := false } = journal := by
    obtain ⟨_, _, _⟩ := journal
    simp_all
  unfold StateJournal.appendClean
  cases checked : checkPublish setting journal files record with
  | error refusal =>
    exact ⟨_, _, _, records, rfl, by rwa [same], List.prefix_refl _, .inl rfl, by omega, .inl rfl,
      by simp⟩
  | ok _ =>
    obtain ⟨accepted, room⟩ := accepts checked
    simp only [checkPublish, ok_iff] at checked
    dsimp only
    rcases serves.known with ⟨rfl, unlinked, head⟩ | ⟨unknown, rfl, -⟩
    · rw [clean] at head
      -- The record is linked, its temporary file is removed, and then the head is written.
      have made := serves.intact.perform (.createRecordTemp record.sequence) trivial
      have linked := made.link serves.binds accepted room
        (by simpa [Files.Unlinked, Files.perform] using unlinked) head
      have placed : Intact setting journal.identity
          { files with records := files.records ++ [(record.sequence, some record)] }
          (journal.records ++ [record]) := by
        simpa [Files.perform] using linked.perform .unlinkTemp trivial
      rcases io with _ | _ | _ | _ | io
      · exact ⟨_, _, _, _, rfl, by rwa [same], List.prefix_refl _, .inl rfl, by simp [Files.run],
          .inl rfl, by simp⟩
      · exact ⟨_, _, _, _, rfl, ⟨made, serves.binds, .inl ⟨rfl,
            by simpa [Files.Unlinked, Files.run, publishRecord, Files.perform] using unlinked,
            head⟩⟩,
          List.prefix_refl _, .inl rfl, by simp [Files.run, publishRecord, Files.perform],
          .inr (.inr (by simp [Files.run, publishRecord, Files.perform, number])), by simp⟩
      iterate 2
        exact ⟨_, _, _, _, rfl, ⟨linked, serves.binds, .inr ⟨record, rfl, rfl⟩⟩,
          List.prefix_refl _, .inr rfl, by simp [Files.run, publishRecord, Files.perform],
          .inr (.inl (by simp [Files.run, publishRecord, Files.perform, number])), by simp⟩
      · have published : files.run (io + 1 + 1 + 1 + 1) (publishRecord record) =
            { files with records := files.records ++ [(record.sequence, some record)] } := by
          cases io <;> simp [Files.run, publishRecord, Files.perform]
        rw [published]
        cases io with
        | zero => exact ⟨_, _, _, _, rfl, ⟨placed, serves.binds, .inr ⟨record, rfl, rfl⟩⟩,
            List.prefix_refl _, .inr rfl, by simp, .inl rfl, by simp⟩
        | succ io =>
          obtain ⟨next, heads, temps, done⟩ := placed.writeHead serves.binds (by simp) unlinked io
          rw [if_neg (by omega)]
          split
          · rename_i short
            rw [decide_eq_true (by omega)] at next
            exact ⟨_, _, _, _, rfl, next, List.prefix_append _ _, .inr rfl, heads, .inl temps,
              by simp⟩
          · rw [decide_eq_false (by omega)] at next
            refine ⟨_, _, _, _, rfl, next, List.prefix_append _ _, .inr rfl, heads, .inl temps, ?_⟩
            intro found same
            exact ⟨(Except.ok.inj same).symm, rfl, rfl, done (by omega), temps⟩
    · exact absurd ⟨(journal.records.length + 1, some unknown),
        by simp [serves.intact.inventory], number.symm⟩ checked.2.2

/-- An append, wherever it is interrupted. -/
theorem Serves.append (phase : String)
    (subject : Option String) (payload : π) (io : ℕ) :
    ∃ result next left grown,
      journal.append setting files phase subject payload io = (result, next, left) ∧
      Appends setting journal files records
        (nextRecord setting journal.identity journal.records phase subject payload)
        result next left grown := by
  unfold Journal.append
  cases checked : checkAppend setting journal phase subject with
  | error refusal =>
    exact ⟨_, _, _, records, rfl, serves, List.prefix_refl _, .inl rfl, by omega, .inl rfl, by simp⟩
  | ok _ =>
    simp only [checkAppend, ok_iff, not_le] at checked
    obtain ⟨_, phased, _, subjected, room⟩ := checked
    have accepts (clean : Journal π) (same : clean.records = journal.records)
        (left : Files π) (fits : checkPublish setting clean left
          (nextRecord setting journal.identity journal.records phase subject payload) = .ok ()) :
        Accepts setting journal.identity journal.records
            (nextRecord setting journal.identity journal.records phase subject payload) ∧
          journal.records.length < setting.maxRecords := by
      simp only [checkPublish, ok_iff, not_lt, same] at fits
      exact ⟨⟨fits.1, fits.2.1, rfl, rfl, rfl, phased, subjected, rfl⟩, room⟩
    dsimp only
    by_cases clean : journal.headDirty = false
    · rw [if_pos clean]
      exact serves.appendClean clean rfl (accepts journal rfl files) io
    · rw [if_neg clean]
      rw [Bool.not_eq_false] at clean
      obtain ⟨rfl, unlinked, nonempty⟩ | ⟨_, -, contrary⟩ := serves.known
      · rw [if_pos clean] at nonempty
        obtain ⟨next, heads, temps, done⟩ :=
          serves.intact.writeHead serves.binds nonempty unlinked io
        split
        · rename_i short
          rw [decide_eq_true short, ← clean] at next
          exact ⟨_, _, _, _, rfl, next, List.prefix_refl _, .inl rfl, heads, .inl temps, by simp⟩
        · rename_i long
          rw [decide_eq_false long] at next
          obtain ⟨result, last, left, grown, appended, spec⟩ :=
            next.appendClean rfl rfl (accepts _ rfl _) (io - 3)
          refine ⟨result, last, left, grown, appended, spec.serves, spec.kept, spec.chain,
            ?_, ?_, ?_⟩
          · rw [← done (by omega)]
            exact spec.heads
          · rw [← temps]
            exact spec.temps
          · rw [← temps, ← done (by omega)]
            exact spec.returned
      · rw [contrary] at clean
        cases clean

/-! ## Runs -/

/-- What holds of every run. -/
def Consistent (setting : JournalSetting π) (live : Bool) (history : History π) : System π → Prop
  | .stopped files => ∃ identity records, Intact setting identity files records ∧
      history.returned.Sublist records ∧ (live = false →
        (records ≠ [] → files.Unlinked → files.Clear) ∧
          (records = history.known ∨ ∃ record, history.interrupted = some record ∧
          records = history.known ++ [record]))
  | .running journal files => ∃ records, Serves setting journal files records ∧
      history.returned.Sublist journal.records ∧ (live = false →
        files = restingFiles setting journal.identity journal.records ∧
        journal.headDirty = false ∧ history.known = journal.records)

/-- A chain has the records a handle on it knows, and no others while it is at rest. -/
theorem Serves.records_kept :
    journal.records <+: records ∧
      (files = restingFiles setting journal.identity journal.records →
        records = journal.records) := by
  refine ⟨?_, fun rests => numbered_injective ?_⟩
  · rcases serves.known with ⟨rfl, -⟩ | ⟨record, rfl, -⟩
    · exact List.prefix_refl _
    · exact List.prefix_append _ _
  · rw [← serves.intact.inventory, rests]
    rfl

end

/-- An append that returns leaves a journal that was at rest at rest. -/
theorem Appends.rests (spec : Appends setting journal files records record result next left grown)
    (rests : files = restingFiles setting journal.identity journal.records)
    (returned : result = .ok found) : left = restingFiles setting next.identity next.records := by
  obtain ⟨-, same, rfl, heads, temps⟩ := spec.returned found returned
  rcases spec.serves.known with ⟨-, -, head⟩ | ⟨_, longer, -⟩
  · have inventory := spec.serves.intact.inventory
    obtain ⟨_, _, _, _⟩ := left
    simp_all [restingFiles]
  · simp [same] at longer

/-- Wherever an append is interrupted, a journal that was at rest is clear after a first record,
unless its record was linked and its temporary file was not removed. -/
theorem Appends.clear (spec : Appends setting journal files records record result next left grown)
    (rests : files = restingFiles setting journal.identity journal.records) (nonempty : grown ≠ [])
    (unlinked : left.Unlinked) : left.Clear := by
  have inventory := spec.serves.intact.inventory
  have heads := spec.heads
  have temps := spec.temps
  rw [rests] at heads temps
  refine ⟨fun none_ => absurd ?_ nonempty, by simpa [restingFiles] using heads, ?_⟩
  · rwa [inventory, numbered_eq_nil] at none_
  · rw [inventory, length_numbered]
    rcases temps with none_ | linked | ahead
    · exact .inl none_
    · exact absurd (by simp [linked]) (unlinked grown.length)
    · exact .inr ahead

theorem Reaches.consistent {live : Bool}
    (run : Reaches setting live history system) : Consistent setting live history system := by
  induction run with
  | start => exact ⟨"", [],
    ⟨rfl, .nil, Nat.zero_le _, by simp, .inl rfl, by simp⟩, by simp, by simp⟩
  | @opened history files random io journal left _ binds step ih =>
    obtain ⟨identity, records, intact, returned, -⟩ := ih
    rcases intact.openOrInitialize binds io with ⟨-, owner, opens, bound, rests⟩ | ⟨_, _, fails, -⟩
    · obtain ⟨same, rfl⟩ := Prod.mk.inj (opens.symm.trans step)
      obtain rfl := Except.ok.inj same
      exact ⟨records, ⟨rests, bound, .inl ⟨rfl, by simp [Files.Unlinked, restingFiles], rfl⟩⟩,
        returned, fun _ => ⟨rfl, rfl, rfl⟩⟩
    · cases fails.symm.trans step
  | @refused history files random io refusal left _ binds step ih =>
    obtain ⟨identity, records, intact, returned, crashed⟩ := ih
    rcases intact.openOrInitialize binds io with
      ⟨-, _, opens, -⟩ | ⟨_, _, fails, stays, clear, unclear⟩
    · cases opens.symm.trans step
    · obtain ⟨-, rfl⟩ := Prod.mk.inj (fails.symm.trans step)
      refine ⟨identity, records, stays, returned, fun crashes => ?_⟩
      refine ⟨fun nonempty unlinked => ?_, (crashed crashes).2⟩
      -- What is not clear has a record with a second link, which no open removes.
      by_cases before : files.Clear
      · exact (clear before).1
      · refine absurd ((crashed crashes).1 nonempty ?_) before
        rwa [Files.Unlinked, ← unclear before]
  | @died history journal files _ ih =>
    obtain ⟨records, serves, returned, crashed⟩ := ih
    refine ⟨_, records, serves.intact, returned.trans serves.records_kept.1.sublist,
      fun crashes => ?_⟩
    obtain ⟨rests, -, known⟩ := crashed crashes
    refine ⟨fun _ _ => ?_, .inl ((serves.records_kept.2 rests).trans known.symm)⟩
    rw [rests]
    simp [Files.Clear, restingFiles]
  | @appended history journal files phase subject payload io record next left _ step ih =>
    obtain ⟨records, serves, returned, crashed⟩ := ih
    obtain ⟨_, _, _, grown, appended, spec⟩ := serves.append phase subject payload io
    obtain ⟨rfl, rfl, rfl⟩ : _ ∧ _ ∧ _ := by simpa using appended.symm.trans step
    obtain ⟨made, same, extended, -⟩ := spec.returned _ rfl
    subst made
    refine ⟨grown, spec.serves, ?_, fun crashes => ⟨spec.rests (crashed crashes).1 rfl, ?_⟩⟩
    · rw [extended]
      exact returned.append (.refl _)
    · rw [extended, (crashed crashes).2.2]
      exact ⟨rfl, rfl⟩
  | @cut history journal files phase subject payload io refusal next left _ step ih =>
    obtain ⟨records, serves, returned, crashed⟩ := ih
    obtain ⟨_, _, _, grown, appended, spec⟩ := serves.append phase subject payload io
    obtain ⟨rfl, rfl, rfl⟩ : _ ∧ _ ∧ _ := by simpa using appended.symm.trans step
    refine ⟨_, grown, spec.serves.intact,
      returned.trans (spec.kept.trans spec.serves.records_kept.1).sublist, fun crashes => ?_⟩
    obtain ⟨rests, -, known⟩ := crashed crashes
    obtain rfl := serves.records_kept.2 rests
    refine ⟨spec.clear rests, ?_⟩
    rw [known]
    exact spec.chain.imp_right fun longer => ⟨_, rfl, longer⟩
  | @survived history journal files phase subject payload io refusal next left _ goes step ih =>
    obtain ⟨records, serves, returned, -⟩ := ih
    obtain ⟨_, _, _, grown, appended, spec⟩ := serves.append phase subject payload io
    obtain ⟨rfl, rfl, rfl⟩ : _ ∧ _ ∧ _ := by simpa using appended.symm.trans step
    refine ⟨grown, spec.serves, returned.trans spec.kept.sublist, fun crashes => ?_⟩
    rw [goes] at crashes
    cases crashes

/-! ## Changed records -/

theorem Verified.before (verified : Verified setting identity (records ++ [record])) :
    Verified setting identity records := by
  generalize same : records ++ [record] = all at verified
  cases verified with
  | nil => simp at same
  | snoc before _ =>
    obtain ⟨rfl, -⟩ := List.append_inj' same rfl
    exact before

end

/-! ## A first record -/

section

variable {π : Type} {setting : JournalSetting π} {files : Files π}

end

end Maco.StateJournal
