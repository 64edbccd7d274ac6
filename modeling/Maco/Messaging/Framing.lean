import Mathlib

/-!
# Line framing

A request or a response is one line, and the reader takes the bytes of the connection a chunk at a
time, as they come. Its answer is meant to depend on the bytes alone. It does not: what follows the
newline is noticed, and a line is measured, only where the cuts between the chunks allow it.
-/

namespace Maco.Messaging

open List

/-- `io::ErrorKind`, with a code for the kinds the reader does not name in its own errors. -/
inductive ErrorKind
  | unexpectedEof
  | invalidData
  | other (code : ℕ)
deriving DecidableEq

/-- The kind and the text of an `io::Error`. -/
abbrev IoError := ErrorKind × String

/-- A round of the reader: bytes, none at the end of the stream; a read that timed out or would
block; or another error of the connection, or one of its budget. -/
inductive Read
  | bytes (chunk : List UInt8)
  | timedOut
  | failed (error : IoError)

def readChunkBytes : ℕ := 4096

/-- The byte `b'\n'`. -/
def newline : UInt8 := 10

/-- The error of a line that is too long. -/
def exceeded : IoError := (.invalidData, "NDJSON request exceeded its bound")

/-- The error of a line without a newline. -/
def truncated : IoError := (.unexpectedEof, "truncated NDJSON request")

/-- `read_ndjson_line_inner`, with the bytes buffered so far and the rounds to come; after the last
of them the stream has ended. -/
def readNdjsonLineInner (maxBytes : ℕ) (rejectTrailing : Bool) (buffer : List UInt8)
    (reads : List Read) : Except IoError (Option (List UInt8)) :=
  -- the guard of the loop and the check after a chunk without a newline give one error
  if maxBytes < buffer.length then .error exceeded
  else match reads with
  | [] | .bytes [] :: _ => if buffer = [] then .ok none else .error truncated
  | .bytes chunk :: reads =>
    if newline ∈ chunk then
      if rejectTrailing ∧ chunk.idxOf newline + 1 < chunk.length then
        .error (.invalidData, "trailing data after NDJSON response")
      else .ok (some (buffer ++ chunk.take (chunk.idxOf newline)))
    else readNdjsonLineInner maxBytes rejectTrailing (buffer ++ chunk) reads
  | .timedOut :: reads => readNdjsonLineInner maxBytes rejectTrailing buffer reads
  | .failed error :: _ => .error error

/-- The rounds hand over a stream: chunks the reader has room for, with timeouts between them. -/
inductive Delivers : List UInt8 → List Read → Prop
  | closed : Delivers [] []
  | waits : Delivers stream reads → Delivers stream (.timedOut :: reads)
  | chunk : chunk ≠ [] → chunk.length ≤ readChunkBytes → Delivers stream reads →
      Delivers (chunk ++ stream) (.bytes chunk :: reads)

/-- What the reader is for: its answer to a stream depends on the bytes alone. -/
structure Framed (maxBytes : ℕ) (rejectTrailing : Bool) (stream : List UInt8) : Prop where
  /-- Two deliveries of the stream give one line, or errors of one kind. -/
  agrees : ∀ reads others, Delivers stream reads → Delivers stream others →
    (readNdjsonLineInner maxBytes rejectTrailing [] reads).mapError Prod.fst =
      (readNdjsonLineInner maxBytes rejectTrailing [] others).mapError Prod.fst
  /-- A line is within the limit and is what stands before the first newline. -/
  bounded : ∀ reads line, Delivers stream reads →
    readNdjsonLineInner maxBytes rejectTrailing [] reads = .ok (some line) →
    line.length ≤ maxBytes ∧ newline ∈ stream ∧ line = stream.take (stream.idxOf newline)
  /-- A stream that goes on after its first newline is refused where it has to be. -/
  refuses : ∀ reads, Delivers stream reads → rejectTrailing →
    stream.idxOf newline + 1 < stream.length →
    ∃ error, readNdjsonLineInner maxBytes rejectTrailing [] reads = .error error

section

variable {bound : ℕ} {reject : Bool} {buffer chunk stream line beyond : List UInt8}
  {reads : List Read}

theorem idxOf_newline (rest : List UInt8) (absent : newline ∉ line) :
    (line ++ newline :: rest).idxOf newline = line.length := by
  rw [idxOf_append_of_notMem absent, idxOf_cons_self, Nat.add_zero]

/-- A chunk without a newline is buffered. -/
theorem read_buffers (filled : chunk ≠ []) (absent : newline ∉ chunk) :
    readNdjsonLineInner bound reject buffer (.bytes chunk :: reads) =
      readNdjsonLineInner bound reject (buffer ++ chunk) reads := by
  rw [readNdjsonLineInner.eq_def]
  split
  · rw [readNdjsonLineInner.eq_def, if_pos (by rw [length_append]; omega)]
  · simp [absent]

/-- A chunk with a newline ends the line, however long the line has become. -/
theorem read_ends (fits : buffer.length ≤ bound) (present : newline ∈ chunk)
    (last : reject → chunk.length ≤ chunk.idxOf newline + 1) :
    readNdjsonLineInner bound reject buffer (.bytes chunk :: reads) =
      .ok (some (buffer ++ chunk.take (chunk.idxOf newline))) := by
  have filled : chunk ≠ [] := ne_nil_of_mem present
  rw [readNdjsonLineInner.eq_def, if_neg (by omega)]
  simpa [present] using last

/-- There is one answer to a stream whose first newline is where every delivery lets the reader see
that the line is within the bound, or that it is not. -/
theorem read_eq (given : Delivers stream reads) (safe : newline ∈ stream →
      buffer.length + stream.idxOf newline ≤ bound ∧
        (reject → stream.length ≤ stream.idxOf newline + 1) ∨
      bound + readChunkBytes ≤ buffer.length + stream.idxOf newline) :
    readNdjsonLineInner bound reject buffer reads =
      if bound < buffer.length + stream.idxOf newline then .error exceeded
      else if newline ∈ stream then .ok (some (buffer ++ stream.take (stream.idxOf newline)))
      else if buffer ++ stream = [] then .ok none else .error truncated := by
  induction given generalizing buffer with
  | closed => simp [readNdjsonLineInner]
  | waits _ later =>
    rw [readNdjsonLineInner, later safe]
    split
    · rw [if_pos (by omega)]
    · rfl
  | @chunk chunk stream _ filled small _ later =>
    by_cases present : newline ∈ chunk
    · have position := idxOf_lt_length_iff.mpr present
      have shown : newline ∈ chunk ++ stream := mem_append_left stream present
      simp only [idxOf_append_of_mem present, take_append_of_le_length position.le, shown,
        length_append, forall_const, if_true] at safe ⊢
      by_cases long : bound < buffer.length
      · rw [readNdjsonLineInner.eq_def, if_pos long, if_pos (by omega)]
      · rw [read_ends (by omega) present (by grind), if_neg (by omega)]
    · rw [read_buffers filled present, later]
      · simp [present, idxOf_append_of_notMem present, take_length_add_append, Nat.add_assoc]
      · simpa [present, idxOf_append_of_notMem present, Nat.add_assoc] using safe

theorem Delivers.single (byte : UInt8) (given : Delivers stream reads) :
    Delivers (byte :: stream) (.bytes [byte] :: reads) :=
  .chunk (cons_ne_nil byte []) (Nat.le_add_left 1 4095) given

theorem exists_delivers (stream : List UInt8) : ∃ reads, Delivers stream reads := by
  induction stream with
  | nil => exact ⟨[], .closed⟩
  | cons byte _ later =>
    obtain ⟨reads, given⟩ := later
    exact ⟨_, given.single byte⟩

/-- A line is returned by some delivery, whatever follows it, if what is beyond the bound leaves
room for the newline in its chunk. -/
theorem exists_returns (rest : List UInt8) (absent : newline ∉ line ++ beyond)
    (fits : buffer.length + line.length ≤ bound) (near : beyond.length < readChunkBytes) :
    ∃ reads, Delivers (line ++ (beyond ++ newline :: rest)) reads ∧
      readNdjsonLineInner bound reject buffer reads = .ok (some (buffer ++ (line ++ beyond))) := by
  induction line generalizing buffer with
  | nil =>
    obtain ⟨reads, given⟩ := exists_delivers rest
    have position := idxOf_newline [] (nil_append beyond ▸ absent)
    refine ⟨.bytes (beyond ++ [newline]) :: reads, ?_, ?_⟩
    · rw [nil_append, append_cons]
      exact .chunk (by simp) (by simpa using near) given
    · rw [read_ends fits (by simp) (by simp [position]), position, take_left, nil_append]
  | cons byte line later =>
    rw [cons_append, mem_cons, not_or] at absent
    obtain ⟨reads, given, returned⟩ := @later (buffer ++ [byte]) absent.2 (by grind)
    refine ⟨_, given.single byte, ?_⟩
    rw [read_buffers (cons_ne_nil byte []) (by simpa using absent.1), returned]
    simp

/-- The answer does not depend on the delivery exactly when the first newline, if there is one, is
within the limit and ends the stream where nothing may follow, or is a whole chunk beyond the
limit. -/
theorem framed_iff (maxBytes : ℕ) (rejectTrailing : Bool) (stream : List UInt8) :
    Framed maxBytes rejectTrailing stream ↔ (newline ∈ stream →
      stream.idxOf newline ≤ maxBytes ∧
        (rejectTrailing → stream.length ≤ stream.idxOf newline + 1) ∨
      maxBytes + readChunkBytes ≤ stream.idxOf newline) := by
  have room : 0 < readChunkBytes := by decide
  constructor
  · intro framed present
    obtain ⟨line, rest, rfl, absent⟩ := eq_append_cons_of_mem present
    have position := idxOf_newline rest absent
    refine or_iff_not_imp_right.mpr fun near => ?_
    have whole := take_append_drop maxBytes line
    obtain ⟨reads, given, returned⟩ :=
      @exists_returns maxBytes rejectTrailing [] (line.take maxBytes) (line.drop maxBytes) rest
        (whole.symm ▸ absent) (by simp) (by rw [length_drop]; omega)
    rw [← append_assoc, whole] at given
    rw [whole] at returned
    refine ⟨position ▸ (framed.bounded reads line given returned).1, fun reject => ?_⟩
    by_contra follows
    obtain ⟨error, refused⟩ := framed.refuses reads given reject (by omega)
    rw [returned] at refused
    cases refused
  · intro safe
    have answer := fun reads (given : Delivers stream reads) =>
      @read_eq maxBytes rejectTrailing [] stream reads given (by simpa using safe)
    simp only [length_nil, Nat.zero_add, nil_append] at answer
    refine ⟨fun reads others given other => ?_, fun reads line given returned => ?_,
      fun reads given reject follows => ?_⟩
    · rw [answer reads given, answer others other]
    · rw [answer reads given] at returned
      split_ifs at returned with long present <;> cases returned
      exact ⟨by rw [length_take]; omega, present, rfl⟩
    · have far := safe (idxOf_lt_length_iff.mp (by omega))
      rw [answer reads given, if_pos (by grind)]
      exact ⟨_, rfl⟩

end

/-- A byte after the line is refused in the chunk of the newline and passed over in the next. -/
theorem framed_splits : ¬ Framed 4 true [97, 10, 98] := by
  intro framed
  obtain ⟨error, refused⟩ := framed.refuses [.bytes [97], .bytes [10], .bytes [98]]
    (.single 97 (.single 10 (.single 98 .closed))) rfl (by decide)
  cases refused

end Maco.Messaging
